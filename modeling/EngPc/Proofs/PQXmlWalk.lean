import EngPc.Model.PQXml
import Mathlib.Data.List.Nodup

/-!
# What a walk reads and writes

For each of the walks that the parsers share: when it gets through, which fields it stores, and that
the writer puts the fields' numbers where the reader then finds them.
-/

namespace EngPc
open CString ReadWrite XmlTree

variable {σ : Type} [PQFields σ]

/-- The number that is read back for a field. -/
def PQCtx.number (ctx : PQCtx σ) (s : σ) : Nat := strtoul longBits (printInt (ctx.shown s))

lemma natAbs_shown_lt (ctx : PQCtx σ) (s : σ) :
    (ctx.shown s).natAbs < 2 ^ PQFields.width s := by
  have hlt := (ctx s).isLt
  rw [PQCtx.shown]
  split_ifs
  · rw [BitVec.toInt_eq_toNat_cond]
    split_ifs <;> omega
  · simpa using hlt

lemma ofNat_number (ctx : PQCtx σ) (s : σ) :
    BitVec.ofNat (PQFields.width s) (ctx.number s) = ctx s := by
  have hwidth := PQFields.width_le s
  have hlt : (ctx.shown s).natAbs < 2 ^ longBits :=
    (natAbs_shown_lt ctx s).trans_le (Nat.pow_le_pow_right (by decide) (by omega))
  rw [PQCtx.number, ofNat_strtoul_printInt (by omega) hlt, PQCtx.shown]
  split_ifs
  · exact BitVec.ofInt_toInt
  · rw [BitVec.ofInt_natCast, BitVec.ofNat_toNat, BitVec.setWidth_eq]

lemma snprintfInt_ten (ctx : PQCtx σ) {s : σ} (h : PQFields.width s ≤ 16) :
    snprintfInt 10 (ctx.shown s) = printInt (ctx.shown s) := by
  have hlt : (ctx.shown s).natAbs < 10 ^ (4 + 1) :=
    (natAbs_shown_lt ctx s).trans_le
      ((Nat.pow_le_pow_right (by decide) h).trans (by decide))
  exact List.take_of_length_le ((length_printInt hlt).trans (by decide))

lemma snprintfInt_twelve (ctx : PQCtx σ) (s : σ) :
    snprintfInt 12 (ctx.shown s) = printInt (ctx.shown s) := by
  have hlt : (ctx.shown s).natAbs < 10 ^ (9 + 1) :=
    (natAbs_shown_lt ctx s).trans_le
      ((Nat.pow_le_pow_right (by decide) (PQFields.width_le s)).trans (by decide))
  exact List.take_of_length_le ((length_printInt hlt).trans (by decide))

section StoreAll

variable [DecidableEq σ]

lemma storeAll_eq {stores : List (Store σ)} {s : σ} {v : BitVec (PQFields.width s)}
    (hv : ∀ n, (s, n) ∈ stores → BitVec.ofNat _ n = v) (ctx : PQCtx σ) :
    ctx.storeAll stores s = if s ∈ stores.map Prod.fst then v else ctx s := by
  induction stores using List.reverseRecOn with
  | nil => rfl
  | append_singleton stores st ih =>
    obtain ⟨t, n⟩ := st
    have hrest := ih fun m hm => hv m (List.mem_append_left _ hm)
    rw [PQCtx.storeAll, List.foldl_append, List.foldl_cons, List.foldl_nil, ← PQCtx.storeAll]
    by_cases hs : s = t
    · subst hs
      rw [Function.update_self, if_pos (by simp)]
      exact hv n (List.mem_append_right _ (List.mem_singleton_self _))
    · rw [Function.update_of_ne hs, hrest]
      have hmem : s ∈ (stores ++ [(t, n)]).map Prod.fst ↔ s ∈ stores.map Prod.fst := by simp [hs]
      exact (if_congr hmem rfl rfl).symm

lemma storeAll_of_mem {stores : List (Store σ)} {s : σ} {n : Nat}
    (h : ∀ v, (s, v) ∈ stores ↔ v = n) (ctx : PQCtx σ) : ctx.storeAll stores s = BitVec.ofNat _ n := by
  rw [storeAll_eq (v := BitVec.ofNat _ n) fun v hv => congrArg _ ((h v).mp hv),
    if_pos (List.mem_map_of_mem ((h n).mpr rfl))]

lemma storeAll_of_notMem {stores : List (Store σ)} {s : σ} (h : ∀ v, (s, v) ∉ stores)
    (ctx : PQCtx σ) : ctx.storeAll stores s = ctx s := by
  rw [storeAll_eq (v := ctx s) fun v hv => absurd hv (h v), ite_self]

lemma storeAll_relabel (ctx ctx' : PQCtx σ) (stores : List (Store σ)) (s : σ) :
    ctx'.storeAll (relabel ctx.number stores) s =
      if s ∈ stores.map Prod.fst then ctx s else ctx' s := by
  rw [storeAll_eq (v := ctx s), map_fst_relabel]
  intro n hn
  obtain ⟨st, -, hst⟩ := List.mem_map.mp hn
  cases hst
  exact ofNat_number ctx st.1

end StoreAll

lemma element_eq_some {n i : Nat} {j : Fin n} : element n i = some j ↔ i = j.val := by
  rw [element]
  split_ifs with h
  · simp [Fin.ext_iff]
  · simp only [false_iff]
    omega

lemma element_map_eq_some {n i : Nat} {α : Type} {f : Fin n → α} {s : α} :
    (element n i).map f = some s ↔ ∃ j, i = j.val ∧ f j = s := by
  simp only [Option.map_eq_some_iff, element_eq_some]

lemma element_pair_eq_some {m n i j : Nat} {α : Type} {f : Fin m → Fin n → α} {s : α} :
    (do return f (← element m i) (← element n j) : Option α) = some s ↔
      ∃ i' j', i = i'.val ∧ j = j'.val ∧ f i' j' = s := by
  simp only [Option.bind_eq_bind, Option.bind_eq_some_iff, element_eq_some, Option.pure_def,
    Option.some.injEq]
  constructor
  · rintro ⟨i', hi, j', hj, h⟩
    exact ⟨i', j', hi, hj, h⟩
  · rintro ⟨i', j', hi, hj, h⟩
    exact ⟨i', hi, j', hj, h⟩

lemma element_eq_none {n i : Nat} : element n i = none ↔ n ≤ i := by
  rw [element]
  split_ifs with h
  · simpa using h
  · simpa using h

lemma lookup_iff_mem {α β : Type} [BEq α] [LawfulBEq α] {l : List (α × β)} (h : (l.map Prod.fst).Nodup)
    {a : α} {b : β} : l.lookup a = some b ↔ (a, b) ∈ l := by
  induction l with
  | nil => simp
  | cons p l ih =>
    rw [List.map_cons, List.nodup_cons] at h
    rw [List.lookup_cons, List.mem_cons, ← ih h.2]
    by_cases ha : a = p.1
    · subst ha
      simp only [beq_self_eq_true, Option.some.injEq]
      constructor
      · rintro rfl
        exact Or.inl rfl
      · rintro (hp | hp)
        · rw [← hp]
        · exact absurd (List.mem_map_of_mem ((ih h.2).mp hp)) h.1
    · rw [beq_false_of_ne ha]
      exact ⟨Or.inr, fun hp => hp.resolve_left fun heq => ha (heq ▸ rfl)⟩

section LookupPair

variable {α β : Type} [BEq α] [LawfulBEq α] {a b c : α}

lemma lookup_pair (hne : a ≠ b) {x y z : β} :
    [(a, x), (b, y)].lookup c = some z ↔ c = a ∧ x = z ∨ c = b ∧ y = z := by
  have hnodup : ([(a, x), (b, y)].map Prod.fst).Nodup := by simpa using hne
  rw [lookup_iff_mem hnodup]
  simp [eq_comm]

lemma lookup_pair_none (hne : a ≠ b) {x y : Option β} {inside : Prop} (hx : x = none ↔ ¬inside)
    (hy : y = none ↔ ¬inside) :
    [(a, x), (b, y)].lookup c = some none ↔ c ∈ [a, b] ∧ ¬inside := by
  rw [lookup_pair hne, hx, hy, ← or_and_right]
  simp

end LookupPair

/-- The fields of a cascade are short enough for the buffer. -/
def Short (cascade : Cascade σ) : Prop := ∀ a s, cascade.lookup a = some (some s) → PQFields.width s ≤ 16

section ParseAttrs

omit [PQFields σ]

/-- What the cascade does with a name. -/
def attrStores (cascade : Cascade σ) (prop : Text → Option Text) (a : Text) :
    Except XmlFault (List (Store σ)) :=
  match cascade.lookup a with
  | none => .ok []
  | some slot => do return [← parseProp slot ((prop a).getD [])]

lemma parseAttrs_eq (cascade : Cascade σ) (node : Node) : parseAttrs cascade node =
    collect (fun _ => attrStores cascade node.getProp) 0 (node.attrs.map Prod.fst) := by
  rw [collect_map]
  rfl

lemma succeeds_attrStores {cascade : Cascade σ} {prop : Text → Option Text} {a : Text} :
    (attrStores cascade prop a).Succeeds (fun _ => True) ↔ cascade.lookup a ≠ some none := by
  rw [attrStores]
  rcases cascade.lookup a with _ | _ | s <;> simp [parseProp, pure, Except.pure]

/-- A node's attributes are read when none of them stands for an element outside its array. -/
lemma succeeds_parseAttrs {cascade : Cascade σ} {node : Node} :
    (parseAttrs cascade node).Succeeds (fun _ => True) ↔
      ∀ a, node.hasProp a → cascade.lookup a ≠ some none := by
  rw [parseAttrs_eq, succeeds_each]
  simp only [succeeds_attrStores, hasProp_iff]

/-- The numbers that are stored are those of the names that are there. -/
lemma mem_parseAttrs_number {cascade : Cascade σ} {node : Node} {found : List (Store σ)}
    (h : parseAttrs cascade node = .ok found) {st : Store σ} :
    st ∈ found ↔ ∃ a, node.hasProp a ∧ cascade.lookup a = some (some st.1) ∧
      st.2 = strtoul longBits ((node.getProp a).getD []) := by
  rw [parseAttrs_eq] at h
  rw [mem_collect h]
  constructor
  · rintro ⟨k, a, here, ha, hhere, hst⟩
    refine ⟨a, hasProp_iff.mpr (List.mem_of_getElem? ha), ?_⟩
    rw [attrStores] at hhere
    rcases hlookup : cascade.lookup a with _ | _ | t
    · rw [hlookup] at hhere
      cases hhere
      cases hst
    · rw [hlookup] at hhere
      cases hhere
    · rw [hlookup] at hhere
      cases hhere
      rw [List.mem_singleton.mp hst]
      exact ⟨rfl, rfl⟩
  · rintro ⟨a, hprop, hlookup, hst⟩
    obtain ⟨k, ha⟩ := List.mem_iff_getElem?.mp (hasProp_iff.mp hprop)
    obtain ⟨here, hhere⟩ := collect_round h ha
    refine ⟨k, a, here, ha, hhere, ?_⟩
    rw [attrStores, hlookup] at hhere
    cases hhere
    exact List.mem_singleton.mpr (Prod.ext rfl hst)

/-- The fields that are stored are those of the names that are there. -/
lemma mem_parseAttrs {cascade : Cascade σ} {node : Node} {found : List (Store σ)}
    (h : parseAttrs cascade node = .ok found) {s : σ} :
    s ∈ found.map Prod.fst ↔ ∃ a, node.hasProp a ∧ cascade.lookup a = some (some s) := by
  simp only [List.mem_map, mem_parseAttrs_number h]
  constructor
  · rintro ⟨st, ⟨a, ha, hlookup, -⟩, rfl⟩
    exact ⟨a, ha, hlookup⟩
  · rintro ⟨a, ha, hlookup⟩
    exact ⟨(s, _), ⟨a, ha, hlookup, rfl⟩, rfl⟩

end ParseAttrs

/-- One round of `updateAttrs`. -/
def attrStep (ctx : PQCtx σ) (cascade : Cascade σ) (node : Node) (attr : Text × Text) :
    Except XmlFault Node :=
  match cascade.lookup attr.1 with
  | none => .ok node
  | some slot => do return node.setProp attr.1 (← showField 10 ctx slot)

/-- What is behind a round: the name, the children and the names of the attributes are as they were,
and one value may be new. -/
lemma attrStep_ok (ctx : PQCtx σ) {cascade : Cascade σ} (hshort : Short cascade) {node : Node}
    {attr : Text × Text} (hattr : node.hasProp attr.1) (hslot : cascade.lookup attr.1 ≠ some none) :
    ∃ node', attrStep ctx cascade node attr = .ok node' ∧ node'.shape = node.shape ∧
      ∀ a, node'.getProp a = if a = attr.1 then
        (match cascade.lookup a with
          | some (some s) => some (printInt (ctx.shown s))
          | _ => node.getProp a) else node.getProp a := by
  rw [attrStep]
  rcases hlookup : cascade.lookup attr.1 with _ | _ | s
  · refine ⟨node, rfl, rfl, fun a => ?_⟩
    split_ifs with ha
    · rw [ha, hlookup]
    · rfl
  · exact absurd hlookup hslot
  · refine ⟨node.setProp attr.1 (snprintfInt 10 (ctx.shown s)), rfl, shape_setProp hattr, fun a => ?_⟩
    split_ifs with ha
    · rw [ha, hlookup, getProp_setProp_self, snprintfInt_ten ctx (hshort _ s hlookup)]
    · exact getProp_setProp_ne ha

lemma attrSteps_ok (ctx : PQCtx σ) {cascade : Cascade σ} (hshort : Short cascade)
    (attrs : List (Text × Text)) {node : Node} (hattrs : ∀ attr ∈ attrs, node.hasProp attr.1)
    (hslots : ∀ attr ∈ attrs, cascade.lookup attr.1 ≠ some none) :
    ∃ node', attrs.foldlM (attrStep ctx cascade) node = .ok node' ∧ node'.shape = node.shape ∧
      ∀ a, node'.getProp a = if a ∈ attrs.map Prod.fst then
        (match cascade.lookup a with
          | some (some s) => some (printInt (ctx.shown s))
          | _ => node.getProp a) else node.getProp a := by
  induction attrs generalizing node with
  | nil => exact ⟨node, rfl, rfl, fun a => by simp⟩
  | cons attr attrs ih =>
    rw [List.forall_mem_cons] at hattrs hslots
    obtain ⟨node₁, hstep, hshape₁, hprop₁⟩ := attrStep_ok ctx hshort hattrs.1 hslots.1
    obtain ⟨node₂, hsteps, hshape₂, hprop₂⟩ := ih
      (fun attr' hmem => by rw [hasProp_of_shape hshape₁]; exact hattrs.2 attr' hmem) hslots.2
    refine ⟨node₂, ?_, hshape₂.trans hshape₁, fun a => ?_⟩
    · rw [List.foldlM_cons, hstep]
      exact hsteps
    · rw [hprop₂ a, hprop₁ a]
      rcases hlookup : cascade.lookup a with _ | _ | s
      · simp
      · simp
      · by_cases ha : a = attr.1 <;> by_cases hmem : a ∈ attrs.map Prod.fst <;> simp [ha, hmem]

/-- The node that is left, when none of the attributes stands for an element outside its array. -/
lemma updateAttrs_ok (ctx : PQCtx σ) {cascade : Cascade σ} (hshort : Short cascade) {node : Node}
    (hslots : ∀ a, node.hasProp a → cascade.lookup a ≠ some none) :
    ∃ node', updateAttrs ctx cascade node = .ok node' ∧ node'.shape = node.shape ∧
      ∀ a, node.hasProp a → node'.getProp a =
        match cascade.lookup a with
        | some (some s) => some (printInt (ctx.shown s))
        | _ => node.getProp a := by
  have hmem : ∀ attr ∈ node.attrs, node.hasProp attr.1 :=
    fun attr hattr => hasProp_iff.mpr (List.mem_map_of_mem hattr)
  obtain ⟨node', hnode', hshape, hprop⟩ := attrSteps_ok ctx hshort node.attrs hmem
    fun attr hattr => hslots attr.1 (hmem attr hattr)
  refine ⟨node', hnode', hshape, fun a ha => ?_⟩
  rw [hprop a, if_pos (hasProp_iff.mp ha)]

lemma agree_parseAttrs (ctx : PQCtx σ) {cascade : Cascade σ} (hshort : Short cascade) :
    Agree ctx.number Node.shape (parseAttrs cascade) (updateAttrs ctx cascade) := by
  intro node found hfound
  obtain ⟨node', hnode', hshape, hprop⟩ := updateAttrs_ok ctx hshort
    (succeeds_parseAttrs.mp (by rw [hfound]; trivial))
  refine ⟨node', hnode', ?_, hshape⟩
  rw [parseAttrs_eq, (shape_eq_iff.mp hshape).2.1]
  rw [parseAttrs_eq] at hfound
  apply collect_relabel hfound
  intro _ a ha here hhere
  rw [attrStores] at hhere ⊢
  rcases hlookup : cascade.lookup a with _ | _ | s
  · rw [hlookup] at hhere
    cases hhere
    rfl
  · rw [hlookup] at hhere
    cases hhere
  · rw [hlookup] at hhere
    cases hhere
    rw [hprop a (hasProp_iff.mpr ha), hlookup]
    rfl

section ParseItems

omit [PQFields σ]

lemma succeeds_parseItems {cascade : Nat → Cascade σ} {nodes : List Node} :
    (parseItems cascade nodes).Succeeds (fun _ => True) ↔ ∀ (k : Nat) (item : Node),
      nodes[k]? = some item → ∀ a, item.hasProp a → (cascade k).lookup a ≠ some none := by
  simp only [parseItems, succeeds_collect, Nat.zero_add, succeeds_parseAttrs]

lemma mem_parseItems {cascade : Nat → Cascade σ} {nodes : List Node} {found : List (Store σ)}
    (h : parseItems cascade nodes = .ok found) {s : σ} :
    s ∈ found.map Prod.fst ↔ ∃ (k : Nat) (item : Node), nodes[k]? = some item ∧
      ∃ a, item.hasProp a ∧ (cascade k).lookup a = some (some s) := by
  rw [mem_slots_collect (fun k item here hhere => mem_parseAttrs hhere) h]
  simp only [Nat.zero_add]

lemma mem_parseItems_number {cascade : Nat → Cascade σ} {nodes : List Node} {found : List (Store σ)}
    (h : parseItems cascade nodes = .ok found) {st : Store σ} :
    st ∈ found ↔ ∃ (k : Nat) (item : Node), nodes[k]? = some item ∧ ∃ a, item.hasProp a ∧
      (cascade k).lookup a = some (some st.1) ∧ st.2 = strtoul longBits ((item.getProp a).getD []) := by
  rw [mem_collect h]
  constructor
  · rintro ⟨k, item, here, hitem, hhere, hst⟩
    rw [Nat.zero_add] at hhere
    exact ⟨k, item, hitem, (mem_parseAttrs_number hhere).mp hst⟩
  · rintro ⟨k, item, hitem, hst⟩
    obtain ⟨here, hhere⟩ := collect_round h hitem
    refine ⟨k, item, here, hitem, hhere, ?_⟩
    rw [Nat.zero_add] at hhere
    exact (mem_parseAttrs_number hhere).mpr hst

end ParseItems

lemma agree_parseItems (ctx : PQCtx σ) {cascade : Nat → Cascade σ} (hshort : ∀ k, Short (cascade k)) :
    Agree ctx.number (List.map Node.shape) (parseItems cascade) (updateItems ctx cascade) :=
  agree_each (fun k => agree_parseAttrs ctx (hshort k)) 0

/-- The names that a chain comes upon: each at the node where the one before left off. -/
def chainNames : List Text → List Node → List Text
  | [], _ => []
  | _ :: _, [] => []
  | a :: names, node :: next =>
    if node.hasProp a then a :: chainNames names next else chainNames names (node :: next)

/-- The node has this one of the names, and no other. -/
def HasOnly (names : List Text) (node : Node) (a : Text) : Prop := ∀ b ∈ names, node.hasProp b ↔ b = a

section ParseChain

omit [PQFields σ]

lemma parseChain_cons (a : Text) (slot : Option σ) (chain : Cascade σ) (node : Node)
    (next : List Node) : parseChain ((a, slot) :: chain) (node :: next) =
      if node.hasProp a then do
        let store ← parseProp slot ((node.getProp a).getD [])
        let r ← parseChain chain next
        return (store :: r.1, r.2)
      else parseChain chain (node :: next) := by
  rw [parseChain, Node.hasProp]
  cases node.getProp a <;> simp

lemma chainNames_cons (a : Text) (names : List Text) (node : Node) (next : List Node) :
    chainNames (a :: names) (node :: next) =
      if node.hasProp a then a :: chainNames names next else chainNames names (node :: next) := rfl

lemma chainNames_subset (names : List Text) (nodes : List Node) : chainNames names nodes ⊆ names := by
  induction names generalizing nodes with
  | nil => exact List.Subset.refl _
  | cons a names ih =>
    cases nodes with
    | nil => exact List.nil_subset _
    | cons node next =>
      rw [chainNames_cons]
      split_ifs
      · exact List.cons_subset_cons a (ih next)
      · exact List.subset_cons_of_subset a (ih (node :: next))

/-- A chain gets through when no name that it comes upon stands for an element outside. -/
lemma succeeds_parseChain {chain : Cascade σ} {nodes : List Node} (hinside : ∀ p ∈ chain, p.2 ≠ none) :
    (parseChain chain nodes).Succeeds fun _ => True := by
  induction chain generalizing nodes with
  | nil => trivial
  | cons p chain ih =>
    rw [List.forall_mem_cons] at hinside
    cases nodes with
    | nil => trivial
    | cons node next =>
      rw [parseChain_cons]
      split_ifs
      · cases hslot : p.2 with
        | none => exact absurd hslot hinside.1
        | some s =>
          rw [parseProp, Except.ok_bind, Except.succeeds_bind]
          exact ih hinside.2
      · exact ih hinside.2

/-- A chain goes nowhere when the first node has none of its names. -/
lemma parseChain_none {chain : Cascade σ} {nodes : List Node}
    (h : ∀ node ∈ nodes.head?, ∀ p ∈ chain, ¬node.hasProp p.1) :
    parseChain chain nodes = .ok ([], nodes) := by
  induction chain with
  | nil => rfl
  | cons p chain ih =>
    cases nodes with
    | nil => rfl
    | cons node next =>
      rw [parseChain_cons, if_neg (h node rfl p List.mem_cons_self)]
      exact ih fun node' hnode' q hq => h node' hnode' q (List.mem_cons_of_mem p hq)

/-- With all its elements outside, a chain gets through when it goes nowhere. -/
lemma parseChain_outside {chain : Cascade σ} {nodes : List Node} (houtside : ∀ p ∈ chain, p.2 = none) :
    (parseChain chain nodes).Succeeds (fun _ => True) ↔
      ∀ node ∈ nodes.head?, ∀ p ∈ chain, ¬node.hasProp p.1 := by
  constructor
  · intro h
    induction chain with
    | nil => simp
    | cons p chain ih =>
      rw [List.forall_mem_cons] at houtside
      cases nodes with
      | nil => simp
      | cons node next =>
        rw [parseChain_cons] at h
        split_ifs at h with hprop
        · rw [houtside.1, parseProp, Except.error_bind] at h
          exact h.elim
        · simp only [List.head?_cons, Option.mem_some_iff, forall_eq', List.forall_mem_cons]
          exact ⟨hprop, ih houtside.2 h node rfl⟩
  · intro h
    rw [parseChain_none h]
    trivial

/-- The fields that are stored are those of the names that the chain comes upon. -/
lemma mem_parseChain {chain : Cascade σ} (hnodup : (chain.map Prod.fst).Nodup) {nodes rest : List Node}
    {found : List (Store σ)} (h : parseChain chain nodes = .ok (found, rest)) {s : σ} :
    s ∈ found.map Prod.fst ↔
      ∃ a ∈ chainNames (chain.map Prod.fst) nodes, (a, some s) ∈ chain := by
  induction chain generalizing nodes rest found with
  | nil =>
    cases h
    simp
  | cons p chain ih =>
    obtain ⟨a, slot⟩ := p
    rw [List.map_cons, List.nodup_cons] at hnodup
    cases nodes with
    | nil =>
      cases h
      simp [chainNames]
    | cons node next =>
      rw [parseChain_cons] at h
      rw [List.map_cons, chainNames_cons]
      split_ifs at h ⊢ with hprop
      · simp only [bind_eq_ok, pure, Except.pure, Except.ok.injEq, Prod.mk.injEq] at h
        obtain ⟨store, hstore, r, hr, rfl, rfl⟩ := h
        cases slot with
        | none => cases hstore
        | some t =>
          cases hstore
          rw [List.map_cons, List.mem_cons, ih hnodup.2 hr]
          constructor
          · rintro (rfl | ⟨b, hb, hs⟩)
            · exact ⟨a, List.mem_cons_self, List.mem_cons_self⟩
            · exact ⟨b, List.mem_cons_of_mem a hb, List.mem_cons_of_mem _ hs⟩
          · rintro ⟨b, hb, hs⟩
            rcases List.mem_cons.mp hb with rfl | hb'
            · rcases List.mem_cons.mp hs with heq | hs'
              · cases heq
                exact Or.inl rfl
              · exact absurd (List.mem_map_of_mem hs') hnodup.1
            · rcases List.mem_cons.mp hs with heq | hs'
              · cases heq
                exact absurd (chainNames_subset _ next hb') hnodup.1
              · exact Or.inr ⟨b, hb', hs'⟩
      · rw [ih hnodup.2 h]
        constructor
        · rintro ⟨b, hb, hs⟩
          exact ⟨b, hb, List.mem_cons_of_mem _ hs⟩
        · rintro ⟨b, hb, hs⟩
          rcases List.mem_cons.mp hs with heq | hs
          · cases heq
            exact absurd (chainNames_subset _ _ hb) hnodup.1
          · exact ⟨b, hb, hs⟩

end ParseChain

/-- The fields of a chain are short enough for the buffer. -/
def ShortChain (chain : Cascade σ) : Prop :=
  ∀ a s, (a, some s) ∈ chain → PQFields.width s ≤ 16

lemma updateChain_ok (ctx : PQCtx σ) {chain : Cascade σ} (hshort : ShortChain chain)
    {nodes rest : List Node} {found : List (Store σ)} (h : parseChain chain nodes = .ok (found, rest)) :
    ∃ done, updateChain ctx chain nodes = .ok (done, rest) ∧
      parseChain chain (done ++ rest) = .ok (relabel ctx.number found, rest) ∧
      (done ++ rest).map Node.shape = nodes.map Node.shape := by
  induction chain generalizing nodes rest found with
  | nil =>
    cases h
    exact ⟨[], rfl, rfl, rfl⟩
  | cons p chain ih =>
    obtain ⟨a, slot⟩ := p
    have hrest : ShortChain chain := fun b s hs => hshort b s (List.mem_cons_of_mem _ hs)
    cases nodes with
    | nil =>
      cases h
      exact ⟨[], rfl, rfl, rfl⟩
    | cons node next =>
      rw [parseChain_cons] at h
      split_ifs at h with hprop
      · simp only [bind_eq_ok, pure, Except.pure, Except.ok.injEq, Prod.mk.injEq] at h
        obtain ⟨store, hstore, r, hr, rfl, rfl⟩ := h
        cases slot with
        | none => cases hstore
        | some s =>
          cases hstore
          obtain ⟨done, hdone, hparse, hshape⟩ := ih hrest hr
          refine ⟨node.setProp a (printInt (ctx.shown s)) :: done, ?_, ?_, ?_⟩
          · rw [updateChain, if_pos hprop, showField,
              snprintfInt_ten ctx (hshort a s List.mem_cons_self), Except.ok_bind, hdone]
            rfl
          · rw [List.cons_append, parseChain_cons, hasProp_setProp hprop, if_pos hprop, hparse,
              getProp_setProp_self]
            rfl
          · rw [List.cons_append, List.map_cons, List.map_cons, shape_setProp hprop, hshape]
      · obtain ⟨done, hdone, hparse, hshape⟩ := ih hrest h
        refine ⟨done, ?_, ?_, hshape⟩
        · rw [updateChain, if_neg hprop, hdone]
        · cases hnodes : done ++ rest with
          | nil =>
            rw [hnodes] at hshape
            cases hshape
          | cons node' next' =>
            rw [hnodes] at hparse hshape
            have hhead := (List.cons.inj hshape).1
            rw [parseChain_cons, hasProp_of_shape hhead, if_neg hprop, hparse]

lemma agree_parseChain (ctx : PQCtx σ) {chain : Cascade σ} (hshort : ShortChain chain) :
    Agree ctx.number (List.map Node.shape) (fun nodes => do return (← parseChain chain nodes).1)
      (fun nodes => do
        let r ← updateChain ctx chain nodes
        return r.1 ++ r.2) := by
  intro nodes found hfound
  simp only [bind_eq_ok, pure, Except.pure, Except.ok.injEq] at hfound
  obtain ⟨⟨found, rest⟩, hparse, rfl⟩ := hfound
  obtain ⟨done, hdone, hparse', hshape⟩ := updateChain_ok ctx hshort hparse
  refine ⟨done ++ rest, ?_, ?_, hshape⟩
  · dsimp only
    rw [hdone]
    rfl
  · dsimp only
    rw [hparse']
    rfl

/-- The run of "enhance" elements has an end. -/
def RunEnds (nodes : List Node) : Prop := ∃ node ∈ nodes, node.name ≠ ofString "enhance"

section ParseVersion

omit [PQFields σ]

lemma succeeds_parseVersion {slot : σ} {nodes : List Node} :
    (parseVersion slot nodes).Succeeds (fun _ => True) ↔ RunEnds nodes := by
  induction nodes with
  | nil => simp [parseVersion, RunEnds]
  | cons node nodes ih =>
    rw [parseVersion]
    split_ifs with hname
    · rw [Except.succeeds_bind]
      simp only [pure, Except.pure, Except.succeeds_ok, ih, RunEnds, List.exists_mem_cons_iff,
        hname, ne_eq, not_true_eq_false, false_or]
    · simp [RunEnds, hname]

lemma mem_parseVersion {slot : σ} {nodes : List Node} {found : List (Store σ)}
    (h : parseVersion slot nodes = .ok found) {s : σ} :
    s ∈ found.map Prod.fst ↔ s = slot ∧ ∃ node ∈ nodes.takeWhile (·.name = ofString "enhance"),
      node.hasProp (ofString "version") := by
  induction nodes generalizing found with
  | nil => cases h
  | cons node nodes ih =>
    rw [parseVersion] at h
    split_ifs at h with hname
    · simp only [bind_eq_ok, pure, Except.pure, Except.ok.injEq] at h
      obtain ⟨rest, hrest, rfl⟩ := h
      rw [List.takeWhile_cons_of_pos (by simpa using hname), List.map_append, List.mem_append,
        ih hrest, List.exists_mem_cons_iff, Node.hasProp]
      cases node.getProp (ofString "version") with
      | none => simp
      | some text =>
        simp only [Option.map_some, Option.toList_some, List.map_cons, List.map_nil,
          List.mem_singleton, Option.isSome_some, true_or, and_true]
        exact ⟨fun hs => hs.elim id And.left, Or.inl⟩
    · cases h
      simp [hname]

end ParseVersion

lemma agree_parseVersion (ctx : PQCtx σ) (slot : σ) : Agree ctx.number (List.map Node.shape)
    (parseVersion slot) (updateVersion ctx slot) := by
  intro nodes
  induction nodes with
  | nil =>
    intro found hfound
    cases hfound
  | cons node nodes ih =>
    intro found hfound
    rw [parseVersion] at hfound
    split_ifs at hfound with hname
    · simp only [bind_eq_ok, pure, Except.pure, Except.ok.injEq] at hfound
      obtain ⟨rest, hrest, rfl⟩ := hfound
      obtain ⟨nodes', hnodes', hparse, hshape⟩ := ih rest hrest
      rw [updateVersion, if_pos hname, hnodes']
      by_cases hprop : node.hasProp (ofString "version")
      · refine ⟨_, rfl, ?_, ?_⟩
        · obtain ⟨text, htext⟩ := Option.isSome_iff_exists.mp hprop
          rw [if_pos hprop, parseVersion, name_setProp, if_pos hname, hparse, htext,
            getProp_setProp_self, snprintfInt_twelve]
          rfl
        · rw [if_pos hprop, List.map_cons, List.map_cons, shape_setProp hprop, hshape]
      · refine ⟨_, rfl, ?_, ?_⟩
        · have hnone : node.getProp (ofString "version") = none := by simpa [Node.hasProp] using hprop
          rw [if_neg hprop, parseVersion, if_pos hname, hparse, hnone]
          rfl
        · rw [if_neg hprop, List.map_cons, List.map_cons, hshape]
    · cases hfound
      refine ⟨node :: nodes, ?_, ?_, rfl⟩
      · rw [updateVersion, if_neg hname]
      · rw [parseVersion, if_neg hname]
        rfl

/-! ### Places in the document -/

section Places

omit [PQFields σ]

variable {name : Text} {walk : List Node → Except XmlFault (List (Store σ))} {nodes : List Node}

lemma parseAt_of_nil (h : findNode nodes name = []) : parseAt name walk nodes = .ok [] := by
  rw [parseAt, h]

lemma parseAt_of_cons {node : Node} {next : List Node} (h : findNode nodes name = node :: next) :
    parseAt name walk nodes = walk (node :: next) := by
  rw [parseAt, h]

end Places

/-- The children of the first element of a name. -/
def tablesOf (nodes : List Node) (name : Text) : List Node :=
  ((findNode nodes name).head?.map Node.children).getD []

section MemAt

omit [PQFields σ]

variable {s : σ} {P : List Node → Prop} {name : Text} {nodes : List Node} {found : List (Store σ)}

lemma mem_parseAt {walk : List Node → Except XmlFault (List (Store σ))}
    (hwalk : ∀ nodes found, walk nodes = .ok found → (s ∈ found.map Prod.fst ↔ P nodes))
    (hnil : ¬P []) (h : parseAt name walk nodes = .ok found) :
    s ∈ found.map Prod.fst ↔ P (findNode nodes name) := by
  cases hfind : findNode nodes name with
  | nil =>
    rw [parseAt_of_nil hfind] at h
    cases h
    simpa using hnil
  | cons node next =>
    rw [parseAt_of_cons hfind] at h
    exact hwalk _ found h

lemma mem_parseAt_onNode {walk : Node → Except XmlFault (List (Store σ))}
    (hwalk : ∀ node found, walk node = .ok found → (s ∈ found.map Prod.fst ↔ P node.children))
    (hnil : ¬P []) (h : parseAt name (onNode walk) nodes = .ok found) :
    s ∈ found.map Prod.fst ↔ P (tablesOf nodes name) := by
  rw [tablesOf]
  cases hfind : findNode nodes name with
  | nil =>
    rw [parseAt_of_nil hfind] at h
    cases h
    simpa using hnil
  | cons node next =>
    rw [parseAt_of_cons hfind] at h
    exact hwalk node found h

lemma succeeds_parseAt {walk : List Node → Except XmlFault (List (Store σ))}
    (hwalk : ∀ nodes, nodes ≠ [] → ((walk nodes).Succeeds (fun _ => True) ↔ P nodes)) (hnil : P []) :
    (parseAt name walk nodes).Succeeds (fun _ => True) ↔ P (findNode nodes name) := by
  cases hfind : findNode nodes name with
  | nil =>
    rw [parseAt_of_nil hfind]
    simpa using hnil
  | cons node next =>
    rw [parseAt_of_cons hfind]
    exact hwalk _ (List.cons_ne_nil node next)

lemma succeeds_parseAt_onNode {walk : Node → Except XmlFault (List (Store σ))}
    (hwalk : ∀ node, (walk node).Succeeds (fun _ => True) ↔ P node.children) (hnil : P []) :
    (parseAt name (onNode walk) nodes).Succeeds (fun _ => True) ↔ P (tablesOf nodes name) := by
  rw [tablesOf]
  cases hfind : findNode nodes name with
  | nil =>
    rw [parseAt_of_nil hfind]
    simpa using hnil
  | cons node next =>
    rw [parseAt_of_cons hfind]
    exact hwalk node

end MemAt

lemma succeeds_parseRoot [DecidableEq σ] {name : Text}
    {walk : List Node → Except XmlFault (List (Store σ))} {root : Node} {ctx : PQCtx σ} :
    (parseRoot name walk root ctx).Succeeds (fun _ => True) ↔
      (root.name = name → (walk root.children).Succeeds fun _ => True) := by
  rw [parseRoot]
  split_ifs with hroot
  · simp [hroot]
  · rw [Except.succeeds_bind]
    simp [not_not.mp hroot, pure, Except.pure]

section AgreeAt

variable {val : σ → Nat}

omit [PQFields σ] in
lemma agree_at (name : Text) {walk : List Node → Except XmlFault (List (Store σ))}
    {write : List Node → Except XmlFault (List Node)}
    (h : Agree val (List.map Node.shape) walk write) :
    Agree val (List.map Node.shape) (parseAt name walk) (updateAt name write) := by
  intro nodes found hfound
  rw [updateAt]
  cases hfind : findNode nodes name with
  | nil =>
    rw [parseAt_of_nil hfind] at hfound
    cases hfound
    exact ⟨nodes, rfl, parseAt_of_nil hfind, rfl⟩
  | cons node next =>
    rw [parseAt_of_cons hfind] at hfound
    obtain ⟨written, hwritten, hparse, hshape⟩ := h _ found hfound
    refine ⟨nodes.takeWhile (·.name ≠ name) ++ written, ?_, ?_, ?_⟩
    · dsimp only
      rw [hwritten]
      rfl
    · cases written with
      | nil => cases hshape
      | cons node' next' =>
        have hname : node'.name = name :=
          (shape_eq_iff.mp (List.cons.inj hshape).1).1.trans (name_of_findNode hfind)
        rw [parseAt_of_cons (findNode_append nodes hname), hparse]
    · rw [List.map_append, hshape, ← List.map_append, ← hfind]
      exact congrArg _ List.takeWhile_append_dropWhile

omit [PQFields σ] in
lemma agree_onNode {walk : Node → Except XmlFault (List (Store σ))}
    {write : Node → Except XmlFault Node} (h : Agree val Node.shape walk write) :
    Agree val (List.map Node.shape) (onNode walk) (updateNode write) := by
  intro nodes found hfound
  cases nodes with
  | nil =>
    cases hfound
    exact ⟨[], rfl, rfl, rfl⟩
  | cons node next =>
    obtain ⟨node', hnode', hparse, hshape⟩ := h node found hfound
    refine ⟨node' :: next, ?_, hparse, ?_⟩
    · rw [updateNode, hnode']
      rfl
    · rw [List.map_cons, List.map_cons, hshape]

omit [PQFields σ] in
/-- The children of a node, when the reader sees no more of the node. -/
lemma agree_children {walk : List Node → Except XmlFault (List (Store σ))}
    {write : List Node → Except XmlFault (List Node)}
    (h : Agree val (List.map Node.shape) walk write) :
    Agree val Node.shape (fun node => walk node.children)
      (fun node => do return node.withChildren (← write node.children)) := by
  intro node found hfound
  obtain ⟨children, hchildren, hparse, hshape⟩ := h node.children found hfound
  refine ⟨node.withChildren children, ?_, ?_, shape_withChildren hshape⟩
  · dsimp only
    rw [hchildren]
    rfl
  · simpa using hparse

section Tables

omit [PQFields σ]

/-- A table is read and written by what its attributes say, or it is left as it is. -/
lemma agree_table {κ : Type} (key : Node → Option κ)
    (hkey : ∀ node children, key (node.withChildren children) = key node)
    {walk : κ → List Node → Except XmlFault (List (Store σ))}
    {write : κ → List Node → Except XmlFault (List Node)}
    (h : ∀ k, Agree val (List.map Node.shape) (walk k) (write k))
    {reads : Node → Except XmlFault (List (Store σ))} {writes : Node → Except XmlFault Node}
    (hnone : ∀ node, key node = none → reads node = .ok [] ∧ writes node = .ok node)
    (hsome : ∀ node k, key node = some k → reads node = walk k node.children ∧
      writes node = do return node.withChildren (← write k node.children)) :
    Agree val Node.shape reads writes := by
  intro node found hfound
  cases hnode : key node with
  | none =>
    obtain ⟨hreads, hwrites⟩ := hnone node hnode
    rw [hreads] at hfound
    cases hfound
    exact ⟨node, hwrites, hreads, rfl⟩
  | some k =>
    obtain ⟨hreads, hwrites⟩ := hsome node k hnode
    rw [hreads] at hfound
    obtain ⟨children, hchildren, hparse, hshape⟩ := h k node.children found hfound
    refine ⟨node.withChildren children, ?_, ?_, shape_withChildren hshape⟩
    · rw [hwrites, hchildren]
      rfl
    · rw [(hsome _ k ((hkey node children).trans hnode)).1, children_withChildren, hparse]

variable {walk : List Node → Except XmlFault (List (Store σ))}
  {write : List Node → Except XmlFault (List Node)} (h : Agree val (List.map Node.shape) walk write)

include h

lemma agree_where (c : Node → Bool) (hc : ∀ node children, c (node.withChildren children) = c node)
    {reads : Node → Except XmlFault (List (Store σ))} {writes : Node → Except XmlFault Node}
    (hreads : ∀ node, reads node = if c node then walk node.children else .ok [])
    (hwrites : ∀ node, writes node =
      if c node then do return node.withChildren (← write node.children) else .ok node) :
    Agree val Node.shape reads writes := by
  apply agree_table (fun node => if c node then some () else none)
    (fun node children => by rw [hc]) (fun _ => h)
  · intro node hnode
    have hfalse : ¬c node := by simpa using hnode
    rw [hreads, hwrites, if_neg hfalse, if_neg hfalse]
    exact ⟨rfl, rfl⟩
  · intro node k hnode
    have htrue : c node := by simpa using hnode
    rw [hreads, hwrites, if_pos htrue, if_pos htrue]
    exact ⟨rfl, rfl⟩

lemma agree_modes (modes : List Text) : Agree val Node.shape
    (fun node => match node.getProp (ofString "mode") with
      | none => .ok []
      | some mode => if mode ∈ modes then walk node.children else .ok [])
    (fun node => match node.getProp (ofString "mode") with
      | none => .ok node
      | some mode => if mode ∈ modes then do return node.withChildren (← write node.children)
        else .ok node) := by
  apply agree_where h fun node => (node.getProp (ofString "mode")).any (· ∈ modes)
  · intro node children
    rw [getProp_withChildren]
  · intro node
    cases node.getProp (ofString "mode") <;> simp
  · intro node
    cases node.getProp (ofString "mode") <;> simp

end Tables

end AgreeAt

section Frames

omit [PQFields σ]

variable {τ : Type}

/-- The walk sees no more of the nodes than `π`. -/
def SeenAs (π : Node → τ) (walk : List Node → Except XmlFault (List (Store σ))) : Prop :=
  ∀ nodes nodes' : List Node, nodes.map π = nodes'.map π → walk nodes = walk nodes'

/-- The writer changes nothing of the nodes that `π` shows. -/
def Keeps (π : Node → τ) (write : List Node → Except XmlFault (List Node)) : Prop :=
  ∀ nodes nodes' : List Node, write nodes = .ok nodes' → nodes'.map π = nodes.map π

variable {π : Node → τ} {walk : List Node → Except XmlFault (List (Store σ))}
  {write : List Node → Except XmlFault (List Node)}

lemma SeenAs.unchanged (hwalk : SeenAs π walk) (hwrite : Keeps π write) {nodes nodes' : List Node}
    (h : write nodes = .ok nodes') : walk nodes' = walk nodes :=
  hwalk _ _ (hwrite _ _ h)

lemma map_findNode (hname : ∀ node node', π node = π node' → node.name = node'.name) (name : Text)
    {nodes nodes' : List Node} (h : nodes.map π = nodes'.map π) :
    (findNode nodes name).map π = (findNode nodes' name).map π := by
  induction nodes generalizing nodes' with
  | nil => rw [List.map_eq_nil_iff.mp h.symm]
  | cons node nodes ih =>
    cases nodes' with
    | nil => cases h
    | cons node' nodes' =>
      obtain ⟨hnode, hnodes⟩ := List.cons.inj h
      rw [findNode_cons, findNode_cons, hname node node' hnode]
      split_ifs
      · exact h
      · exact ih hnodes

lemma SeenAs.parseAt (hname : ∀ node node', π node = π node' → node.name = node'.name) (name : Text)
    (h : SeenAs π walk) : SeenAs π (parseAt name walk) := by
  intro nodes nodes' heq
  have hmap := map_findNode hname name heq
  rw [EngPc.parseAt, EngPc.parseAt]
  cases hfind : findNode nodes name with
  | nil =>
    rw [hfind] at hmap
    rw [List.map_eq_nil_iff.mp hmap.symm]
  | cons node next =>
    cases hfind' : findNode nodes' name with
    | nil =>
      rw [hfind, hfind'] at hmap
      cases hmap
    | cons node' next' => exact h _ _ (hfind ▸ hfind' ▸ hmap)

lemma Keeps.updateAt (name : Text) (h : Keeps π write) : Keeps π (updateAt name write) := by
  intro nodes nodes' heq
  rw [EngPc.updateAt] at heq
  cases hfind : findNode nodes name with
  | nil =>
    rw [hfind] at heq
    cases heq
    rfl
  | cons node next =>
    simp only [hfind, bind_eq_ok, pure, Except.pure, Except.ok.injEq] at heq
    obtain ⟨written, hwritten, rfl⟩ := heq
    rw [List.map_append, h _ _ hwritten, ← hfind, ← List.map_append, takeWhile_append_findNode]

lemma keeps_updateNode {write : Node → Except XmlFault Node}
    (h : ∀ node node', write node = .ok node' → π node' = π node) : Keeps π (updateNode write) := by
  intro nodes nodes' heq
  cases nodes with
  | nil =>
    cases heq
    rfl
  | cons node next =>
    simp only [updateNode, bind_eq_ok, pure, Except.pure, Except.ok.injEq] at heq
    obtain ⟨node', hnode', rfl⟩ := heq
    rw [List.map_cons, List.map_cons, h node node' hnode']

lemma keeps_updateEach {write : Nat → Node → Except XmlFault Node}
    (h : ∀ k node node', write k node = .ok node' → π node' = π node) (n : Nat) :
    Keeps π (updateEach write n) := by
  intro nodes
  induction nodes generalizing n with
  | nil =>
    intro nodes' heq
    cases heq
    rfl
  | cons node nodes ih =>
    intro nodes' heq
    simp only [updateEach, bind_eq_ok, pure, Except.pure, Except.ok.injEq] at heq
    obtain ⟨node', hnode', rest, hrest, rfl⟩ := heq
    rw [List.map_cons, List.map_cons, h n node node' hnode', ih (n + 1) rest hrest]

/-- The name and the attributes. -/
def nodeHead (node : Node) : Text × List (Text × Text) := (node.name, node.attrs)

/-- The name, the mode and the children. -/
def nodeBody (node : Node) : Text × Option Text × List Node :=
  (node.name, node.getProp (ofString "mode"), node.children)

lemma name_of_nodeHead (node node' : Node) (h : nodeHead node = nodeHead node') :
    node.name = node'.name := (Prod.mk.inj h).1

lemma name_of_nodeBody (node node' : Node) (h : nodeBody node = nodeBody node') :
    node.name = node'.name := (Prod.mk.inj h).1

lemma nodeHead_withChildren {node node' : Node} {children : Except XmlFault (List Node)}
    (h : (do return node.withChildren (← children)) = Except.ok node') :
    nodeHead node' = nodeHead node := by
  cases children with
  | error e => cases h
  | ok children =>
    cases h
    simp [nodeHead]

lemma seenAs_collect {read : Nat → Node → Except XmlFault (List (Store σ))}
    (h : ∀ k node node', π node = π node' → read k node = read k node') (n : Nat) :
    SeenAs π (collect read n) := by
  intro nodes
  induction nodes generalizing n with
  | nil =>
    intro nodes' heq
    rw [List.map_eq_nil_iff.mp heq.symm]
  | cons node nodes ih =>
    intro nodes' heq
    cases nodes' with
    | nil => cases heq
    | cons node' nodes' =>
      obtain ⟨hnode, hnodes⟩ := List.cons.inj heq
      rw [collect, collect, h n node node' hnode, ih (n + 1) nodes' hnodes]

lemma seenAs_onNode {read : Node → Except XmlFault (List (Store σ))}
    (h : ∀ node node', π node = π node' → read node = read node') : SeenAs π (onNode read) := by
  intro nodes nodes' heq
  cases nodes with
  | nil => rw [List.map_eq_nil_iff.mp heq.symm]
  | cons node next =>
    cases nodes' with
    | nil => cases heq
    | cons node' next' => exact h node node' (List.cons.inj heq).1

lemma seenAs_parseVersion (slot : σ) : SeenAs nodeHead (parseVersion slot) := by
  intro nodes
  induction nodes with
  | nil =>
    intro nodes' h
    rw [List.map_eq_nil_iff.mp h.symm]
  | cons node nodes ih =>
    intro nodes' h
    cases nodes' with
    | nil => cases h
    | cons node' nodes' =>
      obtain ⟨hnode, hnodes⟩ := List.cons.inj h
      obtain ⟨hname, hattrs⟩ := Prod.mk.inj hnode
      rw [parseVersion, parseVersion, hname, ih nodes' hnodes, Node.getProp, hattrs]
      rfl

/-- The node that is found is not the one that is written at another name. -/
lemma head?_findNode_updateAt {name name' : Text} (hne : name' ≠ name)
    {write : Node → Except XmlFault Node}
    (hwrite : ∀ node node', write node = .ok node' → node'.name = node.name)
    {nodes nodes' : List Node} (h : updateAt name' (updateNode write) nodes = .ok nodes') :
    (findNode nodes' name).head? = (findNode nodes name).head? := by
  rw [updateAt] at h
  cases hfind : findNode nodes name' with
  | nil =>
    rw [hfind] at h
    cases h
    rfl
  | cons node next =>
    have hnode : node.name = name' := name_of_findNode hfind
    have hskip : node.name ≠ name := hnode.symm ▸ hne
    simp only [hfind, updateNode, bind_eq_ok, pure, Except.pure, Except.ok.injEq] at h
    obtain ⟨written, ⟨node', hnode', rfl⟩, rfl⟩ := h
    rw [head?_findNode_skip _ (by rw [hwrite node node' hnode', hnode]; exact hne),
      ← head?_findNode_skip _ hskip, ← hfind, takeWhile_append_findNode]

/-- A walk over the node that is found sees nothing of what is written at another name. -/
lemma parseAt_updateAt_ne {name name' : Text} (hne : name' ≠ name)
    (read : Node → Except XmlFault (List (Store σ))) {write : Node → Except XmlFault Node}
    (hwrite : ∀ node node', write node = .ok node' → node'.name = node.name)
    {nodes nodes' : List Node} (h : updateAt name' (updateNode write) nodes = .ok nodes') :
    parseAt name (onNode read) nodes' = parseAt name (onNode read) nodes := by
  have hhead : ∀ nodes : List Node, parseAt name (onNode read) nodes =
      match (findNode nodes name).head? with
      | none => .ok []
      | some node => read node := by
    intro nodes
    cases hfind : findNode nodes name with
    | nil => rw [parseAt_of_nil hfind]; rfl
    | cons node next => rw [parseAt_of_cons hfind]; rfl
  rw [hhead, hhead, head?_findNode_updateAt hne hwrite h]

end Frames

lemma keeps_updateVersion (ctx : PQCtx σ) (slot : σ) : Keeps nodeBody (updateVersion ctx slot) := by
  intro nodes
  induction nodes with
  | nil =>
    intro nodes' h
    cases h
  | cons node nodes ih =>
    intro nodes' h
    rw [updateVersion] at h
    split_ifs at h
    · simp only [bind_eq_ok, pure, Except.pure, Except.ok.injEq] at h
      obtain ⟨rest, hrest, rfl⟩ := h
      rw [List.map_cons, List.map_cons, ih rest hrest, nodeBody, nodeBody, name_setProp,
        children_setProp, getProp_setProp_ne (by decide)]
    · simp only [bind_eq_ok, pure, Except.pure, Except.ok.injEq] at h
      obtain ⟨rest, hrest, rfl⟩ := h
      rw [List.map_cons, List.map_cons, ih rest hrest]
    · cases h
      rfl

section Sections

omit [PQFields σ]

variable {name : Text} {nodes nodes' : List Node}

lemma parseAt_tables {walk : Node → Except XmlFault (List (Store σ))}
    {read : List Node → Except XmlFault (List (Store σ))}
    (hwalk : ∀ node, walk node = read node.children) (hnil : read [] = .ok []) (nodes : List Node) :
    parseAt name (onNode walk) nodes = read (tablesOf nodes name) := by
  rw [tablesOf]
  cases hfind : findNode nodes name with
  | nil =>
    rw [parseAt_of_nil hfind]
    exact hnil.symm
  | cons node next =>
    rw [parseAt_of_cons hfind]
    exact hwalk node

lemma tablesOf_congr (h : nodes'.map nodeBody = nodes.map nodeBody) :
    tablesOf nodes' name = tablesOf nodes name := by
  have hfind := map_findNode name_of_nodeBody name h
  rw [tablesOf, tablesOf]
  cases hnodes : findNode nodes name with
  | nil =>
    rw [hnodes] at hfind
    rw [List.map_eq_nil_iff.mp hfind]
  | cons node next =>
    cases hnodes' : findNode nodes' name with
    | nil =>
      rw [hnodes, hnodes'] at hfind
      cases hfind
    | cons node' next' =>
      rw [hnodes, hnodes'] at hfind
      have hbody := (List.cons.inj hfind).1
      exact (Prod.mk.inj (Prod.mk.inj hbody).2).2

/-- A writer of one section: it does `table` with the children of the first element of the name, and
leaves what the parsers see of the others. -/
structure WritesSection (name : Text) (table write : List Node → Except XmlFault (List Node)) :
    Prop where
  succeeds : ∀ nodes, (write nodes).Succeeds (fun _ => True) ↔
    (table (tablesOf nodes name)).Succeeds fun _ => True
  tables : ∀ nodes nodes', write nodes = .ok nodes' →
    table (tablesOf nodes name) = .ok (tablesOf nodes' name)
  others : ∀ nodes nodes', write nodes = .ok nodes' →
    ∀ name', name ≠ name' → tablesOf nodes' name' = tablesOf nodes name'
  names : ∀ nodes nodes', write nodes = .ok nodes' → nodes'.map Node.name = nodes.map Node.name

lemma writesSection_updateAt {table : List Node → Except XmlFault (List Node)}
    (hnil : table [] = .ok []) : WritesSection name table
      (updateAt name (updateNode fun node => do return node.withChildren (← table node.children))) := by
  constructor
  · intro nodes
    rw [updateAt, tablesOf]
    cases hfind : findNode nodes name with
    | nil => simp [hnil]
    | cons node next =>
      simp only [updateNode, Except.succeeds_bind, pure, Except.pure, Except.succeeds_ok]
      rfl
  · intro nodes nodes' h
    rw [updateAt] at h
    rw [tablesOf, tablesOf]
    cases hfind : findNode nodes name with
    | nil =>
      rw [hfind] at h
      cases h
      rw [hfind]
      exact hnil
    | cons node next =>
      simp only [hfind, updateNode, bind_eq_ok, pure, Except.pure, Except.ok.injEq] at h
      obtain ⟨written, ⟨node', ⟨children, hchildren, rfl⟩, rfl⟩, rfl⟩ := h
      rw [findNode_append nodes (name_withChildren.trans (name_of_findNode hfind))]
      simpa using hchildren
  · intro nodes nodes' h name' hne
    rw [tablesOf, tablesOf, head?_findNode_updateAt hne
      (fun _ _ hnode => name_of_nodeHead _ _ (nodeHead_withChildren hnode)) h]
  · intro nodes nodes' h
    have hkeeps : Keeps Node.name (updateNode fun node =>
        do return node.withChildren (← table node.children)) :=
      keeps_updateNode fun _ _ hnode => name_of_nodeHead _ _ (nodeHead_withChildren hnode)
    exact hkeeps.updateAt name nodes nodes' h

lemma WritesSection.succeeds_bind {table write next : List Node → Except XmlFault (List Node)}
    (h : WritesSection name table write) {P : Prop} {nodes : List Node}
    (hnext : ∀ nodes', write nodes = .ok nodes' → ((next nodes').Succeeds (fun _ => True) ↔ P)) :
    (write nodes >>= next).Succeeds (fun _ => True) ↔
      (table (tablesOf nodes name)).Succeeds (fun _ => True) ∧ P := by
  rw [Except.succeeds_bind, ← h.succeeds]
  cases hwrite : write nodes with
  | error e => simp
  | ok nodes' => simp [hnext nodes' hwrite]

lemma WritesSection.ite {table write : List Node → Except XmlFault (List Node)}
    (h : WritesSection name table write) (c : Prop) [Decidable c] :
    WritesSection name (fun tables => if c then table tables else .ok tables)
      (fun nodes => if c then write nodes else .ok nodes) := by
  by_cases hc : c
  · simpa only [if_pos hc] using h
  · simp only [if_neg hc]
    constructor
    · simp
    · intro nodes nodes' hok
      cases hok
      rfl
    · intro nodes nodes' hok _ _
      cases hok
      rfl
    · intro nodes nodes' hok
      cases hok
      rfl

end Sections

lemma succeeds_updateVersion (ctx : PQCtx σ) {slot : σ} {nodes : List Node} :
    (updateVersion ctx slot nodes).Succeeds (fun _ => True) ↔ RunEnds nodes := by
  induction nodes with
  | nil => simp [updateVersion, RunEnds]
  | cons node nodes ih =>
    rw [updateVersion]
    by_cases hname : node.name = ofString "enhance"
    · rw [if_pos hname, Except.succeeds_bind]
      simp only [pure, Except.pure, Except.succeeds_ok, ih, RunEnds, List.exists_mem_cons_iff,
        hname, ne_eq, not_true_eq_false, false_or]
    · rw [if_neg hname]
      simp [RunEnds, hname]

end EngPc
