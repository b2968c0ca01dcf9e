import EngPc.Proofs.PQSafe

/-!
# The lists that the abc writer makes

How long a list of elements is behind the loops that go along it, which of its elements were there
before, and which numbers they have.
-/

namespace EngPc
open CString ReadWrite XmlTree

/-- A list that had no element has none, and any other has `count`: those that it had, and behind
them fresh ones. -/
structure Grown (count : Nat) (fresh : Nat → Node) (nodes nodes' : List Node) : Prop where
  length : nodes'.length = if nodes = [] then 0 else count
  node : ∀ (k : Nat) (node : Node), nodes'[k]? = some node →
    nodes[k]? = some node ∨ nodes[k]? = none ∧ node = fresh k

namespace Grown

variable {count : Nat} {fresh : Nat → Node} {nodes nodes' : List Node}
  (h : Grown count fresh nodes nodes') {k : Nat} {node : Node}

include h

lemma lt (hnode : nodes'[k]? = some node) : k < count := by
  have hk := (List.getElem?_eq_some_iff.mp hnode).1
  rw [h.length] at hk
  split_ifs at hk
  · omega
  · exact hk

lemma exists_node (hnodes : nodes ≠ []) (hk : k < count) : ∃ node, nodes'[k]? = some node := by
  have hlt : k < nodes'.length := by
    rw [h.length, if_neg hnodes]
    exact hk
  exact ⟨nodes'[k], List.getElem?_eq_getElem hlt⟩

lemma kept (hnode : nodes[k]? = some node) (hk : k < count) : nodes'[k]? = some node := by
  obtain ⟨node', hnode'⟩ := h.exists_node (fun hnil => by simp [hnil] at hnode) hk
  rcases h.node k node' hnode' with hold | ⟨hnone, -⟩
  · rw [hnode', ← hold, hnode]
  · rw [hnode] at hnone
    cases hnone

end Grown

section GoAlong

variable {wr : Nat} {fresh : Nat → Node} {last : Nat → List Node → List Node}
  (hlast : ∀ n next, last n next =
    if (n : Int) < wr then next ++ (List.range' n (wr - n)).map fresh else [])

include hlast

lemma goAlong_eq {n : Nat} {nodes : List Node} (hnodes : nodes ≠ []) (hn : n < wr) :
    goAlong wr last n nodes = nodes.take (wr - n) ++
      (List.range' (n + nodes.length) (wr - n - nodes.length)).map fresh := by
  induction nodes generalizing n with
  | nil => exact absurd rfl hnodes
  | cons node next ih =>
    rw [goAlong, List.length_cons, show n + (next.length + 1) = n + 1 + next.length by omega,
      show wr - n - (next.length + 1) = wr - (n + 1) - next.length by omega,
      show wr - n = wr - (n + 1) + 1 by omega, List.take_succ_cons, List.cons_append]
    by_cases hnext : next = []
    · subst hnext
      rw [if_neg (by simp), hlast]
      split_ifs with hlt
      · simp
      · rw [show wr - (n + 1) = 0 by omega]
        simp
    · by_cases hlt : n + 1 < wr
      · rw [if_pos ⟨by simpa using hnext, by exact_mod_cast hlt⟩, ih hnext hlt]
      · rw [if_neg fun h => hlt (by exact_mod_cast h.2), hlast,
          if_neg (by exact_mod_cast hlt), show wr - (n + 1) = 0 by omega]
        simp

lemma grown_goAlong (hwr : 0 < wr) (nodes : List Node) :
    Grown wr fresh nodes (goAlong wr last 0 nodes) := by
  by_cases hnodes : nodes = []
  · subst hnodes
    exact ⟨rfl, fun k node hnode => by cases hnode⟩
  · rw [goAlong_eq hlast hnodes hwr, Nat.sub_zero, Nat.zero_add]
    constructor
    · rw [if_neg hnodes, List.length_append, List.length_take, List.length_map, List.length_range']
      omega
    · intro k node hnode
      rw [List.getElem?_append, List.length_take] at hnode
      split_ifs at hnode with hk
      · rw [List.getElem?_take_of_lt (by omega)] at hnode
        exact Or.inl hnode
      · rw [List.getElem?_map, Option.map_eq_some_iff] at hnode
        obtain ⟨m, hm, rfl⟩ := hnode
        obtain ⟨hlt, rfl⟩ := List.getElem?_eq_some_iff.mp hm
        rw [List.length_range'] at hlt
        rw [List.getElem_range']
        refine Or.inr ⟨List.getElem?_eq_none (by omega), congrArg fresh ?_⟩
        omega

end GoAlong

section Params

variable (ctx : PQCtx AbcSlot) {chain : Cascade AbcSlot}

/-- The nodes that a chain of the writer goes past have names of the chain, and it goes past the
first one when that has. -/
lemma updateChain_past (hinside : ∀ p ∈ chain, p.2 ≠ none) (nodes : List Node) :
    ∃ done past rest, updateChain ctx chain nodes = .ok (done, rest) ∧ nodes = past ++ rest ∧
      done.length = past.length ∧ (∀ node ∈ past, HasAny (chain.map Prod.fst) node) ∧
      (past = [] → ∀ node ∈ nodes.head?, ¬HasAny (chain.map Prod.fst) node) := by
  induction chain generalizing nodes with
  | nil => exact ⟨[], [], nodes, rfl, rfl, rfl, by simp, fun _ node _ => by simp [HasAny]⟩
  | cons p chain ih =>
    obtain ⟨a, slot⟩ := p
    rw [List.forall_mem_cons] at hinside
    cases nodes with
    | nil => exact ⟨[], [], [], rfl, rfl, rfl, by simp, by simp⟩
    | cons node next =>
      have hmono : ∀ node', HasAny (chain.map Prod.fst) node' →
          HasAny (((a, slot) :: chain).map Prod.fst) node' := by
        rintro node' ⟨b, hb, hprop⟩
        exact ⟨b, List.mem_cons_of_mem a hb, hprop⟩
      rw [updateChain]
      split_ifs with hprop
      · obtain ⟨s, hs⟩ := Option.ne_none_iff_exists'.mp hinside.1
        obtain ⟨done, past, rest, hdone, rfl, hlength, hpast, -⟩ := ih hinside.2 next
        refine ⟨node.setProp a (snprintfInt 10 (ctx.shown s)) :: done, node :: past, rest, ?_, rfl,
          ?_, ?_, fun h => by cases h⟩
        · dsimp only at hs
          rw [hs, showField, Except.ok_bind, hdone]
          rfl
        · rw [List.length_cons, List.length_cons, hlength]
        · rw [List.forall_mem_cons]
          exact ⟨⟨a, List.mem_cons_self, hprop⟩, fun node' hnode' => hmono node' (hpast node' hnode')⟩
      · obtain ⟨done, past, rest, hdone, hnodes, hlength, hpast, hhead⟩ := ih hinside.2 (node :: next)
        refine ⟨done, past, rest, hdone, hnodes, hlength,
          fun node' hnode' => hmono node' (hpast node' hnode'), fun hnil node' hnode' => ?_⟩
        rintro ⟨b, hb, hprop'⟩
        rcases List.mem_cons.mp hb with rfl | hb
        · cases hnode'
          exact hprop hprop'
        · exact hhead hnil node' hnode' ⟨b, hb, hprop'⟩

/-- The loop over the params ends when each of them has one of the names. -/
lemma succeeds_updateParams (hinside : ∀ p ∈ chain, p.2 ≠ none) {fuel : Nat} {nodes : List Node}
    (hfuel : nodes.length ≤ fuel) : (updateParams ctx chain fuel nodes).Succeeds (fun _ => True) ↔
      ∀ param ∈ nodes, HasAny (chain.map Prod.fst) param := by
  induction fuel generalizing nodes with
  | zero =>
    rw [List.length_eq_zero_iff.mp (Nat.le_zero.mp hfuel)]
    simp [updateParams]
  | succ fuel ih =>
    cases nodes with
    | nil => simp [updateParams]
    | cons node next =>
      obtain ⟨done, past, rest, hdone, hnodes, hlength, hpast, hhead⟩ :=
        updateChain_past ctx hinside (node :: next)
      rw [updateParams, hdone, Except.ok_bind]
      cases past with
      | nil =>
        rw [List.length_eq_zero_iff.mp hlength]
        simp only [List.isEmpty_nil, if_true, Except.succeeds_error, false_iff]
        exact fun h => hhead rfl node rfl (h node List.mem_cons_self)
      | cons node' past =>
        have hdone' : ¬done.isEmpty := by
          rw [List.isEmpty_iff_length_eq_zero, hlength]
          simp
        have hrest : rest.length ≤ fuel := by
          have := congrArg List.length hnodes
          simp only [List.length_cons, List.length_append] at this hfuel
          omega
        rw [if_neg hdone', Except.succeeds_bind]
        simp only [pure, Except.pure, Except.succeeds_ok]
        rw [ih hrest, hnodes, List.forall_mem_append]
        exact ⟨fun h => ⟨hpast, h⟩, And.right⟩

end Params

/-- The params of the entries that are kept have one of the names each. -/
def EntriesFill (names : List Text) (count : Nat) (numbers : List Node) : Prop :=
  ∀ j < count, ∀ number ∈ numbers[j]?, ∀ param ∈ number.children, HasAny names param

lemma grown_configIndexs (texts : List Text) {count : Nat} (hcount : 0 < count) (numbers : List Node) :
    Grown count (fun n => newNumber n (texts.map newParam)) numbers
      (goAlong count (updateConfigIndexXml texts count) 0 numbers) := by
  apply grown_goAlong _ hcount
  intro n next
  rw [updateConfigIndexXml, Int.toNat_sub]

section Entries

variable (ctx : PQCtx AbcSlot) {γ : Type} {names : List (Text × γ)} {slot : Nat → γ → Option AbcSlot}

/-- The writer of the entries of a table, in the lists of `count`. -/
def updateEntries (names : List (Text × γ)) (slot : Nat → γ → Option AbcSlot) (texts : List Text)
    (count : Nat) (numbers : List Node) : Except XmlFault (List Node) :=
  updateEach (fun j subNode => do
    return subNode.withChildren (← updateParams ctx (names.map fun p => (p.1, slot j p.2))
      subNode.children.length subNode.children)) 0
    (goAlong count (updateConfigIndexXml texts count) 0 numbers)

variable {texts : List Text} {count : Nat} {numbers numbers' : List Node}

lemma length_updateEntries (hcount : 0 < count)
    (h : updateEntries ctx names slot texts count numbers = .ok numbers') :
    numbers'.length ≤ count := by
  rw [length_updateEach h, (grown_configIndexs texts hcount numbers).length]
  split_ifs
  · exact Nat.zero_le count
  · exact le_rfl

lemma succeeds_updateEntries (hslot : ∀ j < 16, ∀ c, slot j c ≠ none)
    (htexts : ∀ a ∈ texts, a ∈ names.map Prod.fst) (hcount : 0 < count) (hle : count ≤ 16) :
    (updateEntries ctx names slot texts count numbers).Succeeds (fun _ => True) ↔
      EntriesFill (names.map Prod.fst) count numbers := by
  have hgrown := grown_configIndexs texts hcount numbers
  have hfst : ∀ j, (names.map fun p => (p.1, slot j p.2)).map Prod.fst = names.map Prod.fst := by
    intro j
    rw [List.map_map]
    rfl
  have hround : ∀ j < count, ∀ number : Node,
      ((updateParams ctx (names.map fun p => (p.1, slot j p.2)) number.children.length
        number.children).Succeeds fun _ => True) ↔
      ∀ param ∈ number.children, HasAny (names.map Prod.fst) param := by
    intro j hj number
    have hinside : ∀ p ∈ names.map fun p => (p.1, slot j p.2), p.2 ≠ none := by
      rw [List.forall_mem_map]
      exact fun p _ => hslot j (hj.trans_le hle) p.2
    rw [succeeds_updateParams ctx hinside le_rfl, hfst]
  rw [updateEntries, succeeds_updateEach]
  simp only [Nat.zero_add, Except.succeeds_bind, pure, Except.pure, Except.succeeds_ok]
  constructor
  · intro h j hj number hnumber
    exact (hround j hj number).mp (h j number (hgrown.kept hnumber hj))
  · intro h j number hnumber
    have hj : j < count := hgrown.lt hnumber
    rw [hround j hj]
    rcases hgrown.node j number hnumber with hold | ⟨-, rfl⟩
    · exact h j hj number hold
    · simp only [newNumber, Node.children, List.forall_mem_map]
      intro a ha
      exact ⟨a, htexts a ha, by simp [newParam, Node.hasProp, Node.getProp, Node.attrs]⟩

end Entries

/-- The items that are left have the numbers of `ctx`, each in the attributes that it had; fresh
ones have all of them. -/
structure ItemsWritten (ctx : PQCtx AbcSlot) (cascade : Nat → Cascade AbcSlot) (count : Nat)
    (items items' : List Node) : Prop where
  length : items'.length = if items = [] then 0 else count
  prop : ∀ (k : Nat) (item' : Node), items'[k]? = some item' →
    ∀ a s, (cascade k).lookup a = some (some s) → item'.getProp a =
      if ∀ item ∈ items[k]?, item.hasProp a then some (printInt (ctx.shown s)) else none

section Items

variable (ctx : PQCtx AbcSlot) {cascade : Cascade AbcSlot}

lemma updateAttrs_prop (hshort : Short cascade) (hinside : ∀ a, cascade.lookup a ≠ some none)
    (node : Node) : ∃ node', updateAttrs ctx cascade node = .ok node' ∧
      ∀ a s, cascade.lookup a = some (some s) → node'.getProp a =
        if node.hasProp a then some (printInt (ctx.shown s)) else none := by
  obtain ⟨node', hnode', hshape, hprop⟩ := updateAttrs_ok ctx hshort fun a _ => hinside a
  refine ⟨node', hnode', fun a s hs => ?_⟩
  split_ifs with ha
  · rw [hprop a ha, hs]
  · rw [← hasProp_of_shape hshape] at ha
    simpa [Node.hasProp] using ha

/-- The items that `updateItems` leaves of a list that was made for them. -/
lemma updateItems_grown {cascade : Nat → Cascade AbcSlot} {count : Nat} {fresh : Nat → Node}
    {items grown : List Node} (hshort : ∀ k, Short (cascade k))
    (hinside : ∀ k < count, ∀ a, (cascade k).lookup a ≠ some none)
    (hfresh : ∀ k a s, (cascade k).lookup a = some (some s) → (fresh k).hasProp a)
    (h : Grown count fresh items grown) :
    ∃ items', updateItems ctx cascade grown = .ok items' ∧
      ItemsWritten ctx cascade count items items' := by
  have hsucceeds : (updateItems ctx cascade grown).Succeeds fun _ => True := by
    rw [updateItems, succeeds_updateEach]
    intro k item hitem
    obtain ⟨item', hitem', -⟩ :=
      updateAttrs_prop ctx (hshort k) (hinside k (h.lt hitem)) item
    rw [Nat.zero_add, hitem']
    trivial
  obtain ⟨items', hitems', -⟩ := Except.succeeds_iff.mp hsucceeds
  refine ⟨items', hitems', (length_updateEach hitems').trans h.length, ?_⟩
  intro k item' hitem' a s hs
  obtain ⟨item, hitem, hwritten⟩ := (getElem?_updateEach hitems').mp hitem'
  obtain ⟨written, hok, hprop⟩ := updateAttrs_prop ctx (hshort k) (hinside k (h.lt hitem)) item
  rw [Nat.zero_add, hok] at hwritten
  cases hwritten
  rw [hprop a s hs]
  rcases h.node k item hitem with hold | ⟨hnone, rfl⟩
  · simp [hold]
  · simp [hnone, hfresh k a s hs]

/-- What a reader finds in them that looks for the same names, for fields of its own. -/
lemma mem_parseItems_written {cascade reads : Nat → Cascade AbcSlot} {count : Nat}
    {items items' : List Node} (h : ItemsWritten ctx cascade count items items')
    (hreads : ∀ k a s, (reads k).lookup a = some (some s) →
      k < items'.length → ∃ t, (cascade k).lookup a = some (some t))
    {found : List (Store AbcSlot)} (hparse : parseItems reads items' = .ok found) {st : Store AbcSlot} :
    st ∈ found ↔ ∃ k < items'.length, ∃ a t, (reads k).lookup a = some (some st.1) ∧
      (cascade k).lookup a = some (some t) ∧ (∀ item ∈ items[k]?, item.hasProp a) ∧
        st.2 = ctx.number t := by
  rw [mem_parseItems_number hparse]
  constructor
  · rintro ⟨k, item', hitem', a, hprop, hlookup, hst⟩
    have hk := (List.getElem?_eq_some_iff.mp hitem').1
    obtain ⟨t, ht⟩ := hreads k a st.1 hlookup hk
    have hget := h.prop k item' hitem' a t ht
    rw [Node.hasProp, hget] at hprop
    rw [hget] at hst
    split_ifs at hprop hst with hall
    · exact ⟨k, hk, a, t, hlookup, ht, hall, hst⟩
    · cases hprop
  · rintro ⟨k, hk, a, t, hlookup, ht, hall, hst⟩
    have hitem' := List.getElem?_eq_getElem hk
    have hget := h.prop k _ hitem' a t ht
    rw [if_pos hall] at hget
    refine ⟨k, _, hitem', a, ?_, hlookup, ?_⟩
    · rw [Node.hasProp, hget]
      rfl
    · rw [hget]
      exact hst

end Items

lemma hasProp_newItem {ambient brightness a : Text}
    (ha : a ∈ [ofString "ambient", ofString "brightness"]) :
    (newItem ambient brightness).hasProp a := by
  rw [hasProp_iff]
  exact ha

lemma slpCascade_some {i : Fin 2} {j k : Nat} {a : Text} {s : AbcSlot} :
    (slpCascade i j k).lookup a = some (some s) ↔ match s with
      | .ambient i' j' k' => i = i' ∧ j = j'.val ∧ k = k'.val ∧ a = ofString "ambient"
      | .slpBrightnessFactor i' j' k' => i = i' ∧ j = j'.val ∧ k = k'.val ∧ a = ofString "brightness"
      | _ => False := by
  rw [slpCascade, lookup_pair (by decide), element_pair_eq_some, element_pair_eq_some]
  cases s <;> simp [and_comm, and_left_comm, and_assoc]

lemma blCascade_some {i k : Nat} {a : Text} {s : AbcSlot} :
    (blCascade i k).lookup a = some (some s) ↔ match s with
      | .blAmbient i' k' => i = i'.val ∧ k = k'.val ∧ a = ofString "ambient"
      | .backlight i' k' => i = i'.val ∧ k = k'.val ∧ a = ofString "brightness"
      | _ => False := by
  rw [blCascade, lookup_pair (by decide), element_pair_eq_some, element_pair_eq_some]
  cases s <;> simp [and_comm, and_assoc]

lemma slpCascade_name {i : Fin 2} {j k : Nat} {a : Text} {s : AbcSlot}
    (h : (slpCascade i j k).lookup a = some (some s)) :
    a ∈ [ofString "ambient", ofString "brightness"] := by
  rw [slpCascade_some] at h
  cases s with
  | ambient i j k => simp [h.2.2.2]
  | slpBrightnessFactor i j k => simp [h.2.2.2]
  | _ => exact h.elim

lemma short_slpCascade (i : Fin 2) (j k : Nat) : Short (slpCascade i j k) := by
  intro a s h
  rw [slpCascade_some] at h
  cases s with
  | ambient i j k => exact le_rfl
  | slpBrightnessFactor i j k => exact le_rfl
  | _ => exact h.elim

lemma short_blCascade (i k : Nat) : Short (blCascade i k) := by
  intro a s h
  rw [blCascade_some] at h
  cases s with
  | blAmbient i k => exact le_rfl
  | backlight i k => exact le_rfl
  | _ => exact h.elim

/-- The numbers in `ctx` that stand for lengths are within the arrays; the items count in their own
mode only. -/
structure AbcInRange (ctx : PQCtx AbcSlot) : Prop where
  num (i : Fin 2) : 0 < (ctx (.num i)).toNat ∧ (ctx (.num i)).toNat ≤ 16
  mode : ctx .slpblMode = 1 ∨ ctx .slpblMode = 2
  mapNum : ctx .slpblMode = 1 → ∀ i (j : Fin 16), j.val < (ctx (.num i)).toNat →
    0 < (ctx (.mapNum i j)).toNat ∧ (ctx (.mapNum i j)).toNat ≤ 128
  blMapNum : ctx .slpblMode = 2 → ∀ i,
    0 < (ctx (.blMapNum i)).toNat ∧ (ctx (.blMapNum i)).toNat ≤ 128

/-- `map_num` of an entry. -/
def slpCount (ctx : PQCtx AbcSlot) (i : Fin 2) (j : Nat) : Nat :=
  ((element 16 j).map fun j => (ctx (.mapNum i j)).toNat).getD 0

/-- The items of an entry, or those that a fresh one is made with. -/
def itemsOf (count : Nat) (number : Option Node) : List Node :=
  (number.map Node.children).getD (newItems count)

/-- The entries of a table as the writer leaves them. -/
structure SlpWritten (ctx : PQCtx AbcSlot) (i : Fin 2) (numbers numbers' : List Node) : Prop where
  length : numbers'.length = if numbers = [] then 0 else (ctx (.num i)).toNat
  items : ∀ (j : Nat) (number' : Node), numbers'[j]? = some number' →
    ItemsWritten ctx (slpCascade i j) (slpCount ctx i j) (itemsOf (slpCount ctx i j) numbers[j]?)
      number'.children

section SlpTables

variable (ctx : PQCtx AbcSlot) {i : Fin 2}

lemma slpCount_of_fin (j : Fin 16) : slpCount ctx i j = (ctx (.mapNum i j)).toNat := by
  rw [slpCount, element, dif_pos j.isLt]
  rfl

lemma wrItemnums_eq {j : Nat} (hj : j < 16) (hle : slpCount ctx i j ≤ 128) :
    wrItemnums ctx i j = .ok (slpCount ctx i j) := by
  have hcount := slpCount_of_fin ctx (i := i) ⟨j, hj⟩
  rw [hcount] at hle ⊢
  rw [wrItemnums, element, dif_pos hj]
  exact congrArg Except.ok (BitVec.toInt_eq_toNat_of_lt (by
    have : 2 * 128 < 2 ^ PQFields.width (AbcSlot.mapNum i ⟨j, hj⟩) := (by decide : 2 * 128 < 2 ^ 32)
    omega))

lemma grown_slpItems {count : Nat} (hcount : 0 < count) (items : List Node) :
    Grown count (fun _ => newItem (snprintfInt 10 1) (snprintfInt 10 1)) items
      (goAlong count (updateSlpItemsXml count) 0 items) := by
  apply grown_goAlong _ hcount
  intro n next
  rw [updateSlpItemsXml, Int.toNat_sub, newItems, List.map_const', List.length_range']

lemma grown_newItems {count : Nat} (hcount : 0 < count) :
    Grown count (fun _ => newItem (snprintfInt 10 1) (snprintfInt 10 1)) (newItems count)
      (newItems count) := by
  refine ⟨?_, fun k node hnode => Or.inl hnode⟩
  rw [if_neg (by simp [newItems]; omega), newItems, List.length_replicate]

/-- Every entry that is counted has its items counted, within the arrays. -/
def EntriesCounted (ctx : PQCtx AbcSlot) (i : Fin 2) : Prop :=
  (ctx (.num i)).toNat ≤ 16 ∧
    ∀ j < (ctx (.num i)).toNat, 0 < slpCount ctx i j ∧ slpCount ctx i j ≤ 128

variable {ctx} (hcounted : EntriesCounted ctx i)

include hcounted

lemma wrItemnums_of_counted {j : Nat} (hj : j < (ctx (.num i)).toNat) :
    wrItemnums ctx i j = .ok (slpCount ctx i j) :=
  wrItemnums_eq ctx (hj.trans_le hcounted.1) (hcounted.2 j hj).2

lemma updateSlpIndexXml_nil (n : Nat) : updateSlpIndexXml ctx i n [] =
    .ok ((List.range' n ((ctx (.num i)).toNat - n)).map
      fun j => newNumber j (newItems (slpCount ctx i j))) := by
  rw [updateSlpIndexXml, wrIndexnums]
  by_cases hn : n < (ctx (.num i)).toNat
  · rw [if_pos (by exact_mod_cast hn), Int.toNat_sub,
      mapM_eq_ok (g := fun j => newNumber j (newItems (slpCount ctx i j)))]
    · rfl
    · intro j hj
      have hlt := (List.mem_range'_1.mp hj).2
      rw [wrItemnums_of_counted hcounted (by omega)]
      rfl
  · rw [if_neg (by exact_mod_cast hn), show (ctx (.num i)).toNat - n = 0 by omega]
    rfl

omit hcounted in
lemma updateSlpIndexXml_of_le {n : Nat} (hn : (ctx (.num i)).toNat ≤ n) (next : List Node) :
    updateSlpIndexXml ctx i n next = .ok [] := by
  rw [updateSlpIndexXml, wrIndexnums, if_neg (by exact_mod_cast not_lt.mpr hn)]

lemma grown_cons {n : Nat} (hn : n < (ctx (.num i)).toNat) (number : Node) {next rest : List Node}
    (hrest : ∀ (k : Nat) (number' : Node), rest[k]? = some number' →
      Grown (slpCount ctx i (n + 1 + k)) (fun _ => newItem (snprintfInt 10 1) (snprintfInt 10 1))
        (itemsOf (slpCount ctx i (n + 1 + k)) next[k]?) number'.children)
    (k : Nat) (number' : Node)
    (hnumber' : (number.withChildren (goAlong (slpCount ctx i n)
      (updateSlpItemsXml (slpCount ctx i n)) 0 number.children) :: rest)[k]? = some number') :
    Grown (slpCount ctx i (n + k)) (fun _ => newItem (snprintfInt 10 1) (snprintfInt 10 1))
      (itemsOf (slpCount ctx i (n + k)) (number :: next)[k]?) number'.children := by
  cases k with
  | zero =>
    cases hnumber'
    rw [children_withChildren]
    exact grown_slpItems (hcounted.2 n hn).1 number.children
  | succ k =>
    rw [show n + (k + 1) = n + 1 + k by omega]
    exact hrest k number' hnumber'

/-- The entries from the place `n` on: those that are kept have their items made as many as `ctx`
says, and the fresh ones are made with them. -/
lemma updateSlpMappingIndexsArrays_ok {n : Nat} {numbers : List Node} (hnumbers : numbers ≠ [])
    (hn : n < (ctx (.num i)).toNat) :
    ∃ grown, updateSlpMappingIndexsArrays ctx i n numbers = .ok grown ∧
      n + grown.length = (ctx (.num i)).toNat ∧
      ∀ (k : Nat) (number' : Node), grown[k]? = some number' →
        Grown (slpCount ctx i (n + k)) (fun _ => newItem (snprintfInt 10 1) (snprintfInt 10 1))
          (itemsOf (slpCount ctx i (n + k)) numbers[k]?) number'.children := by
  induction numbers generalizing n with
  | nil => exact absurd rfl hnumbers
  | cons number next ih =>
    rw [updateSlpMappingIndexsArrays, wrItemnums_of_counted hcounted hn, Except.ok_bind]
    dsimp only
    by_cases hgo : ¬next.isEmpty ∧ ((n + 1 : Nat) : Int) < wrIndexnums ctx i
    · have hlt : n + 1 < (ctx (.num i)).toNat := Int.ofNat_lt.mp hgo.2
      obtain ⟨grown, hgrown, hlength, hitems⟩ := ih (by simpa using hgo.1) hlt
      rw [if_pos hgo, hgrown]
      refine ⟨_, rfl, ?_, grown_cons hcounted hn number hitems⟩
      rw [List.length_cons]
      omega
    · rw [if_neg hgo]
      by_cases hnext : next = []
      · subst hnext
        rw [updateSlpIndexXml_nil hcounted]
        refine ⟨_, rfl, ?_, grown_cons hcounted hn number fun k number' hnumber' => ?_⟩
        · rw [List.length_cons, List.length_map, List.length_range']
          omega
        · rw [List.getElem?_map, Option.map_eq_some_iff] at hnumber'
          obtain ⟨j, hj, rfl⟩ := hnumber'
          obtain ⟨hlt, rfl⟩ := List.getElem?_eq_some_iff.mp hj
          rw [List.length_range'] at hlt
          rw [List.getElem_range', Nat.one_mul]
          exact grown_newItems (hcounted.2 (n + 1 + k) (by omega)).1
      · have hle : (ctx (.num i)).toNat ≤ n + 1 := by
          by_contra hlt
          exact hgo ⟨by simpa using hnext, Int.ofNat_lt.mpr (not_le.mp hlt)⟩
        rw [updateSlpIndexXml_of_le hle]
        refine ⟨_, rfl, ?_, grown_cons hcounted hn number fun k number' hnumber' => by cases hnumber'⟩
        rw [List.length_singleton]
        omega

lemma updateSlpMapping_ok (hnum : 0 < (ctx (.num i)).toNat) (numbers : List Node) :
    ∃ numbers', (do
      updateSlpMappingChildTable ctx i (← updateSlpMappingIndexsArrays ctx i 0 numbers)) = .ok numbers' ∧
      SlpWritten ctx i numbers numbers' := by
  by_cases hnumbers : numbers = []
  · subst hnumbers
    exact ⟨[], rfl, rfl, fun j number' h => by cases h⟩
  obtain ⟨grown, hgrown, hlength, hitems⟩ := updateSlpMappingIndexsArrays_ok hcounted hnumbers hnum
  rw [Nat.zero_add] at hlength
  simp only [Nat.zero_add] at hitems
  have hround : ∀ (j : Nat) (number : Node), grown[j]? = some number →
      ∃ items', updateItems ctx (slpCascade i j) number.children = .ok items' ∧
        ItemsWritten ctx (slpCascade i j) (slpCount ctx i j)
          (itemsOf (slpCount ctx i j) numbers[j]?) items' := by
    intro j number hnumber
    have hj : j < (ctx (.num i)).toNat := hlength ▸ (List.getElem?_eq_some_iff.mp hnumber).1
    apply updateItems_grown ctx (short_slpCascade i j) _ _ (hitems j number hnumber)
    · intro k hk a h
      exact (slpCascade_none.mp h).2 ⟨hj.trans_le hcounted.1, hk.trans_le (hcounted.2 j hj).2⟩
    · exact fun k a s h => hasProp_newItem (slpCascade_name h)
  have hsucceeds : (updateSlpMappingChildTable ctx i grown).Succeeds fun _ => True := by
    rw [updateSlpMappingChildTable, succeeds_updateEach]
    intro j number hnumber
    obtain ⟨items', hitems', -⟩ := hround j number hnumber
    rw [Nat.zero_add, hitems']
    trivial
  obtain ⟨numbers', hnumbers', -⟩ := Except.succeeds_iff.mp hsucceeds
  refine ⟨numbers', ?_, ?_, fun j number' hnumber' => ?_⟩
  · rw [hgrown]
    exact hnumbers'
  · rw [length_updateEach hnumbers', hlength, if_neg hnumbers]
  · obtain ⟨number, hnumber, hwritten⟩ := (getElem?_updateEach hnumbers').mp hnumber'
    obtain ⟨items', hitems', hitemsWritten⟩ := hround j number hnumber
    rw [Nat.zero_add, hitems'] at hwritten
    cases hwritten
    rw [children_withChildren]
    exact hitemsWritten

end SlpTables

section BlTables

variable (ctx : PQCtx AbcSlot) (i : Fin 2)

/-- The item that is made for a place. -/
def blItem (k : Nat) : Node :=
  if h : k < 128 then
    newItem (printInt (ctx.shown (.blAmbient i ⟨k, h⟩))) (printInt (ctx.shown (.backlight i ⟨k, h⟩)))
  else newItem [] []

lemma getProp_blItem {k : Nat} {a : Text} {s : AbcSlot}
    (h : (blCascade i k).lookup a = some (some s)) :
    (blItem ctx i k).getProp a = some (printInt (ctx.shown s)) := by
  rw [blCascade_some] at h
  cases s with
  | blAmbient i' k' =>
    obtain ⟨hi, rfl, rfl⟩ := h
    obtain rfl := Fin.ext hi
    rw [blItem, dif_pos k'.isLt]
    rfl
  | backlight i' k' =>
    obtain ⟨hi, rfl, rfl⟩ := h
    obtain rfl := Fin.ext hi
    rw [blItem, dif_pos k'.isLt]
    rfl
  | _ => exact h.elim

variable {ctx i} (hle : (ctx (.blMapNum i)).toNat ≤ 128)

include hle

lemma toInt_blMapNum : (ctx (.blMapNum i)).toInt = (ctx (.blMapNum i)).toNat :=
  BitVec.toInt_eq_toNat_of_lt (by
    have : 2 * 128 < 2 ^ PQFields.width (AbcSlot.blMapNum i) := (by decide : 2 * 128 < 2 ^ 32)
    omega)

lemma updateBlRest_nil (j : Nat) :
    updateBlRest ctx i j [] =
      .ok ((List.range' j ((ctx (.blMapNum i)).toNat - j)).map (blItem ctx i)) := by
  rw [updateBlRest, toInt_blMapNum hle]
  by_cases hj : j < (ctx (.blMapNum i)).toNat
  · rw [if_pos (by exact_mod_cast hj), Int.toNat_sub, mapM_eq_ok (g := blItem ctx i)]
    · rfl
    · intro k hk
      have hlt : k < 128 := by
        have := (List.mem_range'_1.mp hk).2
        omega
      rw [element, dif_pos hlt, blItem, dif_pos hlt, ← snprintfInt_ten ctx le_rfl,
        ← snprintfInt_ten ctx le_rfl]
      rfl
  · rw [if_neg (by exact_mod_cast hj), show (ctx (.blMapNum i)).toNat - j = 0 by omega]
    rfl

lemma updateBlRest_of_le {j : Nat} (hj : (ctx (.blMapNum i)).toNat ≤ j) (next : List Node) :
    updateBlRest ctx i j next = .ok [] := by
  rw [updateBlRest, toInt_blMapNum hle, if_neg (by exact_mod_cast not_lt.mpr hj)]

/-- The item at a place has the numbers of `ctx`, where it has the attributes. -/
def BlWritten (ctx : PQCtx AbcSlot) (i : Fin 2) (n : Nat) (items items' : List Node) : Prop :=
  ∀ (k : Nat) (item' : Node), items'[k]? = some item' →
    ∀ a s, (blCascade i (n + k)).lookup a = some (some s) → item'.getProp a =
      if ∀ item ∈ items[k]?, item.hasProp a then some (printInt (ctx.shown s)) else none

omit hle in
lemma blWritten_cons {n : Nat} {item item' : Node} {next rest : List Node}
    (hitem : ∀ a s, (blCascade i n).lookup a = some (some s) → item'.getProp a =
      if item.hasProp a then some (printInt (ctx.shown s)) else none)
    (hrest : BlWritten ctx i (n + 1) next rest) : BlWritten ctx i n (item :: next) (item' :: rest) := by
  intro k written hwritten a s hs
  cases k with
  | zero =>
    cases hwritten
    rw [hitem a s hs]
    simp
  | succ k =>
    rw [show n + (k + 1) = n + 1 + k by omega] at hs
    exact hrest k written hwritten a s hs

lemma updateBlChildTable_ok {n : Nat} {items : List Node} (hitems : items ≠ [])
    (hn : n < (ctx (.blMapNum i)).toNat) :
    ∃ items', updateBlChildTable ctx i n items = .ok items' ∧
      n + items'.length = (ctx (.blMapNum i)).toNat ∧ BlWritten ctx i n items items' := by
  induction items generalizing n with
  | nil => exact absurd rfl hitems
  | cons item next ih =>
    have hinside : ∀ a, (blCascade i n).lookup a ≠ some none :=
      fun a h => (blCascade_none.mp h).2 ⟨i.isLt, hn.trans_le hle⟩
    obtain ⟨item', hitem', hprop⟩ := updateAttrs_prop ctx (short_blCascade i n) hinside item
    rw [updateBlChildTable, hitem', Except.ok_bind, toInt_blMapNum hle]
    by_cases hgo : ¬next.isEmpty ∧ ((n + 1 : Nat) : Int) < (ctx (.blMapNum i)).toNat
    · obtain ⟨rest, hrest, hlength, hwritten⟩ := ih (by simpa using hgo.1) (Int.ofNat_lt.mp hgo.2)
      rw [if_pos hgo, hrest]
      refine ⟨_, rfl, ?_, blWritten_cons hprop hwritten⟩
      rw [List.length_cons]
      omega
    · rw [if_neg hgo]
      by_cases hnext : next = []
      · subst hnext
        rw [updateBlRest_nil hle]
        refine ⟨_, rfl, ?_, blWritten_cons hprop fun k written hk a s hs => ?_⟩
        · rw [List.length_cons, List.length_map, List.length_range']
          omega
        · rw [List.getElem?_map, Option.map_eq_some_iff] at hk
          obtain ⟨m, hm, rfl⟩ := hk
          obtain ⟨hlt, rfl⟩ := List.getElem?_eq_some_iff.mp hm
          rw [List.getElem_range', Nat.one_mul, getProp_blItem ctx i hs]
          simp
      · have hstop : (ctx (.blMapNum i)).toNat ≤ n + 1 := by
          by_contra hlt
          exact hgo ⟨by simpa using hnext, Int.ofNat_lt.mpr (not_le.mp hlt)⟩
        rw [updateBlRest_of_le hle hstop]
        refine ⟨_, rfl, ?_, blWritten_cons hprop fun k written hk => by cases hk⟩
        rw [List.length_singleton]
        omega

lemma updateBl_ok (hpos : 0 < (ctx (.blMapNum i)).toNat) {items : List Node} (hitems : items ≠ []) :
    ∃ items', updateBlChildTable ctx i 0 items = .ok items' ∧
      ItemsWritten ctx (blCascade i) (ctx (.blMapNum i)).toNat items items' := by
  obtain ⟨items', hitems', hlength, hwritten⟩ := updateBlChildTable_ok hle hitems hpos
  refine ⟨items', hitems', ?_, ?_⟩
  · rw [if_neg hitems]
    omega
  · intro k item' hitem' a s hs
    rw [← Nat.zero_add k] at hs
    exact hwritten k item' hitem' a s hs

end BlTables

end EngPc
