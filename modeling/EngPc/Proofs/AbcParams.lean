import EngPc.Proofs.AbcLists

/-!
# The params of a number element

The readers take one node further after each chain, whether the chain has reached it or not; the writers
never do. So a reader passes over a node that is out of order, and a writer stays at a node that has none
of the names.
-/

namespace EngPc
open CString ReadWrite XmlTree

variable {γ : Type}

/-- The parameters of a node, with their numbers. -/
def knownOf (names : List (Text × γ)) (param : Node) : List (γ × Nat) :=
  names.filterMap fun p => (param.getProp p.1).map fun text => (p.2, strtoul longBits text)

def knownParams (names : List (Text × γ)) (params : List Node) : List (γ × Nat) :=
  params.flatMap (knownOf names)

/-- The parameters of all elements, each with its field; `none` is a field outside the array. -/
def knownFields (names : List (Text × γ)) (slot : Nat → γ → Option AbcSlot) (numbers : List Node) :
    List (Option AbcSlot × Nat) :=
  numbers.zipIdx.flatMap fun n => (knownParams names n.1.children).map fun q => (slot n.2 q.1, q.2)

/-- A reader ends, and has stored every parameter of the lists in its field. -/
def ReadsAll (names : List (Text × γ)) (slot : Nat → γ → Option AbcSlot) (numbers : List Node)
    (read : Except XmlFault (List (Store AbcSlot))) : Prop :=
  ∃ found, read = .ok found ∧ found.map (Prod.map some id) = knownFields names slot numbers

/-- A node whose parameters are written, and nothing else of it. -/
structure ParamWritten (ctx : PQCtx AbcSlot) (names : List (Text × γ)) (slot : γ → Option AbcSlot)
    (param param' : Node) : Prop where
  shape : param'.shape = param.shape
  children : param'.children = param.children
  known : ∀ p ∈ names, param.hasProp p.1 →
    ∃ s, slot p.2 = some s ∧ param'.getProp p.1 = some (printInt (ctx.shown s))
  others : ∀ a ∉ names.map Prod.fst, param'.getProp a = param.getProp a

/-- A writer ends, and has written every parameter of the lists and nothing else. -/
def WritesAll (ctx : PQCtx AbcSlot) (names : List (Text × γ)) (slot : Nat → γ → Option AbcSlot)
    (numbers : List Node) (write : Except XmlFault (List Node)) : Prop :=
  ∃ numbers', write = .ok numbers' ∧ numbers'.length = numbers.length ∧
    ∀ (j : Nat) (number : Node), numbers[j]? = some number →
      ∃ params, numbers'[j]? = some (number.withChildren params) ∧
        List.Forall₂ (ParamWritten ctx names (slot j)) number.children params

/-- Each node has one of the names, and they come in their order; some may be missing. -/
def ParamsOrdered (names : List Text) (params : List Node) : Prop :=
  ∃ found : List Text, found.Sublist names ∧ List.Forall₂ (HasOnly names) params found

/-- The lists are ordered, and only elements with a place in the array have params. -/
def NumbersOrdered (names : List Text) (numbers : List Node) : Prop :=
  ∀ (j : Nat) (number : Node), numbers[j]? = some number →
    ParamsOrdered names number.children ∧ (j < 16 ∨ number.children = [])

section Counts

variable {names : List (Text × γ)} {param : Node} {params : List Node}

lemma eq_one_of_sum_le {α : Type} {size : α → Nat} {l : List α} (hpos : ∀ a ∈ l, 1 ≤ size a) :
    l.length ≤ (l.map size).sum ∧ ((l.map size).sum ≤ l.length → ∀ a ∈ l, size a = 1) := by
  induction l with
  | nil => exact ⟨le_rfl, fun _ => List.forall_mem_nil _⟩
  | cons a l ih =>
    rw [List.forall_mem_cons] at hpos
    obtain ⟨hle, htight⟩ := ih hpos.2
    rw [List.map_cons, List.sum_cons, List.length_cons, List.forall_mem_cons]
    have hone := hpos.1
    exact ⟨by omega, fun hsum => ⟨by omega, htight (by omega)⟩⟩

lemma length_knownOf (names : List (Text × γ)) (param : Node) :
    (knownOf names param).length = (names.filter fun p => param.hasProp p.1).length := by
  rw [knownOf, List.length_filterMap_eq_countP, List.countP_eq_length_filter]
  simp only [Option.isSome_map]
  rfl

lemma one_le_knownOf (h : HasAny (names.map Prod.fst) param) : 1 ≤ (knownOf names param).length := by
  obtain ⟨p, hp, hprop⟩ := hasAny_map.mp h
  rw [length_knownOf]
  exact List.length_pos_of_mem (List.mem_filter.mpr ⟨hp, hprop⟩)

lemma hasOnly_of_length (h : (knownOf names param).length = 1) {a : Text}
    (ha : a ∈ names.map Prod.fst) (hprop : param.hasProp a) : HasOnly (names.map Prod.fst) param a := by
  rw [length_knownOf, List.length_eq_one_iff] at h
  obtain ⟨q, hq⟩ := h
  have hname : ∀ b ∈ names.map Prod.fst, param.hasProp b → b = q.1 := by
    intro b hb hpropb
    obtain ⟨p, hp, rfl⟩ := List.mem_map.mp hb
    have hmem : p ∈ names.filter fun p => param.hasProp p.1 := List.mem_filter.mpr ⟨hp, hpropb⟩
    rw [hq, List.mem_singleton] at hmem
    rw [hmem]
  refine fun b hb => ⟨fun hpropb => ?_, fun h => h ▸ hprop⟩
  rw [hname b hb hpropb, hname a ha hprop]

lemma parseChain_past {chain : Cascade AbcSlot} {nodes rest : List Node} {found : List (Store AbcSlot)}
    (h : parseChain chain nodes = .ok (found, rest)) :
    ∃ (past : List Node) (as : List Text), nodes = past ++ rest ∧ found.length = past.length ∧
      as.Sublist (chain.map Prod.fst) ∧ List.Forall₂ (fun node a => node.hasProp a = true) past as := by
  induction chain generalizing nodes rest found with
  | nil =>
    cases h
    exact ⟨[], [], rfl, rfl, List.Sublist.refl _, .nil⟩
  | cons p chain ih =>
    obtain ⟨a, slot⟩ := p
    cases nodes with
    | nil =>
      cases h
      exact ⟨[], [], rfl, rfl, List.nil_sublist _, .nil⟩
    | cons node next =>
      rw [parseChain_cons] at h
      split_ifs at h with hprop
      · simp only [bind_eq_ok, pure, Except.pure, Except.ok.injEq, Prod.mk.injEq] at h
        obtain ⟨store, -, r, hr, rfl, rfl⟩ := h
        obtain ⟨past, as, rfl, hlength, hsub, hpast⟩ := ih hr
        refine ⟨node :: past, a :: as, rfl, ?_, hsub.cons_cons a, hpast.cons hprop⟩
        rw [List.length_cons, List.length_cons, hlength]
      · obtain ⟨past, as, hnodes, hlength, hsub, hpast⟩ := ih h
        exact ⟨past, as, hnodes, hlength, hsub.cons a, hpast⟩

/-- A reader stores one number for a node at most, and it does for all of them only if one chain takes
them all. -/
lemma length_parseParams {chain : Cascade AbcSlot} {fuel : Nat} {found : List (Store AbcSlot)}
    (h : parseParams chain fuel params = .ok found) :
    found.length ≤ params.length ∧ (params.length ≤ found.length →
      ∃ as : List Text, as.Sublist (chain.map Prod.fst) ∧
        List.Forall₂ (fun node a => node.hasProp a = true) params as) := by
  have hnil : ∃ as : List Text, as.Sublist (chain.map Prod.fst) ∧
      List.Forall₂ (fun (node : Node) a => node.hasProp a = true) [] as :=
    ⟨[], List.nil_sublist _, .nil⟩
  induction fuel generalizing params found with
  | zero =>
    cases h
    refine ⟨Nat.zero_le _, fun hle => ?_⟩
    rw [List.length_eq_zero_iff.mp (Nat.le_zero.mp hle)]
    exact hnil
  | succ fuel ih =>
    cases params with
    | nil =>
      cases h
      exact ⟨le_rfl, fun _ => hnil⟩
    | cons node next =>
      simp only [parseParams, bind_eq_ok, pure, Except.pure, Except.ok.injEq] at h
      obtain ⟨⟨here, rest⟩, hhere, found, hfound, rfl⟩ := h
      obtain ⟨past, as, hnodes, hlength, hsub, hpast⟩ := parseChain_past hhere
      have hle := (ih hfound).1
      have htotal := congrArg List.length hnodes
      dsimp only at hle ⊢
      rw [List.length_append] at htotal
      rw [List.length_append]
      cases rest with
      | nil =>
        rw [List.append_nil] at hnodes
        rw [List.tail_nil, List.length_nil] at hle
        rw [List.length_nil] at htotal
        exact ⟨by omega, fun _ => ⟨as, hsub, hnodes ▸ hpast⟩⟩
      | cons skipped rest =>
        rw [List.tail_cons] at hle
        rw [List.length_cons (a := skipped)] at htotal
        exact ⟨by omega, fun hall => absurd hall (by omega)⟩

lemma forall₂_hasOnly {as : List Text} (hcounts : ∀ param ∈ params, (knownOf names param).length = 1)
    (hnames : ∀ a ∈ as, a ∈ names.map Prod.fst)
    (h : List.Forall₂ (fun (node : Node) a => node.hasProp a = true) params as) :
    List.Forall₂ (HasOnly (names.map Prod.fst)) params as := by
  induction h with
  | nil => exact .nil
  | cons hprop _ ih =>
    rw [List.forall_mem_cons] at hcounts hnames
    exact .cons (hasOnly_of_length hcounts.1 hnames.1 hprop) (ih hcounts.2 hnames.2)

/-- A reader that finds as much as nodes of the names have finds them in order. -/
lemma paramsOrdered_of_length (hany : ∀ param ∈ params, HasAny (names.map Prod.fst) param)
    {slot : γ → Option AbcSlot} {fuel : Nat} {found : List (Store AbcSlot)}
    (h : parseParams (names.map fun p => (p.1, slot p.2)) fuel params = .ok found)
    (hlength : found.length = (knownParams names params).length) :
    ParamsOrdered (names.map Prod.fst) params := by
  rw [knownParams, List.length_flatMap] at hlength
  obtain ⟨hle, hone⟩ := eq_one_of_sum_le fun param hparam => one_le_knownOf (hany param hparam)
  obtain ⟨hle', hordered⟩ := length_parseParams h
  obtain ⟨as, hsub, hprops⟩ := hordered (by omega)
  rw [List.map_map] at hsub
  exact ⟨as, hsub, forall₂_hasOnly (hone (by omega)) (fun a ha => hsub.subset ha) hprops⟩

end Counts

section Ordered

variable {names : List (Text × γ)} {params : List Node}

lemma hasOnly_tail {a : Text} {names found : List Text} (ha : a ∉ names)
    (hnames : ∀ b ∈ found, b ∈ names) (h : List.Forall₂ (HasOnly (a :: names)) params found) :
    (∀ param ∈ params, ¬param.hasProp a) ∧ List.Forall₂ (HasOnly names) params found := by
  induction h with
  | nil => exact ⟨List.forall_mem_nil _, .nil⟩
  | @cons param b _ _ hparam _ ih =>
    rw [List.forall_mem_cons] at hnames ⊢
    obtain ⟨hrest, hordered⟩ := ih hnames.2
    have hne : a ≠ b := fun h => ha (h ▸ hnames.1)
    refine ⟨⟨fun hprop => hne ((hparam a List.mem_cons_self).mp hprop), hrest⟩,
      .cons (fun b' hb' => hparam b' (List.mem_cons_of_mem a hb')) hordered⟩

/-- Along the names: each is one that no node has, or the name of the first node. -/
lemma ordered_induction {motive : List (Text × γ) → List Node → Prop}
    (nil : ∀ names, motive names [])
    (skip : ∀ a c names params, (∀ param ∈ params, ¬param.hasProp a) → motive names params →
      motive ((a, c) :: names) params)
    (take : ∀ a c names param params, param.hasProp a → (∀ p ∈ names, ¬param.hasProp p.1) →
      a ∉ names.map Prod.fst → (∀ param ∈ params, ¬param.hasProp a) → motive names params →
      motive ((a, c) :: names) (param :: params))
    (hnodup : (names.map Prod.fst).Nodup) (h : ParamsOrdered (names.map Prod.fst) params) :
    motive names params := by
  obtain ⟨found, hsub, hparams⟩ := h
  induction names generalizing params found with
  | nil =>
    rw [List.map_nil, List.sublist_nil] at hsub
    subst hsub
    cases hparams
    exact nil []
  | cons p names ih =>
    obtain ⟨a, c⟩ := p
    rw [List.map_cons, List.nodup_cons] at hnodup
    cases hparams with
    | nil => exact nil _
    | @cons param b params found hparam hparams =>
      by_cases hb : b = a
      · subst hb
        have hsub' := List.cons_sublist_cons.mp hsub
        obtain ⟨hrest, hordered⟩ := hasOnly_tail hnodup.1 (fun b' hb' => hsub'.subset hb') hparams
        refine take b c names param params ((hparam b List.mem_cons_self).mpr rfl) (fun p hp hprop => ?_)
          hnodup.1 hrest (ih hnodup.2 found hsub' hordered)
        have hname : p.1 ∈ names.map Prod.fst := List.mem_map_of_mem hp
        rw [(hparam p.1 (List.mem_cons_of_mem b hname)).mp hprop] at hname
        exact hnodup.1 hname
      · have hsub' : (b :: found).Sublist (names.map Prod.fst) := by
          cases hsub with
          | cons _ hsub => exact hsub
          | cons_cons _ hsub => exact absurd rfl hb
        obtain ⟨hrest, hordered⟩ :=
          hasOnly_tail hnodup.1 (fun b' hb' => hsub'.subset hb') (.cons hparam hparams)
        exact skip a c names _ hrest (ih hnodup.2 _ hsub' hordered)

variable {a : Text} {c : γ} {param param' : Node}

lemma knownOf_skip (h : ¬param.hasProp a) : knownOf ((a, c) :: names) param = knownOf names param := by
  rw [Node.hasProp, Option.not_isSome_iff_eq_none] at h
  rw [knownOf, List.filterMap_cons_none (by rw [h, Option.map_none])]
  rfl

lemma knownOf_take {text : Text} (h : param.getProp a = some text)
    (hothers : ∀ p ∈ names, ¬param.hasProp p.1) :
    knownOf ((a, c) :: names) param = [(c, strtoul longBits text)] := by
  have hnone : names.filterMap (fun p => (param.getProp p.1).map fun text => (p.2, strtoul longBits text)) = [] := by
    rw [List.filterMap_eq_nil_iff]
    intro p hp
    rw [Option.map_eq_none_iff]
    exact Option.not_isSome_iff_eq_none.mp (hothers p hp)
  rw [knownOf, List.filterMap_cons_some (by rw [h, Option.map_some]), hnone]

lemma knownParams_skip (h : ∀ param ∈ params, ¬param.hasProp a) :
    knownParams ((a, c) :: names) params = knownParams names params := by
  induction params with
  | nil => rfl
  | cons param params ih =>
    rw [List.forall_mem_cons] at h
    rw [knownParams, List.flatMap_cons, knownOf_skip h.1, knownParams, List.flatMap_cons]
    exact congrArg _ (ih h.2)

lemma knownParams_take {text : Text} (h : param.getProp a = some text)
    (hothers : ∀ p ∈ names, ¬param.hasProp p.1) (hno : ∀ param ∈ params, ¬param.hasProp a) :
    knownParams ((a, c) :: names) (param :: params) = (c, strtoul longBits text) :: knownParams names params := by
  rw [knownParams, List.flatMap_cons, knownOf_take h hothers, ← knownParams_skip (c := c) hno]
  rfl

lemma parseChain_ordered {slot : γ → Option AbcSlot} (hslot : ∀ c, slot c ≠ none)
    (hnodup : (names.map Prod.fst).Nodup) (h : ParamsOrdered (names.map Prod.fst) params) :
    ∃ found, parseChain (names.map fun p => (p.1, slot p.2)) params = .ok (found, []) ∧
      found.map (Prod.map some id) = (knownParams names params).map fun q => (slot q.1, q.2) := by
  refine ordered_induction (motive := fun names params => ∃ found,
    parseChain (names.map fun p => (p.1, slot p.2)) params = .ok (found, []) ∧
      found.map (Prod.map some id) = (knownParams names params).map fun q => (slot q.1, q.2))
    ?_ ?_ ?_ hnodup h
  · rintro (_ | ⟨_, names⟩) <;> exact ⟨[], rfl, rfl⟩
  · rintro a c names params hno ⟨found, hfound, hknown⟩
    rw [knownParams_skip hno]
    cases params with
    | nil => exact ⟨[], rfl, rfl⟩
    | cons param params =>
      refine ⟨found, ?_, hknown⟩
      rw [List.map_cons, parseChain_cons, if_neg (hno param List.mem_cons_self), hfound]
  · rintro a c names param params hprop hothers - hno ⟨found, hfound, hknown⟩
    obtain ⟨s, hs⟩ := Option.ne_none_iff_exists'.mp (hslot c)
    obtain ⟨text, htext⟩ := Option.isSome_iff_exists.mp hprop
    refine ⟨(s, strtoul longBits text) :: found, ?_, ?_⟩
    · rw [List.map_cons, parseChain_cons, if_pos hprop, htext]
      dsimp only
      rw [hs, hfound]
      rfl
    · rw [knownParams_take htext hothers hno, List.map_cons, List.map_cons, hknown]
      dsimp only
      rw [hs]
      rfl

lemma ParamWritten.skip {ctx : PQCtx AbcSlot} {slot : γ → Option AbcSlot}
    (h : ParamWritten ctx names slot param param') (hno : ¬param.hasProp a) :
    ParamWritten ctx ((a, c) :: names) slot param param' := by
  refine ⟨h.shape, h.children, ?_, fun b hb => h.others b fun hmem => hb (List.mem_cons_of_mem a hmem)⟩
  rw [List.forall_mem_cons]
  exact ⟨fun hprop => absurd hprop hno, h.known⟩

lemma forall₂_skip {ctx : PQCtx AbcSlot} {slot : γ → Option AbcSlot} {done : List Node}
    (hno : ∀ param ∈ params, ¬param.hasProp a)
    (h : List.Forall₂ (ParamWritten ctx names slot) params done) :
    List.Forall₂ (ParamWritten ctx ((a, c) :: names) slot) params done := by
  induction h with
  | nil => exact .nil
  | cons hwritten _ ih =>
    rw [List.forall_mem_cons] at hno
    exact .cons (hwritten.skip hno.1) (ih hno.2)

lemma ParamWritten.take {ctx : PQCtx AbcSlot} {slot : γ → Option AbcSlot} {s : AbcSlot}
    (hs : slot c = some s) (hprop : param.hasProp a) (hothers : ∀ p ∈ names, ¬param.hasProp p.1) :
    ParamWritten ctx ((a, c) :: names) slot param (param.setProp a (printInt (ctx.shown s))) := by
  refine ⟨shape_setProp hprop, children_setProp, ?_, fun b hb => ?_⟩
  · rw [List.forall_mem_cons]
    refine ⟨fun _ => ⟨s, hs, getProp_setProp_self⟩, fun p hp hprop' => absurd hprop' (hothers p hp)⟩
  · exact getProp_setProp_ne fun hba => hb (hba ▸ List.mem_cons_self)

lemma updateChain_ordered (ctx : PQCtx AbcSlot) {slot : γ → Option AbcSlot}
    (hslot : ∀ c, slot c ≠ none) (hshort : ∀ c s, slot c = some s → PQFields.width s ≤ 16)
    (hnodup : (names.map Prod.fst).Nodup) (h : ParamsOrdered (names.map Prod.fst) params) :
    ∃ done, updateChain ctx (names.map fun p => (p.1, slot p.2)) params = .ok (done, []) ∧
      List.Forall₂ (ParamWritten ctx names slot) params done := by
  refine ordered_induction (motive := fun names params => ∃ done,
    updateChain ctx (names.map fun p => (p.1, slot p.2)) params = .ok (done, []) ∧
      List.Forall₂ (ParamWritten ctx names slot) params done) ?_ ?_ ?_ hnodup h
  · rintro (_ | ⟨_, names⟩) <;> exact ⟨[], rfl, .nil⟩
  · rintro a c names params hno ⟨done, hdone, hwritten⟩
    cases params with
    | nil => exact ⟨[], rfl, .nil⟩
    | cons param params =>
      refine ⟨done, ?_, ?_⟩
      · rw [List.map_cons, updateChain, if_neg (hno param List.mem_cons_self), hdone]
      · exact forall₂_skip hno hwritten
  · rintro a c names param params hprop hothers - hno ⟨done, hdone, hwritten⟩
    obtain ⟨s, hs⟩ := Option.ne_none_iff_exists'.mp (hslot c)
    refine ⟨param.setProp a (printInt (ctx.shown s)) :: done, ?_, ?_⟩
    · rw [List.map_cons, updateChain, if_pos hprop]
      dsimp only
      rw [hs, showField, snprintfInt_ten ctx (hshort c s hs), Except.ok_bind, hdone]
      rfl
    · exact .cons (ParamWritten.take hs hprop hothers) (forall₂_skip hno hwritten)

end Ordered

section Numbers

variable {names : List (Text × γ)} {slot : Nat → γ → Option AbcSlot} {numbers : List Node}

/-- With its fields outside, a chain of the writer fails or goes nowhere. -/
lemma updateChain_outside (ctx : PQCtx AbcSlot) {chain : Cascade AbcSlot} (h : ∀ p ∈ chain, p.2 = none)
    (nodes : List Node) : updateChain ctx chain nodes = .error .outside ∨
      updateChain ctx chain nodes = .ok ([], nodes) := by
  induction chain with
  | nil => exact .inr rfl
  | cons p chain ih =>
    rw [List.forall_mem_cons] at h
    cases nodes with
    | nil => exact .inr rfl
    | cons node next =>
      rw [updateChain]
      split_ifs
      · rw [h.1]
        exact .inl rfl
      · exact ih h.2

lemma updateParams_outside (ctx : PQCtx AbcSlot) {chain : Cascade AbcSlot} (h : ∀ p ∈ chain, p.2 = none)
    {params params' : List Node} (hok : updateParams ctx chain params.length params = .ok params') :
    params = [] := by
  cases params with
  | nil => rfl
  | cons param params =>
    rw [List.length_cons, updateParams] at hok
    rcases updateChain_outside ctx h (param :: params) with herror | hnowhere
    · rw [herror] at hok
      cases hok
    · rw [hnowhere] at hok
      cases hok

/-- The reader and the writer of the elements, with the fields of each. -/
def parseNumbers (names : List (Text × γ)) (slot : Nat → γ → Option AbcSlot) (numbers : List Node) :
    Except XmlFault (List (Store AbcSlot)) :=
  collect (fun j subNode => parseParams (names.map fun p => (p.1, slot j p.2))
    subNode.children.length subNode.children) 0 numbers

def updateNumbers (ctx : PQCtx AbcSlot) (names : List (Text × γ)) (slot : Nat → γ → Option AbcSlot)
    (numbers : List Node) : Except XmlFault (List Node) :=
  updateEach (fun j subNode => do
    return subNode.withChildren (← updateParams ctx (names.map fun p => (p.1, slot j p.2))
      subNode.children.length subNode.children)) 0 numbers

lemma length_knownFields (names : List (Text × γ)) (slot : Nat → γ → Option AbcSlot)
    (numbers : List Node) : (knownFields names slot numbers).length =
      (numbers.map fun number => (knownParams names number.children).length).sum := by
  rw [knownFields, List.length_flatMap]
  simp only [List.length_map]
  rw [show (fun n : Node × Nat => (knownParams names n.1.children).length) =
    (fun number => (knownParams names number.children).length) ∘ Prod.fst from rfl,
    ← List.map_map, List.zipIdx_map_fst]

variable (hslot : ∀ j c, slot j c = none ↔ ¬j < 16)

include hslot

lemma hasAny_of_updateNumbers (ctx : PQCtx AbcSlot) {numbers' : List Node}
    (h : updateNumbers ctx names slot numbers = .ok numbers') {j : Nat} {number : Node}
    (hnumber : numbers[j]? = some number) :
    (∀ param ∈ number.children, HasAny (names.map Prod.fst) param) ∧
      (j < 16 ∨ number.children = []) := by
  have hround := succeeds_updateEach.mp (Except.succeeds_iff.mpr ⟨numbers', h, trivial⟩) j number hnumber
  rw [Nat.zero_add, Except.succeeds_bind] at hround
  obtain ⟨params, hparams, -⟩ := Except.succeeds_iff.mp hround
  by_cases hj : j < 16
  · have hinside : ∀ p ∈ names.map fun p => (p.1, slot j p.2), p.2 ≠ none := by
      rw [List.forall_mem_map]
      exact fun p _ hp => (hslot j p.2).mp hp hj
    have hall := (succeeds_updateParams ctx hinside le_rfl).mp
      (Except.succeeds_iff.mpr ⟨params, hparams, trivial⟩)
    rw [List.map_map] at hall
    exact ⟨hall, .inl hj⟩
  · have houtside : ∀ p ∈ names.map fun p => (p.1, slot j p.2), p.2 = none := by
      rw [List.forall_mem_map]
      exact fun p _ => (hslot j p.2).mpr hj
    have hnil := updateParams_outside ctx houtside hparams
    exact ⟨by rw [hnil]; exact List.forall_mem_nil _, .inr hnil⟩

/-- A reader and a writer that do what they should have ordered lists before them. -/
lemma numbersOrdered_of_right (ctx : PQCtx AbcSlot)
    (hread : ReadsAll names slot numbers (parseNumbers names slot numbers))
    (hwrite : WritesAll ctx names slot numbers (updateNumbers ctx names slot numbers)) :
    NumbersOrdered (names.map Prod.fst) numbers := by
  obtain ⟨found, hfound, hknown⟩ := hread
  obtain ⟨numbers', hnumbers', -⟩ := hwrite
  have hany := fun {j : Nat} {number : Node} (h : numbers[j]? = some number) =>
    hasAny_of_updateNumbers hslot ctx hnumbers' h
  have hlength : found.length =
      (numbers.map fun number => (knownParams names number.children).length).sum := by
    rw [← length_knownFields names slot numbers, ← hknown, List.length_map]
  have hround : ∀ j, ∀ number ∈ numbers, ∀ here,
      parseParams (names.map fun p => (p.1, slot j p.2)) number.children.length number.children =
        .ok here → here.length ≤ (knownParams names number.children).length := by
    intro j number hnumber here hhere
    obtain ⟨k, hk⟩ := List.mem_iff_getElem?.mp hnumber
    have hpos := (eq_one_of_sum_le fun param hparam => one_le_knownOf ((hany hk).1 param hparam)).1
    rw [knownParams, List.length_flatMap]
    exact (length_parseParams hhere).1.trans hpos
  intro j number hnumber
  obtain ⟨here, hhere, htight⟩ := (collect_tight hfound hround).2 hlength.ge j number hnumber
  rw [Nat.zero_add] at hhere
  exact ⟨paramsOrdered_of_length (hany hnumber).1 hhere htight, (hany hnumber).2⟩

variable (hnodup : (names.map Prod.fst).Nodup)

include hnodup

lemma parseParams_ordered {params : List Node} (h : ParamsOrdered (names.map Prod.fst) params) {j : Nat}
    (hj : j < 16 ∨ params = []) :
    ∃ found, parseParams (names.map fun p => (p.1, slot j p.2)) params.length params = .ok found ∧
      found.map (Prod.map some id) = (knownParams names params).map fun q => (slot j q.1, q.2) := by
  cases params with
  | nil => exact ⟨[], rfl, rfl⟩
  | cons param params =>
    have hlt : j < 16 := hj.resolve_right (List.cons_ne_nil param params)
    obtain ⟨found, hfound, hknown⟩ :=
      parseChain_ordered (fun c hc => (hslot j c).mp hc hlt) hnodup h
    refine ⟨found, ?_, hknown⟩
    rw [List.length_cons, parseParams, hfound, Except.ok_bind]
    cases params.length <;> exact congrArg Except.ok (List.append_nil found)

lemma updateParams_ordered (ctx : PQCtx AbcSlot)
    (hshort : ∀ j c s, slot j c = some s → PQFields.width s ≤ 16) {params : List Node}
    (h : ParamsOrdered (names.map Prod.fst) params) {j : Nat} (hj : j < 16 ∨ params = []) :
    ∃ done, updateParams ctx (names.map fun p => (p.1, slot j p.2)) params.length params = .ok done ∧
      List.Forall₂ (ParamWritten ctx names (slot j)) params done := by
  cases params with
  | nil => exact ⟨[], rfl, .nil⟩
  | cons param params =>
    have hlt : j < 16 := hj.resolve_right (List.cons_ne_nil param params)
    obtain ⟨done, hdone, hwritten⟩ :=
      updateChain_ordered ctx (fun c hc => (hslot j c).mp hc hlt) (hshort j) hnodup h
    refine ⟨done, ?_, hwritten⟩
    have hne : ¬done.isEmpty := by
      rw [List.isEmpty_iff_length_eq_zero, ← hwritten.length_eq]
      exact Nat.succ_ne_zero _
    rw [List.length_cons, updateParams, hdone, Except.ok_bind, if_neg hne]
    cases params.length <;> exact congrArg Except.ok (List.append_nil done)

lemma readsAll_of_ordered (h : NumbersOrdered (names.map Prod.fst) numbers) :
    ReadsAll names slot numbers (parseNumbers names slot numbers) := by
  refine collect_map_eq (Prod.map some id)
    (fun j (number : Node) => (knownParams names number.children).map fun q => (slot j q.1, q.2)) ?_
  intro j number hnumber
  rw [Nat.zero_add]
  exact parseParams_ordered hslot hnodup (h j number hnumber).1 (h j number hnumber).2

lemma writesAll_of_ordered (ctx : PQCtx AbcSlot)
    (hshort : ∀ j c s, slot j c = some s → PQFields.width s ≤ 16)
    (h : NumbersOrdered (names.map Prod.fst) numbers) :
    WritesAll ctx names slot numbers (updateNumbers ctx names slot numbers) := by
  have hround : ∀ (j : Nat) (number : Node), numbers[j]? = some number →
      ∃ done, updateParams ctx (names.map fun p => (p.1, slot j p.2)) number.children.length
        number.children = .ok done ∧
        List.Forall₂ (ParamWritten ctx names (slot j)) number.children done :=
    fun j number hnumber =>
      updateParams_ordered hslot hnodup ctx hshort (h j number hnumber).1 (h j number hnumber).2
  have hends : (updateNumbers ctx names slot numbers).Succeeds fun _ => True := by
    rw [updateNumbers, succeeds_updateEach]
    intro j number hnumber
    obtain ⟨done, hdone, -⟩ := hround j number hnumber
    rw [Nat.zero_add, hdone]
    trivial
  obtain ⟨numbers', hnumbers', -⟩ := Except.succeeds_iff.mp hends
  refine ⟨numbers', hnumbers', length_updateEach hnumbers', fun j number hnumber => ?_⟩
  obtain ⟨done, hdone, hwritten⟩ := hround j number hnumber
  refine ⟨done, (getElem?_updateEach hnumbers').mpr ⟨number, hnumber, ?_⟩, hwritten⟩
  rw [Nat.zero_add, hdone]
  rfl

end Numbers

def epfField (fn : EpfFun) (i : Fin 2) (j : Nat) (f : EpfField) : Option AbcSlot :=
  (element 16 j).map (.epf fn i · f)

def slpField (i : Fin 2) (j : Nat) (f : SlpField) : Option AbcSlot :=
  (element 16 j).map (.slp i · f)

/-- The reader and the writer of one table do with all parameters what they should, just if the lists are
ordered. -/
lemma numbers_right_iff (ctx : PQCtx AbcSlot) {names : List (Text × γ)}
    {slot : Nat → γ → Option AbcSlot} (hslot : ∀ j c, slot j c = none ↔ ¬j < 16)
    (hshort : ∀ j c s, slot j c = some s → PQFields.width s ≤ 16)
    (hnodup : (names.map Prod.fst).Nodup) (numbers : List Node) :
    ReadsAll names slot numbers (parseNumbers names slot numbers) ∧
      WritesAll ctx names slot numbers (updateNumbers ctx names slot numbers) ↔
        NumbersOrdered (names.map Prod.fst) numbers := by
  constructor
  · rintro ⟨hread, hwrite⟩
    exact numbersOrdered_of_right hslot ctx hread hwrite
  · intro h
    exact ⟨readsAll_of_ordered hslot hnodup h, writesAll_of_ordered hslot hnodup ctx hshort h⟩

/-- The readers and the writers of the epf and slp params: what they need is that each node has one known
attribute, in the order of the macros. -/
theorem abc_params_iff (ctx : PQCtx AbcSlot) (i : Fin 2) (numbers : List Node) :
    (∀ fn, ReadsAll epfNames (epfField fn i) numbers (parseEpfChildConfig fn i numbers) ∧
        WritesAll ctx epfNames (epfField fn i) numbers (updateEpfChildConfig ctx fn i numbers) ↔
          NumbersOrdered (epfNames.map Prod.fst) numbers) ∧
      (ReadsAll slpNames (slpField i) numbers (parseSlpChildConfig i numbers) ∧
        WritesAll ctx slpNames (slpField i) numbers (updateSlpChildConfig ctx i numbers) ↔
          NumbersOrdered (slpNames.map Prod.fst) numbers) := by
  refine ⟨fun fn => ?_, ?_⟩
  · refine numbers_right_iff ctx (fun _ _ => element_map_eq_none) (fun j f s hs => ?_) (by decide) numbers
    obtain ⟨_, -, rfl⟩ := element_map_eq_some.mp hs
    show (if f = .epsilon0 ∨ f = .epsilon1 then 16 else 8) ≤ 16
    split_ifs <;> decide
  · refine numbers_right_iff ctx (fun _ _ => element_map_eq_none) (fun j f s hs => ?_) (by decide) numbers
    obtain ⟨_, -, rfl⟩ := element_map_eq_some.mp hs
    exact (by decide : 8 ≤ 16)

lemma paramsOrdered_newParams (names : List Text) : ParamsOrdered names (names.map newParam) := by
  refine ⟨names, List.Sublist.refl _, ?_⟩
  rw [List.forall₂_map_left_iff, List.forall₂_same]
  intro a _ b _
  rw [hasProp_iff, newParam, Node.attrs, List.map_singleton, List.mem_singleton]

/-- A fresh element of the epf tables is ordered. -/
theorem abc_params_fresh :
    ReadsAll epfNames (epfField .superResolution 0) [newNumber 0 ((epfNames.map Prod.fst).map newParam)]
        (parseEpfChildConfig .superResolution 0
          [newNumber 0 ((epfNames.map Prod.fst).map newParam)]) ∧
      WritesAll (fun _ => 0) epfNames (epfField .superResolution 0)
        [newNumber 0 ((epfNames.map Prod.fst).map newParam)]
        (updateEpfChildConfig (fun _ => 0) .superResolution 0
          [newNumber 0 ((epfNames.map Prod.fst).map newParam)]) := by
  refine ((abc_params_iff (fun _ => 0) 0 _).1 .superResolution).mpr fun j number hnumber => ?_
  cases j with
  | zero =>
    cases hnumber
    exact ⟨paramsOrdered_newParams _, .inl (by decide)⟩
  | succ j => cases hnumber

/-- The second of two params that are out of order is not read, and at a comment the writer stays. -/
theorem abc_params_passed_over :
    ¬ReadsAll epfNames (epfField .sunlightProtector 0)
        [newNumber 0 [newParam (ofString "gain0"), newParam (ofString "epsilon0")]]
        (parseEpfChildConfig .sunlightProtector 0
          [newNumber 0 [newParam (ofString "gain0"), newParam (ofString "epsilon0")]]) ∧
      ¬WritesAll (fun _ => 0) epfNames (epfField .sunlightProtector 0)
        [newNumber 0 [.mk (ofString "comment") [] []]]
        (updateEpfChildConfig (fun _ => 0) .sunlightProtector 0
          [newNumber 0 [.mk (ofString "comment") [] []]]) := by
  constructor
  · rintro ⟨found, hfound, hknown⟩
    have hone : parseEpfChildConfig .sunlightProtector 0
        [newNumber 0 [newParam (ofString "gain0"), newParam (ofString "epsilon0")]] =
          .ok [(.epf .sunlightProtector 0 0 .gain0, 1)] := rfl
    rw [hone] at hfound
    obtain rfl := Except.ok.inj hfound
    exact absurd (congrArg List.length hknown) (by decide)
  · rintro ⟨numbers', hnumbers', -⟩
    have hends : updateEpfChildConfig (fun _ => 0) .sunlightProtector 0
        [newNumber 0 [.mk (ofString "comment") [] []]] = .error .endless := rfl
    rw [hends] at hnumbers'
    cases hnumbers'

end EngPc
