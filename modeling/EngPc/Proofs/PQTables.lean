import EngPc.Model.PQTables
import EngPc.Proofs.PQXmlWalk

/-!
# Saving and loading the gamma, bld and cms tables

What a document holds for each field, and that the two walks of a parser agree on it: behind
`update_xml` the reader finds the number of each of these fields. A coefficient counts where the
chain of macros comes upon it.
-/

namespace EngPc
open CString ReadWrite XmlTree

/-- The item at place `k` has the attribute. -/
def ItemHas (nodes : List Node) (k : Nat) (a : Text) : Prop :=
  ∃ item, nodes[k]? = some item ∧ item.hasProp a

/-- The first run of "enhance" elements has a version. -/
def VersionHas (nodes : List Node) : Prop :=
  ∃ node ∈ (findNode nodes (ofString "enhance")).takeWhile (·.name = ofString "enhance"),
    node.hasProp (ofString "version")

def GammaHas (root : Node) (s : GammaSlot) : Prop :=
  let item (k : Nat) (a : Text) : Prop :=
    ∃ table ∈ findNode root.children (ofString "reg_table"),
      table.hasProp (ofString "mode") ∧ ItemHas table.children k a
  root.name = ofString "gamma_config" ∧ match s with
    | .version => VersionHas root.children
    | .enable => False
    | .r i => item i (ofString "r")
    | .g i => item i (ofString "g")
    | .b i => item i (ofString "b")

/-- The coefficient is one that the chain comes upon. -/
def CoefHas (nodes : List Node) (c : Coef) : Prop :=
  ∃ a ∈ chainNames (coefNames.map Prod.fst) nodes, (a, c) ∈ coefNames

/-- A table of hues and saturations, and one of coefficients behind it. -/
def HsvHas (table : Node) (j : Nat) (a : Text) : Prop :=
  ∃ hsv, table.children[0]? = some hsv ∧ ItemHas hsv.children j a

def CmHas (table : Node) (c : Coef) : Prop :=
  ∃ cm, table.children[1]? = some cm ∧ CoefHas cm.children c

def BldHas (root : Node) (s : BldSlot) : Prop :=
  let at_ (i : Nat) (P : Node → Prop) : Prop :=
    ∃ table, (tablesOf root.children (ofString "hsv_cm"))[i]? = some table ∧
      (∃ mode ∈ bldModes, table.getProp (ofString "mode") = some mode) ∧ P table
  root.name = ofString "root" ∧ match s with
    | .version => VersionHas root.children
    | .enable | .mode => False
    | .hue i j => at_ i fun table => HsvHas table j (ofString "hue")
    | .sat i j => at_ i fun table => HsvHas table j (ofString "sat")
    | .coef i c => at_ i fun table => CmHas table c

def CmsHas (root : Node) (s : CmsSlot) : Prop :=
  let at_ (i : Fin 3) (P : Node → Prop) : Prop :=
    ∃ table ∈ tablesOf root.children (ofString "hsv_cm"),
      (∃ mode, (mode, i) ∈ cmsModes ∧ table.getProp (ofString "mode") = some mode) ∧ P table
  root.name = ofString "root" ∧ match s with
    | .version => VersionHas root.children
    | .enable | .mode | .cmMode => False
    | .hue i j => at_ i fun table => HsvHas table j (ofString "hue")
    | .sat i j => at_ i fun table => HsvHas table j (ofString "sat")
    | .coef i c => at_ i fun table => CmHas table c
    | .rgb i => ItemHas (tablesOf root.children (ofString "rgb_mapping_table")) i (ofString "rgb")
    | .cmindex i => ItemHas (tablesOf root.children (ofString "rgb_mapping_table")) i (ofString "index")
    | .cm i c => ∃ table, (tablesOf root.children (ofString "cm_cfg"))[i.val]? = some table ∧
        (∃ mode ∈ configModes, table.getProp (ofString "mode") = some mode) ∧
        CoefHas table.children c

section RoundTrips

variable {σ : Type} [PQFields σ]

/-- Whatever is in `ctx` when the document is written and in `ctx'` when it is read: where the
document holds something for a field it has the number of `ctx` then, elsewhere that of `ctx'`. -/
def RoundTrips (parseXml : Node → PQCtx σ → Except XmlFault (Int × PQCtx σ))
    (updateXml : PQCtx σ → Node → Except XmlFault (Int × Node)) (Has : Node → σ → Prop) : Prop :=
  ∀ (root : Node) (ctx₀ ctx ctx' : PQCtx σ), (parseXml root ctx₀).Succeeds (fun _ => True) →
    ∃ ret root' ctx'', updateXml ctx root = .ok (ret, root') ∧ root'.shape = root.shape ∧
      parseXml root' ctx' = .ok (ret, ctx'') ∧
      ∀ s, (Has root s → ctx'' s = ctx s) ∧ (¬Has root s → ctx'' s = ctx' s)

variable [DecidableEq σ] {name : Text} {walk : List Node → Except XmlFault (List (Store σ))}
  {write : PQCtx σ → List Node → Except XmlFault (List Node)} {Has : Node → σ → Prop}

lemma roundTrips_of_agree
    (hagree : ∀ ctx, Agree ctx.number (List.map Node.shape) walk (write ctx))
    (hname : ∀ root s, Has root s → root.name = name)
    (hhas : ∀ root found, root.name = name → walk root.children = .ok found →
      ∀ s, s ∈ found.map Prod.fst ↔ Has root s) :
    RoundTrips (parseRoot name walk) (fun ctx => updateRoot name (write ctx)) Has := by
  intro root ctx₀ ctx ctx' h
  by_cases hroot : root.name = name
  · rw [parseRoot, if_neg (not_not.mpr hroot)] at h
    cases hwalk : walk root.children with
    | error e =>
      rw [hwalk] at h
      exact h.elim
    | ok found =>
      obtain ⟨children, hchildren, hparse, hshape⟩ := hagree ctx root.children found hwalk
      refine ⟨0, root.withChildren children, ctx'.storeAll (relabel ctx.number found), ?_, ?_, ?_, ?_⟩
      · dsimp only [updateRoot]
        rw [if_neg (not_not.mpr hroot), hchildren]
        rfl
      · exact shape_withChildren hshape
      · rw [parseRoot, if_neg (by simpa using hroot), children_withChildren, hparse]
        rfl
      · intro s
        have hmem := hhas root found hroot hwalk s
        rw [storeAll_relabel]
        exact ⟨fun hs => if_pos (hmem.mpr hs), fun hs => if_neg fun hin => hs (hmem.mp hin)⟩
  · refine ⟨-1, root, ctx', if_pos hroot, rfl, if_pos hroot, fun s => ⟨fun hs => ?_, fun _ => rfl⟩⟩
    exact absurd (hname root s hs) hroot

end RoundTrips

lemma gammaCascade_lookup {k : Nat} {a : Text} {slot : Option GammaSlot} :
    (gammaCascade k).lookup a = some slot ↔
      a = ofString "r" ∧ slot = (element 256 k).map .r ∨
      a = ofString "g" ∧ slot = (element 256 k).map .g ∨
      a = ofString "b" ∧ slot = (element 256 k).map .b := by
  have hnodup : ((gammaCascade k).map Prod.fst).Nodup :=
    (by decide : [ofString "r", ofString "g", ofString "b"].Nodup)
  rw [lookup_iff_mem hnodup]
  simp [gammaCascade, Prod.ext_iff]

lemma gammaCascade_some {k : Nat} {a : Text} {s : GammaSlot} :
    (gammaCascade k).lookup a = some (some s) ↔ match s with
      | .r i => k = i.val ∧ a = ofString "r"
      | .g i => k = i.val ∧ a = ofString "g"
      | .b i => k = i.val ∧ a = ofString "b"
      | _ => False := by
  rw [gammaCascade_lookup]
  simp only [eq_comm (a := some s), element_map_eq_some]
  cases s <;> simp [and_comm]

lemma short_gammaCascade (k : Nat) : Short (gammaCascade k) := by
  intro a s h
  rw [gammaCascade_some] at h
  cases s with
  | version => exact h.elim
  | enable => exact h.elim
  | r i => exact le_rfl
  | g i => exact le_rfl
  | b i => exact le_rfl

lemma mem_parseGammaRegsTable {nodes : List Node} {found : List (Store GammaSlot)}
    (h : parseGammaRegsTable nodes = .ok found) {s : GammaSlot} :
    s ∈ found.map Prod.fst ↔ ∃ table ∈ nodes, table.hasProp (ofString "mode") ∧
      ∃ (k : Nat) (item : Node), table.children[k]? = some item ∧
        ∃ a, item.hasProp a ∧ (gammaCascade k).lookup a = some (some s) := by
  refine mem_slots_each (fun _ table here hhere => ?_) h
  split_ifs at hhere with hmode
  · rw [mem_parseItems hhere]
    simp [hmode]
  · cases hhere
    simp [hmode]

lemma mem_parseVersionAt {σ : Type} {slot s : σ} {nodes : List Node} {found : List (Store σ)}
    (h : parseAt (ofString "enhance") (parseVersion slot) nodes = .ok found) :
    s ∈ found.map Prod.fst ↔ s = slot ∧ VersionHas nodes :=
  mem_parseAt (P := fun ptr => s = slot ∧
    ∃ node ∈ ptr.takeWhile (·.name = ofString "enhance"), node.hasProp (ofString "version"))
    (fun _ _ hwalk => mem_parseVersion hwalk) (by simp) h

lemma mem_parseGamma {root : Node} {found : List (Store GammaSlot)}
    (hroot : root.name = ofString "gamma_config") (h : parseGamma root.children = .ok found)
    (s : GammaSlot) : s ∈ found.map Prod.fst ↔ GammaHas root s := by
  simp only [parseGamma, bind_eq_ok, pure, Except.pure, Except.ok.injEq] at h
  obtain ⟨regs, hregs, version, hversion, rfl⟩ := h
  rw [List.map_append, List.mem_append, mem_parseVersionAt hversion,
    mem_parseAt (fun _ _ hwalk => mem_parseGammaRegsTable hwalk) (by simp) hregs]
  simp only [gammaCascade_some, GammaHas, ItemHas, hroot, true_and]
  cases s <;> simp

lemma keeps_updateGammaRegsTable (ctx : PQCtx GammaSlot) :
    Keeps nodeHead (updateGammaRegsTable ctx) := by
  apply keeps_updateEach
  intro k node node' h
  split_ifs at h
  · exact nodeHead_withChildren h
  · cases h
    rfl

lemma seenAs_parseGammaRegsTable : SeenAs nodeBody parseGammaRegsTable := by
  apply seenAs_collect
  intro k node node' h
  simp only [nodeBody, Prod.mk.injEq] at h
  rw [Node.hasProp, Node.hasProp, h.2.1, h.2.2]

lemma agree_parseGamma (ctx : PQCtx GammaSlot) :
    Agree ctx.number (List.map Node.shape) parseGamma (updateGamma ctx) := by
  apply agree_both
  · apply agree_at
    apply agree_each
    intro _
    exact agree_where (agree_parseItems ctx short_gammaCascade) (·.hasProp (ofString "mode"))
      (fun node children => hasProp_withChildren) (fun node => rfl) (fun node => rfl)
  · exact agree_at _ (agree_parseVersion ctx .version)
  · intro nodes nodes' h
    exact ((seenAs_parseVersion _).parseAt name_of_nodeHead _).unchanged
      ((keeps_updateGammaRegsTable ctx).updateAt _) h
  · intro nodes nodes' h
    exact (seenAs_parseGammaRegsTable.parseAt name_of_nodeBody _).unchanged
      ((keeps_updateVersion ctx .version).updateAt _) h

section Hsvcm

variable {σ : Type}

lemma coefChain_names (slot : Coef → Option σ) :
    (coefChain slot).map Prod.fst = coefNames.map Prod.fst := by
  rw [coefChain, List.map_map]
  rfl

lemma coefNames_nodup : (coefNames.map Prod.fst).Nodup := by
  decide

lemma mem_coefChain {slot : Coef → Option σ} {a : Text} {s : Option σ} :
    (a, s) ∈ coefChain slot ↔ ∃ c, (a, c) ∈ coefNames ∧ slot c = s := by
  simp [coefChain]

lemma mem_parseCoefs {slot : Coef → Option σ} {nodes rest : List Node} {found : List (Store σ)}
    (h : parseChain (coefChain slot) nodes = .ok (found, rest)) {s : σ} :
    s ∈ found.map Prod.fst ↔ ∃ c, CoefHas nodes c ∧ slot c = some s := by
  rw [mem_parseChain (coefChain_names slot ▸ coefNames_nodup) h, coefChain_names]
  simp only [mem_coefChain, CoefHas]
  constructor
  · rintro ⟨a, ha, c, hc, hs⟩
    exact ⟨c, ⟨a, ha, hc⟩, hs⟩
  · rintro ⟨c, ⟨a, ha, hc⟩, hs⟩
    exact ⟨a, ha, c, hc, hs⟩

lemma mem_parseHsvcm {hsv : Nat → Cascade σ} {slot : Coef → Option σ} {table : Node}
    {found : List (Store σ)} (h : parseHsvcm hsv (coefChain slot) table.children = .ok found) {s : σ} :
    s ∈ found.map Prod.fst ↔
      (∃ j a, HsvHas table j a ∧ (hsv j).lookup a = some (some s)) ∨
        ∃ c, CmHas table c ∧ slot c = some s := by
  match hchildren : table.children with
  | [] =>
    rw [hchildren] at h
    cases h
  | [subNode] =>
    rw [hchildren] at h
    simp only [parseHsvcm, bind_eq_ok, reduceCtorEq, and_false, exists_false] at h
  | subNode :: nextNode :: rest =>
    rw [hchildren] at h
    simp only [parseHsvcm, bind_eq_ok, pure, Except.pure, Except.ok.injEq] at h
    obtain ⟨items, hitems, ⟨coefs, left⟩, hcoefs, rfl⟩ := h
    rw [List.map_append, List.mem_append, mem_parseItems hitems, mem_parseCoefs hcoefs]
    simp only [HsvHas, CmHas, ItemHas, hchildren, List.getElem?_cons_zero, List.getElem?_cons_succ,
      Option.some.injEq, exists_eq_left']
    refine or_congr ?_ Iff.rfl
    constructor
    · rintro ⟨k, item, hitem, a, ha, hs⟩
      exact ⟨k, a, ⟨item, hitem, ha⟩, hs⟩
    · rintro ⟨k, a, ⟨item, hitem, ha⟩, hs⟩
      exact ⟨k, item, hitem, a, ha, hs⟩

variable [PQFields σ]

lemma agree_parseHsvcm (ctx : PQCtx σ) {hsv : Nat → Cascade σ} {cm : Cascade σ}
    (hhsv : ∀ j, Short (hsv j)) (hcm : ShortChain cm) :
    Agree ctx.number (List.map Node.shape) (parseHsvcm hsv cm) (updateHsvcm ctx hsv cm) := by
  intro nodes found hfound
  match nodes with
  | [] => cases hfound
  | [subNode] =>
    simp only [parseHsvcm, bind_eq_ok, reduceCtorEq, and_false, exists_false] at hfound
  | subNode :: nextNode :: rest =>
    simp only [parseHsvcm, bind_eq_ok, pure, Except.pure, Except.ok.injEq] at hfound
    obtain ⟨items, hitems, ⟨coefs, left⟩, hcoefs, rfl⟩ := hfound
    obtain ⟨items', hitems', hparse, hshape⟩ := agree_parseItems ctx hhsv _ items hitems
    obtain ⟨done, hdone, hparse', hshape'⟩ := updateChain_ok ctx hcm hcoefs
    refine ⟨subNode.withChildren items' :: nextNode.withChildren (done ++ left) :: rest, ?_, ?_, ?_⟩
    · rw [updateHsvcm, hitems', Except.ok_bind]
      dsimp only
      rw [hdone]
      rfl
    · rw [parseHsvcm, children_withChildren, hparse, Except.ok_bind]
      dsimp only
      rw [children_withChildren, hparse', relabel_append]
      rfl
    · simp only [List.map_cons, shape_withChildren hshape, shape_withChildren hshape']

end Hsvcm

lemma bldHsv_some {i j : Nat} {a : Text} {s : BldSlot} :
    (bldHsv i j).lookup a = some (some s) ↔ match s with
      | .hue i' j' => i = i'.val ∧ j = j'.val ∧ a = ofString "hue"
      | .sat i' j' => i = i'.val ∧ j = j'.val ∧ a = ofString "sat"
      | _ => False := by
  rw [bldHsv, lookup_pair (by decide), element_pair_eq_some, element_pair_eq_some]
  cases s <;> simp [and_comm, and_assoc]

lemma short_bldHsv (i j : Nat) : Short (bldHsv i j) := by
  intro a s h
  rw [bldHsv_some] at h
  cases s with
  | hue i j => exact le_rfl
  | sat i j => exact le_rfl
  | _ => exact h.elim

lemma bldCm_some {i : Nat} {c : Coef} {s : BldSlot} :
    (element 3 i).map (BldSlot.coef · c) = some s ↔ ∃ i', i = i'.val ∧ s = .coef i' c := by
  rw [element_map_eq_some]
  simp only [eq_comm (a := s)]

lemma short_bldCm (i : Nat) : ShortChain (bldCm i) := by
  intro a s h
  obtain ⟨c, -, hs⟩ := mem_coefChain.mp h
  obtain ⟨i', -, rfl⟩ := bldCm_some.mp hs
  exact le_rfl

/-- The tables have something for a field, in the parser's terms. -/
def BldStores (tables : List Node) (s : BldSlot) : Prop :=
  ∃ (i : Nat) (table : Node), tables[i]? = some table ∧
    (∃ mode ∈ bldModes, table.getProp (ofString "mode") = some mode) ∧
    ((∃ j a, HsvHas table j a ∧ (bldHsv i j).lookup a = some (some s)) ∨
      ∃ c, CmHas table c ∧ (element 3 i).map (BldSlot.coef · c) = some s)

lemma mem_modeTables {σ : Type} {modes : List Text}
    {read : Nat → Node → Except XmlFault (List (Store σ))} {Has : Nat → Node → Prop} {s : σ}
    (hread : ∀ i table here, read i table = .ok here → (s ∈ here.map Prod.fst ↔ Has i table))
    {tables : List Node} {found : List (Store σ)}
    (h : collect (fun i table =>
      match table.getProp (ofString "mode") with
      | none => .ok []
      | some mode => if mode ∈ modes then read i table else .ok []) 0 tables = .ok found) :
    s ∈ found.map Prod.fst ↔ ∃ (i : Nat) (table : Node), tables[i]? = some table ∧
      (∃ mode ∈ modes, table.getProp (ofString "mode") = some mode) ∧ Has i table := by
  rw [mem_slots_collect (P := fun i table =>
      (∃ mode ∈ modes, table.getProp (ofString "mode") = some mode) ∧ Has i table) _ h]
  · simp only [Nat.zero_add]
  · intro i table here hhere
    cases hmode : table.getProp (ofString "mode") with
    | none =>
      rw [hmode] at hhere
      cases hhere
      simp
    | some mode =>
      simp only [hmode] at hhere
      split_ifs at hhere with hmem
      · rw [hread i table here hhere]
        simp [hmem]
      · cases hhere
        simp [hmem]

lemma mem_parseBldHsvcm {node : Node} {found : List (Store BldSlot)}
    (h : parseBldHsvcm node = .ok found) {s : BldSlot} :
    s ∈ found.map Prod.fst ↔ BldStores node.children s :=
  mem_modeTables (fun _ _ _ hhere => mem_parseHsvcm hhere) h

lemma mem_parseBld {root : Node} {found : List (Store BldSlot)}
    (hroot : root.name = ofString "root") (h : parseBld root.children = .ok found) (s : BldSlot) :
    s ∈ found.map Prod.fst ↔ BldHas root s := by
  simp only [parseBld, bind_eq_ok, pure, Except.pure, Except.ok.injEq] at h
  obtain ⟨hsvcm, hhsvcm, version, hversion, rfl⟩ := h
  rw [List.map_append, List.mem_append, mem_parseVersionAt hversion,
    mem_parseAt_onNode (P := (BldStores · s)) (fun _ _ hwalk => mem_parseBldHsvcm hwalk)
      (by simp [BldStores]) hhsvcm]
  simp only [BldStores, bldHsv_some, bldCm_some, BldHas, hroot, true_and]
  cases s <;> simp

/-- A table's element of its own is read through its children alone. -/
lemma seenAs_children {σ : Type} {walk : List Node → Except XmlFault (List (Store σ))} :
    SeenAs nodeBody (onNode fun node => walk node.children) := by
  apply seenAs_onNode
  intro node node' h
  simp only [nodeBody, Prod.mk.injEq] at h
  rw [h.2.2]

lemma keeps_children {write : List Node → Except XmlFault (List Node)} :
    Keeps nodeHead (updateNode fun node => do return node.withChildren (← write node.children)) :=
  keeps_updateNode fun _ _ h => nodeHead_withChildren h

lemma agree_parseBld (ctx : PQCtx BldSlot) :
    Agree ctx.number (List.map Node.shape) parseBld (updateBld ctx) := by
  apply agree_both_swap
  · apply agree_at
    apply agree_onNode
    apply agree_children
    apply agree_each
    exact fun i => agree_modes (agree_parseHsvcm ctx (short_bldHsv i) (short_bldCm i)) bldModes
  · exact agree_at _ (agree_parseVersion ctx .version)
  · intro nodes nodes' h
    exact ((seenAs_parseVersion _).parseAt name_of_nodeHead _).unchanged (keeps_children.updateAt _) h
  · intro nodes nodes' h
    exact (seenAs_children.parseAt name_of_nodeBody _).unchanged
      ((keeps_updateVersion ctx .version).updateAt _) h

lemma cmsHsv_some {i : Fin 3} {j : Nat} {a : Text} {s : CmsSlot} :
    (cmsHsv i j).lookup a = some (some s) ↔ match s with
      | .hue i' j' => i = i' ∧ j = j'.val ∧ a = ofString "hue"
      | .sat i' j' => i = i' ∧ j = j'.val ∧ a = ofString "sat"
      | _ => False := by
  rw [cmsHsv, lookup_pair (by decide), element_map_eq_some, element_map_eq_some]
  cases s <;> simp [and_comm, and_left_comm, and_assoc]

lemma short_cmsHsv (i : Fin 3) (j : Nat) : Short (cmsHsv i j) := by
  intro a s h
  rw [cmsHsv_some] at h
  cases s with
  | hue i j => exact le_rfl
  | sat i j => exact le_rfl
  | _ => exact h.elim

lemma short_cmsCm (i : Fin 3) : ShortChain (cmsCm i) := by
  intro a s h
  obtain ⟨c, -, hs⟩ := mem_coefChain.mp h
  cases hs
  exact le_rfl

lemma rgbCascade_some {i : Nat} {a : Text} {s : CmsSlot} :
    (rgbCascade i).lookup a = some (some s) ↔ match s with
      | .rgb i' => i = i'.val ∧ a = ofString "rgb"
      | .cmindex i' => i = i'.val ∧ a = ofString "index"
      | _ => False := by
  rw [rgbCascade, lookup_pair (by decide), element_map_eq_some, element_map_eq_some]
  cases s <;> simp [and_comm]

lemma short_rgbCascade (i : Nat) : Short (rgbCascade i) := by
  intro a s h
  rw [rgbCascade_some] at h
  cases s with
  | rgb i => exact (by decide : 8 ≤ 16)
  | cmindex i => exact (by decide : 8 ≤ 16)
  | _ => exact h.elim

lemma config_some {i : Nat} {c : Coef} {s : CmsSlot} :
    (element 12 i).map (CmsSlot.cm · c) = some s ↔ ∃ i', i = i'.val ∧ s = .cm i' c := by
  rw [element_map_eq_some]
  simp only [eq_comm (a := s)]

lemma short_configChain (i : Nat) : ShortChain (configChain i) := by
  intro a s h
  obtain ⟨c, -, hs⟩ := mem_coefChain.mp h
  obtain ⟨i', -, rfl⟩ := config_some.mp hs
  exact le_rfl

/-- The tables of "hsv_cm" have something for a field, in the parser's terms. -/
def CmsStores (tables : List Node) (s : CmsSlot) : Prop :=
  ∃ table ∈ tables, ∃ i : Fin 3,
    (∃ mode, (mode, i) ∈ cmsModes ∧ table.getProp (ofString "mode") = some mode) ∧
    ((∃ j a, HsvHas table j a ∧ (cmsHsv i j).lookup a = some (some s)) ∨
      ∃ c, CmHas table c ∧ some (CmsSlot.coef i c) = some s)

lemma cmsModes_lookup {o : Option Text} {i : Fin 3} :
    o.bind (cmsModes.lookup ·) = some i ↔ ∃ mode, (mode, i) ∈ cmsModes ∧ o = some mode := by
  have hnodup : (cmsModes.map Prod.fst).Nodup := by decide
  simp only [Option.bind_eq_some_iff, lookup_iff_mem hnodup]
  constructor
  · rintro ⟨mode, ho, hmem⟩
    exact ⟨mode, hmem, ho⟩
  · rintro ⟨mode, hmem, ho⟩
    exact ⟨mode, ho, hmem⟩

lemma mem_parseCmsHsvcm {node : Node} {found : List (Store CmsSlot)}
    (h : parseCmsHsvcm node = .ok found) {s : CmsSlot} :
    s ∈ found.map Prod.fst ↔ CmsStores node.children s := by
  refine mem_slots_each (fun _ table here hhere => ?_) h
  simp only [← cmsModes_lookup]
  cases hmode : (table.getProp (ofString "mode")).bind (cmsModes.lookup ·) with
  | none =>
    simp only [hmode] at hhere
    cases hhere
    simp
  | some i =>
    simp only [hmode] at hhere
    rw [mem_parseHsvcm hhere]
    simp

/-- The tables of "cm_cfg". -/
def ConfigStores (tables : List Node) (s : CmsSlot) : Prop :=
  ∃ (i : Nat) (table : Node), tables[i]? = some table ∧
    (∃ mode ∈ configModes, table.getProp (ofString "mode") = some mode) ∧
    ∃ c, CoefHas table.children c ∧ (element 12 i).map (CmsSlot.cm · c) = some s

lemma mem_parseCmsConfigTable {node : Node} {found : List (Store CmsSlot)}
    (h : parseCmsConfigTable node = .ok found) {s : CmsSlot} :
    s ∈ found.map Prod.fst ↔ ConfigStores node.children s := by
  refine mem_modeTables (fun i table here hhere => ?_) h
  simp only [bind_eq_ok, pure, Except.pure, Except.ok.injEq] at hhere
  obtain ⟨⟨coefs, left⟩, hcoefs, rfl⟩ := hhere
  exact mem_parseCoefs hcoefs

lemma mem_parseCms {root : Node} {found : List (Store CmsSlot)}
    (hroot : root.name = ofString "root") (h : parseCms root.children = .ok found) (s : CmsSlot) :
    s ∈ found.map Prod.fst ↔ CmsHas root s := by
  simp only [parseCms, bind_eq_ok, pure, Except.pure, Except.ok.injEq] at h
  obtain ⟨hsvcm, hhsvcm, rgb, hrgb, config, hconfig, version, hversion, rfl⟩ := h
  simp only [List.map_append, List.mem_append]
  rw [mem_parseVersionAt hversion,
    mem_parseAt_onNode (P := (CmsStores · s)) (fun _ _ hwalk => mem_parseCmsHsvcm hwalk)
      (by simp [CmsStores]) hhsvcm,
    mem_parseAt_onNode (P := fun items => ∃ (k : Nat) (item : Node), items[k]? = some item ∧
        ∃ a, item.hasProp a ∧ (rgbCascade k).lookup a = some (some s))
      (fun _ _ hwalk => mem_parseItems hwalk) (by simp) hrgb,
    mem_parseAt_onNode (P := (ConfigStores · s)) (fun _ _ hwalk => mem_parseCmsConfigTable hwalk)
      (by simp [ConfigStores]) hconfig]
  simp only [CmsStores, ConfigStores, cmsHsv_some, rgbCascade_some, config_some, CmsHas, ItemHas,
    hroot, true_and]
  cases s <;> simp

section Sections

variable (ctx : PQCtx CmsSlot)

lemma agree_cmsHsvcm : Agree ctx.number (List.map Node.shape)
    (parseAt (ofString "hsv_cm") (onNode parseCmsHsvcm))
    (updateAt (ofString "hsv_cm") (updateNode (updateCmsHsvcm ctx))) := by
  apply agree_at
  apply agree_onNode
  apply agree_children
  apply agree_each
  intro _
  apply agree_table (fun node => (node.getProp (ofString "mode")).bind (cmsModes.lookup ·))
    (fun node children => by rw [getProp_withChildren])
    (fun i => agree_parseHsvcm ctx (short_cmsHsv i) (short_cmsCm i))
  · intro node hnode
    simp only [hnode, and_self]
  · intro node i hnode
    simp only [hnode, and_self]

lemma agree_cmsRgbmap : Agree ctx.number (List.map Node.shape)
    (parseAt (ofString "rgb_mapping_table") (onNode parseCmsRgbmapTable))
    (updateAt (ofString "rgb_mapping_table") (updateNode (updateCmsRgbmapTable ctx))) := by
  apply agree_at
  apply agree_onNode
  exact agree_children (agree_parseItems ctx short_rgbCascade)

lemma agree_cmsConfig : Agree ctx.number (List.map Node.shape)
    (parseAt (ofString "cm_cfg") (onNode parseCmsConfigTable))
    (updateAt (ofString "cm_cfg") (updateNode (updateCmsConfigTable ctx))) := by
  apply agree_at
  apply agree_onNode
  apply agree_children
  apply agree_each
  intro i
  apply agree_where (agree_parseChain ctx (short_configChain i))
    (fun node => (node.getProp (ofString "mode")).any (· ∈ configModes))
  · intro node children
    rw [getProp_withChildren]
  · intro node
    cases node.getProp (ofString "mode") <;> simp
  · intro node
    cases node.getProp (ofString "mode") <;> simp

/-- What the other sections write is not seen by the version function. -/
lemma parseCmsVersion_unchanged {name : Text} {write : List Node → Except XmlFault (List Node)}
    {nodes nodes' : List Node} (h : updateAt name
      (updateNode fun node => do return node.withChildren (← write node.children)) nodes = .ok nodes') :
    parseAt (ofString "enhance") parseCmsVersion nodes' =
      parseAt (ofString "enhance") parseCmsVersion nodes :=
  ((seenAs_parseVersion _).parseAt name_of_nodeHead _).unchanged (keeps_children.updateAt _) h

lemma parseSection_version {name : Text} {walk : List Node → Except XmlFault (List (Store CmsSlot))}
    {nodes nodes' : List Node}
    (h : updateAt (ofString "enhance") (updateCmsVersion ctx) nodes = .ok nodes') :
    parseAt name (onNode fun node => walk node.children) nodes' =
      parseAt name (onNode fun node => walk node.children) nodes :=
  (seenAs_children.parseAt name_of_nodeBody _).unchanged
    ((keeps_updateVersion ctx .version).updateAt _) h

lemma parseSection_ne {name name' : Text} (hne : name' ≠ name)
    {walk : List Node → Except XmlFault (List (Store CmsSlot))}
    {write : List Node → Except XmlFault (List Node)} {nodes nodes' : List Node} (h : updateAt name'
      (updateNode fun node => do return node.withChildren (← write node.children)) nodes = .ok nodes') :
    parseAt name (onNode fun node => walk node.children) nodes' =
      parseAt name (onNode fun node => walk node.children) nodes :=
  parseAt_updateAt_ne hne _
    (fun _ _ hnode => name_of_nodeHead _ _ (nodeHead_withChildren hnode)) h

lemma agree_parseCms : Agree ctx.number (List.map Node.shape) parseCms (updateCms ctx) := by
  have hversion : Agree ctx.number (List.map Node.shape)
      (parseAt (ofString "enhance") parseCmsVersion)
      (updateAt (ofString "enhance") (updateCmsVersion ctx)) :=
    agree_at _ (agree_parseVersion ctx .version)
  have hconfig := agree_both (agree_cmsConfig ctx) hversion
    (fun nodes nodes' h => parseCmsVersion_unchanged h)
    (fun nodes nodes' h => parseSection_version ctx h)
  have hrgb := agree_both (agree_cmsRgbmap ctx) hconfig
    (fun nodes nodes' h => by
      have h₁ := parseCmsVersion_unchanged h
      have h₂ : parseAt (ofString "cm_cfg") (onNode parseCmsConfigTable) nodes' =
          parseAt (ofString "cm_cfg") (onNode parseCmsConfigTable) nodes :=
        parseSection_ne (by decide) h
      rw [h₁, h₂])
    (fun nodes nodes' h => by
      obtain ⟨nodes₁, hconfig, hversion⟩ := bind_eq_ok.mp h
      exact (parseSection_version ctx hversion).trans (parseSection_ne (by decide) hconfig))
  have hhsvcm := agree_both (agree_cmsHsvcm ctx) hrgb
    (fun nodes nodes' h => by
      have h₁ := parseCmsVersion_unchanged h
      have h₂ : parseAt (ofString "cm_cfg") (onNode parseCmsConfigTable) nodes' =
          parseAt (ofString "cm_cfg") (onNode parseCmsConfigTable) nodes :=
        parseSection_ne (by decide) h
      have h₃ : parseAt (ofString "rgb_mapping_table") (onNode parseCmsRgbmapTable) nodes' =
          parseAt (ofString "rgb_mapping_table") (onNode parseCmsRgbmapTable) nodes :=
        parseSection_ne (by decide) h
      rw [h₁, h₂, h₃])
    (fun nodes nodes' h => by
      obtain ⟨nodes₁, hrgb, h⟩ := bind_eq_ok.mp h
      obtain ⟨nodes₂, hconfig, hversion⟩ := bind_eq_ok.mp h
      exact (parseSection_version ctx hversion).trans
        ((parseSection_ne (by decide) hconfig).trans (parseSection_ne (by decide) hrgb)))
  intro nodes
  have hnodes := hhsvcm nodes
  simp only [bind_assoc, pure_bind] at hnodes
  exact hnodes

end Sections

/-- **Saving and loading a PQ table**: behind `update_xml`, `parse_xml` gives each field that the
document holds something for its number back, and leaves the others. -/
theorem pq_tables_round_trip :
    RoundTrips GammaParser.parseXml GammaParser.updateXml GammaHas ∧
      RoundTrips BldParser.parseXml BldParser.updateXml BldHas ∧
      RoundTrips CmsParser.parseXml CmsParser.updateXml CmsHas := by
  refine ⟨?_, ?_, ?_⟩
  · exact roundTrips_of_agree agree_parseGamma (fun _ _ hs => hs.1)
      (fun _ _ hroot hwalk => mem_parseGamma hroot hwalk)
  · exact roundTrips_of_agree agree_parseBld (fun _ _ hs => hs.1)
      (fun _ _ hroot hwalk => mem_parseBld hroot hwalk)
  · exact roundTrips_of_agree agree_parseCms (fun _ _ hs => hs.1)
      (fun _ _ hroot hwalk => mem_parseCms hroot hwalk)

/-- A gamma table with one item of each kind, behind it the version. -/
theorem pq_tables_round_trip_gamma :
    let root : Node := .mk (ofString "gamma_config") []
      [.mk (ofString "reg_table") [(ofString "mode", ofString "0")]
        [.mk (ofString "item") [(ofString "r", ofString "5"), (ofString "b", ofString "7")] []],
        .mk (ofString "enhance") [(ofString "version", ofString "1")] [], .mk (ofString "text") [] []]
    ∃ ret root' ctx'', GammaParser.updateXml (fun _ => 1) root = .ok (ret, root') ∧
      root'.shape = root.shape ∧ GammaParser.parseXml root' (fun _ => 0) = .ok (ret, ctx'') ∧
      ∀ s, (GammaHas root s → ctx'' s = 1) ∧ (¬GammaHas root s → ctx'' s = 0) :=
  pq_tables_round_trip.1 _ (fun _ => 0) (fun _ => 1) (fun _ => 0) (by decide +kernel)

/-- The element of "coef00" comes behind that of "coef01", where the chain has gone past its name:
neither walk comes upon it. -/
theorem coef_out_of_order_is_lost :
    let root : Node := .mk (ofString "root") [] [.mk (ofString "cm_cfg") []
      [.mk (ofString "table") [(ofString "mode", ofString "cold")]
        [.mk (ofString "param") [(ofString "coef01", ofString "3")] [],
          .mk (ofString "param") [(ofString "coef00", ofString "4")] []]]]
    (do
      let saved ← CmsParser.updateXml (fun _ => 1) root
      let loaded ← CmsParser.parseXml saved.2 fun _ => 0
      return (loaded.2 (.cm 0 .coef01), loaded.2 (.cm 0 .coef00))).Succeeds (· = (1, 0)) := by
  decide +kernel

end EngPc
