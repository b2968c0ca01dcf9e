import EngPc.Model.AbcXml
import EngPc.Proofs.PQTables

/-!
# Which documents the PQ parsers get through

The counters of the parsers are not compared with the arrays, and some of their pointers not with
NULL: what a document has to be like for each of the four `parse_xml` to stay inside the parameters
and the tree.
-/

namespace EngPc
open CString ReadWrite XmlTree

def HasAny (names : List Text) (node : Node) : Prop := ∃ a ∈ names, node.hasProp a

/-- The first run of "enhance" elements, if there is one, has a sibling behind it. -/
def VersionFits (nodes : List Node) : Prop :=
  findNode nodes (ofString "enhance") = [] ∨ RunEnds (findNode nodes (ofString "enhance"))

/-- The items with one of the names are at places of an array. -/
def ItemsFit (names : List Text) (size : Nat) (items : List Node) : Prop :=
  ∀ (k : Nat) (item : Node), items[k]? = some item → HasAny names item → k < size

/-- A chain of macros over the nodes comes upon nothing at once. -/
def FirstHas (names : List Text) (nodes : List Node) : Prop := ∃ node ∈ nodes.head?, HasAny names node

def coefTexts : List Text := coefNames.map Prod.fst

def GammaTablesFit (tables : List Node) : Prop :=
  ∀ table ∈ tables, table.hasProp (ofString "mode") →
    ItemsFit [ofString "r", ofString "g", ofString "b"] 256 table.children

structure GammaFits (nodes : List Node) : Prop where
  tables : GammaTablesFit (findNode nodes (ofString "reg_table"))
  version : VersionFits nodes

/-- A table that `parse_hsvcm` reads: two children at least, and when one of their fields is stored,
the place of the table and those of its items are inside. -/
structure HsvcmFits (inside : Prop) (nodes : List Node) : Prop where
  hsv : ∃ subNode ∈ nodes[0]?, ∀ (k : Nat) (item : Node), subNode.children[k]? = some item →
    HasAny [ofString "hue", ofString "sat"] item → inside ∧ k < 360
  cm : ∃ nextNode ∈ nodes[1]?, FirstHas coefTexts nextNode.children → inside

def BldTablesFit (tables : List Node) : Prop :=
  ∀ (i : Nat) (table : Node), tables[i]? = some table →
    (∃ mode ∈ bldModes, table.getProp (ofString "mode") = some mode) →
      HsvcmFits (i < 3) table.children

structure BldFits (nodes : List Node) : Prop where
  tables : BldTablesFit (tablesOf nodes (ofString "hsv_cm"))
  version : VersionFits nodes

def CmsTablesFit (tables : List Node) : Prop :=
  ∀ table ∈ tables,
    (∃ i mode, (mode, i) ∈ cmsModes ∧ table.getProp (ofString "mode") = some mode) →
      HsvcmFits True table.children

def ConfigTablesFit (tables : List Node) : Prop :=
  ∀ (i : Nat) (table : Node), tables[i]? = some table →
    (∃ mode ∈ configModes, table.getProp (ofString "mode") = some mode) →
      FirstHas coefTexts table.children → i < 12

structure CmsFits (nodes : List Node) : Prop where
  tables : CmsTablesFit (tablesOf nodes (ofString "hsv_cm"))
  rgb : ItemsFit [ofString "rgb", ofString "index"] 10 (tablesOf nodes (ofString "rgb_mapping_table"))
  config : ConfigTablesFit (tablesOf nodes (ofString "cm_cfg"))
  version : VersionFits nodes

/-- The entries that have one of the names in their params are at places of the array of 16. -/
def EntriesFit (names : List Text) (numbers : List Node) : Prop :=
  ∀ (j : Nat) (number : Node), numbers[j]? = some number →
    (∃ param ∈ number.children, HasAny names param) → j < 16

/-- The tables of a scene are the elements with mode "normal" or "low power". -/
def ScenesFit (Fits : List Node → Prop) (tables : List Node) : Prop :=
  ∀ table ∈ tables, sceneMode table ≠ none → Fits table.children

def MappingFits (numbers : List Node) : Prop :=
  numbers.length ≤ 16 ∧ ∀ number ∈ numbers,
    ItemsFit [ofString "ambient", ofString "brightness"] 128 number.children

def BlTablesFit (tables : List Node) : Prop :=
  ∀ (i : Nat) (table : Node), tables[i]? = some table → table.hasProp (ofString "mode") →
    i < 2 ∧ ItemsFit [ofString "ambient", ofString "brightness"] 128 table.children

structure AbcFits (nodes : List Node) : Prop where
  epf : ∀ name ∈ [ofString "sunlight_protector", ofString "super_resolution"],
    ScenesFit (EntriesFit (epfNames.map Prod.fst))
      (tablesOf (tablesOf nodes (ofString "epf_config")) name)
  slp : ScenesFit (EntriesFit (slpNames.map Prod.fst)) (tablesOf nodes (ofString "slp_config"))
  slpMapping : ScenesFit MappingFits (tablesOf nodes (ofString "slp_mapping_table"))
  blMapping : BlTablesFit (tablesOf nodes (ofString "bl_mapping_table"))
  version : VersionFits nodes

section Walks

variable {σ γ : Type}

lemma succeeds_versionAt {slot : σ} {nodes : List Node} :
    (parseAt (ofString "enhance") (parseVersion slot) nodes).Succeeds (fun _ => True) ↔
      VersionFits nodes := by
  apply succeeds_parseAt (P := fun ptr => ptr = [] ∨ RunEnds ptr)
  · intro ptr hptr
    simp [succeeds_parseVersion, hptr]
  · exact Or.inl rfl

lemma versionFits_congr {nodes nodes' : List Node} (h : nodes'.map Node.name = nodes.map Node.name) :
    VersionFits nodes' ↔ VersionFits nodes := by
  have hfind := map_findNode (π := Node.name) (fun _ _ => id) (ofString "enhance") h
  have hends : ∀ nodes : List Node,
      RunEnds nodes ↔ ∃ name ∈ nodes.map Node.name, name ≠ ofString "enhance" := by
    simp [RunEnds]
  rw [VersionFits, VersionFits, hends, hends, hfind, ← List.map_eq_nil_iff (f := Node.name), hfind,
    List.map_eq_nil_iff]

lemma succeeds_items {cascade : Nat → Cascade σ} {names : List Text} {inside : Nat → Prop}
    (hcascade : ∀ k a, (cascade k).lookup a = some none ↔ a ∈ names ∧ ¬inside k) {nodes : List Node} :
    (parseItems cascade nodes).Succeeds (fun _ => True) ↔
      ∀ (k : Nat) (item : Node), nodes[k]? = some item → HasAny names item → inside k := by
  rw [succeeds_parseItems]
  simp only [Ne, hcascade]
  constructor
  · rintro h k item hitem ⟨a, ha, hprop⟩
    by_contra hk
    exact h k item hitem a hprop ⟨ha, hk⟩
  · rintro h k item hitem a hprop ⟨ha, hk⟩
    exact hk (h k item hitem ⟨a, ha, hprop⟩)

lemma hasAny_map {names : List (Text × γ)} {node : Node} :
    HasAny (names.map Prod.fst) node ↔ ∃ p ∈ names, node.hasProp p.1 := by
  simp only [HasAny, List.mem_map]
  constructor
  · rintro ⟨a, ⟨p, hp, rfl⟩, hprop⟩
    exact ⟨p, hp, hprop⟩
  · rintro ⟨p, hp, hprop⟩
    exact ⟨p.1, ⟨p, hp, rfl⟩, hprop⟩

/-- A chain over the fields of one structure, which are inside together or outside together. -/
lemma succeeds_fields {names : List (Text × γ)} {slot : γ → Option σ} {inside : Prop}
    (hslot : ∀ c, slot c = none ↔ ¬inside) {nodes : List Node} :
    (parseChain (names.map fun p => (p.1, slot p.2)) nodes).Succeeds (fun _ => True) ↔
      (FirstHas (names.map Prod.fst) nodes → inside) := by
  by_cases hinside : inside
  · have hall : ∀ p ∈ names.map fun p => (p.1, slot p.2), p.2 ≠ none := by
      rw [List.forall_mem_map]
      exact fun p _ hp => (hslot p.2).mp hp hinside
    exact iff_of_true (succeeds_parseChain hall) fun _ => hinside
  · have hall : ∀ p ∈ names.map fun p => (p.1, slot p.2), p.2 = none := by
      rw [List.forall_mem_map]
      exact fun p _ => (hslot p.2).mpr hinside
    rw [parseChain_outside hall]
    simp only [List.forall_mem_map, FirstHas, hasAny_map, hinside, imp_false]
    constructor
    · rintro h ⟨node, hnode, p, hp, hprop⟩
      exact h node hnode p hp hprop
    · intro h node hnode p hp hprop
      exact h ⟨node, hnode, p, hp, hprop⟩

lemma succeeds_parseHsvcm {hsv : Nat → Cascade σ} {slot : Coef → Option σ} {inside : Prop}
    (hhsv : ∀ k a, (hsv k).lookup a = some none ↔
      a ∈ [ofString "hue", ofString "sat"] ∧ ¬(inside ∧ k < 360))
    (hslot : ∀ c, slot c = none ↔ ¬inside) {nodes : List Node} :
    (parseHsvcm hsv (coefChain slot) nodes).Succeeds (fun _ => True) ↔ HsvcmFits inside nodes := by
  match nodes with
  | [] =>
    refine iff_of_false id fun h => ?_
    obtain ⟨subNode, hsubNode, -⟩ := h.hsv
    cases hsubNode
  | [subNode] =>
    rw [parseHsvcm, Except.succeeds_bind]
    refine iff_of_false (fun h => (Except.succeeds_const.mp h).2) fun h => ?_
    obtain ⟨nextNode, hnextNode, -⟩ := h.cm
    cases hnextNode
  | subNode :: nextNode :: rest =>
    rw [parseHsvcm, Except.succeeds_bind]
    simp only [Except.succeeds_bind, pure, Except.pure, Except.succeeds_ok]
    rw [Except.succeeds_const, succeeds_items hhsv, coefChain, succeeds_fields hslot]
    constructor
    · exact fun h => ⟨⟨subNode, rfl, h.1⟩, ⟨nextNode, rfl, h.2⟩⟩
    · rintro ⟨⟨subNode, hsubNode, hhsv⟩, ⟨nextNode, hnextNode, hcm⟩⟩
      cases hsubNode
      cases hnextNode
      exact ⟨hhsv, hcm⟩

lemma succeeds_parseParams_inside {chain : Cascade AbcSlot} (hinside : ∀ p ∈ chain, p.2 ≠ none)
    (fuel : Nat) (nodes : List Node) : (parseParams chain fuel nodes).Succeeds fun _ => True := by
  induction fuel generalizing nodes with
  | zero => trivial
  | succ fuel ih =>
    cases nodes with
    | nil => trivial
    | cons node next =>
      obtain ⟨r, hr, -⟩ := Except.succeeds_iff.mp (@succeeds_parseChain _ chain (node :: next) hinside)
      rw [parseParams, hr, Except.ok_bind, Except.succeeds_bind]
      exact ih r.2.tail

/-- The params of an entry: each of them is at the head of the chain in some round. -/
lemma succeeds_parseParams {names : List (Text × γ)} {slot : γ → Option AbcSlot} {inside : Prop}
    (hslot : ∀ c, slot c = none ↔ ¬inside) {fuel : Nat} {nodes : List Node}
    (hfuel : nodes.length ≤ fuel) :
    (parseParams (names.map fun p => (p.1, slot p.2)) fuel nodes).Succeeds (fun _ => True) ↔
      ((∃ param ∈ nodes, HasAny (names.map Prod.fst) param) → inside) := by
  by_cases hinside : inside
  · refine iff_of_true (succeeds_parseParams_inside ?_ fuel nodes) fun _ => hinside
    rw [List.forall_mem_map]
    exact fun p _ hp => (hslot p.2).mp hp hinside
  · induction nodes generalizing fuel with
    | nil => cases fuel <;> simp [parseParams]
    | cons node next ih =>
      cases fuel with
      | zero => cases hfuel
      | succ fuel =>
        rw [parseParams, Except.succeeds_bind]
        by_cases hnode : HasAny (names.map Prod.fst) node
        · refine iff_of_false (fun h => ?_) fun h => hinside (h ⟨node, List.mem_cons_self, hnode⟩)
          exact hinside ((succeeds_fields hslot).mp
            (Except.Succeeds.mono h fun _ _ => trivial) ⟨node, rfl, hnode⟩)
        · have hnone : ∀ node' ∈ (node :: next).head?,
              ∀ p ∈ names.map fun p => (p.1, slot p.2), ¬node'.hasProp p.1 := by
            intro node' hnode'
            cases hnode'
            rw [List.forall_mem_map]
            exact fun p hp hprop => hnode (hasAny_map.mpr ⟨p, hp, hprop⟩)
          rw [parseChain_none hnone, Except.succeeds_ok, Except.succeeds_bind]
          simp only [pure, Except.pure, Except.succeeds_ok, List.tail_cons]
          rw [ih (Nat.le_of_succ_le_succ hfuel)]
          simp [hnode]

end Walks

lemma element_map_eq_none {n i : Nat} {α : Type} {f : Fin n → α} :
    (element n i).map f = none ↔ ¬i < n := by
  rw [Option.map_eq_none_iff, element_eq_none, not_lt]

lemma element_pair_eq_none {m n i j : Nat} {α : Type} {f : Fin m → Fin n → α} :
    (do return f (← element m i) (← element n j) : Option α) = none ↔ ¬(i < m ∧ j < n) := by
  rw [element, element]
  by_cases hi : i < m <;> by_cases hj : j < n <;> simp [hi, hj]

lemma gammaCascade_none {k : Nat} {a : Text} : (gammaCascade k).lookup a = some none ↔
    a ∈ [ofString "r", ofString "g", ofString "b"] ∧ ¬k < 256 := by
  rw [gammaCascade_lookup]
  simp only [eq_comm (a := none), element_map_eq_none, List.mem_cons, List.not_mem_nil, or_false]
  tauto

lemma succeeds_parseGammaRegsTable {nodes : List Node} :
    (parseGammaRegsTable nodes).Succeeds (fun _ => True) ↔ GammaTablesFit nodes := by
  rw [parseGammaRegsTable, succeeds_each]
  refine forall₂_congr fun table _ => ?_
  split_ifs with hmode
  · rw [succeeds_items fun k a => gammaCascade_none]
    simp [hmode, ItemsFit]
  · simp [hmode]

lemma succeeds_parseGamma {nodes : List Node} :
    (parseGamma nodes).Succeeds (fun _ => True) ↔ GammaFits nodes := by
  rw [parseGamma, Except.succeeds_bind]
  simp only [Except.succeeds_bind, pure, Except.pure, Except.succeeds_ok]
  rw [Except.succeeds_const, parseGammaVersion, succeeds_versionAt, succeeds_parseAt
    (P := GammaTablesFit) (fun _ _ => succeeds_parseGammaRegsTable) (by simp [GammaTablesFit])]
  exact ⟨fun h => ⟨h.1, h.2⟩, fun h => ⟨h.1, h.2⟩⟩

lemma bldHsv_none {i k : Nat} {a : Text} : (bldHsv i k).lookup a = some none ↔
    a ∈ [ofString "hue", ofString "sat"] ∧ ¬(i < 3 ∧ k < 360) :=
  lookup_pair_none (by decide) element_pair_eq_none element_pair_eq_none

/-- The tables with one of these modes are read, each by its place, and the others are left. -/
lemma succeeds_modeTables {β : Type} {modes : List Text} {read : Nat → Node → Except XmlFault (List β)}
    {Fits : Nat → Node → Prop}
    (hread : ∀ i table, (read i table).Succeeds (fun _ => True) ↔ Fits i table) {tables : List Node} :
    (collect (fun i table =>
      match table.getProp (ofString "mode") with
      | none => .ok []
      | some mode => if mode ∈ modes then read i table else .ok []) 0 tables).Succeeds
        (fun _ => True) ↔
      ∀ (i : Nat) (table : Node), tables[i]? = some table →
        (∃ mode ∈ modes, table.getProp (ofString "mode") = some mode) → Fits i table := by
  rw [succeeds_collect]
  refine forall₃_congr fun i table _ => ?_
  rw [Nat.zero_add]
  cases hmode : table.getProp (ofString "mode") with
  | none => simp
  | some mode =>
    dsimp only
    split_ifs with hmem
    · simp [hread, hmem]
    · simp [hmem]

lemma succeeds_parseBldHsvcm {node : Node} :
    (parseBldHsvcm node).Succeeds (fun _ => True) ↔ BldTablesFit node.children :=
  succeeds_modeTables fun i table => by
    rw [bldCm, succeeds_parseHsvcm (fun k a => bldHsv_none) (fun c => element_map_eq_none)]

lemma succeeds_parseBld {nodes : List Node} :
    (parseBld nodes).Succeeds (fun _ => True) ↔ BldFits nodes := by
  rw [parseBld, Except.succeeds_bind]
  simp only [Except.succeeds_bind, pure, Except.pure, Except.succeeds_ok]
  rw [Except.succeeds_const, parseBldVersion, succeeds_versionAt, succeeds_parseAt_onNode
    (P := BldTablesFit) (fun _ => succeeds_parseBldHsvcm) (by simp [BldTablesFit])]
  exact ⟨fun h => ⟨h.1, h.2⟩, fun h => ⟨h.1, h.2⟩⟩

lemma cmsHsv_none {i : Fin 3} {k : Nat} {a : Text} : (cmsHsv i k).lookup a = some none ↔
    a ∈ [ofString "hue", ofString "sat"] ∧ ¬(True ∧ k < 360) := by
  rw [true_and]
  exact lookup_pair_none (by decide) element_map_eq_none element_map_eq_none

lemma rgbCascade_none {k : Nat} {a : Text} : (rgbCascade k).lookup a = some none ↔
    a ∈ [ofString "rgb", ofString "index"] ∧ ¬k < 10 :=
  lookup_pair_none (by decide) element_map_eq_none element_map_eq_none

lemma succeeds_parseCmsHsvcm {node : Node} :
    (parseCmsHsvcm node).Succeeds (fun _ => True) ↔ CmsTablesFit node.children := by
  rw [parseCmsHsvcm, succeeds_each]
  refine forall₂_congr fun table _ => ?_
  simp only [← cmsModes_lookup]
  cases hmode : (table.getProp (ofString "mode")).bind (cmsModes.lookup ·) with
  | none => simp
  | some i =>
    dsimp only
    have hslot : ∀ c, some (CmsSlot.coef i c) = none ↔ ¬True := fun c => by simp
    rw [cmsCm, succeeds_parseHsvcm (fun k a => cmsHsv_none) hslot]
    simp

lemma succeeds_configChain {i : Nat} {nodes : List Node} :
    (parseChain (configChain i) nodes).Succeeds (fun _ => True) ↔
      (FirstHas coefTexts nodes → i < 12) :=
  @succeeds_fields _ _ coefNames (fun c => (element 12 i).map (CmsSlot.cm · c)) _
    (fun _ => element_map_eq_none) _

lemma succeeds_parseCmsConfigTable {node : Node} :
    (parseCmsConfigTable node).Succeeds (fun _ => True) ↔ ConfigTablesFit node.children :=
  @succeeds_modeTables _ _ _ (fun i table => FirstHas coefTexts table.children → i < 12)
    (fun i table => by
      simp only [Except.succeeds_bind, pure, Except.pure, Except.succeeds_ok]
      exact succeeds_configChain) _

lemma succeeds_parseCmsRgbmapTable {node : Node} :
    (parseCmsRgbmapTable node).Succeeds (fun _ => True) ↔
      ItemsFit [ofString "rgb", ofString "index"] 10 node.children :=
  succeeds_items fun _ _ => rgbCascade_none

lemma succeeds_parseCms {nodes : List Node} :
    (parseCms nodes).Succeeds (fun _ => True) ↔ CmsFits nodes := by
  simp only [parseCms, Except.succeeds_bind, pure, Except.pure, Except.succeeds_ok]
  rw [Except.succeeds_const, @Except.succeeds_const _ _ (Except.Succeeds _ _),
    @Except.succeeds_const _ _ (Except.Succeeds _ _), parseCmsVersion, succeeds_versionAt,
    succeeds_parseAt_onNode (P := CmsTablesFit) (fun _ => succeeds_parseCmsHsvcm)
      (by simp [CmsTablesFit]),
    succeeds_parseAt_onNode (P := ItemsFit [ofString "rgb", ofString "index"] 10)
      (fun _ => succeeds_parseCmsRgbmapTable) (by simp [ItemsFit]),
    succeeds_parseAt_onNode (P := ConfigTablesFit) (fun _ => succeeds_parseCmsConfigTable)
      (by simp [ConfigTablesFit])]
  exact ⟨fun h => ⟨h.1, h.2.1, h.2.2.1, h.2.2.2⟩, fun h => ⟨h.1, h.2, h.3, h.4⟩⟩

lemma succeeds_parseScenes {walk : Fin 2 → List Node → Except XmlFault (List (Store AbcSlot))}
    {Fits : List Node → Prop}
    (hwalk : ∀ i nodes, (walk i nodes).Succeeds (fun _ => True) ↔ Fits nodes) {node : Node} :
    (parseScenes walk node).Succeeds (fun _ => True) ↔ ScenesFit Fits node.children := by
  rw [parseScenes, succeeds_each]
  refine forall₂_congr fun table _ => ?_
  cases sceneMode table with
  | none => simp
  | some i => simp [hwalk]

/-- The entries of a table, each with the params that its chain reads. -/
lemma succeeds_entries {γ : Type} {names : List (Text × γ)} {slot : Nat → γ → Option AbcSlot}
    (hslot : ∀ j c, slot j c = none ↔ ¬j < 16) {numbers : List Node} :
    (collect (fun j number => parseParams (names.map fun p => (p.1, slot j p.2))
      number.children.length number.children) 0 numbers).Succeeds (fun _ => True) ↔
      EntriesFit (names.map Prod.fst) numbers := by
  rw [succeeds_collect]
  refine forall₃_congr fun j number _ => ?_
  rw [Nat.zero_add, succeeds_parseParams (hslot j) le_rfl]

lemma succeeds_parseEpfNextConfig {fn : EpfFun} {node : Node} :
    (parseEpfNextConfig fn node).Succeeds (fun _ => True) ↔
      ScenesFit (EntriesFit (epfNames.map Prod.fst)) node.children := by
  apply succeeds_parseScenes
  intro i numbers
  exact @succeeds_entries _ epfNames (fun j f => (element 16 j).map (AbcSlot.epf fn i · f))
    (fun _ _ => element_map_eq_none) numbers

lemma succeeds_parseSlpConfig {node : Node} : (parseSlpConfig node).Succeeds (fun _ => True) ↔
    ScenesFit (EntriesFit (slpNames.map Prod.fst)) node.children := by
  apply succeeds_parseScenes
  intro i numbers
  exact @succeeds_entries _ slpNames (fun j f => (element 16 j).map (AbcSlot.slp i · f))
    (fun _ _ => element_map_eq_none) numbers

lemma succeeds_storeCount {n i count : Nat} {f : Fin n → AbcSlot} :
    (storeCount ((element n i).map f) count).Succeeds (fun _ => True) ↔ i < n := by
  rw [element]
  split_ifs with h <;> simp [storeCount, h]

lemma slpCascade_none {i : Fin 2} {j k : Nat} {a : Text} :
    (slpCascade i j k).lookup a = some none ↔
      a ∈ [ofString "ambient", ofString "brightness"] ∧ ¬(j < 16 ∧ k < 128) :=
  lookup_pair_none (by decide) element_pair_eq_none element_pair_eq_none

lemma blCascade_none {i k : Nat} {a : Text} : (blCascade i k).lookup a = some none ↔
    a ∈ [ofString "ambient", ofString "brightness"] ∧ ¬(i < 2 ∧ k < 128) :=
  lookup_pair_none (by decide) element_pair_eq_none element_pair_eq_none

lemma succeeds_counted {cascade : Nat → Cascade AbcSlot} {names : List Text} {m n i count : Nat}
    {f : Fin m → AbcSlot}
    (hcascade : ∀ k a, (cascade k).lookup a = some none ↔ a ∈ names ∧ ¬(i < m ∧ k < n))
    {nodes : List Node} :
    (do
      let items ← parseItems cascade nodes
      let mapNum ← storeCount ((element m i).map f) count
      return items ++ [mapNum] : Except XmlFault (List (Store AbcSlot))).Succeeds (fun _ => True) ↔
      i < m ∧ ItemsFit names n nodes := by
  simp only [Except.succeeds_bind, pure, Except.pure, Except.succeeds_ok]
  rw [Except.succeeds_const, succeeds_storeCount, succeeds_items hcascade, and_comm]
  refine and_congr_right fun hi => ?_
  simp [hi, ItemsFit]

lemma succeeds_parseSlpMappingChildTable {i : Fin 2} {numbers : List Node} :
    (parseSlpMappingChildTable i numbers).Succeeds (fun _ => True) ↔ MappingFits numbers := by
  rw [parseSlpMappingChildTable, Except.succeeds_bind]
  refine succeeds_collect.trans ?_
  simp only [Nat.zero_add]
  rw [forall₃_congr fun j number _ => succeeds_counted fun _ _ => slpCascade_none]
  constructor
  · intro h
    constructor
    · by_contra hlong
      have hnumber := List.getElem?_eq_getElem (not_le.mp hlong)
      exact lt_irrefl 16 (h 16 _ hnumber).1
    · intro number hnumber
      obtain ⟨j, hj⟩ := List.mem_iff_getElem?.mp hnumber
      exact (h j number hj).2
  · rintro ⟨hlength, hitems⟩ j number hj
    obtain ⟨hlt, -⟩ := List.getElem?_eq_some_iff.mp hj
    exact ⟨hlt.trans_le hlength, hitems number (List.mem_of_getElem? hj)⟩

lemma succeeds_parseSlpMappingTable {node : Node} :
    (parseSlpMappingTable node).Succeeds (fun _ => True) ↔ ScenesFit MappingFits node.children := by
  apply succeeds_parseScenes
  intro i numbers
  exact succeeds_parseSlpMappingChildTable

lemma succeeds_parseBlMappingTable {node : Node} :
    (parseBlMappingTable node).Succeeds (fun _ => True) ↔ BlTablesFit node.children := by
  rw [parseBlMappingTable, succeeds_collect]
  refine forall₃_congr fun i table _ => ?_
  rw [Nat.zero_add]
  split_ifs with hmode
  · rw [succeeds_counted fun _ _ => blCascade_none]
    simp [hmode]
  · simp [hmode]

lemma succeeds_parseEpfConfig {node : Node} : (parseEpfConfig node).Succeeds (fun _ => True) ↔
    ∀ name ∈ [ofString "sunlight_protector", ofString "super_resolution"],
      ScenesFit (EntriesFit (epfNames.map Prod.fst)) (tablesOf node.children name) := by
  have hnil : ScenesFit (EntriesFit (epfNames.map Prod.fst)) [] := by simp [ScenesFit]
  simp only [parseEpfConfig, Except.succeeds_bind, pure, Except.pure, Except.succeeds_ok]
  rw [Except.succeeds_const, succeeds_parseAt_onNode (fun _ => succeeds_parseEpfNextConfig) hnil,
    succeeds_parseAt_onNode (fun _ => succeeds_parseEpfNextConfig) hnil]
  simp

lemma succeeds_parseAbc {nodes : List Node} :
    (parseAbc nodes).Succeeds (fun _ => True) ↔ AbcFits nodes := by
  simp only [parseAbc, Except.succeeds_bind, pure, Except.pure, Except.succeeds_ok]
  rw [Except.succeeds_const, @Except.succeeds_const _ _ (Except.Succeeds _ _),
    @Except.succeeds_const _ _ (Except.Succeeds _ _),
    @Except.succeeds_const _ _ (Except.Succeeds _ _), parseAbcVersion, succeeds_versionAt,
    succeeds_parseAt_onNode (P := fun tables =>
        ∀ name ∈ [ofString "sunlight_protector", ofString "super_resolution"],
          ScenesFit (EntriesFit (epfNames.map Prod.fst)) (tablesOf tables name))
      (fun _ => succeeds_parseEpfConfig) (by simp [tablesOf, findNode, ScenesFit]),
    succeeds_parseAt_onNode (P := ScenesFit (EntriesFit (slpNames.map Prod.fst)))
      (fun _ => succeeds_parseSlpConfig) (by simp [ScenesFit]),
    succeeds_parseAt_onNode (P := ScenesFit MappingFits) (fun _ => succeeds_parseSlpMappingTable)
      (by simp [ScenesFit]),
    succeeds_parseAt_onNode (P := BlTablesFit) (fun _ => succeeds_parseBlMappingTable)
      (by simp [BlTablesFit])]
  exact ⟨fun h => ⟨h.1, h.2.1, h.2.2.1, h.2.2.2.1, h.2.2.2.2⟩, fun h => ⟨h.1, h.2, h.3, h.4, h.5⟩⟩

/-- **What the PQ parsers get through**: a document of the right root is read inside the arrays and
inside the tree exactly when it fits, and a document of another root always. -/
theorem pq_parsers_inside (root : Node) :
    (∀ ctx, (GammaParser.parseXml root ctx).Succeeds (fun _ => True) ↔
      (root.name = ofString "gamma_config" → GammaFits root.children)) ∧
    (∀ ctx, (BldParser.parseXml root ctx).Succeeds (fun _ => True) ↔
      (root.name = ofString "root" → BldFits root.children)) ∧
    (∀ ctx, (CmsParser.parseXml root ctx).Succeeds (fun _ => True) ↔
      (root.name = ofString "root" → CmsFits root.children)) ∧
    (∀ ctx, (AbcParser.parseXml root ctx).Succeeds (fun _ => True) ↔
      (root.name = ofString "root" → AbcFits root.children)) := by
  refine ⟨fun ctx => ?_, fun ctx => ?_, fun ctx => ?_, fun ctx => ?_⟩
  · rw [GammaParser.parseXml, succeeds_parseRoot, succeeds_parseGamma]
  · rw [BldParser.parseXml, succeeds_parseRoot, succeeds_parseBld]
  · rw [CmsParser.parseXml, succeeds_parseRoot, succeeds_parseCms]
  · rw [AbcParser.parseXml, succeeds_parseRoot, succeeds_parseAbc]

/-- The version functions go on to the sibling of the last "enhance" element, which is NULL. -/
theorem enhance_last_is_followed :
    ¬(GammaParser.parseXml (.mk (ofString "gamma_config") []
      [.mk (ofString "enhance") [(ofString "version", ofString "1")] []]) fun _ => 0).Succeeds
        fun _ => True := by
  decide +kernel

end EngPc
