import EngPc.Proofs.AbcLists

/-!
# Saving and loading the abc mapping tables

When `parse_xml`, behind `update_xml`, gives the mapping tables of a mode back. The writer makes
lists longer behind an element that is there, never an empty one, and the reader takes the bl tables
by their places in the document.
-/

namespace EngPc
open CString ReadWrite XmlTree

def SlpTableRestored (ctx ctx' : PQCtx AbcSlot) (i : Fin 2) : Prop :=
  ctx' (.num i) = ctx (.num i) ∧ ∀ j : Fin 16, j.val < (ctx (.num i)).toNat →
    ctx' (.mapNum i j) = ctx (.mapNum i j) ∧
      ∀ k : Fin 128, k.val < (ctx (.mapNum i j)).toNat →
        ctx' (.ambient i j k) = ctx (.ambient i j k) ∧
          ctx' (.slpBrightnessFactor i j k) = ctx (.slpBrightnessFactor i j k)

def BlTableRestored (ctx ctx' : PQCtx AbcSlot) (i : Fin 2) : Prop :=
  ctx' (.blMapNum i) = ctx (.blMapNum i) ∧ ∀ k : Fin 128, k.val < (ctx (.blMapNum i)).toNat →
    ctx' (.blAmbient i k) = ctx (.blAmbient i k) ∧ ctx' (.backlight i k) = ctx (.backlight i k)

/-- The tables of the mode are as they were. -/
def TablesRestored (ctx ctx' : PQCtx AbcSlot) : Prop :=
  (ctx .slpblMode = 1 → ∀ i, SlpTableRestored ctx ctx' i) ∧
    (ctx .slpblMode = 2 → ∀ i, BlTableRestored ctx ctx' i)

/-- Whatever is in the memory that the document is read into. -/
def AbcRestores (ctx : PQCtx AbcSlot) (root : Node) : Prop :=
  ∃ root', AbcParser.updateXml ctx root = .ok (0, root') ∧
    ∀ ctx', ∃ ctx'', AbcParser.parseXml root' ctx' = .ok (0, ctx'') ∧ TablesRestored ctx ctx''

/-- One normal and one low power table, in any order and among any other elements. -/
def HoldsTables (tables : List Node) : Prop :=
  ∀ i : Fin 2, ∃! k : Nat, tables[k]?.bind sceneMode = some i

/-- A document that has the two mapping tables of the mode. -/
structure AbcHolds (ctx : PQCtx AbcSlot) (root : Node) : Prop where
  name : root.name = ofString "root"
  slp : ctx .slpblMode = 1 → HoldsTables (tablesOf root.children (ofString "slp_mapping_table"))
  bl : ctx .slpblMode = 2 → HoldsTables (tablesOf root.children (ofString "bl_mapping_table"))

/-- There is an item, and those that are kept have both attributes. -/
def PairsFill (count : Nat) (items : List Node) : Prop :=
  items ≠ [] ∧ ∀ k < count, ∀ item ∈ items[k]?,
    ∀ a ∈ [ofString "ambient", ofString "brightness"], item.hasProp a

/-- There is an entry, and those that are kept have such items. -/
def SlpFill (ctx : PQCtx AbcSlot) (i : Fin 2) (numbers : List Node) : Prop :=
  numbers ≠ [] ∧ ∀ j < (ctx (.num i)).toNat, ∀ number ∈ numbers[j]?,
    PairsFill (slpCount ctx i j) number.children

/-- The one table of `ctx` is saved as well in the place of the other. -/
def SameBl (ctx : PQCtx AbcSlot) (i i' : Fin 2) : Prop :=
  ctx (.blMapNum i') = ctx (.blMapNum i) ∧ ∀ k : Fin 128, k.val < (ctx (.blMapNum i)).toNat →
    ctx (.blAmbient i' k) = ctx (.blAmbient i k) ∧ ctx (.backlight i' k) = ctx (.backlight i k)

/-- The tables are the first two elements, each in its place unless `ctx` has the same in both, and
have such items. -/
structure BlFill (ctx : PQCtx AbcSlot) (tables : List Node) : Prop where
  place : ∀ (k : Nat) (table : Node), tables[k]? = some table → table.hasProp (ofString "mode") → k < 2
  items : ∀ (i : Fin 2) (table : Node) (i' : Fin 2), tables[i.val]? = some table →
    sceneMode table = some i' →
      PairsFill (ctx (.blMapNum i')).toNat table.children ∧ SameBl ctx i i'

def ScenesFill (Fill : Fin 2 → List Node → Prop) (tables : List Node) : Prop :=
  ∀ table ∈ tables, ∀ i, sceneMode table = some i → Fill i table.children

/-- The tables of the mode can be saved, those of the other mode be read, and nothing is in the way
of the other sections. -/
structure AbcFills (ctx : PQCtx AbcSlot) (nodes : List Node) : Prop where
  epf : ∀ name ∈ [ofString "sunlight_protector", ofString "super_resolution"],
    ScenesFill (fun i => EntriesFill (epfNames.map Prod.fst) (ctx (.num i)).toNat)
      (tablesOf (tablesOf nodes (ofString "epf_config")) name)
  slp : ScenesFill (fun i => EntriesFill (slpNames.map Prod.fst) (ctx (.num i)).toNat)
    (tablesOf nodes (ofString "slp_config"))
  slpMapping : if ctx .slpblMode = 1 then
      ScenesFill (SlpFill ctx) (tablesOf nodes (ofString "slp_mapping_table"))
    else ScenesFit MappingFits (tablesOf nodes (ofString "slp_mapping_table"))
  blMapping : if ctx .slpblMode = 2 then BlFill ctx (tablesOf nodes (ofString "bl_mapping_table"))
    else BlTablesFit (tablesOf nodes (ofString "bl_mapping_table"))
  version : VersionFits nodes

section Writer

variable (ctx : PQCtx AbcSlot)

/-- The tables of a section, written by their modes. -/
def updateTables (walk : Fin 2 → List Node → Except XmlFault (List Node)) (tables : List Node) :
    Except XmlFault (List Node) :=
  updateEach (fun _ subNode =>
    match sceneMode subNode with
    | none => .ok subNode
    | some i => do return subNode.withChildren (← walk i subNode.children)) 0 tables

lemma updateScenes_eq (walk : Fin 2 → List Node → Except XmlFault (List Node)) :
    updateScenes walk = fun node => do return node.withChildren (← updateTables walk node.children) :=
  rfl

lemma sceneMode_withChildren (node : Node) (children : List Node) :
    sceneMode (node.withChildren children) = sceneMode node := by
  rw [sceneMode, getProp_withChildren, sceneMode]

variable {walk : Fin 2 → List Node → Except XmlFault (List Node)} {tables tables' : List Node}

lemma succeeds_updateTables : (updateTables walk tables).Succeeds (fun _ => True) ↔
    ∀ table ∈ tables, ∀ i, sceneMode table = some i →
      (walk i table.children).Succeeds fun _ => True := by
  rw [updateTables, updateEach_eq_collect, succeeds_each]
  refine forall₂_congr fun table _ => ?_
  cases sceneMode table with
  | none => simp [pure, Except.pure]
  | some i => simp [Except.succeeds_bind, pure, Except.pure]

lemma getElem?_updateTables (h : updateTables walk tables = .ok tables') {k : Nat} {table' : Node} :
    tables'[k]? = some table' ↔ ∃ table, tables[k]? = some table ∧
      match sceneMode table with
      | none => table' = table
      | some i => ∃ children, walk i table.children = .ok children ∧
          table' = table.withChildren children := by
  rw [getElem?_updateEach h]
  refine exists_congr fun table => and_congr_right fun _ => ?_
  cases sceneMode table with
  | none => simp [eq_comm]
  | some i => simp only [bind_eq_ok, pure, Except.pure, Except.ok.injEq, eq_comm (a := table')]

lemma writesSection_scenes {name : Text} : WritesSection name (updateTables walk)
    (updateAt name (updateNode (updateScenes walk))) := by
  rw [updateScenes_eq]
  exact writesSection_updateAt rfl

/-- The two sections of "epf_config". -/
def updateEpfSections (nodes : List Node) : Except XmlFault (List Node) := do
  let nodes ← updateAt (ofString "sunlight_protector")
    (updateNode (updateEpfNextConfig ctx .sunlightProtector)) nodes
  updateAt (ofString "super_resolution") (updateNode (updateEpfNextConfig ctx .superResolution)) nodes

lemma updateEpfConfig_eq : updateEpfConfig ctx =
    fun node => do return node.withChildren (← updateEpfSections ctx node.children) := by
  funext node
  rw [updateEpfConfig, updateEpfSections, bind_assoc]

/-- The writers of the tables of each section. -/
def updateEpfTable (fn : EpfFun) (i : Fin 2) : List Node → Except XmlFault (List Node) :=
  updateEntries ctx epfNames (fun j f => (element 16 j).map (AbcSlot.epf fn i · f))
    (epfNames.map Prod.fst) (ctx (.num i)).toNat

def updateSlpTable (i : Fin 2) : List Node → Except XmlFault (List Node) :=
  updateEntries ctx slpNames (fun j f => (element 16 j).map (AbcSlot.slp i · f)) slpParams
    (ctx (.num i)).toNat

def updateSlpMapTable (i : Fin 2) (numbers : List Node) : Except XmlFault (List Node) := do
  updateSlpMappingChildTable ctx i (← updateSlpMappingIndexsArrays ctx i 0 numbers)

def updateBlTable (i : Fin 2) (items : List Node) : Except XmlFault (List Node) :=
  updateBlChildTable ctx i 0 items

lemma writesSection_epfFun (fn : EpfFun) (name : Text) : WritesSection name
    (updateTables (updateEpfTable ctx fn)) (updateAt name (updateNode (updateEpfNextConfig ctx fn))) :=
  writesSection_scenes

lemma writesSection_epf : WritesSection (ofString "epf_config") (updateEpfSections ctx)
    (updateAt (ofString "epf_config") (updateNode (updateEpfConfig ctx))) := by
  rw [updateEpfConfig_eq]
  exact writesSection_updateAt rfl

lemma writesSection_slp : WritesSection (ofString "slp_config") (updateTables (updateSlpTable ctx))
    (updateAt (ofString "slp_config") (updateNode (updateSlpConfig ctx))) :=
  writesSection_scenes

/-- The mapping tables are written in their mode only. -/
def updateSlpMappings (nodes : List Node) : Except XmlFault (List Node) :=
  if ctx .slpblMode = 1 then
    updateAt (ofString "slp_mapping_table") (updateNode (updateSlpMappingTable ctx)) nodes
  else .ok nodes

def updateBlMappings (nodes : List Node) : Except XmlFault (List Node) :=
  if ctx .slpblMode = 2 then
    updateAt (ofString "bl_mapping_table") (updateNode (updateBlMappingTable ctx)) nodes
  else .ok nodes

def slpMappingTables (tables : List Node) : Except XmlFault (List Node) :=
  if ctx .slpblMode = 1 then updateTables (updateSlpMapTable ctx) tables else .ok tables

def blMappingTables (tables : List Node) : Except XmlFault (List Node) :=
  if ctx .slpblMode = 2 then updateTables (updateBlTable ctx) tables else .ok tables

lemma writesSection_slpMapping : WritesSection (ofString "slp_mapping_table") (slpMappingTables ctx)
    (updateSlpMappings ctx) :=
  WritesSection.ite writesSection_scenes _

lemma writesSection_blMapping : WritesSection (ofString "bl_mapping_table") (blMappingTables ctx)
    (updateBlMappings ctx) :=
  WritesSection.ite writesSection_scenes _

lemma updateAbc_eq (nodes : List Node) : updateAbc ctx nodes = (do
    let nodes₁ ← updateAt (ofString "epf_config") (updateNode (updateEpfConfig ctx)) nodes
    let nodes₂ ← updateAt (ofString "slp_config") (updateNode (updateSlpConfig ctx)) nodes₁
    let nodes₃ ← updateSlpMappings ctx nodes₂
    let nodes₄ ← updateBlMappings ctx nodes₃
    updateAt (ofString "enhance") (updateAbcVersion ctx) nodes₄) := by
  by_cases h₁ : ctx .slpblMode = 1
  · by_cases h₂ : ctx .slpblMode = 2
    · simp only [updateAbc, updateSlpMappings, updateBlMappings, if_pos h₁, if_pos h₂]
    · simp only [updateAbc, updateSlpMappings, updateBlMappings, if_pos h₁, if_neg h₂]
  · by_cases h₂ : ctx .slpblMode = 2
    · simp only [updateAbc, updateSlpMappings, updateBlMappings, if_neg h₁, if_pos h₂]
    · simp only [updateAbc, updateSlpMappings, updateBlMappings, if_neg h₁, if_neg h₂]

lemma succeeds_updateVersionAt {nodes : List Node} :
    (updateAt (ofString "enhance") (updateAbcVersion ctx) nodes).Succeeds (fun _ => True) ↔
      VersionFits nodes := by
  rw [updateAt, VersionFits]
  cases hfind : findNode nodes (ofString "enhance") with
  | nil => simp
  | cons node next =>
    rw [Except.succeeds_bind]
    simp only [pure, Except.pure, Except.succeeds_ok]
    rw [updateAbcVersion, succeeds_updateVersion]
    simp

lemma succeeds_updateAbc {nodes : List Node} : (updateAbc ctx nodes).Succeeds (fun _ => True) ↔
    (updateEpfSections ctx (tablesOf nodes (ofString "epf_config"))).Succeeds (fun _ => True) ∧
    (updateTables (updateSlpTable ctx) (tablesOf nodes (ofString "slp_config"))).Succeeds (fun _ => True) ∧
    (slpMappingTables ctx (tablesOf nodes (ofString "slp_mapping_table"))).Succeeds (fun _ => True) ∧
    (blMappingTables ctx (tablesOf nodes (ofString "bl_mapping_table"))).Succeeds (fun _ => True) ∧
    VersionFits nodes := by
  rw [updateAbc_eq]
  refine (writesSection_epf ctx).succeeds_bind fun nodes₁ h₁ => ?_
  have hothers₁ := (writesSection_epf ctx).others _ _ h₁
  rw [← hothers₁ (ofString "slp_config") (by decide),
    ← hothers₁ (ofString "slp_mapping_table") (by decide),
    ← hothers₁ (ofString "bl_mapping_table") (by decide),
    ← versionFits_congr ((writesSection_epf ctx).names _ _ h₁)]
  refine (writesSection_slp ctx).succeeds_bind fun nodes₂ h₂ => ?_
  have hothers₂ := (writesSection_slp ctx).others _ _ h₂
  rw [← hothers₂ (ofString "slp_mapping_table") (by decide),
    ← hothers₂ (ofString "bl_mapping_table") (by decide),
    ← versionFits_congr ((writesSection_slp ctx).names _ _ h₂)]
  refine (writesSection_slpMapping ctx).succeeds_bind fun nodes₃ h₃ => ?_
  have hothers₃ := (writesSection_slpMapping ctx).others _ _ h₃
  rw [← hothers₃ (ofString "bl_mapping_table") (by decide),
    ← versionFits_congr ((writesSection_slpMapping ctx).names _ _ h₃)]
  refine (writesSection_blMapping ctx).succeeds_bind fun nodes₄ h₄ => ?_
  rw [← versionFits_congr ((writesSection_blMapping ctx).names _ _ h₄)]
  exact succeeds_updateVersionAt ctx

/-- The tables that the reader finds behind the writer. -/
structure AbcWritten (nodes nodes' : List Node) : Prop where
  epf : updateEpfSections ctx (tablesOf nodes (ofString "epf_config")) =
    .ok (tablesOf nodes' (ofString "epf_config"))
  slp : updateTables (updateSlpTable ctx) (tablesOf nodes (ofString "slp_config")) =
    .ok (tablesOf nodes' (ofString "slp_config"))
  slpMapping : slpMappingTables ctx (tablesOf nodes (ofString "slp_mapping_table")) =
    .ok (tablesOf nodes' (ofString "slp_mapping_table"))
  blMapping : blMappingTables ctx (tablesOf nodes (ofString "bl_mapping_table")) =
    .ok (tablesOf nodes' (ofString "bl_mapping_table"))
  version : VersionFits nodes' ↔ VersionFits nodes

lemma abcWritten {nodes nodes' : List Node} (h : updateAbc ctx nodes = .ok nodes') :
    AbcWritten ctx nodes nodes' := by
  rw [updateAbc_eq] at h
  obtain ⟨nodes₁, h₁, h⟩ := bind_eq_ok.mp h
  obtain ⟨nodes₂, h₂, h⟩ := bind_eq_ok.mp h
  obtain ⟨nodes₃, h₃, h⟩ := bind_eq_ok.mp h
  obtain ⟨nodes₄, h₄, h₅⟩ := bind_eq_ok.mp h
  have hothers₁ := (writesSection_epf ctx).others _ _ h₁
  have hothers₂ := (writesSection_slp ctx).others _ _ h₂
  have hothers₃ := (writesSection_slpMapping ctx).others _ _ h₃
  have hothers₄ := (writesSection_blMapping ctx).others _ _ h₄
  have hbody := (keeps_updateVersion ctx .version).updateAt _ _ _ h₅
  constructor
  · rw [tablesOf_congr hbody, hothers₄ _ (by decide), hothers₃ _ (by decide), hothers₂ _ (by decide)]
    exact (writesSection_epf ctx).tables _ _ h₁
  · rw [tablesOf_congr hbody, hothers₄ _ (by decide), hothers₃ _ (by decide),
      ← hothers₁ _ (by decide)]
    exact (writesSection_slp ctx).tables _ _ h₂
  · rw [tablesOf_congr hbody, hothers₄ _ (by decide), ← hothers₁ _ (by decide),
      ← hothers₂ _ (by decide)]
    exact (writesSection_slpMapping ctx).tables _ _ h₃
  · rw [tablesOf_congr hbody, ← hothers₁ _ (by decide), ← hothers₂ _ (by decide),
      ← hothers₃ _ (by decide)]
    exact (writesSection_blMapping ctx).tables _ _ h₄
  · have hversion : nodes'.map Node.name = nodes₄.map Node.name := by
      have hfst := congrArg (List.map Prod.fst) hbody
      rw [List.map_map, List.map_map] at hfst
      exact hfst
    rw [versionFits_congr hversion, versionFits_congr ((writesSection_blMapping ctx).names _ _ h₄),
      versionFits_congr ((writesSection_slpMapping ctx).names _ _ h₃),
      versionFits_congr ((writesSection_slp ctx).names _ _ h₂),
      versionFits_congr ((writesSection_epf ctx).names _ _ h₁)]

end Writer

section Configs

variable (ctx : PQCtx AbcSlot) {i : Fin 2} {numbers numbers' : List Node}

lemma scenesFit_updateTables {walk : Fin 2 → List Node → Except XmlFault (List Node)}
    {Fits : List Node → Prop} (hwalk : ∀ i nodes nodes', walk i nodes = .ok nodes' → Fits nodes')
    {tables tables' : List Node} (h : updateTables walk tables = .ok tables') :
    ScenesFit Fits tables' := by
  intro table' htable' hscene
  obtain ⟨k, hk⟩ := List.mem_iff_getElem?.mp htable'
  obtain ⟨table, -, hwritten⟩ := (getElem?_updateTables h).mp hk
  cases hmode : sceneMode table with
  | none =>
    rw [hmode] at hwritten
    exact absurd (hwritten ▸ hmode) hscene
  | some i =>
    rw [hmode] at hwritten
    obtain ⟨children, hchildren, rfl⟩ := hwritten
    rw [children_withChildren]
    exact hwalk i _ _ hchildren

lemma entriesFit_of_length {names : List Text} (h : numbers.length ≤ 16) :
    EntriesFit names numbers := by
  intro j number hnumber _
  exact (List.getElem?_eq_some_iff.mp hnumber).1.trans_le h

variable {ctx} (hnum : 0 < (ctx (.num i)).toNat ∧ (ctx (.num i)).toNat ≤ 16)

include hnum

lemma succeeds_epfTable {fn : EpfFun} : (updateEpfTable ctx fn i numbers).Succeeds (fun _ => True) ↔
    EntriesFill (epfNames.map Prod.fst) (ctx (.num i)).toNat numbers :=
  succeeds_updateEntries ctx (fun _ hj _ hnone => element_map_eq_none.mp hnone hj) (fun _ ha => ha)
    hnum.1 hnum.2

lemma succeeds_slpTable : (updateSlpTable ctx i numbers).Succeeds (fun _ => True) ↔
    EntriesFill (slpNames.map Prod.fst) (ctx (.num i)).toNat numbers :=
  succeeds_updateEntries ctx (fun _ hj _ hnone => element_map_eq_none.mp hnone hj) (by decide)
    hnum.1 hnum.2

lemma entriesFit_epfTable {fn : EpfFun} (h : updateEpfTable ctx fn i numbers = .ok numbers') :
    EntriesFit (epfNames.map Prod.fst) numbers' :=
  entriesFit_of_length ((length_updateEntries ctx hnum.1 h).trans hnum.2)

lemma entriesFit_slpTable (h : updateSlpTable ctx i numbers = .ok numbers') :
    EntriesFit (slpNames.map Prod.fst) numbers' :=
  entriesFit_of_length ((length_updateEntries ctx hnum.1 h).trans hnum.2)

end Configs

section EpfSections

variable {ctx : PQCtx AbcSlot} (hctx : AbcInRange ctx) {nodes nodes' : List Node}

include hctx

lemma succeeds_updateEpfSections : (updateEpfSections ctx nodes).Succeeds (fun _ => True) ↔
    ∀ name ∈ [ofString "sunlight_protector", ofString "super_resolution"],
      ScenesFill (fun i => EntriesFill (epfNames.map Prod.fst) (ctx (.num i)).toNat)
        (tablesOf nodes name) := by
  have htables : ∀ fn tables, (updateTables (updateEpfTable ctx fn) tables).Succeeds (fun _ => True) ↔
      ScenesFill (fun i => EntriesFill (epfNames.map Prod.fst) (ctx (.num i)).toNat) tables := by
    intro fn tables
    rw [succeeds_updateTables]
    exact forall₄_congr fun table _ i _ => succeeds_epfTable (hctx.num i)
  have hsp := writesSection_epfFun ctx .sunlightProtector (ofString "sunlight_protector")
  have hsr := writesSection_epfFun ctx .superResolution (ofString "super_resolution")
  rw [updateEpfSections, hsp.succeeds_bind fun nodes₁ h₁ =>
    (hsp.others _ _ h₁ (ofString "super_resolution") (by decide)) ▸ hsr.succeeds nodes₁]
  simp only [htables, List.forall_mem_cons, List.not_mem_nil, false_implies, implies_true, and_true]

lemma scenesFit_updateEpfSections (h : updateEpfSections ctx nodes = .ok nodes') :
    ∀ name ∈ [ofString "sunlight_protector", ofString "super_resolution"],
      ScenesFit (EntriesFit (epfNames.map Prod.fst)) (tablesOf nodes' name) := by
  have hsp := writesSection_epfFun ctx .sunlightProtector (ofString "sunlight_protector")
  have hsr := writesSection_epfFun ctx .superResolution (ofString "super_resolution")
  obtain ⟨nodes₁, h₁, h₂⟩ := bind_eq_ok.mp h
  rw [List.forall_mem_cons, List.forall_mem_singleton]
  constructor
  · rw [hsr.others _ _ h₂ _ (by decide)]
    exact scenesFit_updateTables (fun i _ _ => entriesFit_epfTable (hctx.num i)) (hsp.tables _ _ h₁)
  · exact scenesFit_updateTables (fun i _ _ => entriesFit_epfTable (hctx.num i)) (hsr.tables _ _ h₂)

end EpfSections

section Lengths

variable {ctx : PQCtx AbcSlot} (hctx : AbcInRange ctx) {i : Fin 2}

lemma itemsFit_of_length {names : List Text} {size : Nat} {items : List Node}
    (h : items.length ≤ size) : ItemsFit names size items := by
  intro k item hitem _
  exact (List.getElem?_eq_some_iff.mp hitem).1.trans_le h

include hctx

lemma counted (hmode : ctx .slpblMode = 1) (i : Fin 2) : EntriesCounted ctx i := by
  refine ⟨(hctx.num i).2, fun j hj => ?_⟩
  have hcount := slpCount_of_fin ctx (i := i) ⟨j, hj.trans_le (hctx.num i).2⟩
  rw [hcount]
  exact hctx.mapNum hmode i ⟨j, _⟩ hj

lemma slpWritten (hmode : ctx .slpblMode = 1) {numbers numbers' : List Node}
    (h : updateSlpMapTable ctx i numbers = .ok numbers') : SlpWritten ctx i numbers numbers' := by
  obtain ⟨written, hwritten, hslp⟩ := updateSlpMapping_ok (counted hctx hmode i) (hctx.num i).1 numbers
  cases h.symm.trans hwritten
  exact hslp

lemma mappingFits (hmode : ctx .slpblMode = 1) {numbers numbers' : List Node}
    (h : SlpWritten ctx i numbers numbers') : MappingFits numbers' := by
  have hlength : numbers'.length ≤ (ctx (.num i)).toNat := by
    rw [h.length]
    split_ifs
    · exact Nat.zero_le _
    · exact le_rfl
  refine ⟨hlength.trans (hctx.num i).2, fun number hnumber => ?_⟩
  obtain ⟨j, hj⟩ := List.mem_iff_getElem?.mp hnumber
  apply itemsFit_of_length
  rw [(h.items j number hj).length]
  split_ifs
  · exact Nat.zero_le _
  · exact ((counted hctx hmode i).2 j ((List.getElem?_eq_some_iff.mp hj).1.trans_le hlength)).2

lemma succeeds_slpMappingTables {tables : List Node} :
    (slpMappingTables ctx tables).Succeeds fun _ => True := by
  rw [slpMappingTables]
  split_ifs with hmode
  · rw [succeeds_updateTables]
    intro table _ i _
    obtain ⟨numbers', hnumbers', -⟩ :=
      updateSlpMapping_ok (counted hctx hmode i) (hctx.num i).1 table.children
    rw [updateSlpMapTable, hnumbers']
    trivial
  · trivial

lemma succeeds_updateBlTable (hmode : ctx .slpblMode = 2) {items : List Node} :
    (updateBlTable ctx i items).Succeeds (fun _ => True) ↔ items ≠ [] := by
  constructor
  · rintro h rfl
    exact h
  · intro hitems
    have hrange := hctx.blMapNum hmode i
    obtain ⟨items', hitems', -⟩ := updateBl_ok hrange.2 hrange.1 hitems
    rw [updateBlTable, hitems']
    trivial

lemma blItemsWritten (hmode : ctx .slpblMode = 2) {items items' : List Node}
    (h : updateBlTable ctx i items = .ok items') :
    ItemsWritten ctx (blCascade i) (ctx (.blMapNum i)).toNat items items' := by
  have hitems : items ≠ [] := (succeeds_updateBlTable hctx hmode).mp (by rw [h]; trivial)
  have hrange := hctx.blMapNum hmode i
  obtain ⟨written, hwritten, hall⟩ := updateBl_ok hrange.2 hrange.1 hitems
  cases h.symm.trans hwritten
  exact hall

end Lengths

inductive AbcHome
  | config | slpMapping (i : Fin 2) | blMapping (i : Fin 2)

/-- The mapping table that a field is in. -/
def AbcSlot.home : AbcSlot → AbcHome
  | .num i | .mapNum i _ | .ambient i _ _ | .slpBrightnessFactor i _ _ => .slpMapping i
  | .blMapNum i | .blAmbient i _ | .backlight i _ => .blMapping i
  | _ => .config

def AllIn (home : AbcHome) (found : List (Store AbcSlot)) : Prop := ∀ st ∈ found, st.1.home = home

section Reader

variable {home : AbcHome} {nodes : List Node} {found : List (Store AbcSlot)}

lemma allIn_collect {read : Nat → Node → Except XmlFault (List (Store AbcSlot))} {n : Nat}
    (hread : ∀ k node here, read k node = .ok here → AllIn home here)
    (h : collect read n nodes = .ok found) : AllIn home found := by
  intro st hst
  obtain ⟨k, node, here, -, hhere, hst⟩ := (mem_collect h).mp hst
  exact hread _ node here hhere st hst

lemma allIn_nil (home : AbcHome) : AllIn home [] := List.forall_mem_nil _

lemma allIn_append {here rest : List (Store AbcSlot)} (h : AllIn home here) (h' : AllIn home rest) :
    AllIn home (here ++ rest) := by
  intro st hst
  rcases List.mem_append.mp hst with hst | hst
  · exact h st hst
  · exact h' st hst

lemma allIn_parseAt {name : Text} {walk : Node → Except XmlFault (List (Store AbcSlot))}
    (hwalk : ∀ node here, walk node = .ok here → AllIn home here)
    (h : parseAt name (onNode walk) nodes = .ok found) : AllIn home found := by
  cases hfind : findNode nodes name with
  | nil =>
    rw [parseAt_of_nil hfind] at h
    cases h
    exact allIn_nil _
  | cons node next =>
    rw [parseAt_of_cons hfind] at h
    exact hwalk node found h

section Params

variable {chain : Cascade AbcSlot} (hchain : ∀ p ∈ chain, ∀ s ∈ p.2, s.home = home)

include hchain

lemma allIn_parseChain {rest : List Node} (h : parseChain chain nodes = .ok (found, rest)) :
    AllIn home found := by
  induction chain generalizing nodes found rest with
  | nil =>
    cases h
    exact allIn_nil _
  | cons p chain ih =>
    obtain ⟨a, slot⟩ := p
    rw [List.forall_mem_cons] at hchain
    cases nodes with
    | nil =>
      cases h
      exact allIn_nil _
    | cons node next =>
      rw [parseChain_cons] at h
      split_ifs at h
      · simp only [bind_eq_ok, pure, Except.pure, Except.ok.injEq, Prod.mk.injEq] at h
        obtain ⟨store, hstore, r, hr, rfl, rfl⟩ := h
        cases slot with
        | none => cases hstore
        | some s =>
          cases hstore
          intro st hst
          rcases List.mem_cons.mp hst with rfl | hst
          · exact hchain.1 s rfl
          · exact ih hchain.2 hr st hst
      · exact ih hchain.2 h

lemma allIn_parseParams {fuel : Nat} (h : parseParams chain fuel nodes = .ok found) :
    AllIn home found := by
  induction fuel generalizing nodes found with
  | zero =>
    cases h
    exact allIn_nil _
  | succ fuel ih =>
    cases nodes with
    | nil =>
      cases h
      exact allIn_nil _
    | cons node next =>
      simp only [parseParams, bind_eq_ok, pure, Except.pure, Except.ok.injEq] at h
      obtain ⟨r, hr, rest, hrest, rfl⟩ := h
      exact allIn_append (allIn_parseChain hchain hr) (ih hrest)

end Params

lemma mem_parseScenes {walk : Fin 2 → List Node → Except XmlFault (List (Store AbcSlot))}
    {node : Node} (h : parseScenes walk node = .ok found) {st : Store AbcSlot} :
    st ∈ found ↔ ∃ (k : Nat) (i : Fin 2) (table : Node) (here : List (Store AbcSlot)),
      node.children[k]? = some table ∧ sceneMode table = some i ∧
        walk i table.children = .ok here ∧ st ∈ here := by
  rw [mem_collect h]
  constructor
  · rintro ⟨k, table, here, htable, hhere, hst⟩
    cases hmode : sceneMode table with
    | none =>
      simp only [hmode] at hhere
      cases hhere
      cases hst
    | some i =>
      simp only [hmode] at hhere
      exact ⟨k, i, table, here, htable, hmode, hhere, hst⟩
  · rintro ⟨k, i, table, here, htable, hmode, hhere, hst⟩
    refine ⟨k, table, here, htable, ?_, hst⟩
    simp only [hmode]
    exact hhere

lemma allIn_parseEpfConfig {node : Node} (h : parseEpfConfig node = .ok found) :
    AllIn .config found := by
  have hnext : ∀ fn node here, parseEpfNextConfig fn node = .ok here → AllIn .config here := by
    intro fn node here hhere st hst
    obtain ⟨k, i, table, found, -, -, hfound, hst⟩ := (mem_parseScenes hhere).mp hst
    refine allIn_collect (fun j number here hhere => allIn_parseParams ?_ hhere) hfound st hst
    simp only [epfChain, List.forall_mem_map, Option.mem_def, element_map_eq_some]
    rintro p - s ⟨j', -, rfl⟩
    rfl
  simp only [parseEpfConfig, bind_eq_ok, pure, Except.pure, Except.ok.injEq] at h
  obtain ⟨sp, hsp, sr, hsr, rfl⟩ := h
  exact allIn_append (allIn_parseAt (hnext _) hsp) (allIn_parseAt (hnext _) hsr)

lemma allIn_parseSlpConfig {node : Node} (h : parseSlpConfig node = .ok found) :
    AllIn .config found := by
  intro st hst
  obtain ⟨k, i, table, here, -, -, hhere, hst⟩ := (mem_parseScenes h).mp hst
  refine allIn_collect (fun j number here hhere => allIn_parseParams ?_ hhere) hhere st hst
  simp only [slpChain, List.forall_mem_map, Option.mem_def, element_map_eq_some]
  rintro p - s ⟨j', -, rfl⟩
  rfl

lemma home_slpCascade {i : Fin 2} {j k : Nat} {a : Text} {s : AbcSlot}
    (h : (slpCascade i j k).lookup a = some (some s)) : s.home = .slpMapping i := by
  rw [slpCascade_some] at h
  cases s with
  | ambient i' j' k' => exact congrArg AbcHome.slpMapping h.1.symm
  | slpBrightnessFactor i' j' k' => exact congrArg AbcHome.slpMapping h.1.symm
  | _ => exact h.elim

lemma home_blCascade {i : Fin 2} {k : Nat} {a : Text} {s : AbcSlot}
    (h : (blCascade i k).lookup a = some (some s)) : s.home = .blMapping i := by
  rw [blCascade_some] at h
  cases s with
  | blAmbient i' k' => exact congrArg AbcHome.blMapping (Fin.ext h.1.symm)
  | backlight i' k' => exact congrArg AbcHome.blMapping (Fin.ext h.1.symm)
  | _ => exact h.elim

lemma mem_storeCount {n m count : Nat} {f : Fin n → AbcSlot} {st : Store AbcSlot} :
    storeCount ((element n m).map f) count = .ok st ↔ ∃ j, m = j.val ∧ st = (f j, count) := by
  rw [element]
  split_ifs with hm
  · simp only [Option.map_some, storeCount, Except.ok.injEq]
    constructor
    · rintro rfl
      exact ⟨⟨m, hm⟩, rfl, rfl⟩
    · rintro ⟨j, rfl, rfl⟩
      rfl
  · simp only [Option.map_none, storeCount, reduceCtorEq, false_iff]
    rintro ⟨j, rfl, -⟩
    exact hm j.isLt

lemma mem_counted {cascade : Nat → Cascade AbcSlot} {n m count : Nat} {f : Fin n → AbcSlot}
    {items : List Node} (h : (do
      let items ← parseItems cascade items
      let mapNum ← storeCount ((element n m).map f) count
      return items ++ [mapNum]) = Except.ok found) :
    ∃ j, m = j.val ∧ ∀ st, st ∈ found ↔ st = (f j, count) ∨
      ∃ pairs, parseItems cascade items = .ok pairs ∧ st ∈ pairs := by
  simp only [bind_eq_ok, mem_storeCount, pure, Except.pure, Except.ok.injEq] at h
  obtain ⟨pairs, hpairs, -, ⟨j, hj, rfl⟩, rfl⟩ := h
  refine ⟨j, hj, fun st => ?_⟩
  rw [List.mem_append, List.mem_singleton, or_comm]
  simp only [hpairs, Except.ok.injEq, exists_eq_left']

lemma mem_parseSlpMappingChildTable {i : Fin 2} (h : parseSlpMappingChildTable i nodes = .ok found)
    {st : Store AbcSlot} : st ∈ found ↔ st = (.num i, nodes.length) ∨
      ∃ (j : Fin 16) (number : Node), nodes[j.val]? = some number ∧
        (st = (.mapNum i j, number.children.length) ∨
          ∃ items, parseItems (slpCascade i j) number.children = .ok items ∧ st ∈ items) := by
  obtain ⟨tables, htables, hfound⟩ := bind_eq_ok.mp h
  cases hfound
  rw [List.mem_append, List.mem_singleton, or_comm, mem_collect htables]
  simp only [Nat.zero_add]
  refine or_congr_right ⟨?_, ?_⟩
  · rintro ⟨k, number, here, hnumber, hhere, hst⟩
    obtain ⟨j, rfl, hmem⟩ := mem_counted hhere
    exact ⟨j, number, hnumber, (hmem st).mp hst⟩
  · rintro ⟨j, number, hnumber, hst⟩
    obtain ⟨here, hhere⟩ := collect_round htables hnumber
    rw [Nat.zero_add] at hhere
    obtain ⟨j', hj, hmem⟩ := mem_counted hhere
    obtain rfl := Fin.ext hj
    exact ⟨j, number, here, hnumber, hhere, (hmem st).mpr hst⟩

lemma mem_parseBlMappingTable {node : Node} (h : parseBlMappingTable node = .ok found)
    {st : Store AbcSlot} : st ∈ found ↔ ∃ (i : Fin 2) (table : Node),
      node.children[i.val]? = some table ∧ table.hasProp (ofString "mode") ∧
        (st = (.blMapNum i, table.children.length) ∨
          ∃ items, parseItems (blCascade i) table.children = .ok items ∧ st ∈ items) := by
  rw [mem_collect h]
  simp only [Nat.zero_add]
  constructor
  · rintro ⟨k, table, here, htable, hhere, hst⟩
    split_ifs at hhere with hmode
    · obtain ⟨i, rfl, hmem⟩ := mem_counted hhere
      exact ⟨i, table, htable, hmode, (hmem st).mp hst⟩
    · cases hhere
      cases hst
  · rintro ⟨i, table, htable, hmode, hst⟩
    obtain ⟨here, hhere⟩ := collect_round h htable
    rw [Nat.zero_add, if_pos hmode] at hhere
    obtain ⟨i', hi, hmem⟩ := mem_counted hhere
    obtain rfl := Fin.ext hi
    exact ⟨i, table, here, htable, (if_pos hmode).trans hhere, (hmem st).mpr hst⟩

lemma allIn_parseSlpMappingChildTable {i : Fin 2} (h : parseSlpMappingChildTable i nodes = .ok found) :
    AllIn (.slpMapping i) found := by
  intro st hst
  obtain rfl | ⟨j, number, -, rfl | ⟨items, hitems, hst⟩⟩ := (mem_parseSlpMappingChildTable h).mp hst
  · rfl
  · rfl
  · obtain ⟨k, item, -, a, -, hlookup, -⟩ := (mem_parseItems_number hitems).mp hst
    exact home_slpCascade hlookup

lemma home_parseSlpMappingTable {node : Node} (h : parseSlpMappingTable node = .ok found)
    {st : Store AbcSlot} (hst : st ∈ found) : ∃ i, st.1.home = .slpMapping i := by
  obtain ⟨k, i, table, here, -, -, hhere, hst⟩ := (mem_parseScenes h).mp hst
  exact ⟨i, allIn_parseSlpMappingChildTable hhere st hst⟩

lemma home_parseBlMappingTable {node : Node} (h : parseBlMappingTable node = .ok found)
    {st : Store AbcSlot} (hst : st ∈ found) : ∃ i, st.1.home = .blMapping i := by
  obtain ⟨i, table, -, -, rfl | ⟨items, hitems, hst⟩⟩ := (mem_parseBlMappingTable h).mp hst
  · exact ⟨i, rfl⟩
  · obtain ⟨k, item, -, a, -, hlookup, -⟩ := (mem_parseItems_number hitems).mp hst
    exact ⟨i, home_blCascade hlookup⟩

end Reader

/-! ### The slp tables behind the writer -/

lemma slpCascade_inj {i : Fin 2} {j k j' k' : Nat} {a a' : Text} {s : AbcSlot}
    (h : (slpCascade i j k).lookup a = some (some s))
    (h' : (slpCascade i j' k').lookup a' = some (some s)) : j = j' ∧ k = k' ∧ a = a' := by
  rw [slpCascade_some] at h h'
  cases s with
  | ambient i₁ j₁ k₁ =>
    exact ⟨h.2.1.trans h'.2.1.symm, h.2.2.1.trans h'.2.2.1.symm, h.2.2.2.trans h'.2.2.2.symm⟩
  | slpBrightnessFactor i₁ j₁ k₁ =>
    exact ⟨h.2.1.trans h'.2.1.symm, h.2.2.1.trans h'.2.2.1.symm, h.2.2.2.trans h'.2.2.2.symm⟩
  | _ => exact h.elim

lemma slpCascade_ambient (i : Fin 2) (j : Fin 16) (k : Fin 128) :
    (slpCascade i j k).lookup (ofString "ambient") = some (some (.ambient i j k)) :=
  slpCascade_some.mpr ⟨rfl, rfl, rfl, rfl⟩

lemma slpCascade_brightness (i : Fin 2) (j : Fin 16) (k : Fin 128) :
    (slpCascade i j k).lookup (ofString "brightness") = some (some (.slpBrightnessFactor i j k)) :=
  slpCascade_some.mpr ⟨rfl, rfl, rfl, rfl⟩

lemma add_one_ne (x : BitVec 16) : x + 1 ≠ x := by
  intro h
  bv_omega

section Slp

variable {ctx : PQCtx AbcSlot} {i : Fin 2} {numbers numbers' : List Node}
  {here found : List (Store AbcSlot)} (hw : SlpWritten ctx i numbers numbers')
  (hread : parseSlpMappingChildTable i numbers' = .ok here)
  (hfound : ∀ st : Store AbcSlot, st.1.home = .slpMapping i → (st ∈ found ↔ st ∈ here))

include hread hfound

lemma mem_num {v : Nat} : (AbcSlot.num i, v) ∈ found ↔ v = numbers'.length := by
  rw [hfound (AbcSlot.num i, v) rfl, mem_parseSlpMappingChildTable hread]
  constructor
  · rintro (hst | ⟨j, number, -, hst | ⟨items, hitems, hst⟩⟩)
    · exact (Prod.mk.inj hst).2
    · cases hst
    · obtain ⟨k, item, -, a, -, hlookup, -⟩ := (mem_parseItems_number hitems).mp hst
      exact (slpCascade_some.mp hlookup).elim
  · rintro rfl
    exact Or.inl rfl

lemma mem_mapNum {j : Fin 16} {v : Nat} : (AbcSlot.mapNum i j, v) ∈ found ↔
    ∃ number', numbers'[j.val]? = some number' ∧ v = number'.children.length := by
  rw [hfound (AbcSlot.mapNum i j, v) rfl, mem_parseSlpMappingChildTable hread]
  constructor
  · rintro (hst | ⟨j', number, hnumber, hst | ⟨items, hitems, hst⟩⟩)
    · cases hst
    · cases hst
      exact ⟨number, hnumber, rfl⟩
    · obtain ⟨k, item, -, a, -, hlookup, -⟩ := (mem_parseItems_number hitems).mp hst
      exact (slpCascade_some.mp hlookup).elim
  · rintro ⟨number', hnumber', rfl⟩
    exact Or.inr ⟨j, number', hnumber', Or.inl rfl⟩

include hw

/-- The pairs: those whose attribute is there, with the number of `ctx`. -/
lemma mem_slpPair {j : Fin 16} {k : Fin 128} {a : Text} {s : AbcSlot}
    (hs : (slpCascade i j k).lookup a = some (some s)) {v : Nat} : (s, v) ∈ found ↔
      ∃ number', numbers'[j.val]? = some number' ∧ k.val < number'.children.length ∧
        (∀ item ∈ (itemsOf (slpCount ctx i j) numbers[j.val]?)[k.val]?, item.hasProp a) ∧
        v = ctx.number s := by
  rw [hfound (s, v) (home_slpCascade hs), mem_parseSlpMappingChildTable hread]
  constructor
  · rintro (hst | ⟨j', number', hnumber', hst | ⟨items, hitems, hst⟩⟩)
    · cases hst
      exact (slpCascade_some.mp hs).elim
    · cases hst
      exact (slpCascade_some.mp hs).elim
    · obtain ⟨k', hk', a', t, hlookup, ht, hall, hv⟩ :=
        (mem_parseItems_written ctx (hw.items j' number' hnumber') (fun _ _ s h _ => ⟨s, h⟩)
          hitems).mp hst
      obtain ⟨hj, rfl, rfl⟩ := slpCascade_inj hs hlookup
      obtain rfl := Fin.ext hj
      cases hlookup.symm.trans ht
      exact ⟨number', hnumber', hk', hall, hv⟩
  · rintro ⟨number', hnumber', hk, hall, rfl⟩
    obtain ⟨tables, htables, -⟩ := bind_eq_ok.mp hread
    obtain ⟨counted, hcounted⟩ := collect_round htables hnumber'
    obtain ⟨items, hitems, -⟩ := bind_eq_ok.mp hcounted
    rw [Nat.zero_add] at hitems
    refine Or.inr ⟨j, number', hnumber', Or.inr ⟨items, hitems, ?_⟩⟩
    exact (mem_parseItems_written ctx (hw.items j number' hnumber') (fun _ _ s h _ => ⟨s, h⟩)
      hitems).mpr ⟨k, hk, a, s, hs, hs, hall, rfl⟩

omit hread hfound in
lemma exists_number (hnumbers : numbers ≠ []) {j : Nat} (hj : j < (ctx (.num i)).toNat) :
    ∃ number', numbers'[j]? = some number' := by
  have hlt : j < numbers'.length := by
    rw [hw.length, if_neg hnumbers]
    exact hj
  exact ⟨numbers'[j], List.getElem?_eq_getElem hlt⟩

lemma slpPair_restored {j : Fin 16} {k : Fin 128} {a : Text} {s : AbcSlot}
    (hs : (slpCascade i j k).lookup a = some (some s)) {number' : Node}
    (hnumber' : numbers'[j.val]? = some number') (hk : k.val < number'.children.length)
    (hall : ∀ item ∈ (itemsOf (slpCount ctx i j) numbers[j.val]?)[k.val]?, item.hasProp a)
    (ctx' : PQCtx AbcSlot) : ctx'.storeAll found s = ctx s := by
  rw [storeAll_of_mem (n := ctx.number s), ofNat_number]
  intro v
  rw [mem_slpPair hw hread hfound hs]
  constructor
  · rintro ⟨-, -, -, -, hv⟩
    exact hv
  · exact fun hv => ⟨number', hnumber', hk, hall, hv⟩

lemma slpPair_kept {j : Fin 16} {k : Fin 128} {a : Text} {s : AbcSlot}
    (hs : (slpCascade i j k).lookup a = some (some s))
    (hlack : ¬∀ item ∈ (itemsOf (slpCount ctx i j) numbers[j.val]?)[k.val]?, item.hasProp a)
    (ctx' : PQCtx AbcSlot) : ctx'.storeAll found s = ctx' s := by
  apply storeAll_of_notMem
  intro v hv
  obtain ⟨-, -, -, hall, -⟩ := (mem_slpPair hw hread hfound hs).mp hv
  exact hlack hall

/-! Whether a table is restored. -/

omit hw hread hfound in
lemma pairsFill_itemsOf (hcounted : EntriesCounted ctx i) {j : Nat} (hj : j < (ctx (.num i)).toNat)
    (h : ∀ number ∈ numbers[j]?, PairsFill (slpCount ctx i j) number.children) :
    PairsFill (slpCount ctx i j) (itemsOf (slpCount ctx i j) numbers[j]?) := by
  cases hnumber : numbers[j]? with
  | some number => exact h number hnumber
  | none =>
    have hpos := (hcounted.2 j hj).1
    refine ⟨?_, fun k hk item hitem a ha => ?_⟩
    · simp only [itemsOf, newItems, Option.map_none, Option.getD_none, ne_eq, List.replicate_eq_nil_iff]
      omega
    · have hmem := List.mem_of_getElem? hitem
      rw [List.eq_of_mem_replicate hmem]
      exact hasProp_newItem ha

lemma slpTable_restored (hcounted : EntriesCounted ctx i) (hfill : SlpFill ctx i numbers)
    (ctx' : PQCtx AbcSlot) : SlpTableRestored ctx (ctx'.storeAll found) i := by
  refine ⟨?_, fun j hj => ?_⟩
  · rw [storeAll_of_mem (fun v => mem_num hread hfound), hw.length, if_neg hfill.1,
      BitVec.ofNat_toNat, BitVec.setWidth_eq]
  · obtain ⟨number', hnumber'⟩ := exists_number hw hfill.1 hj
    have hpairs := pairsFill_itemsOf hcounted hj (hfill.2 j hj)
    have hlength : number'.children.length = (ctx (.mapNum i j)).toNat := by
      rw [(hw.items j number' hnumber').length, if_neg hpairs.1, slpCount_of_fin]
    have hmapNum : ∀ v, (AbcSlot.mapNum i j, v) ∈ found ↔ v = (ctx (.mapNum i j)).toNat := by
      intro v
      rw [mem_mapNum hread hfound, ← hlength]
      simp [hnumber']
    refine ⟨?_, fun k hk => ?_⟩
    · rw [storeAll_of_mem hmapNum, BitVec.ofNat_toNat, BitVec.setWidth_eq]
    · have hitems : ∀ a ∈ [ofString "ambient", ofString "brightness"],
          ∀ item ∈ (itemsOf (slpCount ctx i j) numbers[j.val]?)[k.val]?, item.hasProp a := by
        intro a ha item hitem
        exact hpairs.2 k (by rwa [slpCount_of_fin]) item hitem a ha
      constructor
      · exact slpPair_restored hw hread hfound (slpCascade_ambient i j k) hnumber' (hlength ▸ hk)
          (hitems _ (by simp)) ctx'
      · exact slpPair_restored hw hread hfound (slpCascade_brightness i j k) hnumber' (hlength ▸ hk)
          (hitems _ (by simp)) ctx'

/-- Where a table does not fill, a number of it is not restored into a memory where all are other
ones. -/
lemma slpFill_of_restored (hcounted : EntriesCounted ctx i) (hnum : 0 < (ctx (.num i)).toNat)
    (h : SlpTableRestored ctx (PQCtx.storeAll (fun s => ctx s + 1) found) i) :
    SlpFill ctx i numbers := by
  have hnumbers : numbers ≠ [] := by
    intro hnil
    have hzero := h.1
    rw [storeAll_of_mem (fun v => mem_num hread hfound), hw.length, if_pos hnil] at hzero
    rw [← hzero] at hnum
    exact absurd hnum (by simp)
  refine ⟨hnumbers, fun j hj number hnumber => ?_⟩
  obtain ⟨number', hnumber'⟩ := exists_number hw hnumbers hj
  have hj16 : j < 16 := hj.trans_le hcounted.1
  have hold : itemsOf (slpCount ctx i j) numbers[j]? = number.children := by
    rw [Option.mem_def.mp hnumber]
    rfl
  have hlength := (hw.items j number' hnumber').length
  obtain ⟨hmapNum, hpairs⟩ := h.2 ⟨j, hj16⟩ hj
  have hcount := slpCount_of_fin ctx (i := i) ⟨j, hj16⟩
  dsimp only at hcount
  refine ⟨?_, fun k hk item hitem a ha => ?_⟩
  · intro hnil
    have hmem : ∀ v, (AbcSlot.mapNum i ⟨j, hj16⟩, v) ∈ found ↔ v = 0 := by
      intro v
      rw [mem_mapNum hread hfound]
      simp [hnumber', hlength, hold, hnil]
    rw [storeAll_of_mem hmem] at hmapNum
    have hpos := (hcounted.2 j hj).1
    rw [hcount, ← hmapNum] at hpos
    exact absurd hpos (by simp)
  · by_contra hlack
    have hlack' : ¬∀ item ∈ (itemsOf (slpCount ctx i j) numbers[j]?)[k]?, item.hasProp a := by
      intro hall
      exact hlack (hall item (hold ▸ hitem))
    have hk128 : k < 128 := hk.trans_le (hcounted.2 j hj).2
    rw [hcount] at hk
    obtain ⟨hambient, hbrightness⟩ := hpairs ⟨k, hk128⟩ hk
    rw [List.mem_cons, List.mem_singleton] at ha
    rcases ha with rfl | rfl
    · rw [slpPair_kept hw hread hfound (slpCascade_ambient i ⟨j, hj16⟩ ⟨k, hk128⟩) hlack'] at hambient
      exact add_one_ne _ hambient
    · rw [slpPair_kept hw hread hfound (slpCascade_brightness i ⟨j, hj16⟩ ⟨k, hk128⟩) hlack']
        at hbrightness
      exact add_one_ne _ hbrightness

end Slp

lemma blCascade_ambient (i : Fin 2) (k : Fin 128) :
    (blCascade i k).lookup (ofString "ambient") = some (some (.blAmbient i k)) :=
  blCascade_some.mpr ⟨rfl, rfl, rfl⟩

lemma blCascade_brightness (i : Fin 2) (k : Fin 128) :
    (blCascade i k).lookup (ofString "brightness") = some (some (.backlight i k)) :=
  blCascade_some.mpr ⟨rfl, rfl, rfl⟩

lemma blCascade_inj {i : Fin 2} {k k' : Nat} {a a' : Text} {s : AbcSlot}
    (h : (blCascade i k).lookup a = some (some s)) (h' : (blCascade i k').lookup a' = some (some s)) :
    k = k' ∧ a = a' := by
  rw [blCascade_some] at h h'
  cases s with
  | blAmbient i₁ k₁ => exact ⟨h.2.1.trans h'.2.1.symm, h.2.2.trans h'.2.2.symm⟩
  | backlight i₁ k₁ => exact ⟨h.2.1.trans h'.2.1.symm, h.2.2.trans h'.2.2.symm⟩
  | _ => exact h.elim

lemma blCascade_other {i : Fin 2} {k : Nat} {a : Text} {s : AbcSlot}
    (h : (blCascade i k).lookup a = some (some s)) (i' : Fin 2) :
    ∃ t, (blCascade i' k).lookup a = some (some t) := by
  rw [blCascade_some] at h
  cases s with
  | blAmbient i₁ k₁ =>
    obtain ⟨-, rfl, rfl⟩ := h
    exact ⟨_, blCascade_ambient i' k₁⟩
  | backlight i₁ k₁ =>
    obtain ⟨-, rfl, rfl⟩ := h
    exact ⟨_, blCascade_brightness i' k₁⟩
  | _ => exact h.elim

section Bl

variable {ctx : PQCtx AbcSlot} {i i' : Fin 2} {items items' : List Node}
  {pairs found : List (Store AbcSlot)}
  (hw : ItemsWritten ctx (blCascade i') (ctx (.blMapNum i')).toNat items items')
  (hpairs : parseItems (blCascade i) items' = .ok pairs)
  (hfound : ∀ st : Store AbcSlot, st.1.home = .blMapping i →
    (st ∈ found ↔ st = (.blMapNum i, items'.length) ∨ st ∈ pairs))

include hpairs hfound

lemma mem_blMapNum {v : Nat} : (AbcSlot.blMapNum i, v) ∈ found ↔ v = items'.length := by
  rw [hfound (AbcSlot.blMapNum i, v) rfl]
  constructor
  · rintro (hst | hst)
    · exact (Prod.mk.inj hst).2
    · obtain ⟨k, item, -, a, -, hlookup, -⟩ := (mem_parseItems_number hpairs).mp hst
      exact (blCascade_some.mp hlookup).elim
  · rintro rfl
    exact Or.inl rfl

include hw

/-- The pairs: those whose attribute is there, with the number of the table that was written. -/
lemma mem_blPair {k : Fin 128} {a : Text} {s t : AbcSlot}
    (hs : (blCascade i k).lookup a = some (some s)) (ht : (blCascade i' k).lookup a = some (some t))
    {v : Nat} : (s, v) ∈ found ↔ k.val < items'.length ∧ (∀ item ∈ items[k.val]?, item.hasProp a) ∧
      v = ctx.number t := by
  rw [hfound (s, v) (home_blCascade hs),
    mem_parseItems_written ctx hw (fun _ _ _ h _ => blCascade_other h i') hpairs]
  constructor
  · rintro (hst | ⟨k', hk', a', t', hlookup, ht', hall, hv⟩)
    · cases hst
      exact (blCascade_some.mp hs).elim
    · obtain ⟨rfl, rfl⟩ := blCascade_inj hs hlookup
      cases ht.symm.trans ht'
      exact ⟨hk', hall, hv⟩
  · rintro ⟨hk, hall, hv⟩
    exact Or.inr ⟨k, hk, a, t, hs, ht, hall, hv⟩

lemma blPair_read {k : Fin 128} {a : Text} {s t : AbcSlot}
    (hs : (blCascade i k).lookup a = some (some s)) (ht : (blCascade i' k).lookup a = some (some t))
    (hk : k.val < items'.length) (hall : ∀ item ∈ items[k.val]?, item.hasProp a)
    (ctx' : PQCtx AbcSlot) : ctx'.storeAll found s = BitVec.ofNat _ (ctx.number t) := by
  apply storeAll_of_mem
  intro v
  rw [mem_blPair hw hpairs hfound hs ht]
  exact ⟨fun hv => hv.2.2, fun hv => ⟨hk, hall, hv⟩⟩

lemma blPair_kept {k : Fin 128} {a : Text} {s t : AbcSlot}
    (hs : (blCascade i k).lookup a = some (some s)) (ht : (blCascade i' k).lookup a = some (some t))
    (hlack : ¬∀ item ∈ items[k.val]?, item.hasProp a)
    (ctx' : PQCtx AbcSlot) : ctx'.storeAll found s = ctx' s := by
  apply storeAll_of_notMem
  intro v hv
  exact hlack ((mem_blPair hw hpairs hfound hs ht).mp hv).2.1

lemma blTable_restored (hfill : PairsFill (ctx (.blMapNum i')).toNat items) (hsame : SameBl ctx i i')
    (ctx' : PQCtx AbcSlot) : BlTableRestored ctx (ctx'.storeAll found) i := by
  have hlength : items'.length = (ctx (.blMapNum i')).toNat := by rw [hw.length, if_neg hfill.1]
  refine ⟨?_, fun k hk => ?_⟩
  · rw [storeAll_of_mem (fun v => mem_blMapNum hpairs hfound), hlength, hsame.1, BitVec.ofNat_toNat]
    exact BitVec.setWidth_eq (ctx (.blMapNum i))
  · rw [← hsame.1] at hk
    have hitems : ∀ a ∈ [ofString "ambient", ofString "brightness"],
        ∀ item ∈ items[k.val]?, item.hasProp a :=
      fun a ha item hitem => hfill.2 k hk item hitem a ha
    rw [← hlength] at hk
    have hambient := blPair_read hw hpairs hfound (blCascade_ambient i k) (blCascade_ambient i' k) hk
      (hitems _ (by simp)) ctx'
    have hbacklight := blPair_read hw hpairs hfound (blCascade_brightness i k)
      (blCascade_brightness i' k) hk (hitems _ (by simp)) ctx'
    rw [hlength, hsame.1] at hk
    constructor
    · exact hambient.trans ((ofNat_number ctx (.blAmbient i' k)).trans (hsame.2 k hk).1)
    · exact hbacklight.trans ((ofNat_number ctx (.backlight i' k)).trans (hsame.2 k hk).2)

/-- Where a table does not fill, or is in the place of another, a number is not restored. -/
lemma blFill_of_restored (hitems : items ≠ []) (hle : (ctx (.blMapNum i)).toNat ≤ 128)
    (h : BlTableRestored ctx (PQCtx.storeAll (fun s => ctx s + 1) found) i) :
    PairsFill (ctx (.blMapNum i')).toNat items ∧ SameBl ctx i i' := by
  have hlength : items'.length = (ctx (.blMapNum i')).toNat := by rw [hw.length, if_neg hitems]
  have hmapNum : ctx (.blMapNum i') = ctx (.blMapNum i) := by
    rw [← h.1, storeAll_of_mem (fun v => mem_blMapNum hpairs hfound), hlength, BitVec.ofNat_toNat]
    exact (BitVec.setWidth_eq (ctx (.blMapNum i'))).symm
  have hprop : ∀ k : Fin 128, k.val < (ctx (.blMapNum i)).toNat →
      ∀ a ∈ [ofString "ambient", ofString "brightness"], ∀ item ∈ items[k.val]?, item.hasProp a := by
    intro k hk a ha
    by_contra hlack
    obtain ⟨hambient, hbacklight⟩ := h.2 k hk
    rw [List.mem_cons, List.mem_singleton] at ha
    rcases ha with rfl | rfl
    · rw [blPair_kept hw hpairs hfound (blCascade_ambient i k) (blCascade_ambient i' k) hlack]
        at hambient
      exact add_one_ne _ hambient
    · rw [blPair_kept hw hpairs hfound (blCascade_brightness i k) (blCascade_brightness i' k) hlack]
        at hbacklight
      exact add_one_ne _ hbacklight
  refine ⟨⟨hitems, fun k hk item hitem a ha => ?_⟩, hmapNum, fun k hk => ?_⟩
  · rw [hmapNum] at hk
    exact hprop ⟨k, hk.trans_le hle⟩ hk a ha item hitem
  · have hk' : k.val < items'.length := by rwa [hlength, hmapNum]
    obtain ⟨hambient, hbacklight⟩ := h.2 k hk
    rw [blPair_read hw hpairs hfound (blCascade_ambient i k) (blCascade_ambient i' k) hk'
      (hprop k hk _ (by simp))] at hambient
    rw [blPair_read hw hpairs hfound (blCascade_brightness i k) (blCascade_brightness i' k) hk'
      (hprop k hk _ (by simp))] at hbacklight
    exact ⟨(ofNat_number ctx (.blAmbient i' k)).symm.trans hambient,
      (ofNat_number ctx (.backlight i' k)).symm.trans hbacklight⟩

end Bl

section Parts

variable {nodes : List Node} {found : List (Store AbcSlot)}

lemma mem_parseAbc (h : parseAbc nodes = .ok found) :
    ∃ slpMapping blMapping,
      parseSlpMappingTable (.mk [] [] (tablesOf nodes (ofString "slp_mapping_table"))) =
        .ok slpMapping ∧
      parseBlMappingTable (.mk [] [] (tablesOf nodes (ofString "bl_mapping_table"))) =
        .ok blMapping ∧
      ∀ (st : Store AbcSlot) (i : Fin 2),
        (st.1.home = .slpMapping i → (st ∈ found ↔ st ∈ slpMapping)) ∧
        (st.1.home = .blMapping i → (st ∈ found ↔ st ∈ blMapping)) := by
  simp only [parseAbc, bind_eq_ok, pure, Except.pure, Except.ok.injEq] at h
  obtain ⟨epf, hepf, slp, hslp, slpMapping, hslpMapping, blMapping, hblMapping, version, hversion,
    rfl⟩ := h
  rw [@parseAt_tables _ _ _ (fun tables => parseSlpMappingTable (.mk [] [] tables))
    (fun node => by cases node; rfl) rfl] at hslpMapping
  rw [@parseAt_tables _ _ _ (fun tables => parseBlMappingTable (.mk [] [] tables))
    (fun node => by cases node; rfl) rfl] at hblMapping
  have hconfig : ∀ st : Store AbcSlot, st ∈ epf ∨ st ∈ slp ∨ st ∈ version → st.1.home = .config := by
    rintro st (hst | hst | hst)
    · exact allIn_parseAt (fun _ _ => allIn_parseEpfConfig) hepf st hst
    · exact allIn_parseAt (fun _ _ => allIn_parseSlpConfig) hslp st hst
    · obtain ⟨hs, -⟩ := (mem_parseVersionAt hversion).mp (List.mem_map_of_mem hst)
      rw [hs]
      rfl
  refine ⟨slpMapping, blMapping, hslpMapping, hblMapping, fun st i => ⟨fun hi => ?_, fun hi => ?_⟩⟩
  · simp only [List.mem_append]
    have hother := hconfig st
    have hbl : st ∉ blMapping := by
      intro hst
      obtain ⟨i', hi'⟩ := home_parseBlMappingTable hblMapping hst
      rw [hi] at hi'
      cases hi'
    rw [hi] at hother
    simp only [reduceCtorEq, imp_false, not_or] at hother
    tauto
  · simp only [List.mem_append]
    have hother := hconfig st
    have hslp : st ∉ slpMapping := by
      intro hst
      obtain ⟨i', hi'⟩ := home_parseSlpMappingTable hslpMapping hst
      rw [hi] at hi'
      cases hi'
    rw [hi] at hother
    simp only [reduceCtorEq, imp_false, not_or] at hother
    tauto

end Parts

section Scenes

variable {walk : Fin 2 → List Node → Except XmlFault (List Node)} {tables tables' : List Node}

lemma exists_scene (hholds : HoldsTables tables) (h : updateTables walk tables = .ok tables')
    (i : Fin 2) : ∃ (k : Nat) (table : Node) (children : List Node),
      (∀ k' t, tables[k']? = some t ∧ sceneMode t = some i ↔ k' = k ∧ t = table) ∧
      walk i table.children = .ok children ∧
      ∀ k' t, tables'[k']? = some t ∧ sceneMode t = some i ↔
        k' = k ∧ t = table.withChildren children := by
  obtain ⟨k, hk, hunique⟩ := hholds i
  obtain ⟨table, htable, hmode⟩ := Option.bind_eq_some_iff.mp hk
  have hlt : k < tables'.length := by
    rw [length_updateEach h]
    exact (List.getElem?_eq_some_iff.mp htable).1
  obtain ⟨old, hold, hwritten⟩ := (getElem?_updateTables h).mp (List.getElem?_eq_getElem hlt)
  cases htable.symm.trans hold
  simp only [hmode] at hwritten
  obtain ⟨children, hchildren, hnew⟩ := hwritten
  have hnew' : tables'[k]? = some (table.withChildren children) := by
    rw [List.getElem?_eq_getElem hlt, hnew]
  refine ⟨k, table, children, fun k' t => ⟨?_, ?_⟩, hchildren, fun k' t => ⟨?_, ?_⟩⟩
  · rintro ⟨ht, hscene⟩
    obtain rfl := hunique k' (by simp only [ht, Option.bind_some, hscene])
    exact ⟨rfl, Option.some.inj (ht.symm.trans htable)⟩
  · rintro ⟨rfl, rfl⟩
    exact ⟨htable, hmode⟩
  · rintro ⟨ht, hscene⟩
    obtain ⟨old', hold', hwritten'⟩ := (getElem?_updateTables h).mp ht
    have hscene' : sceneMode old' = some i := by
      cases hmode' : sceneMode old' with
      | none =>
        simp only [hmode'] at hwritten'
        rw [hwritten', hmode'] at hscene
        cases hscene
      | some i' =>
        simp only [hmode'] at hwritten'
        obtain ⟨children', -, rfl⟩ := hwritten'
        rw [sceneMode_withChildren, hmode'] at hscene
        exact hscene
    obtain rfl := hunique k' (by simp only [hold', Option.bind_some, hscene'])
    exact ⟨rfl, Option.some.inj (ht.symm.trans hnew')⟩
  · rintro ⟨rfl, rfl⟩
    exact ⟨hnew', (sceneMode_withChildren _ _).trans hmode⟩

lemma hasProp_of_scene {table : Node} {i : Fin 2} (h : sceneMode table = some i) :
    table.hasProp (ofString "mode") := by
  obtain ⟨mode, hmode, -⟩ := Option.bind_eq_some_iff.mp h
  rw [Node.hasProp, hmode]
  rfl

lemma hasMode_updateTables (h : updateTables walk tables = .ok tables') {k : Nat} {table : Node}
    (htable : tables[k]? = some table) : ∃ table', tables'[k]? = some table' ∧
      (table'.hasProp (ofString "mode") ↔ table.hasProp (ofString "mode")) := by
  have hlt : k < tables'.length := by
    rw [length_updateEach h]
    exact (List.getElem?_eq_some_iff.mp htable).1
  refine ⟨_, List.getElem?_eq_getElem hlt, ?_⟩
  obtain ⟨old, hold, hwritten⟩ := (getElem?_updateTables h).mp (List.getElem?_eq_getElem hlt)
  cases htable.symm.trans hold
  cases hmode : sceneMode table with
  | none =>
    simp only [hmode] at hwritten
    rw [hwritten]
  | some i =>
    simp only [hmode] at hwritten
    obtain ⟨children, -, hnew⟩ := hwritten
    rw [hnew, hasProp_withChildren]

lemma scene_at (hholds : HoldsTables tables)
    (hplace : ∀ (k : Nat) (table : Node), tables[k]? = some table →
      table.hasProp (ofString "mode") → k < 2) (i : Fin 2) :
    ∃ (table : Node) (i' : Fin 2), tables[i.val]? = some table ∧ sceneMode table = some i' := by
  obtain ⟨k₀, h₀, -⟩ := hholds 0
  obtain ⟨k₁, h₁, -⟩ := hholds 1
  have hne : k₀ ≠ k₁ := by
    rintro rfl
    cases h₀.symm.trans h₁
  obtain ⟨t₀, ht₀, hmode₀⟩ := Option.bind_eq_some_iff.mp h₀
  obtain ⟨t₁, ht₁, hmode₁⟩ := Option.bind_eq_some_iff.mp h₁
  have hk₀ := hplace k₀ t₀ ht₀ (hasProp_of_scene hmode₀)
  have hk₁ := hplace k₁ t₁ ht₁ (hasProp_of_scene hmode₁)
  obtain hi | hi : i.val = k₀ ∨ i.val = k₁ := by omega
  · exact ⟨t₀, 0, hi ▸ ht₀, hmode₀⟩
  · exact ⟨t₁, 1, hi ▸ ht₁, hmode₁⟩

end Scenes

section Restored

variable {ctx : PQCtx AbcSlot} (hctx : AbcInRange ctx) {tables tables' : List Node}
  {found : List (Store AbcSlot)}

include hctx

lemma slpRestored_iff (hmode : ctx .slpblMode = 1) (hholds : HoldsTables tables)
    (h : updateTables (updateSlpMapTable ctx) tables = .ok tables')
    {slpMapping : List (Store AbcSlot)}
    (hparse : parseSlpMappingTable (.mk [] [] tables') = .ok slpMapping)
    (hfound : ∀ (st : Store AbcSlot) (i : Fin 2), st.1.home = .slpMapping i →
      (st ∈ found ↔ st ∈ slpMapping)) :
    (∀ (ctx' : PQCtx AbcSlot) i, SlpTableRestored ctx (ctx'.storeAll found) i) ↔
      ScenesFill (SlpFill ctx) tables := by
  have htable : ∀ i : Fin 2, ∃ table numbers' here,
      (∀ t, t ∈ tables ∧ sceneMode t = some i ↔ t = table) ∧
      SlpWritten ctx i table.children numbers' ∧
      parseSlpMappingChildTable i numbers' = .ok here ∧
      ∀ st : Store AbcSlot, st.1.home = .slpMapping i → (st ∈ found ↔ st ∈ here) := by
    intro i
    obtain ⟨k, table, numbers', hold, hnumbers', hnew⟩ := exists_scene hholds h i
    obtain ⟨hget, hscene⟩ := (hnew k _).mpr ⟨rfl, rfl⟩
    obtain ⟨here, hhere⟩ := collect_round hparse hget
    simp only [hscene, children_withChildren] at hhere
    refine ⟨table, numbers', here, fun t => ⟨?_, ?_⟩, slpWritten hctx hmode hnumbers', hhere, ?_⟩
    · rintro ⟨ht, hmode'⟩
      obtain ⟨k', hk'⟩ := List.mem_iff_getElem?.mp ht
      exact ((hold k' t).mp ⟨hk', hmode'⟩).2
    · rintro rfl
      obtain ⟨hk, hmode'⟩ := (hold k t).mpr ⟨rfl, rfl⟩
      exact ⟨List.mem_of_getElem? hk, hmode'⟩
    · intro st hst
      rw [hfound st i hst, mem_parseScenes hparse]
      constructor
      · rintro ⟨k', i', t, found', ht, hscene', hfound', hmem⟩
        have hhome := allIn_parseSlpMappingChildTable hfound' st hmem
        rw [hst] at hhome
        cases hhome
        obtain ⟨rfl, rfl⟩ := (hnew k' t).mp ⟨ht, hscene'⟩
        rw [children_withChildren, hhere] at hfound'
        cases hfound'
        exact hmem
      · intro hmem
        refine ⟨k, i, _, here, hget, hscene, ?_, hmem⟩
        rwa [children_withChildren]
  constructor
  · intro hrestored table hmem i hscene
    obtain ⟨table', numbers', here, hunique, hw, hhere, hmem'⟩ := htable i
    obtain rfl := (hunique table).mp ⟨hmem, hscene⟩
    exact slpFill_of_restored hw hhere hmem' (counted hctx hmode i) (hctx.num i).1 (hrestored _ i)
  · intro hfill ctx' i
    obtain ⟨table, numbers', here, hunique, hw, hhere, hmem⟩ := htable i
    obtain ⟨htables, hscene⟩ := (hunique table).mpr rfl
    exact slpTable_restored hw hhere hmem (counted hctx hmode i) (hfill table htables i hscene) ctx'

/-- The bl tables that the writer got through are restored exactly when they fill. -/
lemma blRestored_iff (hmode : ctx .slpblMode = 2) (hholds : HoldsTables tables)
    (h : updateTables (updateBlTable ctx) tables = .ok tables') (hfits : BlTablesFit tables')
    {blMapping : List (Store AbcSlot)}
    (hparse : parseBlMappingTable (.mk [] [] tables') = .ok blMapping)
    (hfound : ∀ (st : Store AbcSlot) (i : Fin 2), st.1.home = .blMapping i →
      (st ∈ found ↔ st ∈ blMapping)) :
    (∀ (ctx' : PQCtx AbcSlot) i, BlTableRestored ctx (ctx'.storeAll found) i) ↔ BlFill ctx tables := by
  have hplace : ∀ (k : Nat) (table : Node), tables[k]? = some table →
      table.hasProp (ofString "mode") → k < 2 := by
    intro k table htable hprop
    obtain ⟨table', htable', hsame⟩ := hasMode_updateTables h htable
    exact (hfits k table' htable' (hsame.mpr hprop)).1
  have htable : ∀ (i : Fin 2) (table : Node) (i' : Fin 2), tables[i.val]? = some table →
      sceneMode table = some i' → ∃ items' pairs, table.children ≠ [] ∧
        ItemsWritten ctx (blCascade i') (ctx (.blMapNum i')).toNat table.children items' ∧
        parseItems (blCascade i) items' = .ok pairs ∧
        ∀ st : Store AbcSlot, st.1.home = .blMapping i →
          (st ∈ found ↔ st = (.blMapNum i, items'.length) ∨ st ∈ pairs) := by
    intro i table i' hget hscene
    have hlt : i.val < tables'.length := by
      rw [length_updateEach h]
      exact (List.getElem?_eq_some_iff.mp hget).1
    have hget' := List.getElem?_eq_getElem hlt
    obtain ⟨old, hold, hwritten⟩ := (getElem?_updateTables h).mp hget'
    cases hget.symm.trans hold
    simp only [hscene] at hwritten
    obtain ⟨items', hitems', hnew⟩ := hwritten
    rw [hnew] at hget'
    have hprop : (table.withChildren items').hasProp (ofString "mode") := by
      rw [hasProp_withChildren]
      exact hasProp_of_scene hscene
    obtain ⟨here, hhere⟩ := collect_round hparse hget'
    rw [if_pos hprop, Nat.zero_add, children_withChildren] at hhere
    obtain ⟨pairs, hpairs, -⟩ := bind_eq_ok.mp hhere
    refine ⟨items', pairs, (succeeds_updateBlTable hctx hmode).mp (by rw [hitems']; trivial),
      blItemsWritten hctx hmode hitems', hpairs, fun st hst => ?_⟩
    rw [hfound st i hst, mem_parseBlMappingTable hparse]
    constructor
    · rintro ⟨j, t, ht, -, hmem⟩
      have hj : j = i := by
        rcases hmem with rfl | ⟨pairs', hpairs', hmem⟩
        · exact AbcHome.blMapping.inj hst
        · obtain ⟨k, item, -, a, -, hlookup, -⟩ := (mem_parseItems_number hpairs').mp hmem
          exact AbcHome.blMapping.inj ((home_blCascade hlookup).symm.trans hst)
      subst hj
      cases hget'.symm.trans ht
      rw [children_withChildren] at hmem
      rcases hmem with hmem | ⟨pairs', hpairs', hmem⟩
      · exact Or.inl hmem
      · cases hpairs.symm.trans hpairs'
        exact Or.inr hmem
    · intro hmem
      refine ⟨i, _, hget', hprop, ?_⟩
      rw [children_withChildren]
      exact hmem.imp_right fun hmem => ⟨pairs, hpairs, hmem⟩
  constructor
  · intro hrestored
    refine ⟨hplace, fun i table i' hget hscene => ?_⟩
    obtain ⟨items', pairs, hitems, hw, hpairs, hmem⟩ := htable i table i' hget hscene
    exact blFill_of_restored hw hpairs hmem hitems (hctx.blMapNum hmode i).2 (hrestored _ i)
  · intro hfill ctx' i
    obtain ⟨table, i', hget, hscene⟩ := scene_at hholds hplace i
    obtain ⟨items', pairs, hitems, hw, hpairs, hmem⟩ := htable i table i' hget hscene
    obtain ⟨hpairsFill, hsame⟩ := hfill.items i table i' hget hscene
    exact blTable_restored hw hpairs hmem hpairsFill hsame ctx'

/-- The bl tables that were written fit, where they were the first two elements. -/
lemma blTablesFit_written (hmode : ctx .slpblMode = 2) (hholds : HoldsTables tables)
    (h : updateTables (updateBlTable ctx) tables = .ok tables')
    (hplace : ∀ (k : Nat) (table : Node), tables[k]? = some table →
      table.hasProp (ofString "mode") → k < 2) : BlTablesFit tables' := by
  intro k table' htable' hprop
  have hlt := (List.getElem?_eq_some_iff.mp htable').1
  rw [length_updateEach h] at hlt
  have hget := List.getElem?_eq_getElem hlt
  obtain ⟨written, hwritten, hsame⟩ := hasMode_updateTables h hget
  cases htable'.symm.trans hwritten
  have hk := hplace k _ hget (hsame.mp hprop)
  obtain ⟨table, i', hget', hscene⟩ := scene_at hholds hplace ⟨k, hk⟩
  obtain ⟨old, hold, hnew⟩ := (getElem?_updateTables h).mp htable'
  cases hget'.symm.trans hold
  simp only [hscene] at hnew
  obtain ⟨items', hitems', rfl⟩ := hnew
  refine ⟨hk, itemsFit_of_length ?_⟩
  rw [children_withChildren, (blItemsWritten hctx hmode hitems').length]
  split_ifs
  · exact Nat.zero_le _
  · exact (hctx.blMapNum hmode i').2

end Restored

/-! ### The round trip -/

lemma abcRestores_iff {ctx : PQCtx AbcSlot} {root : Node} (hroot : root.name = ofString "root") :
    AbcRestores ctx root ↔ ∃ nodes' found, updateAbc ctx root.children = .ok nodes' ∧
      parseAbc nodes' = .ok found ∧
        ∀ ctx' : PQCtx AbcSlot, TablesRestored ctx (ctx'.storeAll found) := by
  simp only [AbcRestores, AbcParser.updateXml, updateRoot, AbcParser.parseXml, parseRoot, hroot, ne_eq,
    not_true_eq_false, if_false, bind_eq_ok, pure, Except.pure, Except.ok.injEq, Prod.mk.injEq,
    true_and]
  constructor
  · rintro ⟨root', ⟨nodes', hupdate, rfl⟩, hparse⟩
    rw [name_withChildren, hroot] at hparse
    simp only [children_withChildren, not_true_eq_false, if_false, bind_eq_ok, Except.ok.injEq,
      Prod.mk.injEq, true_and] at hparse
    obtain ⟨-, ⟨found, hfound, -⟩, -⟩ := hparse ctx
    refine ⟨nodes', found, hupdate, hfound, fun ctx' => ?_⟩
    obtain ⟨ctx'', ⟨found', hfound', rfl⟩, hrestored⟩ := hparse ctx'
    cases hfound.symm.trans hfound'
    exact hrestored
  · rintro ⟨nodes', found, hupdate, hfound, hrestored⟩
    refine ⟨_, ⟨nodes', hupdate, rfl⟩, fun ctx' => ⟨_, ?_, hrestored ctx'⟩⟩
    rw [name_withChildren, hroot, children_withChildren, hfound]
    simp

section Fills

variable {ctx : PQCtx AbcSlot} {root : Node} (hctx : AbcInRange ctx) (hholds : AbcHolds ctx root)
  (hfills : AbcFills ctx root.children)

include hctx hfills

lemma succeeds_of_fills : (updateAbc ctx root.children).Succeeds fun _ => True := by
  refine (succeeds_updateAbc ctx).mpr ⟨(succeeds_updateEpfSections hctx).mpr hfills.epf, ?_,
    succeeds_slpMappingTables hctx, ?_, hfills.version⟩
  · rw [succeeds_updateTables]
    exact fun table htable i hscene =>
      (succeeds_slpTable (hctx.num i)).mpr (hfills.slp table htable i hscene)
  · have hbl := hfills.blMapping
    rw [blMappingTables]
    split_ifs at hbl ⊢ with hmode
    · rw [succeeds_updateTables]
      intro table htable i hscene
      obtain ⟨k, hk⟩ := List.mem_iff_getElem?.mp htable
      have hlt := hbl.place k table hk (hasProp_of_scene hscene)
      exact (succeeds_updateBlTable hctx hmode).mpr (hbl.items ⟨k, hlt⟩ table i hk hscene).1.1
    · trivial

include hholds

lemma abcFits_of_fills {nodes' : List Node} (h : AbcWritten ctx root.children nodes') :
    AbcFits nodes' := by
  refine ⟨scenesFit_updateEpfSections hctx h.epf,
    scenesFit_updateTables (fun i _ _ => entriesFit_slpTable (hctx.num i)) h.slp, ?_, ?_,
    h.version.mpr hfills.version⟩
  · have htables := h.slpMapping
    have hfits := hfills.slpMapping
    rw [slpMappingTables] at htables
    split_ifs at htables hfits with hmode
    · exact scenesFit_updateTables
        (fun _ _ _ hwritten => mappingFits hctx hmode (slpWritten hctx hmode hwritten)) htables
    · rwa [← Except.ok.inj htables]
  · have htables := h.blMapping
    have hfits := hfills.blMapping
    rw [blMappingTables] at htables
    split_ifs at htables hfits with hmode
    · exact blTablesFit_written hctx hmode (hholds.bl hmode) htables hfits.place
    · rwa [← Except.ok.inj htables]

end Fills

/-- **Saving and loading the abc mapping tables**: the tables of the mode are restored exactly when
they fill, and nothing is in the way of the other sections. -/
theorem abc_tables_restored_iff {ctx : PQCtx AbcSlot} {root : Node} (hctx : AbcInRange ctx)
    (hholds : AbcHolds ctx root) : AbcRestores ctx root ↔ AbcFills ctx root.children := by
  rw [abcRestores_iff hholds.name]
  constructor
  · rintro ⟨nodes', found, hupdate, hfound, hrestored⟩
    have hwritten := abcWritten ctx hupdate
    obtain ⟨hepf, hslp, -, -, hversion⟩ := (succeeds_updateAbc ctx).mp (by rw [hupdate]; trivial)
    have hfits : AbcFits nodes' := succeeds_parseAbc.mp (by rw [hfound]; trivial)
    obtain ⟨slpMapping, blMapping, hslpMapping, hblMapping, hmem⟩ := mem_parseAbc hfound
    refine ⟨(succeeds_updateEpfSections hctx).mp hepf, ?_, ?_, ?_, hversion⟩
    · rw [succeeds_updateTables] at hslp
      exact fun table htable i hscene =>
        (succeeds_slpTable (hctx.num i)).mp (hslp table htable i hscene)
    · have htables := hwritten.slpMapping
      rw [slpMappingTables] at htables
      split_ifs at htables ⊢ with hmode
      · exact (slpRestored_iff hctx hmode (hholds.slp hmode) htables hslpMapping
          fun st i => (hmem st i).1).mp fun ctx' => (hrestored ctx').1 hmode
      · rw [Except.ok.inj htables]
        exact hfits.slpMapping
    · have htables := hwritten.blMapping
      rw [blMappingTables] at htables
      split_ifs at htables ⊢ with hmode
      · exact (blRestored_iff hctx hmode (hholds.bl hmode) htables hfits.blMapping hblMapping
          fun st i => (hmem st i).2).mp fun ctx' => (hrestored ctx').2 hmode
      · rw [Except.ok.inj htables]
        exact hfits.blMapping
  · intro hfills
    obtain ⟨nodes', hupdate, -⟩ := Except.succeeds_iff.mp (succeeds_of_fills hctx hfills)
    have hwritten := abcWritten ctx hupdate
    have hfits := abcFits_of_fills hctx hholds hfills hwritten
    obtain ⟨found, hfound, -⟩ := Except.succeeds_iff.mp (succeeds_parseAbc.mpr hfits)
    obtain ⟨slpMapping, blMapping, hslpMapping, hblMapping, hmem⟩ := mem_parseAbc hfound
    refine ⟨nodes', found, hupdate, hfound, fun ctx' => ⟨fun hmode => ?_, fun hmode => ?_⟩⟩
    · have htables := hwritten.slpMapping
      have hfill := hfills.slpMapping
      rw [slpMappingTables, if_pos hmode] at htables
      rw [if_pos hmode] at hfill
      exact (slpRestored_iff hctx hmode (hholds.slp hmode) htables hslpMapping
        fun st i => (hmem st i).1).mpr hfill ctx'
    · have htables := hwritten.blMapping
      have hfill := hfills.blMapping
      rw [blMappingTables, if_pos hmode] at htables
      rw [if_pos hmode] at hfill
      exact (blRestored_iff hctx hmode (hholds.bl hmode) htables hfits.blMapping hblMapping
        fun st i => (hmem st i).2).mpr hfill ctx'

/-- An entry and an item in each table. -/
theorem abc_tables_restored_small :
    let table (mode : String) : Node := .mk (ofString "table") [(ofString "mode", ofString mode)]
      [.mk (ofString "number") [] [newItem (ofString "0") (ofString "0")]]
    let root : Node := .mk (ofString "root") []
      [.mk (ofString "slp_mapping_table") [] [table "low power", table "normal"]]
    AbcRestores (fun _ => 1) root ↔ AbcFills (fun _ => 1) root.children := by
  intro table root
  apply abc_tables_restored_iff
  · constructor
    · decide
    · exact Or.inl rfl
    · decide
    · decide
  · refine ⟨rfl, fun _ i => ?_, fun h => absurd h (by decide)⟩
    have hmodes : ∀ k : Nat, ([table "low power", table "normal"][k]?).bind sceneMode = some i ↔
        k = 1 - i.val := by
      intro k
      match i, k with
      | 0, 0 | 0, 1 | 1, 0 | 1, 1 => decide +kernel
      | 0, k + 2 | 1, k + 2 => simp
    exact ⟨1 - i.val, (hmodes _).mpr rfl, fun k hk => (hmodes k).mp hk⟩

/-- A table without an entry gets none, and the reader counts none. -/
theorem empty_slp_table_stays_empty :
    let table (mode : String) (numbers : List Node) : Node :=
      .mk (ofString "table") [(ofString "mode", ofString mode)] numbers
    let root : Node := .mk (ofString "root") [] [.mk (ofString "slp_mapping_table") []
      [table "normal" [],
        table "low power" [.mk (ofString "number") [] [newItem (ofString "0") (ofString "0")]]]]
    (do
      let saved ← AbcParser.updateXml (fun _ => 1) root
      let loaded ← AbcParser.parseXml saved.2 fun _ => 1
      return (loaded.2 (.num 0), loaded.2 (.num 1))).Succeeds (· = (0, 1)) := by
  decide +kernel

end EngPc
