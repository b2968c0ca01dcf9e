import EngPc.Proofs.PQKeyedWalk

/-!
# Saving and loading the tables of the later DPUs

What a document holds for each field of the gamma, bld, cms and hsv tables, and that the two walks of
a parser agree on it.
-/

namespace EngPc
open CString ReadWrite XmlTree

lemma rgb_lookup {β : Type} {x y z slot : β} {a : Text} :
    [(ofString "r", x), (ofString "g", y), (ofString "b", z)].lookup a = some slot ↔
      a = ofString "r" ∧ x = slot ∨ a = ofString "g" ∧ y = slot ∨ a = ofString "b" ∧ z = slot := by
  have hnodup : ([(ofString "r", x), (ofString "g", y), (ofString "b", z)].map Prod.fst).Nodup :=
    (by decide : [ofString "r", ofString "g", ofString "b"].Nodup)
  rw [lookup_iff_mem hnodup]
  simp [eq_comm]

def GammaSharkl5Has (root : Node) (s : GammaSharkl5Slot) : Prop :=
  let item (i : Fin 2) (j : Nat) (a : Text) : Prop :=
    ∃ table ∈ findNode root.children (ofString "reg_table"),
      tableMode GammaParserLiteR2p0.gammaModes table = some i ∧ ItemHas table.children j a
  root.name = ofString "gamma_config" ∧ match s with
    | .version => VersionHas root.children
    | .enable | .nMode | .nMajorVersion => False
    | .r i j => item i j (ofString "r")
    | .g i j => item i j (ofString "g")
    | .b i j => item i j (ofString "b")

namespace GammaParserLiteR2p0

lemma gammaCascade_some {i : Fin 2} {j : Nat} {a : Text} {s : GammaSharkl5Slot} :
    (gammaCascade i j).lookup a = some (some s) ↔ match s with
      | .r i' j' => i = i' ∧ j = j'.val ∧ a = ofString "r"
      | .g i' j' => i = i' ∧ j = j'.val ∧ a = ofString "g"
      | .b i' j' => i = i' ∧ j = j'.val ∧ a = ofString "b"
      | _ => False := by
  rw [gammaCascade, rgb_lookup]
  simp only [element_map_eq_some]
  cases s <;> simp [and_comm, and_left_comm, and_assoc]

lemma short_gammaCascade (i : Fin 2) (j : Nat) : Short (gammaCascade i j) := by
  intro a s h
  rw [gammaCascade_some] at h
  cases s with
  | r i j => exact le_rfl
  | g i j => exact le_rfl
  | b i j => exact le_rfl
  | _ => exact h.elim

/-- A table has something for a field. -/
def ChildHas (i : Fin 2) (items : List Node) (s : GammaSharkl5Slot) : Prop :=
  match s with
  | .r i' j => ItemHas items j (ofString "r") ∧ i = i'
  | .g i' j => ItemHas items j (ofString "g") ∧ i = i'
  | .b i' j => ItemHas items j (ofString "b") ∧ i = i'
  | _ => False

lemma mem_parseGammaChildConfig {i : Fin 2} {items : List Node}
    {found : List (Store GammaSharkl5Slot)} (h : parseGammaChildConfig i items = .ok found)
    {s : GammaSharkl5Slot} : s ∈ found.map Prod.fst ↔ ChildHas i items s := by
  rw [mem_parseItems h]
  simp only [gammaCascade_some, ChildHas, ItemHas]
  cases s <;> simp [← and_assoc]

lemma mem_parseGammaRegsTable {nodes : List Node} {found : List (Store GammaSharkl5Slot)}
    (h : parseGammaRegsTable nodes = .ok found) {s : GammaSharkl5Slot} :
    s ∈ found.map Prod.fst ↔ ∃ table ∈ nodes, ∃ i, tableMode gammaModes table = some i ∧
      ChildHas i table.children s :=
  mem_keyed_each (fun _ _ _ hhere => mem_parseGammaChildConfig hhere) h

lemma agree_parseGamma (ctx : PQCtx GammaSharkl5Slot) : Agree ctx.number (List.map Node.shape)
    (fun nodes => do
      return (← parseAt (ofString "reg_table") parseGammaRegsTable nodes) ++
        (← parseAt (ofString "enhance") (parseVersion .version) nodes))
    (updateGamma ctx) := by
  apply agree_both
  · apply agree_at
    apply agree_keyed tableMode_withChildren
    exact fun _ i => agree_parseItems ctx (short_gammaCascade i)
  · exact agree_at _ (agree_parseVersion ctx .version)
  · intro nodes nodes' h
    exact ((seenAs_parseVersion _).parseAt name_of_nodeHead _).unchanged
      (keeps_updateKeyed.updateAt _) h
  · intro nodes nodes' h
    exact ((seenAs_parseKeyed tableMode_congr).parseAt name_of_nodeBody _).unchanged
      ((keeps_updateVersion ctx .version).updateAt _) h

lemma saves_parseGamma : Saves (some .nMajorVersion) parseGamma updateGamma := by
  refine saves_of_agree_versions (by decide) agree_parseGamma ?_ ?_
  · exact fun ctx => (keeps_updateKeyed.updateAt _).major.bind (keepsMajor_versionAt ctx .version)
  · intro nodes found h
    rw [mem_parseAt (fun _ _ hwalk => mem_parseGammaRegsTable hwalk) (by simp) h]
    simp only [ChildHas, and_false, exists_false, not_false_eq_true]

lemma roundTripsBut : RoundTripsBut .nMajorVersion parseXml updateXml GammaSharkl5Has := by
  refine roundTripsBut_of_saves (by decide) (by decide) (by decide) saves_parseGamma
    (fun _ _ hs => hs.1) ?_
  intro root found found' hroot h h' s
  rw [List.map_append, List.mem_append, mem_parseVersionAt h',
    mem_parseAt (fun _ _ hwalk => mem_parseGammaRegsTable hwalk) (by simp) h]
  simp only [ChildHas, GammaSharkl5Has, hroot, true_and]
  cases s <;> simp [-Fin.exists_fin_two, and_left_comm]

end GammaParserLiteR2p0

def BldSharkl5Has (root : Node) (s : BldSharkl5Slot) : Prop :=
  let part (p : BldPart) (P : List Node → Prop) : Prop :=
    ∃ table ∈ tablesOf root.children (ofString "cm_config"),
      tableMode BldParserLiteR2p0.bldModes table = some () ∧
        ∃ node ∈ table.children, partName BldParserLiteR2p0.bldParts node = some p ∧ P node.children
  root.name = ofString "root" ∧ match s with
    | .version => VersionHas root.children
    | .enable | .nMajorVersion => False
    | .cm c => part .cm fun nodes => FieldHas coefNames nodes c
    | .range f => part .range fun nodes => FieldHas rangeNames nodes f

namespace BldParserLiteR2p0

/-- A part has something for a field. -/
def PartHas (part : BldPart) (params : List Node) (s : BldSharkl5Slot) : Prop :=
  match s with
  | .cm c => part = .cm ∧ FieldHas coefNames params c
  | .range f => part = .range ∧ FieldHas rangeNames params f
  | _ => False

lemma mem_parsePart {part : BldPart} {params : List Node} {found : List (Store BldSharkl5Slot)}
    (h : parseArrays (partChain part) params = .ok found) {s : BldSharkl5Slot} :
    s ∈ found.map Prod.fst ↔ PartHas part params s := by
  cases part with
  | cm =>
    rw [mem_parseArrays coefNames_nodup h]
    cases s <;> simp [PartHas]
  | range =>
    rw [mem_parseArrays (by decide) h]
    cases s <;> simp [PartHas]

lemma short_partChain (part : BldPart) : ShortChain (partChain part) := by
  cases part with
  | cm =>
    apply short_fieldChain
    rintro c s ⟨⟩
    exact le_rfl
  | range =>
    apply short_fieldChain
    rintro f s ⟨⟩
    exact le_rfl

/-- The tables have something for a field. -/
def TablesHave (tables : List Node) (s : BldSharkl5Slot) : Prop :=
  ∃ table ∈ tables, ∃ k, tableMode bldModes table = some k ∧
    ∃ node ∈ table.children, ∃ part, partName bldParts node = some part ∧ PartHas part node.children s

lemma mem_parseBldCmrangeConfig {node : Node} {found : List (Store BldSharkl5Slot)}
    (h : parseBldCmrangeConfig node = .ok found) {s : BldSharkl5Slot} :
    s ∈ found.map Prod.fst ↔ TablesHave node.children s :=
  mem_keyed_each (fun _ _ _ hhere => mem_keyed_each (fun _ _ _ hpart => mem_parsePart hpart) hhere) h

lemma agree_parseBld (ctx : PQCtx BldSharkl5Slot) : Agree ctx.number (List.map Node.shape)
    (fun nodes => do
      return (← parseAt (ofString "cm_config") (onNode parseBldCmrangeConfig) nodes) ++
        (← parseAt (ofString "enhance") (parseVersion .version) nodes))
    (updateBld ctx) := by
  apply agree_both_swap
  · apply agree_at
    apply agree_onNode
    apply agree_children
    apply agree_keyed tableMode_withChildren
    intro _ _
    apply agree_keyed partName_withChildren
    exact fun _ part => agree_parseArrays ctx (short_partChain part)
  · exact agree_at _ (agree_parseVersion ctx .version)
  · exact fun nodes nodes' h => parseVersionAt_section h
  · exact fun nodes nodes' h => parseSectionAt_version h

lemma saves_parseBld : Saves (some .nMajorVersion) parseBld updateBld := by
  refine saves_of_agree_versions (by decide) agree_parseBld ?_ ?_
  · exact fun ctx => (keepsMajor_versionAt ctx .version).bind keepsMajor_section
  · intro nodes found h
    rw [mem_parseAt_onNode (P := (TablesHave · .nMajorVersion))
      (fun _ _ hwalk => mem_parseBldCmrangeConfig hwalk) (by simp [TablesHave]) h]
    simp [TablesHave, PartHas]

lemma roundTripsBut : RoundTripsBut .nMajorVersion parseXml updateXml BldSharkl5Has := by
  refine roundTripsBut_of_saves (by decide) (by decide) (by decide) saves_parseBld
    (fun _ _ hs => hs.1) ?_
  intro root found found' hroot h h' s
  rw [List.map_append, List.mem_append, mem_parseVersionAt h',
    mem_parseAt_onNode (P := (TablesHave · s)) (fun _ _ hwalk => mem_parseBldCmrangeConfig hwalk)
      (by simp [TablesHave]) h]
  simp only [TablesHave, PartHas, BldSharkl5Has, hroot, true_and]
  cases s <;> simp [Unique.exists_iff]

end BldParserLiteR2p0

section Cms

variable {κ : Type} [SlpBlock κ]

def CmsSharkl5Has (root : Node) (s : CmsSharkl5Slot κ) : Prop :=
  let part (i : Fin 3) (p : CmsPart) (P : List Node → Prop) : Prop :=
    ∃ table ∈ tablesOf root.children (ofString "hsv_cm_epf_slp_ltm"),
      tableMode cmsModes table = some i ∧
        ∃ node ∈ table.children, partName CmsSharkl5.cmsParts node = some p ∧ P node.children
  root.name = ofString "root" ∧ match s with
    | .version => VersionHas root.children
    | .enable | .mode | .nMajorVersion | .cmMode => False
    | .hue i j => part i .hsv fun items => ItemHas items j (ofString "hue")
    | .sat i j => part i .hsv fun items => ItemHas items j (ofString "sat")
    | .coef i c => part i .cm fun params => FieldHas coefNames params c
    | .epf i f => part i .epf fun params => FieldHas epfNames params f
    | .slp i f => part i .slp fun params => FieldHas SlpBlock.names params f
    | .ltm i f => part i .ltm fun params => FieldHas ltmNames params f
    | .rgb i => ItemHas (tablesOf root.children (ofString "rgb_mapping_table")) i (ofString "rgb")
    | .cmindex i => ItemHas (tablesOf root.children (ofString "rgb_mapping_table")) i (ofString "index")
    | .cm i c => ∃ table, (tablesOf root.children (ofString "cm_cfg"))[i.val]? = some table ∧
        tableMode CmsSharkl5.cmCfgModes table = some () ∧ FieldHas coefNames table.children c

end Cms

namespace CmsSharkl5

variable {κ : Type}

lemma hsvCascade_some {i : Fin 3} {j : Nat} {a : Text} {s : CmsSharkl5Slot κ} :
    (hsvCascade i j).lookup a = some (some s) ↔ match s with
      | .hue i' j' => i = i' ∧ j = j'.val ∧ a = ofString "hue"
      | .sat i' j' => i = i' ∧ j = j'.val ∧ a = ofString "sat"
      | _ => False := by
  rw [hsvCascade, lookup_pair (by decide), element_map_eq_some, element_map_eq_some]
  cases s <;> simp [and_comm, and_left_comm, and_assoc]

lemma rgbCascade_some {i : Nat} {a : Text} {s : CmsSharkl5Slot κ} :
    (rgbCascade i).lookup a = some (some s) ↔ match s with
      | .rgb i' => i = i'.val ∧ a = ofString "rgb"
      | .cmindex i' => i = i'.val ∧ a = ofString "index"
      | _ => False := by
  rw [rgbCascade, lookup_pair (by decide), element_map_eq_some, element_map_eq_some]
  cases s <;> simp [and_comm]

lemma config_some {i : Nat} {c : Coef} {s : CmsSharkl5Slot κ} :
    (element 12 i).map (CmsSharkl5Slot.cm · c) = some s ↔ ∃ i', i = i'.val ∧ s = .cm i' c := by
  rw [element_map_eq_some]
  simp only [eq_comm (a := s)]

variable [SlpBlock κ]

lemma short_hsvCascade (i : Fin 3) (j : Nat) : Short (@hsvCascade κ i j) := by
  intro a s h
  rw [hsvCascade_some] at h
  cases s with
  | hue i j => exact le_rfl
  | sat i j => exact le_rfl
  | _ => exact h.elim

lemma short_rgbCascade (i : Nat) : Short (@rgbCascade κ i) := by
  intro a s h
  rw [rgbCascade_some] at h
  cases s with
  | rgb i => exact (by decide : 8 ≤ 16)
  | cmindex i => exact (by decide : 8 ≤ 16)
  | _ => exact h.elim

lemma short_cmChain (i : Fin 3) : ShortChain (@cmChain κ i) := by
  apply short_fieldChain
  rintro c s ⟨⟩
  exact le_rfl

lemma short_epfChain (i : Fin 3) : ShortChain (@epfChain κ i) := by
  apply short_fieldChain
  rintro f s ⟨⟩
  change (if f = .epsilon0 ∨ f = .epsilon1 then 16 else 8) ≤ 16
  split_ifs <;> decide

lemma short_slpChain (i : Fin 3) : ShortChain (@slpChain κ _ i) := by
  apply short_fieldChain
  rintro f s ⟨⟩
  exact SlpBlock.width_le

lemma short_ltmChain (i : Fin 3) : ShortChain (@ltmChain κ i) := by
  apply short_fieldChain
  rintro f s ⟨⟩
  exact le_rfl

lemma short_configChain (i : Nat) : ShortChain (@configChain κ i) := by
  apply short_fieldChain
  intro c s h
  obtain ⟨i', -, rfl⟩ := config_some.mp h
  exact le_rfl

/-- A part of a table has something for a field. -/
def PartHas (i : Fin 3) (part : CmsPart) (params : List Node) (s : CmsSharkl5Slot κ) : Prop :=
  match s with
  | .hue i' j => (part = .hsv ∧ ItemHas params j (ofString "hue")) ∧ i = i'
  | .sat i' j => (part = .hsv ∧ ItemHas params j (ofString "sat")) ∧ i = i'
  | .coef i' c => (part = .cm ∧ FieldHas coefNames params c) ∧ i = i'
  | .epf i' f => (part = .epf ∧ FieldHas epfNames params f) ∧ i = i'
  | .slp i' f => (part = .slp ∧ FieldHas SlpBlock.names params f) ∧ i = i'
  | .ltm i' f => (part = .ltm ∧ FieldHas ltmNames params f) ∧ i = i'
  | _ => False

lemma mem_parsePart {i : Fin 3} {part : CmsPart} {params : List Node}
    {found : List (Store (CmsSharkl5Slot κ))} (h : parsePart i part params = .ok found)
    {s : CmsSharkl5Slot κ} : s ∈ found.map Prod.fst ↔ PartHas i part params s := by
  cases part with
  | hsv =>
    rw [mem_parseItems h]
    simp only [hsvCascade_some, PartHas, ItemHas]
    cases s <;> simp [← and_assoc]
  | cm =>
    rw [mem_parseArrays coefNames_nodup h]
    cases s <;> simp [PartHas, and_comm]
  | epf =>
    rw [mem_parseArrays (by decide) h]
    cases s <;> simp [PartHas, and_comm]
  | slp =>
    rw [mem_parseArrays SlpBlock.nodup h]
    cases s <;> simp [PartHas, and_comm]
  | ltm =>
    rw [mem_parseArrays (by decide) h]
    cases s <;> simp [PartHas, and_comm]

/-- The tables of "hsv_cm_epf_slp_ltm" have something for a field. -/
def TablesHave (tables : List Node) (s : CmsSharkl5Slot κ) : Prop :=
  ∃ table ∈ tables, ∃ i, tableMode cmsModes table = some i ∧
    ∃ node ∈ table.children, ∃ part, partName cmsParts node = some part ∧
      PartHas i part node.children s

lemma mem_parseCmsHsvcmEpfSlpLtm {node : Node} {found : List (Store (CmsSharkl5Slot κ))}
    (h : parseCmsHsvcmEpfSlpLtm node = .ok found) {s : CmsSharkl5Slot κ} :
    s ∈ found.map Prod.fst ↔ TablesHave node.children s :=
  mem_keyed_each (fun _ _ _ hhere => mem_keyed_each (fun _ _ _ hpart => mem_parsePart hpart) hhere) h

/-- The items of "rgb_mapping_table". -/
def RgbHas (items : List Node) (s : CmsSharkl5Slot κ) : Prop :=
  match s with
  | .rgb i => ItemHas items i (ofString "rgb")
  | .cmindex i => ItemHas items i (ofString "index")
  | _ => False

omit [SlpBlock κ] in
lemma mem_parseCmsRgbmapTable {node : Node} {found : List (Store (CmsSharkl5Slot κ))}
    (h : parseCmsRgbmapTable node = .ok found) {s : CmsSharkl5Slot κ} :
    s ∈ found.map Prod.fst ↔ RgbHas node.children s := by
  rw [mem_parseItems h]
  simp only [rgbCascade_some, RgbHas, ItemHas]
  cases s <;> simp

/-- The tables of "cm_cfg". -/
def ConfigHas (tables : List Node) (s : CmsSharkl5Slot κ) : Prop :=
  match s with
  | .cm i c => ∃ table, tables[i.val]? = some table ∧ tableMode cmCfgModes table = some () ∧
      FieldHas coefNames table.children c
  | _ => False

omit [SlpBlock κ] in
lemma mem_parseCmsConfigTable {node : Node} {found : List (Store (CmsSharkl5Slot κ))}
    (h : parseCmsConfigTable node = .ok found) {s : CmsSharkl5Slot κ} :
    s ∈ found.map Prod.fst ↔ ConfigHas node.children s := by
  rw [mem_keyed (fun _ _ _ _ hhere => mem_parseArrays coefNames_nodup hhere) h]
  simp only [config_some, ConfigHas, Unique.exists_iff]
  cases s <;> simp

/-- The tables that are read before the version. -/
def parseTables (curNode : List Node) : Except XmlFault (List (Store (CmsSharkl5Slot κ))) := do
  let hsvcm ← parseAt (ofString "hsv_cm_epf_slp_ltm") (onNode parseCmsHsvcmEpfSlpLtm) curNode
  let rgb ← parseAt (ofString "rgb_mapping_table") (onNode parseCmsRgbmapTable) curNode
  let config ← parseAt (ofString "cm_cfg") (onNode parseCmsConfigTable) curNode
  return hsvcm ++ (rgb ++ config)

lemma mem_parseTables {nodes : List Node} {found : List (Store (CmsSharkl5Slot κ))}
    (h : parseTables nodes = .ok found) {s : CmsSharkl5Slot κ} : s ∈ found.map Prod.fst ↔
      TablesHave (tablesOf nodes (ofString "hsv_cm_epf_slp_ltm")) s ∨
        RgbHas (tablesOf nodes (ofString "rgb_mapping_table")) s ∨
        ConfigHas (tablesOf nodes (ofString "cm_cfg")) s := by
  simp only [parseTables, bind_eq_ok, pure, Except.pure, Except.ok.injEq] at h
  obtain ⟨hsvcm, hhsvcm, rgb, hrgb, config, hconfig, rfl⟩ := h
  simp only [List.map_append, List.mem_append]
  rw [mem_parseAt_onNode (P := (TablesHave · s)) (fun _ _ hwalk => mem_parseCmsHsvcmEpfSlpLtm hwalk)
      (by simp [TablesHave]) hhsvcm,
    mem_parseAt_onNode (P := (RgbHas · s)) (fun _ _ hwalk => mem_parseCmsRgbmapTable hwalk)
      (by cases s <;> simp [RgbHas, ItemHas]) hrgb,
    mem_parseAt_onNode (P := (ConfigHas · s)) (fun _ _ hwalk => mem_parseCmsConfigTable hwalk)
      (by cases s <;> simp [ConfigHas]) hconfig]

variable (ctx : PQCtx (CmsSharkl5Slot κ))

lemma agree_part (i : Fin 3) (part : CmsPart) :
    Agree ctx.number (List.map Node.shape) (parsePart i part) (updatePart ctx i part) := by
  cases part with
  | hsv => exact agree_parseItems ctx (short_hsvCascade i)
  | cm => exact agree_parseArrays ctx (short_cmChain i)
  | epf => exact agree_parseArrays ctx (short_epfChain i)
  | slp => exact agree_parseArrays ctx (short_slpChain i)
  | ltm => exact agree_parseArrays ctx (short_ltmChain i)

lemma agree_hsvcm : Agree ctx.number (List.map Node.shape)
    (parseAt (ofString "hsv_cm_epf_slp_ltm") (onNode parseCmsHsvcmEpfSlpLtm))
    (updateAt (ofString "hsv_cm_epf_slp_ltm") (updateNode (updateCmsHsvCmEpfSlpLtm ctx))) := by
  apply agree_at
  apply agree_onNode
  apply agree_children
  apply agree_keyed tableMode_withChildren
  intro _ i
  apply agree_keyed partName_withChildren
  exact fun _ part => agree_part ctx i part

lemma agree_rgbmap : Agree ctx.number (List.map Node.shape)
    (parseAt (ofString "rgb_mapping_table") (onNode parseCmsRgbmapTable))
    (updateAt (ofString "rgb_mapping_table") (updateNode (updateCmsRgbmapTable ctx))) := by
  apply agree_at
  apply agree_onNode
  exact agree_children (agree_parseItems ctx short_rgbCascade)

lemma agree_config : Agree ctx.number (List.map Node.shape)
    (parseAt (ofString "cm_cfg") (onNode parseCmsConfigTable))
    (updateAt (ofString "cm_cfg") (updateNode (updateCmsConfigTable ctx))) := by
  apply agree_at
  apply agree_onNode
  apply agree_children
  apply agree_keyed tableMode_withChildren
  exact fun i _ => agree_parseArrays ctx (short_configChain i)

lemma agree_parseCms : Agree ctx.number (List.map Node.shape)
    (fun nodes => do
      return (← parseTables nodes) ++ (← parseAt (ofString "enhance") (parseVersion .version) nodes))
    (updateCms ctx) := by
  have hrgb := agree_both (agree_rgbmap ctx) (agree_config ctx)
    (fun nodes nodes' h => parseSectionAt_ne (by decide) h)
    (fun nodes nodes' h => parseSectionAt_ne (by decide) h)
  have hhsvcm := agree_both (agree_hsvcm ctx) hrgb
    (fun nodes nodes' h => by
      have h₁ : parseAt (ofString "rgb_mapping_table") (onNode parseCmsRgbmapTable) nodes' =
          parseAt (ofString "rgb_mapping_table") (onNode (@parseCmsRgbmapTable κ)) nodes :=
        parseSectionAt_ne (by decide) h
      have h₂ : parseAt (ofString "cm_cfg") (onNode parseCmsConfigTable) nodes' =
          parseAt (ofString "cm_cfg") (onNode (@parseCmsConfigTable κ)) nodes :=
        parseSectionAt_ne (by decide) h
      rw [h₁, h₂])
    (fun nodes nodes' h => by
      obtain ⟨nodes₁, hrgb, hconfig⟩ := bind_eq_ok.mp h
      exact (parseSectionAt_ne (by decide) hconfig).trans (parseSectionAt_ne (by decide) hrgb))
  have hversion := agree_both hhsvcm (agree_at _ (agree_parseVersion ctx .version))
    (fun nodes nodes' h => by
      obtain ⟨nodes₁, hhsvcm, h⟩ := bind_eq_ok.mp h
      obtain ⟨nodes₂, hrgb, hconfig⟩ := bind_eq_ok.mp h
      exact (parseVersionAt_section hconfig).trans
        ((parseVersionAt_section hrgb).trans (parseVersionAt_section hhsvcm)))
    (fun nodes nodes' h => by
      have h₁ : parseAt (ofString "hsv_cm_epf_slp_ltm") (onNode parseCmsHsvcmEpfSlpLtm) nodes' =
          parseAt (ofString "hsv_cm_epf_slp_ltm") (onNode (@parseCmsHsvcmEpfSlpLtm κ _)) nodes :=
        parseSectionAt_version h
      have h₂ : parseAt (ofString "rgb_mapping_table") (onNode parseCmsRgbmapTable) nodes' =
          parseAt (ofString "rgb_mapping_table") (onNode (@parseCmsRgbmapTable κ)) nodes :=
        parseSectionAt_version h
      have h₃ : parseAt (ofString "cm_cfg") (onNode parseCmsConfigTable) nodes' =
          parseAt (ofString "cm_cfg") (onNode (@parseCmsConfigTable κ)) nodes :=
        parseSectionAt_version h
      rw [h₁, h₂, h₃])
  intro nodes
  have hnodes := hversion nodes
  simp only [bind_assoc, pure_bind] at hnodes
  simp only [parseTables, bind_assoc, pure_bind]
  exact hnodes

lemma keepsMajor_updateCms : Keeps nodeMajor (updateCms ctx) :=
  keepsMajor_section.bind
    (keepsMajor_section.bind (keepsMajor_section.bind (keepsMajor_versionAt ctx .version)))

lemma has_iff {root : Node} (hroot : root.name = ofString "root") (s : CmsSharkl5Slot κ) :
    CmsSharkl5Has root s ↔ (TablesHave (tablesOf root.children (ofString "hsv_cm_epf_slp_ltm")) s ∨
        RgbHas (tablesOf root.children (ofString "rgb_mapping_table")) s ∨
        ConfigHas (tablesOf root.children (ofString "cm_cfg")) s) ∨
      s = .version ∧ VersionHas root.children := by
  simp only [CmsSharkl5Has, TablesHave, PartHas, RgbHas, ConfigHas, hroot, true_and]
  cases s <;> simp

omit ctx

lemma parseCms_eq : @parseCms κ _ = fun nodes => do
    return (← parseTables nodes) ++
      (← parseAt (ofString "enhance") (parseVersions .version .nMajorVersion) nodes) := by
  funext nodes
  simp only [parseCms, parseTables, parseCmsVersion, bind_assoc, pure_bind]

variable [DecidableEq κ]

lemma saves_parseCms : Saves (some .nMajorVersion) (@parseCms κ _) updateCms := by
  rw [parseCms_eq]
  refine saves_of_agree_versions (by simp) agree_parseCms keepsMajor_updateCms ?_
  intro nodes found h
  rw [mem_parseTables h]
  simp [TablesHave, PartHas, RgbHas, ConfigHas]

lemma roundTripsBut : RoundTripsBut .nMajorVersion (@parseXml κ _ _) updateXml CmsSharkl5Has := by
  have hsaves := @saves_parseCms κ _ _
  rw [parseCms_eq] at hsaves
  rw [parseXml, parseCms_eq]
  refine roundTripsBut_of_saves (by simp) (by decide) (by decide) hsaves (fun _ _ hs => hs.1) ?_
  intro root found found' hroot h h' s
  rw [List.map_append, List.mem_append, mem_parseTables h, mem_parseVersionAt h', has_iff hroot]

end CmsSharkl5

def HsvDocHas (root : Node) (s : HsvSlot) : Prop :=
  let item (i : Fin 3) (j : Nat) (a : Text) : Prop :=
    ∃ table, (findNode root.children (ofString "reg_table"))[i.val]? = some table ∧
      table.hasProp (ofString "mode") ∧ ItemHas table.children j a
  root.name = ofString "LUT_config" ∧ match s with
    | .version => VersionHas root.children
    | .enable | .nMajorVersion | .flagBitNo => False
    | .r i j => item i j (ofString "r")
    | .g i j => item i j (ofString "g")
    | .b i j => item i j (ofString "b")

namespace HsvParser

lemma hsvCascade_some {i j : Nat} {a : Text} {s : HsvSlot} :
    (hsvCascade i j).lookup a = some (some s) ↔ match s with
      | .r i' j' => i = i'.val ∧ j = j'.val ∧ a = ofString "r"
      | .g i' j' => i = i'.val ∧ j = j'.val ∧ a = ofString "g"
      | .b i' j' => i = i'.val ∧ j = j'.val ∧ a = ofString "b"
      | _ => False := by
  rw [hsvCascade, rgb_lookup]
  simp only [element_pair_eq_some]
  cases s <;> simp [and_comm, and_assoc]

lemma short_hsvCascade (i j : Nat) : Short (hsvCascade i j) := by
  intro a s h
  rw [hsvCascade_some] at h
  cases s with
  | r i j => exact le_rfl
  | g i j => exact le_rfl
  | b i j => exact le_rfl
  | _ => exact h.elim

lemma anyMode_withChildren (node : Node) (children : List Node) :
    anyMode (node.withChildren children) = anyMode node := by
  rw [anyMode, anyMode, hasProp_withChildren]

lemma anyMode_congr (node node' : Node) (h : nodeBody node = nodeBody node') :
    anyMode node = anyMode node' := by
  rw [anyMode, anyMode, Node.hasProp, Node.hasProp, (Prod.mk.inj (Prod.mk.inj h).2).1]

/-- The tables have something for a field. -/
def TablesHave (tables : List Node) (s : HsvSlot) : Prop :=
  let item (i : Fin 3) (j : Nat) (a : Text) : Prop :=
    ∃ table, tables[i.val]? = some table ∧ table.hasProp (ofString "mode") ∧ ItemHas table.children j a
  match s with
  | .r i j => item i j (ofString "r")
  | .g i j => item i j (ofString "g")
  | .b i j => item i j (ofString "b")
  | _ => False

lemma mem_parseHsvRegsTable {nodes : List Node} {found : List (Store HsvSlot)}
    (h : parseHsvRegsTable nodes = .ok found) {s : HsvSlot} :
    s ∈ found.map Prod.fst ↔ TablesHave nodes s := by
  rw [mem_keyed (fun _ _ _ _ hhere => mem_parseItems hhere) h]
  simp only [hsvCascade_some, TablesHave, ItemHas, anyMode, Unique.exists_iff]
  cases s <;> simp

lemma agree_parseHsv (ctx : PQCtx HsvSlot) : Agree ctx.number (List.map Node.shape)
    (fun nodes => do
      return (← parseAt (ofString "reg_table") parseHsvRegsTable nodes) ++
        (← parseAt (ofString "enhance") (parseVersion .version) nodes))
    (updateHsv ctx) := by
  apply agree_both
  · apply agree_at
    apply agree_keyed anyMode_withChildren
    exact fun i _ => agree_parseItems ctx (short_hsvCascade i)
  · exact agree_at _ (agree_parseVersion ctx .version)
  · intro nodes nodes' h
    exact ((seenAs_parseVersion _).parseAt name_of_nodeHead _).unchanged
      (keeps_updateKeyed.updateAt _) h
  · intro nodes nodes' h
    exact ((seenAs_parseKeyed anyMode_congr).parseAt name_of_nodeBody _).unchanged
      ((keeps_updateVersion ctx .version).updateAt _) h

lemma saves_parseHsv : Saves (some .nMajorVersion) parseHsv updateHsv := by
  refine saves_of_agree_versions (by decide) agree_parseHsv ?_ ?_
  · exact fun ctx => (keeps_updateKeyed.updateAt _).major.bind (keepsMajor_versionAt ctx .version)
  · intro nodes found h
    rw [mem_parseAt (fun _ _ hwalk => mem_parseHsvRegsTable hwalk) (by simp [TablesHave]) h]
    simp [TablesHave]

lemma roundTripsBut : RoundTripsBut .nMajorVersion parseXml updateXml HsvDocHas := by
  refine roundTripsBut_of_saves (by decide) (by decide) (by decide) saves_parseHsv
    (fun _ _ hs => hs.1) ?_
  intro root found found' hroot h h' s
  rw [List.map_append, List.mem_append, mem_parseVersionAt h',
    mem_parseAt (P := (TablesHave · s)) (fun _ _ hwalk => mem_parseHsvRegsTable hwalk)
      (by cases s <;> simp [TablesHave]) h]
  simp only [TablesHave, HsvDocHas, hroot, true_and]
  cases s <;> simp

end HsvParser

/-- **Saving and loading a table of a later DPU**: behind `update_xml`, `parse_xml` gives each field
that the document holds something for its number back, and leaves the others; only the major version
is that of the old document, for `update_xml` does not write it. -/
theorem later_pq_tables_round_trip :
    RoundTripsBut .nMajorVersion GammaParserLiteR2p0.parseXml GammaParserLiteR2p0.updateXml
        GammaSharkl5Has ∧
      RoundTripsBut .nMajorVersion BldParserLiteR2p0.parseXml BldParserLiteR2p0.updateXml
        BldSharkl5Has ∧
      RoundTripsBut .nMajorVersion CmsParserLiteR2p0.parseXml CmsParserLiteR2p0.updateXml
        CmsSharkl5Has ∧
      RoundTripsBut .nMajorVersion CmsParserR4p0.parseXml CmsParserR4p0.updateXml CmsSharkl5Has ∧
      RoundTripsBut .nMajorVersion HsvParser.parseXml HsvParser.updateXml HsvDocHas :=
  ⟨GammaParserLiteR2p0.roundTripsBut, BldParserLiteR2p0.roundTripsBut, CmsSharkl5.roundTripsBut,
    CmsSharkl5.roundTripsBut, HsvParser.roundTripsBut⟩

/-- A gamma table with one item, and both versions behind it: the major version stays 3. -/
theorem later_pq_tables_round_trip_gamma :
    let root : Node := .mk (ofString "gamma_config") []
      [.mk (ofString "reg_table") [(ofString "mode", ofString "standard")]
        [.mk (ofString "item") [(ofString "r", ofString "5"), (ofString "b", ofString "7")] []],
        .mk (ofString "enhance") [(ofString "version", ofString "1")] [],
        .mk (ofString "enhance") [(ofString "major_version", ofString "3")] [],
        .mk (ofString "text") [] []]
    ∃ ret' root' ctx'', GammaParserLiteR2p0.updateXml (fun _ => 1) root = .ok (ret', root') ∧
      (ret' = 0 ↔ (0 : Int) = 0) ∧ root'.shape = root.shape ∧
      GammaParserLiteR2p0.parseXml root' (fun _ => 0) = .ok (0, ctx'') ∧ ctx'' .nMajorVersion = 3 ∧
      ∀ s ≠ .nMajorVersion, (GammaSharkl5Has root s → ctx'' s = 1) ∧
        (¬GammaSharkl5Has root s → ctx'' s = 0) := by
  intro root
  have hwalk : GammaParserLiteR2p0.parseGamma root.children =
      .ok [(.r 1 0, 5), (.b 1 0, 7), (.version, 1), (.nMajorVersion, 3)] := by
    decide +kernel
  refine later_pq_tables_round_trip.1 root (fun _ => 1) (fun _ => 0)
    (PQCtx.storeAll (fun _ => 0) [(.r 1 0, 5), (.b 1 0, 7), (.version, 1), (.nMajorVersion, 3)]) 0 ?_
  rw [GammaParserLiteR2p0.parseXml, parseDocument, if_neg (by decide), hwalk]
  rfl

end EngPc
