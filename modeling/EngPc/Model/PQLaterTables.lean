import EngPc.Model.AbcXml
import EngPc.Model.PQTables

/-!
# The gamma, bld, cms and hsv parsers of the later DPUs

`parse_xml` and `update_xml` of GammaParsersLiteR2p0.cpp, BldParsersLiteR2p0.cpp,
CmsParsersLiteR2p0.cpp, CmsParsersR4p0.cpp and HsvParsers.cpp. Their version functions read a number
more than they write.
-/

namespace EngPc
open CString ReadWrite XmlTree

/-! ### Walks -/

section Parse

variable {σ κ : Type}

/-- The loop of the version functions, while the name is "enhance". -/
def parseVersions (version major : σ) : List Node → Except XmlFault (List (Store σ))
  | [] => .error .nullNode
  | subNode :: next =>
    if subNode.name = ofString "enhance" then do
      let store :=
        match subNode.getProp (ofString "version") with
        | some text => some (version, strtoul longBits text)
        | none =>
          (subNode.getProp (ofString "major_version")).map fun text => (major, strtoul longBits text)
      let rest ← parseVersions version major next
      return store.toList ++ rest
    else .ok []

/-- A loop over elements, with its counter: what is done with the children of one goes by its key, and
one without a key is passed over. -/
def parseKeyed (key : Node → Option κ)
    (walk : Nat → κ → List Node → Except XmlFault (List (Store σ))) (nodes : List Node) :
    Except XmlFault (List (Store σ)) :=
  collect (fun i node =>
    match key node with
    | none => .ok []
    | some k => walk i k node.children) 0 nodes

/-- The macros over the children of a part. -/
def parseArrays (chain : Cascade σ) (propNode : List Node) : Except XmlFault (List (Store σ)) := do
  let r ← parseChain chain propNode
  return r.1

end Parse

/-- The mode of a table. -/
def tableMode {κ : Type} (modes : List (Text × κ)) (subNode : Node) : Option κ :=
  (subNode.getProp (ofString "mode")).bind (modes.lookup ·)

/-- The part that an element's name stands for. -/
def partName {κ : Type} (parts : List (Text × κ)) (curNode : Node) : Option κ :=
  parts.lookup curNode.name

/-- The macros of a list of names. -/
def fieldChain {φ σ : Type} (names : List (Text × φ)) (slot : φ → Option σ) : Cascade σ :=
  names.map fun p => (p.1, slot p.2)

section Update

variable {σ κ : Type} [PQFields σ]

def updateKeyed (key : Node → Option κ) (write : Nat → κ → List Node → Except XmlFault (List Node))
    (nodes : List Node) : Except XmlFault (List Node) :=
  updateEach (fun i node =>
    match key node with
    | none => .ok node
    | some k => do return node.withChildren (← write i k node.children)) 0 nodes

def updateArrays (ctx : PQCtx σ) (chain : Cascade σ) (propNode : List Node) :
    Except XmlFault (List Node) := do
  let r ← updateChain ctx chain propNode
  return r.1 ++ r.2

/-- The frame of `parse_xml`; `other` is returned for a root of another name. -/
def parseDocument [DecidableEq σ] (name : Text) (other : Int)
    (walk : List Node → Except XmlFault (List (Store σ))) (root : Node) (ctx : PQCtx σ) :
    Except XmlFault (Int × PQCtx σ) :=
  if root.name ≠ name then .ok (other, ctx)
  else do
    let stores ← walk root.children
    return (0, ctx.storeAll stores)

def updateDocument (name : Text) (other : Int) (write : List Node → Except XmlFault (List Node))
    (root : Node) : Except XmlFault (Int × Node) :=
  if root.name ≠ name then .ok (other, root)
  else do
    let children ← write root.children
    return (0, root.withChildren children)

end Update

/-! ### Gamma -/

/-- `gamma_common_sharkl5`. -/
inductive GammaSharkl5Slot
  | version | enable | nMode | nMajorVersion
  | r (i : Fin 2) (j : Fin 256) | g (i : Fin 2) (j : Fin 256) | b (i : Fin 2) (j : Fin 256)
  deriving DecidableEq

instance : PQFields GammaSharkl5Slot where
  width
    | .version | .enable => 32
    | _ => 16
  signed
    | .version | .enable => true
    | _ => false
  width_le := by
    intro s
    split <;> decide

namespace GammaParserLiteR2p0

/-- The modes of the tables, with their place in `gamma`. -/
def gammaModes : List (Text × Fin 2) :=
  [ofString "default", ofString "standard"].zip (List.finRange 2)

def gammaCascade (i : Fin 2) (j : Nat) : Cascade GammaSharkl5Slot :=
  [(ofString "r", (element 256 j).map (.r i)), (ofString "g", (element 256 j).map (.g i)),
    (ofString "b", (element 256 j).map (.b i))]

def parseGammaVersion : List Node → Except XmlFault (List (Store GammaSharkl5Slot)) :=
  parseVersions .version .nMajorVersion

def parseGammaChildConfig (i : Fin 2) :
    List Node → Except XmlFault (List (Store GammaSharkl5Slot)) :=
  parseItems (gammaCascade i)

def parseGammaRegsTable : List Node → Except XmlFault (List (Store GammaSharkl5Slot)) :=
  parseKeyed (tableMode gammaModes) fun _ => parseGammaChildConfig

def parseGamma (curNode : List Node) : Except XmlFault (List (Store GammaSharkl5Slot)) := do
  let regs ← parseAt (ofString "reg_table") parseGammaRegsTable curNode
  let version ← parseAt (ofString "enhance") parseGammaVersion curNode
  return regs ++ version

def parseXml :
    Node → PQCtx GammaSharkl5Slot → Except XmlFault (Int × PQCtx GammaSharkl5Slot) :=
  parseDocument (ofString "gamma_config") 1 parseGamma

variable (ctx : PQCtx GammaSharkl5Slot)

def updateGammaVersion : List Node → Except XmlFault (List Node) := updateVersion ctx .version

def updateGammaChildConfig (i : Fin 2) : List Node → Except XmlFault (List Node) :=
  updateItems ctx (gammaCascade i)

def updateGammaRegsTable : List Node → Except XmlFault (List Node) :=
  updateKeyed (tableMode gammaModes) fun _ => updateGammaChildConfig ctx

def updateGamma (curNode : List Node) : Except XmlFault (List Node) := do
  let curNode ← updateAt (ofString "reg_table") (updateGammaRegsTable ctx) curNode
  updateAt (ofString "enhance") (updateGammaVersion ctx) curNode

def updateXml : Node → Except XmlFault (Int × Node) :=
  updateDocument (ofString "gamma_config") 1 (updateGamma ctx)

end GammaParserLiteR2p0

/-! ### Bld -/

/-- The fields of `range_cfg`. -/
inductive RangeField
  | rmin | rmax | gmin | gmax | bmin | bmax
  deriving DecidableEq

def rangeNames : List (Text × RangeField) :=
  [(ofString "rmin", .rmin), (ofString "rmax", .rmax), (ofString "gmin", .gmin),
    (ofString "gmax", .gmax), (ofString "bmin", .bmin), (ofString "bmax", .bmax)]

/-- `bld_common_sharkl5`. -/
inductive BldSharkl5Slot
  | version | enable | nMajorVersion
  | cm (c : Coef) | range (f : RangeField)
  deriving DecidableEq

instance : PQFields BldSharkl5Slot where
  width
    | .version | .enable | .nMajorVersion => 32
    | _ => 16
  signed _ := true
  width_le := by
    intro s
    split <;> decide

/-- The parts of a table of `cmrange`. -/
inductive BldPart
  | cm | range

namespace BldParserLiteR2p0

def bldModes : List (Text × Unit) := [(ofString "default", ())]

def bldParts : List (Text × BldPart) := [(ofString "cm", .cm), (ofString "range", .range)]

def partChain : BldPart → Cascade BldSharkl5Slot
  | .cm => fieldChain coefNames (some ∘ .cm)
  | .range => fieldChain rangeNames (some ∘ .range)

def parseBldVersion : List Node → Except XmlFault (List (Store BldSharkl5Slot)) :=
  parseVersions .version .nMajorVersion

def parseCmrange : List Node → Except XmlFault (List (Store BldSharkl5Slot)) :=
  parseKeyed (partName bldParts) fun _ part => parseArrays (partChain part)

def parseBldCmrangeConfig (curNode : Node) : Except XmlFault (List (Store BldSharkl5Slot)) :=
  parseKeyed (tableMode bldModes) (fun _ _ => parseCmrange) curNode.children

def parseBld (curNode : List Node) : Except XmlFault (List (Store BldSharkl5Slot)) := do
  let cmrange ← parseAt (ofString "cm_config") (onNode parseBldCmrangeConfig) curNode
  let version ← parseAt (ofString "enhance") parseBldVersion curNode
  return cmrange ++ version

def parseXml : Node → PQCtx BldSharkl5Slot → Except XmlFault (Int × PQCtx BldSharkl5Slot) :=
  parseDocument (ofString "root") (-1) parseBld

variable (ctx : PQCtx BldSharkl5Slot)

def updateBldVersion : List Node → Except XmlFault (List Node) := updateVersion ctx .version

def updateCmrange : List Node → Except XmlFault (List Node) :=
  updateKeyed (partName bldParts) fun _ part => updateArrays ctx (partChain part)

def updateBldCmrangeConfig (curNode : Node) : Except XmlFault Node := do
  let tables ← updateKeyed (tableMode bldModes) (fun _ _ => updateCmrange ctx) curNode.children
  return curNode.withChildren tables

/-- The version is written first here. -/
def updateBld (curNode : List Node) : Except XmlFault (List Node) := do
  let curNode ← updateAt (ofString "enhance") (updateBldVersion ctx) curNode
  updateAt (ofString "cm_config") (updateNode (updateBldCmrangeConfig ctx)) curNode

def updateXml : Node → Except XmlFault (Int × Node) :=
  updateDocument (ofString "root") 1 (updateBld ctx)

end BldParserLiteR2p0

/-! ### Cms -/

/-- What the slp blocks of the two cms structures have of their own. -/
class SlpBlock (κ : Type) where
  names : List (Text × κ)
  width : Nat
  nodup : (names.map Prod.fst).Nodup
  width_le : width ≤ 16

/-- `slp_cfg`. -/
instance : SlpBlock SlpField where
  names := slpNames
  width := 8
  nodup := by decide
  width_le := by decide

/-- `slp_cfg_sharkl5Pro_cms`. -/
inductive SlpCms
  | brightness
  deriving DecidableEq

instance : SlpBlock SlpCms where
  names := [(ofString "brightness", .brightness)]
  width := 16
  nodup := by decide
  width_le := by decide

/-- `ltm_cfg`. -/
inductive LtmField
  | slpLowClip | slpHighClip | slpStepClip | reserved
  deriving DecidableEq

def ltmNames : List (Text × LtmField) :=
  [(ofString "slp_step_clip", .slpStepClip), (ofString "slp_high_clip", .slpHighClip),
    (ofString "slp_low_clip", .slpLowClip)]

/-- `cms_common_sharkl5` and `cms_common_sharkl5Pro`. -/
inductive CmsSharkl5Slot (κ : Type)
  | version | enable | mode | nMajorVersion
  | hue (i : Fin 3) (j : Fin 360) | sat (i : Fin 3) (j : Fin 360)
  | coef (i : Fin 3) (c : Coef) | epf (i : Fin 3) (f : EpfField)
  | slp (i : Fin 3) (f : κ) | ltm (i : Fin 3) (f : LtmField)
  | rgb (i : Fin 10) | cmindex (i : Fin 10)
  | cmMode
  | cm (i : Fin 12) (c : Coef)
  deriving DecidableEq

instance {κ : Type} [SlpBlock κ] : PQFields (CmsSharkl5Slot κ) where
  width
    | .version | .enable => 32
    | .epf _ f => if f = .epsilon0 ∨ f = .epsilon1 then 16 else 8
    | .slp .. => SlpBlock.width κ
    | .rgb _ | .cmindex _ => 8
    | _ => 16
  signed
    | .version | .enable | .coef .. | .cm .. => true
    | _ => false
  width_le := by
    intro s
    split
    · decide
    · decide
    · split_ifs <;> decide
    · exact SlpBlock.width_le.trans (by decide)
    · decide
    · decide
    · decide

/-- The parts of an entry of `hsvcm`. -/
inductive CmsPart
  | hsv | cm | epf | slp | ltm

namespace CmsSharkl5

variable {κ : Type}

def cmsParts : List (Text × CmsPart) :=
  [(ofString "hsv", .hsv), (ofString "cm", .cm), (ofString "epf", .epf), (ofString "slp", .slp),
    (ofString "ltm", .ltm)]

def hsvCascade (i : Fin 3) (j : Nat) : Cascade (CmsSharkl5Slot κ) :=
  [(ofString "hue", (element 360 j).map (.hue i)), (ofString "sat", (element 360 j).map (.sat i))]

def rgbCascade (i : Nat) : Cascade (CmsSharkl5Slot κ) :=
  [(ofString "rgb", (element 10 i).map .rgb), (ofString "index", (element 10 i).map .cmindex)]

def cmChain (i : Fin 3) : Cascade (CmsSharkl5Slot κ) := fieldChain coefNames (some ∘ .coef i)

def epfChain (i : Fin 3) : Cascade (CmsSharkl5Slot κ) := fieldChain epfNames (some ∘ .epf i)

def slpChain [SlpBlock κ] (i : Fin 3) : Cascade (CmsSharkl5Slot κ) :=
  fieldChain SlpBlock.names (some ∘ .slp i)

def ltmChain (i : Fin 3) : Cascade (CmsSharkl5Slot κ) := fieldChain ltmNames (some ∘ .ltm i)

/-- The fields of `cm[i]`. -/
def configChain (i : Nat) : Cascade (CmsSharkl5Slot κ) :=
  fieldChain coefNames fun c => (element 12 i).map (.cm · c)

def cmCfgModes : List (Text × Unit) := configModes.map fun mode => (mode, ())

def parseCmsVersion : List Node → Except XmlFault (List (Store (CmsSharkl5Slot κ))) :=
  parseVersions .version .nMajorVersion

section

variable [SlpBlock κ]

/-- `parse_hsv` and its siblings. -/
def parsePart (i : Fin 3) : CmsPart → List Node → Except XmlFault (List (Store (CmsSharkl5Slot κ)))
  | .hsv => parseItems (hsvCascade i)
  | .cm => parseArrays (cmChain i)
  | .epf => parseArrays (epfChain i)
  | .slp => parseArrays (slpChain i)
  | .ltm => parseArrays (ltmChain i)

def parseHsvCmEpfSlpLtm (i : Fin 3) :
    List Node → Except XmlFault (List (Store (CmsSharkl5Slot κ))) :=
  parseKeyed (partName cmsParts) fun _ => parsePart i

def parseCmsHsvcmEpfSlpLtm (curNode : Node) :
    Except XmlFault (List (Store (CmsSharkl5Slot κ))) :=
  parseKeyed (tableMode cmsModes) (fun _ => parseHsvCmEpfSlpLtm) curNode.children

end

def parseCmsRgbmapTable (curNode : Node) : Except XmlFault (List (Store (CmsSharkl5Slot κ))) :=
  parseItems rgbCascade curNode.children

def parseCmsConfigTable (curNode : Node) : Except XmlFault (List (Store (CmsSharkl5Slot κ))) :=
  parseKeyed (tableMode cmCfgModes) (fun i _ => parseArrays (configChain i)) curNode.children

variable [SlpBlock κ]

def parseCms (curNode : List Node) : Except XmlFault (List (Store (CmsSharkl5Slot κ))) := do
  let hsvcm ← parseAt (ofString "hsv_cm_epf_slp_ltm") (onNode parseCmsHsvcmEpfSlpLtm) curNode
  let rgb ← parseAt (ofString "rgb_mapping_table") (onNode parseCmsRgbmapTable) curNode
  let config ← parseAt (ofString "cm_cfg") (onNode parseCmsConfigTable) curNode
  let version ← parseAt (ofString "enhance") parseCmsVersion curNode
  return (hsvcm ++ (rgb ++ config)) ++ version

def parseXml [DecidableEq κ] : Node → PQCtx (CmsSharkl5Slot κ) →
    Except XmlFault (Int × PQCtx (CmsSharkl5Slot κ)) :=
  parseDocument (ofString "root") 1 parseCms

variable (ctx : PQCtx (CmsSharkl5Slot κ))

def updateCmsVersion : List Node → Except XmlFault (List Node) := updateVersion ctx .version

def updatePart (i : Fin 3) : CmsPart → List Node → Except XmlFault (List Node)
  | .hsv => updateItems ctx (hsvCascade i)
  | .cm => updateArrays ctx (cmChain i)
  | .slp => updateArrays ctx (slpChain i)
  | .epf => updateArrays ctx (epfChain i)
  | .ltm => updateArrays ctx (ltmChain i)

def updateHsvCmEpfSlpLtm (i : Fin 3) : List Node → Except XmlFault (List Node) :=
  updateKeyed (partName cmsParts) fun _ => updatePart ctx i

def updateCmsHsvCmEpfSlpLtm (curNode : Node) : Except XmlFault Node := do
  let tables ← updateKeyed (tableMode cmsModes) (fun _ => updateHsvCmEpfSlpLtm ctx) curNode.children
  return curNode.withChildren tables

def updateCmsRgbmapTable (curNode : Node) : Except XmlFault Node := do
  return curNode.withChildren (← updateItems ctx rgbCascade curNode.children)

def updateCmsConfigTable (curNode : Node) : Except XmlFault Node := do
  let tables ← updateKeyed (tableMode cmCfgModes) (fun i _ => updateArrays ctx (configChain i))
    curNode.children
  return curNode.withChildren tables

def updateCms (curNode : List Node) : Except XmlFault (List Node) := do
  let curNode ← updateAt (ofString "hsv_cm_epf_slp_ltm") (updateNode (updateCmsHsvCmEpfSlpLtm ctx))
    curNode
  let curNode ← updateAt (ofString "rgb_mapping_table") (updateNode (updateCmsRgbmapTable ctx)) curNode
  let curNode ← updateAt (ofString "cm_cfg") (updateNode (updateCmsConfigTable ctx)) curNode
  updateAt (ofString "enhance") (updateCmsVersion ctx) curNode

def updateXml : Node → Except XmlFault (Int × Node) :=
  updateDocument (ofString "root") (-1) (updateCms ctx)

end CmsSharkl5

def CmsParserLiteR2p0.parseXml : Node → PQCtx (CmsSharkl5Slot SlpField) →
    Except XmlFault (Int × PQCtx (CmsSharkl5Slot SlpField)) := CmsSharkl5.parseXml

def CmsParserLiteR2p0.updateXml : PQCtx (CmsSharkl5Slot SlpField) → Node →
    Except XmlFault (Int × Node) := CmsSharkl5.updateXml

def CmsParserR4p0.parseXml : Node → PQCtx (CmsSharkl5Slot SlpCms) →
    Except XmlFault (Int × PQCtx (CmsSharkl5Slot SlpCms)) := CmsSharkl5.parseXml

def CmsParserR4p0.updateXml : PQCtx (CmsSharkl5Slot SlpCms) → Node →
    Except XmlFault (Int × Node) := CmsSharkl5.updateXml

/-! ### Hsv -/

/-- `hsv_common_sharkl5Pro`. -/
inductive HsvSlot
  | version | enable | nMajorVersion | flagBitNo
  | r (i : Fin 3) (j : Fin 729) | g (i : Fin 3) (j : Fin 729) | b (i : Fin 3) (j : Fin 729)
  deriving DecidableEq

instance : PQFields HsvSlot where
  width
    | .version | .enable | .nMajorVersion | .flagBitNo => 32
    | _ => 16
  signed
    | .version | .enable => true
    | _ => false
  width_le := by
    intro s
    split <;> decide

namespace HsvParser

def hsvCascade (i j : Nat) : Cascade HsvSlot :=
  [(ofString "r", do return .r (← element 3 i) (← element 729 j)),
    (ofString "g", do return .g (← element 3 i) (← element 729 j)),
    (ofString "b", do return .b (← element 3 i) (← element 729 j))]

/-- Here any mode will do, and the place says which table it is. -/
def anyMode (subNode : Node) : Option Unit := if subNode.hasProp (ofString "mode") then some () else none

def parseHsvVersion : List Node → Except XmlFault (List (Store HsvSlot)) :=
  parseVersions .version .nMajorVersion

def parseHsvRegsTable : List Node → Except XmlFault (List (Store HsvSlot)) :=
  parseKeyed anyMode fun i _ => parseItems (hsvCascade i)

def parseHsv (curNode : List Node) : Except XmlFault (List (Store HsvSlot)) := do
  let regs ← parseAt (ofString "reg_table") parseHsvRegsTable curNode
  let version ← parseAt (ofString "enhance") parseHsvVersion curNode
  return regs ++ version

def parseXml : Node → PQCtx HsvSlot → Except XmlFault (Int × PQCtx HsvSlot) :=
  parseDocument (ofString "LUT_config") (-1) parseHsv

variable (ctx : PQCtx HsvSlot)

def updateHsvVersion : List Node → Except XmlFault (List Node) := updateVersion ctx .version

def updateHsvRegsTable : List Node → Except XmlFault (List Node) :=
  updateKeyed anyMode fun i _ => updateItems ctx (hsvCascade i)

def updateHsv (curNode : List Node) : Except XmlFault (List Node) := do
  let curNode ← updateAt (ofString "reg_table") (updateHsvRegsTable ctx) curNode
  updateAt (ofString "enhance") (updateHsvVersion ctx) curNode

def updateXml : Node → Except XmlFault (Int × Node) :=
  updateDocument (ofString "LUT_config") (-1) (updateHsv ctx)

end HsvParser

end EngPc
