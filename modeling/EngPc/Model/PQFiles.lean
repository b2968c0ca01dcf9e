import EngPc.Lib.MemberPath
import EngPc.Model.PQLaterTables
import EngPc.Model.PQMemory

/-!
# The files of the PQ modules

The XML functions of a module's parser on its file and on the memory behind `ctx`: each field of the
module's structure stands there at the place that the C layout gives it. Whether the file opens and
is saved is left out here.
-/

namespace EngPc
open CLayout CString LittleEndian ReadWrite XmlTree

/-- The structure that has the fields, and the path to each of them. -/
class PQLayout (σ : Type) [PQFields σ] where
  type : CType
  path : σ → List Nat
  sized : type.sized = true
  typeAt_path : ∀ s : σ, type.typeAt (path s) = some (.scalar (PQFields.width s / 8))
  width_dvd : ∀ s : σ, 8 ∣ PQFields.width s
  path_injective : Function.Injective path

section Memory

variable {σ : Type} [PQFields σ] [PQLayout σ]

/-- `offsetof`. -/
def fieldOffset (s : σ) : Nat := (PQLayout.type σ).offsetAt (PQLayout.path s)

def fieldBytes (s : σ) : Nat := PQFields.width s / 8

/-- The fields of the structure at `off`. -/
def fieldsAt (mem : Buffer UInt8) (off : Nat) : PQCtx σ :=
  fun s => BitVec.ofNat _ (natLE (mem.load (off + fieldOffset s) (fieldBytes s)))

/-- An assignment to a field. -/
def assign (off : Nat) (mem : Buffer UInt8) (st : Store σ) : Buffer UInt8 :=
  mem.fill (off + fieldOffset st.1) (bytesLE (fieldBytes st.1) st.2)

def assignAll (mem : Buffer UInt8) (off : Nat) (stores : List (Store σ)) : Buffer UInt8 :=
  stores.foldl (assign off) mem

end Memory

/-- The enumerations of fields have the order of their structures. -/
def Coef.index (c : Coef) : Nat := c.ctorIdx

def RangeField.index (f : RangeField) : Nat := f.ctorIdx

def EpfField.index (f : EpfField) : Nat := f.ctorIdx

def SlpField.index (f : SlpField) : Nat := f.ctorIdx

def LtmField.index (f : LtmField) : Nat := f.ctorIdx

lemma Coef.index_inj {c c' : Coef} : c.index = c'.index ↔ c = c' :=
  (Function.LeftInverse.injective Coef.ofNat_ctorIdx).eq_iff

lemma RangeField.index_inj {f f' : RangeField} : f.index = f'.index ↔ f = f' :=
  (Function.LeftInverse.injective RangeField.ofNat_ctorIdx).eq_iff

lemma EpfField.index_inj {f f' : EpfField} : f.index = f'.index ↔ f = f' :=
  (Function.LeftInverse.injective EpfField.ofNat_ctorIdx).eq_iff

lemma LtmField.index_inj {f f' : LtmField} : f.index = f'.index ↔ f = f' :=
  (Function.LeftInverse.injective LtmField.ofNat_ctorIdx).eq_iff

lemma typeAt_cmCfg (c : Coef) : cmCfg.typeAt [c.index] = some u16 := by
  cases c <;> rfl

lemma typeAt_rangeCfg (f : RangeField) : rangeCfg.typeAt [f.index] = some u16 := by
  cases f <;> rfl

lemma typeAt_epfCfg (f : EpfField) :
    epfCfg.typeAt [f.index] = some (if f = .epsilon0 ∨ f = .epsilon1 then u16 else u8) := by
  cases f <;> rfl

lemma typeAt_ltmCfg (f : LtmField) : ltmCfg.typeAt [f.index] = some u16 := by
  cases f <;> rfl

instance : PQLayout GammaSlot where
  type := gammaCommon
  path
    | .version => [0, 0]
    | .enable => [0, 1]
    | .r i => [1, 0, i]
    | .g i => [1, 1, i]
    | .b i => [1, 2, i]
  sized := rfl
  typeAt_path := by
    intro s
    cases s <;> simp [PQFields.width, gammaCommon, gammaLut, subversion, u16, u32]
  width_dvd := by
    intro s
    cases s <;> simp only [PQFields.width] <;> decide
  path_injective := by
    intro s s'
    cases s <;> cases s' <;> simp [Fin.val_inj]

instance : PQLayout BldSlot where
  type := bldCommon
  path
    | .version => [0, 0]
    | .enable => [0, 1]
    | .mode => [1]
    | .hue i j => [2, i, 0, 0, j, 0]
    | .sat i j => [2, i, 0, 0, j, 1]
    | .coef i c => [2, i, 1, c.index]
  sized := rfl
  typeAt_path := by
    intro s
    cases s <;> simp [PQFields.width, bldCommon, hsvCm, typeAt_cmCfg, hsvLut, hsvLutTable, subversion,
      u16, u32]
  width_dvd := by
    intro s
    cases s <;> simp only [PQFields.width] <;> decide
  path_injective := by
    intro s s'
    cases s <;> cases s' <;> simp [Fin.val_inj, Coef.index_inj]

instance : PQLayout CmsSlot where
  type := cmsCommon
  path
    | .version => [0, 0]
    | .enable => [0, 1]
    | .mode => [1]
    | .hue i j => [2, i, 0, 0, j, 0]
    | .sat i j => [2, i, 0, 0, j, 1]
    | .coef i c => [2, i, 1, c.index]
    | .rgb i => [3, i, 0]
    | .cmindex i => [3, i, 1]
    | .cmMode => [4]
    | .cm i c => [5, i, c.index]
  sized := rfl
  typeAt_path := by
    intro s
    cases s <;> simp [PQFields.width, cmsCommon, hsvCm, typeAt_cmCfg, hsvLut, hsvLutTable, rgbCmMapping,
      subversion, u8, u16, u32]
  width_dvd := by
    intro s
    cases s <;> simp only [PQFields.width] <;> decide
  path_injective := by
    intro s s'
    cases s <;> cases s' <;> simp [Fin.val_inj, Coef.index_inj]

instance : PQLayout GammaSharkl5Slot where
  type := gammaCommonSharkl5
  path
    | .version => [0, 0]
    | .enable => [0, 1]
    | .nMode => [1]
    | .nMajorVersion => [2]
    | .r i j => [3, i, 0, j]
    | .g i j => [3, i, 1, j]
    | .b i j => [3, i, 2, j]
  sized := rfl
  typeAt_path := by
    intro s
    cases s <;> simp [PQFields.width, gammaCommonSharkl5, gammaLut, subversion, u16, u32]
  width_dvd := by
    intro s
    cases s <;> simp only [PQFields.width] <;> decide
  path_injective := by
    intro s s'
    cases s <;> cases s' <;> simp [Fin.val_inj]

instance : PQLayout BldSharkl5Slot where
  type := bldCommonSharkl5
  path
    | .version => [0, 0]
    | .enable => [0, 1]
    | .nMajorVersion => [1]
    | .cm c => [2, 0, c.index]
    | .range f => [2, 1, f.index]
  sized := rfl
  typeAt_path := by
    intro s
    cases s <;> simp [PQFields.width, bldCommonSharkl5, cmRange, typeAt_cmCfg, typeAt_rangeCfg, subversion,
      u16, u32]
  width_dvd := by
    intro s
    cases s <;> simp only [PQFields.width] <;> decide
  path_injective := by
    intro s s'
    cases s <;> cases s' <;> simp [Coef.index_inj, RangeField.index_inj]

/-- The slp blocks of the two cms structures. -/
class SlpLayout (κ : Type) [SlpBlock κ] where
  type : CType
  index : κ → Nat
  sized : type.sized = true
  typeAt_index : ∀ f, type.typeAt [index f] = some (.scalar (SlpBlock.width κ / 8))
  width_dvd : 8 ∣ SlpBlock.width κ
  index_injective : Function.Injective index

instance : SlpLayout SlpField where
  type := slpCfg
  index := SlpField.index
  sized := rfl
  typeAt_index := by
    intro f
    cases f <;> rfl
  width_dvd := by decide
  index_injective := Function.LeftInverse.injective SlpField.ofNat_ctorIdx

instance : SlpLayout SlpCms where
  type := slpCfgSharkl5ProCms
  index _ := 0
  sized := rfl
  typeAt_index := by
    intro f
    rfl
  width_dvd := by decide
  index_injective := fun _ _ _ => rfl

/-- `cms_common_sharkl5` and `cms_common_sharkl5Pro`, with the slp block of an entry of `hsvcm`. -/
def cmsSharkl5Type (slp : CType) : CType :=
  .struct [subversion, u16, u16, .array (.struct [hsvLut, cmCfg, epfCfg, slp, ltmCfg]) 3,
    .array rgbCmMapping 10, u16, .array cmCfg 12]

instance {κ : Type} [SlpBlock κ] [SlpLayout κ] : PQLayout (CmsSharkl5Slot κ) where
  type := cmsSharkl5Type (SlpLayout.type κ)
  path
    | .version => [0, 0]
    | .enable => [0, 1]
    | .mode => [1]
    | .nMajorVersion => [2]
    | .hue i j => [3, i, 0, 0, j, 0]
    | .sat i j => [3, i, 0, 0, j, 1]
    | .coef i c => [3, i, 1, c.index]
    | .epf i f => [3, i, 2, f.index]
    | .slp i f => [3, i, 3, SlpLayout.index f]
    | .ltm i f => [3, i, 4, f.index]
    | .rgb i => [4, i, 0]
    | .cmindex i => [4, i, 1]
    | .cmMode => [5]
    | .cm i c => [6, i, c.index]
  sized := by
    have hslp : (SlpLayout.type κ).sized = true := SlpLayout.sized
    simp only [cmsSharkl5Type, CType.sized, allSized, hslp]
    rfl
  typeAt_path := by
    intro s
    cases s with
    | epf i f =>
      simp only [PQFields.width, cmsSharkl5Type]
      split_ifs with hf <;> simp [typeAt_epfCfg, hf, u8, u16]
    | slp i f => simp [PQFields.width, cmsSharkl5Type, SlpLayout.typeAt_index]
    | _ => simp [PQFields.width, cmsSharkl5Type, typeAt_cmCfg, typeAt_ltmCfg, hsvLut, hsvLutTable,
        rgbCmMapping, subversion, u8, u16, u32]
  width_dvd := by
    intro s
    cases s with
    | epf i f =>
      simp only [PQFields.width]
      split_ifs <;> decide
    | slp i f => exact SlpLayout.width_dvd
    | _ => simp only [PQFields.width]; decide
  path_injective := by
    intro s s'
    cases s <;> cases s' <;> simp [Fin.val_inj, Coef.index_inj, EpfField.index_inj, LtmField.index_inj,
      SlpLayout.index_injective.eq_iff]

instance : PQLayout HsvSlot where
  type := hsvCommonSharkl5Pro
  path
    | .version => [0, 0]
    | .enable => [0, 1]
    | .nMajorVersion => [1]
    | .flagBitNo => [2]
    | .r i j => [3, i, 0, j]
    | .g i j => [3, i, 1, j]
    | .b i j => [3, i, 2, j]
  sized := rfl
  typeAt_path := by
    intro s
    cases s <;> simp [PQFields.width, hsvCommonSharkl5Pro, lut3d, subversion, u16, u32]
  width_dvd := by
    intro s
    cases s <;> simp only [PQFields.width] <;> decide
  path_injective := by
    intro s s'
    cases s <;> cases s' <;> simp [Fin.val_inj]

/-- The stores of `parse_xml`: none for a root of another name. -/
def rootStores {σ : Type} (name : Text) (walk : List Node → Except XmlFault (List (Store σ)))
    (root : Node) : Except XmlFault (List (Store σ)) :=
  if root.name ≠ name then .ok [] else walk root.children

/-- The XML functions of a parser, with the stores that `parse_xml` makes; `major` is a field that is
read and not written. -/
structure PQXmlFile where
  Slot : Type
  [fields : PQFields Slot]
  [layout : PQLayout Slot]
  [eq : DecidableEq Slot]
  parseXml : Node → PQCtx Slot → Except XmlFault (Int × PQCtx Slot)
  updateXml : PQCtx Slot → Node → Except XmlFault (Int × Node)
  stores : Node → Except XmlFault (List (Store Slot))
  major : Option Slot
  parseXml_eq : ∀ root, ∃ ret : Int, ∀ ctx,
    parseXml root ctx = (stores root).map fun l => (ret, ctx.storeAll l)

attribute [instance] PQXmlFile.fields PQXmlFile.layout PQXmlFile.eq

section

variable {σ : Type} [PQFields σ] [DecidableEq σ] {name : Text}
  {walk : List Node → Except XmlFault (List (Store σ))}

lemma parseRoot_eq (root : Node) : ∃ ret : Int, ∀ ctx,
    parseRoot name walk root ctx = (rootStores name walk root).map fun l => (ret, ctx.storeAll l) := by
  by_cases hroot : root.name = name
  · refine ⟨0, fun ctx => ?_⟩
    rw [parseRoot, rootStores, if_neg (not_not.mpr hroot), if_neg (not_not.mpr hroot)]
    cases walk root.children <;> rfl
  · refine ⟨-1, fun ctx => ?_⟩
    rw [parseRoot, rootStores, if_pos hroot, if_pos hroot]
    rfl

lemma parseDocument_eq {other : Int} (root : Node) : ∃ ret : Int, ∀ ctx,
    parseDocument name other walk root ctx =
      (rootStores name walk root).map fun l => (ret, ctx.storeAll l) := by
  by_cases hroot : root.name = name
  · refine ⟨0, fun ctx => ?_⟩
    rw [parseDocument, rootStores, if_neg (not_not.mpr hroot), if_neg (not_not.mpr hroot)]
    cases walk root.children <;> rfl
  · refine ⟨other, fun ctx => ?_⟩
    rw [parseDocument, rootStores, if_pos hroot, if_pos hroot]
    rfl

end

def PQXmlFile.gamma : PQXmlFile where
  Slot := GammaSlot
  parseXml := GammaParser.parseXml
  updateXml := GammaParser.updateXml
  stores := rootStores (ofString "gamma_config") parseGamma
  major := none
  parseXml_eq := parseRoot_eq

def PQXmlFile.bld : PQXmlFile where
  Slot := BldSlot
  parseXml := BldParser.parseXml
  updateXml := BldParser.updateXml
  stores := rootStores (ofString "root") parseBld
  major := none
  parseXml_eq := parseRoot_eq

def PQXmlFile.cms : PQXmlFile where
  Slot := CmsSlot
  parseXml := CmsParser.parseXml
  updateXml := CmsParser.updateXml
  stores := rootStores (ofString "root") parseCms
  major := none
  parseXml_eq := parseRoot_eq

def PQXmlFile.gammaLiteR2p0 : PQXmlFile where
  Slot := GammaSharkl5Slot
  parseXml := GammaParserLiteR2p0.parseXml
  updateXml := GammaParserLiteR2p0.updateXml
  stores := rootStores (ofString "gamma_config") GammaParserLiteR2p0.parseGamma
  major := some .nMajorVersion
  parseXml_eq := parseDocument_eq

def PQXmlFile.bldLiteR2p0 : PQXmlFile where
  Slot := BldSharkl5Slot
  parseXml := BldParserLiteR2p0.parseXml
  updateXml := BldParserLiteR2p0.updateXml
  stores := rootStores (ofString "root") BldParserLiteR2p0.parseBld
  major := some .nMajorVersion
  parseXml_eq := parseDocument_eq

/-- The cms parsers, by their slp blocks. -/
def PQXmlFile.cmsSharkl5 (κ : Type) [SlpBlock κ] [SlpLayout κ] [DecidableEq κ] : PQXmlFile where
  Slot := CmsSharkl5Slot κ
  parseXml := CmsSharkl5.parseXml
  updateXml := CmsSharkl5.updateXml
  stores := rootStores (ofString "root") CmsSharkl5.parseCms
  major := some .nMajorVersion
  parseXml_eq := parseDocument_eq

def PQXmlFile.hsv : PQXmlFile where
  Slot := HsvSlot
  parseXml := HsvParser.parseXml
  updateXml := HsvParser.updateXml
  stores := rootStores (ofString "LUT_config") HsvParser.parseHsv
  major := some .nMajorVersion
  parseXml_eq := parseDocument_eq

/-- The parsers of all modules but abc. -/
def ParserClass.xmlFile : ParserClass → Option PQXmlFile
  | .gamma => some .gamma
  | .bld => some .bld
  | .cms => some .cms
  | .gammaLiteR2p0 => some .gammaLiteR2p0
  | .bldLiteR2p0 => some .bldLiteR2p0
  | .cmsLiteR2p0 => some (.cmsSharkl5 SlpField)
  | .cmsR4p0 => some (.cmsSharkl5 SlpCms)
  | .hsv => some .hsv
  | .abc | .abcLiteR2p0 | .abcR3p0 | .abcR4p0 => none

/-- `parse_xml` on the memory. -/
def PQXmlFile.parseInto (file : PQXmlFile) (off : Nat) (root : Node) (mem : Buffer UInt8) :
    Except XmlFault (Buffer UInt8) := do
  return assignAll mem off (← file.stores root)

/-- `update_xml` from the memory. -/
def PQXmlFile.updateFrom (file : PQXmlFile) (off : Nat) (mem : Buffer UInt8) (root : Node) :
    Except XmlFault Node := do
  let r ← file.updateXml (fieldsAt mem off) root
  return r.2

end EngPc
