import EngPc.Lib.CLayout
import EngPc.Model.PQTune

/-!
# The structures of the PQ parameters

PQTuningParmDefine.h: `ctx` of a core is one of the four `pq_tuning_parm` structures, which hold
the main version and one structure for each module.
-/

namespace EngPc
open CLayout

def u8 : CType := .scalar 1

def u16 : CType := .scalar 2

def u32 : CType := .scalar 4

/-- `n` members of one type. -/
def members (n : Nat) (t : CType) : List CType := List.replicate n t

def subversion : CType := .struct [u32, u32]

def mainversion : CType := .struct [u32, u32]

def gammaLut : CType := .struct [.array u16 256, .array u16 256, .array u16 256]

def hsvLutTable : CType := .struct [u16, u16]

def cmCfg : CType := .struct (members 12 u16)

def rangeCfg : CType := .struct (members 6 u16)

def hsvLut : CType := .struct [.array hsvLutTable 360]

def hsvCm : CType := .struct [hsvLut, cmCfg]

def cmRange : CType := .struct [cmCfg, rangeCfg]

def rgbCmMapping : CType := .struct [u8, u8]

def slpMappingTableItem : CType := .struct [u16, u16]

def blMappingTableItem : CType := .struct [u16, u16]

def slpCfg : CType := .struct (members 6 u8)

def epfCfg : CType := .struct (members 2 u16 ++ members 10 u8)

def slpMappingTable : CType := .struct [u32, .array slpMappingTableItem 128]

def blMappingTable : CType := .struct [u32, .array blMappingTableItem 128]

def sceneTableItem : CType := .struct [epfCfg, epfCfg, slpCfg, slpMappingTable]

def sceneTable : CType := .struct [u16, u16, .array sceneTableItem 16]

def gammaCommon : CType := .struct [subversion, gammaLut]

def bldCommon : CType := .struct [subversion, u32, .array hsvCm 3]

def cmsCommon : CType :=
  .struct [subversion, u32, .array hsvCm 3, .array rgbCmMapping 10, u16, .array cmCfg 12]

def abcCommon : CType :=
  .struct [subversion, u8, u8, u16, .array sceneTable 2, .array blMappingTable 2]

def ltmCfg : CType := .struct (members 4 u16)

def sceneTableItemSharkl5 : CType := .struct [epfCfg, slpCfg, ltmCfg, slpMappingTable]

def sceneTableSharkl5 : CType := .struct [u16, u16, .array sceneTableItemSharkl5 16]

def hsvCmSharkl5 : CType := .struct [hsvLut, cmCfg, epfCfg, slpCfg, ltmCfg]

def gammaCommonSharkl5 : CType := .struct [subversion, u16, u16, .array gammaLut 2]

def bldCommonSharkl5 : CType := .struct [subversion, u32, cmRange]

def cmsCommonSharkl5 : CType :=
  .struct [subversion, u16, u16, .array hsvCmSharkl5 3, .array rgbCmMapping 10, u16,
    .array cmCfg 12]

def abcCommonSharkl5 : CType :=
  .struct [subversion, u8, u8, u16, .array sceneTableSharkl5 2, .array blMappingTable 2]

def sceneTableItemRoc1 : CType := .struct [epfCfg, epfCfg, slpCfg, ltmCfg, slpMappingTable]

def sceneTableRoc1 : CType := .struct [u16, u16, .array sceneTableItemRoc1 16]

def abcCommonRoc1 : CType :=
  .struct [subversion, u8, u8, u16, .array sceneTableRoc1 2, .array blMappingTable 2]

def lut3d : CType := .struct [.array u16 729, .array u16 729, .array u16 729]

def hsvCommonSharkl5Pro : CType := .struct [subversion, u32, u32, .array lut3d 3]

def slpCfgSharkl5ProCms : CType := .struct [u16]

def hsvCmSharkl5Pro : CType := .struct [hsvLut, cmCfg, epfCfg, slpCfgSharkl5ProCms, ltmCfg]

def cmsCommonSharkl5Pro : CType :=
  .struct [subversion, u16, u16, .array hsvCmSharkl5Pro 3, .array rgbCmMapping 10, u16,
    .array cmCfg 12]

def slpCfgSharkl5ProAbc : CType :=
  .struct ([u8, u8, u16] ++ members 6 u8 ++ [u16] ++ members 5 u8 ++ [.array u8 3])

def slpBasecfgSharkl5ProAbc : CType :=
  .struct (members 14 u8 ++ members 3 u16 ++ members 4 u8)

def sceneTableItemSharkl5Pro : CType :=
  .struct [epfCfg, epfCfg, slpCfgSharkl5ProAbc, ltmCfg, slpMappingTable]

def sceneTableSharkl5Pro : CType :=
  .struct [u16, u16, slpBasecfgSharkl5ProAbc, .array sceneTableItemSharkl5Pro 16]

def abcCommonSharkl5Pro : CType := .struct [subversion, u16, u16, .array sceneTableSharkl5Pro 2]

/-- The members of the structure behind `ctx`: the main version and the modules of the chip. -/
def IPCore.parm : IPCore → List CType
  | .dpuR2p0 => [mainversion, gammaCommon, bldCommon, cmsCommon, abcCommon]
  | .dpuLiteR2p0 =>
    [mainversion, gammaCommonSharkl5, bldCommonSharkl5, cmsCommonSharkl5, abcCommonSharkl5]
  | .dpuR3p0 =>
    [mainversion, gammaCommonSharkl5, bldCommonSharkl5, cmsCommonSharkl5, abcCommonRoc1]
  | .dpuR4p0 =>
    [mainversion, gammaCommonSharkl5, bldCommonSharkl5, cmsCommonSharkl5Pro, abcCommonSharkl5Pro,
      hsvCommonSharkl5Pro]

end EngPc
