import EngPc.Model.PQTune

/-!
# The SLP and LTM registers of the R4p0 display

`parse_reg` and `update_reg` of `CmsParserR4p0` and `AbcParserR4p0`, as far as they use the register
block behind `DpuSlp` and `DpuLtm`. ParserCore.h declares `slp_ltm_params_l5pro` static, so each of
the two source files has a copy of its own. The driver keeps the block that is written and gives it
to a read.
-/

namespace EngPc

/-- `slp_ltm_cfg_sharkl5pro` without its last two members, which the writes leave out. -/
structure SlpLtmCfg where
  brightness : UInt8
  brightnessStep : UInt16
  fstMaxBrightTh : UInt8
  fstMaxBrightThStep : Vector UInt8 5
  histExbNo : UInt8
  histExbPercent : UInt8
  maskHeight : UInt16
  fstPthIndex : Vector UInt8 4
  hist9Index : Vector UInt8 9
  glbX : Vector UInt8 3
  glbS : Vector UInt16 3
  limitHclip : UInt16
  limitLclip : UInt16
  limitClipStep : UInt16
  fastAmbientTh : UInt8
  sceneChangePercentTh : UInt8
  localWeight : UInt8
  fstPth : UInt8
  deriving DecidableEq, Repr

/-- A variable with static storage, at the start. -/
def SlpLtmCfg.zero : SlpLtmCfg where
  brightness := 0
  brightnessStep := 0
  fstMaxBrightTh := 0
  fstMaxBrightThStep := .replicate 5 0
  histExbNo := 0
  histExbPercent := 0
  maskHeight := 0
  fstPthIndex := .replicate 4 0
  hist9Index := .replicate 9 0
  glbX := .replicate 3 0
  glbS := .replicate 3 0
  limitHclip := 0
  limitLclip := 0
  limitClipStep := 0
  fastAmbientTh := 0
  sceneChangePercentTh := 0
  localWeight := 0
  fstPth := 0

/-- The block of the driver, and `slp_ltm_params_l5pro` of the two files. -/
structure SlpRegs where
  store : SlpLtmCfg
  cmsCopy : SlpLtmCfg
  abcCopy : SlpLtmCfg
  deriving DecidableEq, Repr

/-- `ltm_cfg` -/
structure LtmCfg where
  slpLowClip : UInt16
  slpHighClip : UInt16
  slpStepClip : UInt16
  deriving DecidableEq, Repr

/-- `cms->version.enable`, and `slp` and `ltm` of `cms->hsvcm[0]`. -/
structure CmsSlp where
  enable : UInt32
  brightness : UInt16
  ltm : LtmCfg
  deriving DecidableEq, Repr

/-- `slp_cfg_sharkl5Pro_abc` -/
structure SlpCfgAbc where
  brightness : UInt8
  brightnessStep : UInt16
  firstMaxBrightTh : UInt8
  firstMaxBrightThStep : Vector UInt8 5
  maskHeight : UInt16
  firstPercentTh : UInt8
  firstPthIndex : Vector UInt8 4
  deriving DecidableEq, Repr

/-- `slp_basecfg_sharkl5Pro_abc` -/
structure SlpBasecfgAbc where
  histExbNo : UInt8
  histExbPercent : UInt8
  hist9Index : Vector UInt8 9
  glbX : Vector UInt8 3
  glbS : Vector UInt16 3
  fastAmbientTh : UInt8
  screenChangePercentTh : UInt8
  localWeight : UInt8
  deriving DecidableEq, Repr

/-- `abc->version.enable`, and what `abc->sceneTable[0]` and its first item hold. -/
structure AbcSlp where
  enable : UInt32
  slpCfg : SlpCfgAbc
  slpbasecfg : SlpBasecfgAbc
  ltmCfg : LtmCfg
  deriving DecidableEq, Repr

/-- What `update_reg` returns, the word that it writes to `PQDisable`, and what it leaves. -/
structure SlpUpdated where
  ret : Int
  disable : Option UInt32
  regs : SlpRegs
  deriving DecidableEq, Repr

/-- `CMS_EN | HSV_EN | EPF_EN | LTM_EN` -/
def cmsDisable : UInt32 := 0x4E

/-- `SLP_EN | LTM_EN` -/
def abcDisable : UInt32 := 0x50

section Parsers

variable (opened : Option Errno) (s : SlpRegs)

/-- `opened` is the error where one of the files cannot be opened. -/
def cmsParseReg (cms : CmsSlp) : Int × CmsSlp × SlpRegs :=
  match opened with
  | some errno => (errno.val, cms, s)
  | none =>
    let copy := s.store
    let ltm : LtmCfg := ⟨copy.limitLclip, copy.limitHclip, copy.limitClipStep⟩
    (0, { cms with brightness := copy.brightness.toUInt16, ltm := ltm }, { s with cmsCopy := copy })

def cmsUpdateReg (cms : CmsSlp) : SlpUpdated :=
  match opened with
  | some errno => ⟨errno.val, none, s⟩
  | none =>
    if cms.enable ≠ 0 then
      let copy :=
        { s.cmsCopy with
          brightness := cms.brightness.toUInt8
          limitLclip := cms.ltm.slpLowClip
          limitHclip := cms.ltm.slpHighClip
          limitClipStep := cms.ltm.slpStepClip }
      ⟨0, none, { s with store := copy, cmsCopy := copy }⟩
    else ⟨0, some cmsDisable, s⟩

def abcParseReg (abc : AbcSlp) : Int × AbcSlp × SlpRegs :=
  match opened with
  | some errno => (errno.val, abc, s)
  | none =>
    let copy := s.store
    let slpCfg : SlpCfgAbc :=
      { brightness := copy.brightness
        brightnessStep := copy.brightnessStep
        firstMaxBrightTh := copy.fstMaxBrightTh
        firstMaxBrightThStep := copy.fstMaxBrightThStep
        maskHeight := copy.maskHeight
        firstPercentTh := copy.fstPth
        firstPthIndex := copy.fstPthIndex }
    let slpbasecfg : SlpBasecfgAbc :=
      { histExbNo := copy.histExbNo
        histExbPercent := copy.histExbPercent
        hist9Index := copy.hist9Index
        glbX := copy.glbX
        glbS := copy.glbS
        fastAmbientTh := copy.fastAmbientTh
        screenChangePercentTh := copy.sceneChangePercentTh
        localWeight := copy.localWeight }
    let ltmCfg : LtmCfg := ⟨copy.limitLclip, copy.limitHclip, copy.limitClipStep⟩
    (0, { abc with slpCfg := slpCfg, slpbasecfg := slpbasecfg, ltmCfg := ltmCfg },
      { s with abcCopy := copy })

/-- Every member of the copy is set. -/
def AbcSlp.block (abc : AbcSlp) : SlpLtmCfg where
  brightness := abc.slpCfg.brightness
  brightnessStep := abc.slpCfg.brightnessStep
  fstMaxBrightTh := abc.slpCfg.firstMaxBrightTh
  fstMaxBrightThStep := abc.slpCfg.firstMaxBrightThStep
  maskHeight := abc.slpCfg.maskHeight
  fstPth := abc.slpCfg.firstPercentTh
  fstPthIndex := abc.slpCfg.firstPthIndex
  histExbNo := abc.slpbasecfg.histExbNo
  histExbPercent := abc.slpbasecfg.histExbPercent
  hist9Index := abc.slpbasecfg.hist9Index
  glbX := abc.slpbasecfg.glbX
  glbS := abc.slpbasecfg.glbS
  fastAmbientTh := abc.slpbasecfg.fastAmbientTh
  sceneChangePercentTh := abc.slpbasecfg.screenChangePercentTh
  localWeight := abc.slpbasecfg.localWeight
  limitLclip := abc.ltmCfg.slpLowClip
  limitHclip := abc.ltmCfg.slpHighClip
  limitClipStep := abc.ltmCfg.slpStepClip

def abcUpdateReg (abc : AbcSlp) : SlpUpdated :=
  match opened with
  | some errno => ⟨errno.val, none, s⟩
  | none =>
    if abc.enable ≠ 0 then
      let copy := abc.block
      ⟨0, none, { s with store := copy, abcCopy := copy }⟩
    else ⟨0, some abcDisable, s⟩

end Parsers

end EngPc
