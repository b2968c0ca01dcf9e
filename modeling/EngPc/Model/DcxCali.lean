import EngPc.Lib.Countdown
import EngPc.Model.Types

/-!
# Calibration of the 26 MHz crystal

The requests of `libdcxcali`. `hp_amp_cali` and `lp_amp_cali` are one procedure with the constants
of the mode (`AmpMode`). The hardware sets one bit of CTRL4, the OK flag: `ok` is a function of the
other bits of CTRL4 and of CTRL5.
-/

namespace EngPc

/-- The registers `ANA_REG_GLB_TSX_CTRL3` to `ANA_REG_GLB_TSX_CTRL14` that the requests use. -/
structure DcxRegs where
  ctrl3 : UInt32
  ctrl4 : UInt32
  ctrl5 : UInt32
  ctrl10 : UInt32
  ctrl11 : UInt32
  ctrl14 : UInt32
  deriving DecidableEq, Repr

abbrev OkFlag := UInt32 → UInt32 → Bool

/-- `BIT_DCXO_CORE_AML_CAL_EN`, of CTRL3. -/
def amlCalEn : UInt32 := 0x8

/-- `BIT_DCXO_CORE_AML_CAL_OK_FLAG`, of CTRL4. -/
def amlCalOkFlag : UInt32 := 0x8

/-- `BIT_DCXO_LP_CAL_EN`, of CTRL14. -/
def lpCalEn : UInt32 := 0x800

/-- `BIT_DCXO_CORE_AML_CTRL`, of CTRL4. -/
def amlCtrl (x : UInt32) : UInt32 := (x &&& 0xF) <<< 4

/-- `BIT_DCXO_CORE_AML_CAL_CTRL_HP` and `BIT_DCXO_CORE_AML_CAL_CTRL_LP`, of CTRL5. -/
def amlCalCtrl (x : UInt32) : UInt32 := x &&& 0xFF

/-- `BIT_DCXO_CORE_CBANK_HP`, of CTRL10. -/
def cbankHp (x : UInt32) : UInt32 := x &&& 0xFF

section Amplitude

variable (ok : OkFlag)

/-- What a read of CTRL4 gives. -/
def readCtrl4 (s : DcxRegs) : UInt32 :=
  let rest := s.ctrl4 &&& ~~~amlCalOkFlag
  rest ||| if ok rest s.ctrl5 then amlCalOkFlag else 0

/-- `OK_FLAG` -/
def okFlag (s : DcxRegs) : UInt32 := readCtrl4 ok s &&& amlCalOkFlag

/-- The constants in which the two calibrations differ. -/
structure AmpMode where
  coarseMask : UInt32
  coarseShift : UInt32
  fineMask : UInt32
  coarseLevel : UInt32
  fineLevel : UInt32
  /-- The mask for CTRL5 in the body of the first loop. -/
  loopKeep : UInt32
  /-- The mask for CTRL5 after the first loop. -/
  stepKeep : UInt32
  /-- `val` after the first loop. -/
  next : UInt32 → UInt32

def hpMode : AmpMode where
  coarseMask := 0xE0
  coarseShift := 5
  fineMask := 0x1F
  coarseLevel := 0x7
  fineLevel := 0x6
  loopKeep := 0x1F
  stepKeep := ~~~0xE0
  next val := val + 1

def lpMode : AmpMode where
  coarseMask := 0x30
  coarseShift := 4
  fineMask := 0xF
  coarseLevel := 0x2
  fineLevel := 0x1
  loopKeep := ~~~0xF0
  stepKeep := ~~~0xF0
  next _ := 1 -- `val =  + 1;`, the left operand is missing

namespace AmpMode

variable (m : AmpMode) (s : DcxRegs)

/-- `HP_CAL_CTRL_7_5` and `LP_CAL_CTRL_5_4` -/
def coarse : UInt32 := (s.ctrl5 &&& amlCalCtrl m.coarseMask) >>> m.coarseShift

/-- `HP_CAL_CTRL_4_0` and `LP_CAL_CTRL_3_0` -/
def fine : UInt32 := s.ctrl5 &&& amlCalCtrl m.fineMask

/-- `hp_dcxo_amp_init` and `lp_dcxo_amp_init` -/
def ampInit : DcxRegs :=
  let s := { s with ctrl3 := s.ctrl3 ||| amlCalEn }
  let s := { s with ctrl5 := s.ctrl5 ||| amlCalCtrl m.fineMask }
  let s := { s with ctrl5 := s.ctrl5 ||| amlCalCtrl m.coarseMask }
  { s with ctrl4 := readCtrl4 ok s ||| amlCtrl m.coarseLevel }

def coarseGo : Bool := !(okFlag ok s != 0) && !(okFlag ok s == 0 && m.coarse s == 0)

def coarseBody : DcxRegs :=
  { s with ctrl5 := amlCalCtrl (s.ctrl5 &&& m.loopKeep ||| (m.coarse s - 1) <<< m.coarseShift) }

/-- What follows the first loop. -/
def coarseEnd : DcxRegs :=
  let s := if okFlag ok s != 0 && m.coarse s != 0 then
    { s with ctrl5 :=
        amlCalCtrl (s.ctrl5 &&& m.stepKeep ||| m.next (m.coarse s) <<< m.coarseShift) }
  else s
  if okFlag ok s == 0 && m.coarse s == 0 then
    { s with ctrl5 := if s.ctrl5 != 0 && m.fineMask != 0 then 1 else 0 }
  else s

/-- The coarse phase, with the initialisation. -/
def coarsePhase (fuel : Nat) : Option DcxRegs :=
  (Countdown.whileLoop (m.coarseGo ok) m.coarseBody fuel (m.ampInit ok s)).map (m.coarseEnd ok)

def fineStart : DcxRegs :=
  let s := { s with ctrl4 := readCtrl4 ok s &&& ~~~amlCtrl 0xF ||| amlCtrl m.fineLevel }
  { s with ctrl5 := s.ctrl5 ||| m.fineMask }

def fineGo : Bool := okFlag ok s != amlCalOkFlag

def fineBody : DcxRegs := { s with ctrl5 := s.ctrl5 &&& ~~~m.fineMask ||| (m.fine s - 1) }

def finePhase (fuel : Nat) : Option DcxRegs :=
  Countdown.whileLoop (fineGo ok) m.fineBody fuel (m.fineStart ok s)

def ampCali (fuel : Nat) : Option DcxRegs := do
  let s ← m.coarsePhase ok s fuel
  let s ← m.finePhase ok s fuel
  some { s with ctrl3 := s.ctrl3 &&& ~~~amlCalEn }

end AmpMode

/-- The registers afterwards, and what is returned. -/
def hpAmpCali (fuel : Nat) (s : DcxRegs) : Option (DcxRegs × UInt32) := do
  let s ← hpMode.ampCali ok s fuel
  some (s, s.ctrl5)

def lpAmpCali (fuel : Nat) (s : DcxRegs) : Option (DcxRegs × UInt32) := do
  let cbankBak := s.ctrl10
  let s ← lpMode.ampCali ok { s with ctrl10 := 0 } fuel
  let s := { s with ctrl10 := cbankBak }
  some (s, s.ctrl5)

end Amplitude

/-- The registers and the variables of the file. -/
structure Dcx where
  regs : DcxRegs
  currentMode : Int
  hpCbank : UInt32
  lpCbank : UInt32
  hpAmp : UInt32
  lpAmp : UInt32
  deriving DecidableEq, Repr

def Dcx.initial (regs : DcxRegs) : Dcx where
  regs := regs
  currentMode := 1
  hpCbank := 0
  lpCbank := 0
  hpAmp := 0
  lpAmp := 0

/-- `TOOLS_DIAG_AP_CNF_T`, and `Amp_26M` where it follows. -/
structure DcxCnf where
  status : UInt16
  length : UInt16
  amp26M : Option UInt16
  deriving DecidableEq, Repr

def dcxSetAfcMode (mode : UInt16) (d : Dcx) : Dcx × DcxCnf :=
  let d :=
    if mode = 0 then
      let d :=
        if d.currentMode = 1 then
          { d with
            hpCbank := cbankHp d.regs.ctrl10
            hpAmp := d.regs.ctrl5
            regs := { d.regs with ctrl10 := 0, ctrl14 := d.regs.ctrl14 ||| lpCalEn } }
        else d
      { d with currentMode := 0 }
    else
      let d :=
        if d.currentMode = 0 then
          { d with
            lpCbank := d.regs.ctrl10
            lpAmp := d.regs.ctrl5
            regs :=
              { d.regs with
                ctrl14 := d.regs.ctrl14 &&& ~~~lpCalEn
                ctrl10 := d.hpCbank
                ctrl5 := d.hpAmp } }
        else d
      { d with currentMode := 1 }
  let status := if mode = 0 then 0 else if mode = 1 then 0 else 1
  (d, ⟨status, 0, none⟩)

def dcxSetAfcCdac (cdac : UInt16) (d : Dcx) : Dcx × DcxCnf :=
  let regs :=
    if d.currentMode = 1 then { d.regs with ctrl10 := cdac.toUInt32 }
    else { d.regs with ctrl11 := cdac.toUInt32 }
  ({ d with regs := regs }, ⟨0, 0, none⟩)

def findAmpCalFinish (ok : OkFlag) (fuel : Nat) (current : Int) (s : DcxRegs) :
    Option (DcxRegs × UInt32) :=
  if current ≠ 0 then hpAmpCali ok fuel s else lpAmpCali ok fuel s

def dcxAmpCali (ok : OkFlag) (fuel : Nat) (d : Dcx) : Option (Dcx × DcxCnf) := do
  let (regs, reg) ← findAmpCalFinish ok fuel d.currentMode d.regs
  some ({ d with regs := regs }, ⟨0, 4, some reg.toUInt16⟩)

/-- The requests that use the registers. With a calibration comes the flag that it meets, and the
fuel for its loops. -/
inductive DcxReq where
  | setAfcMode (mode : UInt16)
  | setAfcCdac (cdac : UInt16)
  | ampCali (ok : OkFlag) (fuel : Nat)

def dcxHandler (d : Dcx) : DcxReq → Option (Dcx × DcxCnf)
  | .setAfcMode mode => some (dcxSetAfcMode mode d)
  | .setAfcCdac cdac => some (dcxSetAfcCdac cdac d)
  | .ampCali ok fuel => dcxAmpCali ok fuel d

end EngPc
