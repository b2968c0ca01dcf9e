import Mathlib.Algebra.Group.Int.Defs
import Mathlib.Algebra.Group.Nat.Defs
import Mathlib.Tactic.Common

/-!
# Enumerations of the channel layer

`DATA_TYPE` and `PORT_TYPE` of dev.h, `WORK_MODE` of channel.h, `FRAME_TYPE` of frame.h,
`DYMIC_RET_E` of modules.h and the buffer sizes of CPort.h and CTrans.h.
-/

namespace EngPc

inductive DataType
  | at | log | diag | wcnAt | wcnDiag | agdspLog | agdspPcm | agdspMem | agdspMix | unknown
  deriving DecidableEq, Repr

inductive PortType
  | vser | gser | sock | com | chr | interface | loop | unknown
  deriving DecidableEq, Repr

inductive WorkMode
  | F | S | unknow
  deriving DecidableEq, Repr

inductive FrameType
  | complete | halfContinue | invalid | unknown
  deriving DecidableEq, Repr

inductive DymicRet
  | noDeal | dealSuccess | alsoNeedToCp | noResponseToPc | encodeToDest
  deriving DecidableEq, Repr

def maxVserBuffLen : Nat := 8 * 1024

def maxPortBuffRD : Nat := maxVserBuffLen * 8 - 16

def maxChnlBuff : Nat := 64 * 1024

def maxPortOpenTimeout : Int := 5 * 60

/-- `ENG_DIAG_NO_RESPONSE`. -/
def engDiagNoResponse : Int := -255

/-- `ENG_DIAG_RET_UNSUPPORT`. -/
def engDiagRetUnsupport : Int := -256

/-- `sizeof(MSG_HEAD_T)`: sequence number, length, type and subtype, packed. -/
def msgHeadLen : Nat := 8

/-- The bits of a `long` and of a `size_t`: engpc is built for 32 bits only, and the modules are loaded
into it. -/
abbrev longBits : Nat := 32

/-- An `int` that is set to this value. -/
def intOf (x : Int) : Int := x.bmod (2 ^ 32)

lemma intOf_eq {x : Int} (h : -2 ^ 31 ≤ x) (h' : x < 2 ^ 31) : intOf x = x := by
  apply Int.bmod_eq_of_le <;> omega

lemma intOf_overflow {x : Int} (h : 2 ^ 31 ≤ x) (h' : x < 2 ^ 32) : intOf x = x - 2 ^ 32 := by
  rw [intOf, Int.bmod_def, if_neg] <;> omega

lemma intOf_lt (x : Int) : intOf x < 2 ^ 31 := by
  have h := @Int.bmod_lt x (2 ^ 32) (by decide)
  rw [intOf]
  omega

lemma le_intOf (x : Int) : -2 ^ 31 ≤ intOf x := by
  have h := @Int.le_bmod x (2 ^ 32) (by decide)
  rw [intOf]
  omega

end EngPc
