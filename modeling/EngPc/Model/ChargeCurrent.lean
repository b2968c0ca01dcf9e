import EngPc.Lib.Block
import EngPc.Lib.Decimal
import EngPc.Model.ModuleMgr

/-!
# The charge current

`ap_set_charge_current` and `eng_diag_set_charge_current` of modules/charge/charge.c. The files stand in
/sys/class/power_supply/battery: `force_chg_cur` and `force_input_cur` for K44, `input_current_limit`
and `constant_charge_current` for K414.
-/

namespace EngPc
open Buffer CString LittleEndian

inductive Charger
  | k44 | k414
  deriving DecidableEq, Repr

inductive ChargeNode
  | inputLimit | current
  deriving DecidableEq, Repr

/-- What `write` answers: it fails, or takes so many bytes, as far as it is given them. -/
inductive ChargeWrite
  | failed
  | took (n : Nat)
  deriving DecidableEq, Repr

/-- The answers of the files; `none` where one cannot be opened. -/
abbrev ChargeFiles := ChargeNode → Charger → Option ChargeWrite

/-- A file that was written, and what it has received. -/
structure ChargeWritten where
  node : ChargeNode
  charger : Charger
  bytes : List UInt8
  deriving DecidableEq, Repr

structure ChargeSet where
  ret : Int
  written : List ChargeWritten
  deriving DecidableEq, Repr

/-- `sizeof(current)` -/
def chargeTextLen : Nat := 5

section Set

variable (files : ChargeFiles)

/-- The file that is opened: the one of K44, else the one of K414. -/
def openCharger (node : ChargeNode) : Option (Charger × ChargeWrite) :=
  match files node .k44 with
  | some answer => some (.k44, answer)
  | none => (files node .k414).map fun answer => (.k414, answer)

/-- Opens a file and writes `current` to it: `none` where the write fails, and an empty list where no
file can be opened. -/
def writeCurrent (current : Block UInt8) (node : ChargeNode) :
    Except OutOfBounds (Option (List ChargeWritten)) :=
  match openCharger files node with
  | none => .ok (some [])
  | some (charger, answer) => do
    let bytes ← current.read 0 5
    match answer with
    | .failed => return none
    | .took n => return some [⟨node, charger, bytes.take n⟩]

/-- `ap_set_charge_current`; `stack` is what `current` holds at first. -/
def apSetChargeCurrent (stack : Buffer UInt8) (cur : Int) : Except OutOfBounds ChargeSet := do
  let current ← (⟨stack, chargeTextLen⟩ : Block UInt8).write 0 (printInt cur ++ [0])
  match ← writeCurrent files current .inputLimit with
  | none => return ⟨-1, []⟩
  | some limit =>
    match ← writeCurrent files current .current with
    | none => return ⟨-1, limit⟩
    | some charge => return ⟨0, limit ++ charge⟩

/-- `charger_cmd->current` as an `int`. -/
def requestedCurrent (buf : Buffer UInt8) : Int := intOf (le32 buf (1 + msgHeadLen + 4))

/-- What a request leaves; `rlen` is its result. -/
structure ChargeAnswer where
  rlen : Nat
  rsp : Buffer UInt8
  written : List ChargeWritten

def engDiagSetChargeCurrent (stack : Buffer UInt8) (buf : Option (Buffer UInt8))
    (rsp : Buffer UInt8) : Except OutOfBounds ChargeAnswer :=
  match buf with
  | none => .ok ⟨0, rsp, []⟩
  | some buf => do
    let rsp := rsp.fill 0 (buf.load 0 (1 + msgHeadLen))
    let r ← apSetChargeCurrent files stack (requestedCurrent buf)
    let rsp := rsp.fill (1 + msgHeadLen) (bytesLE 2 (r.ret % 65536).toNat)
    let rsp := rsp.fill (1 + msgHeadLen + 2) (bytesLE 2 2)
    let rsplen := msgHeadLen + 2 + 2
    let rsp := rsp.store 5 (UInt8.ofNat rsplen)
    let rsp := rsp.store (rsplen + 2 - 1) 0x7e
    return ⟨rsplen + 2, rsp, r.written⟩

end Set

end EngPc
