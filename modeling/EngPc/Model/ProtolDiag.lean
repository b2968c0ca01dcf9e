import EngPc.Lib.CString
import EngPc.Model.Types

/-!
# The diag protocol

`CProtolDiag` of server/trans: decoding and encoding of a frame in place, the frame check
that `CPort::internal_read` asks for, and the test for the PENDING mark. Buffers are memory
from the first byte on; a loop that could run for ever carries fuel and gives `none` without it.
-/

namespace EngPc
open CString

/-- The members of `CTrans` that the diag classes read. -/
structure CTrans where
  dataType : DataType
  apProcess : Int
  retType : DymicRet
  frameType : FrameType
  deriving DecidableEq, Repr

structure CProtolDiag extends CTrans where
  nDiagAT : Bool
  bPending : Bool
  iCurFrameType : FrameType
  deriving DecidableEq, Repr

/-- A new object after `CTrans::init`. -/
def CProtolDiag.init (dataType : DataType) (apProcess : Int) : CProtolDiag where
  dataType := dataType
  apProcess := apProcess
  retType := .noDeal
  frameType := .complete
  nDiagAT := false
  bPending := false
  iCurFrameType := .invalid

def pendingMark : List UInt8 := ofString "\r\nPENDING\r\n"

/-- One byte is special to the escaping loops. -/
def isEscape (c : UInt8) : Prop := c = 0x7d ∨ c = 0x7e

instance (c : UInt8) : Decidable (isEscape c) := inferInstanceAs (Decidable (_ ∨ _))

/-- The loop of `decode`. The inner loop also moves the byte behind the frame. -/
def decodeLoop : Nat → Nat → Nat → Buffer UInt8 → Option (Nat × Buffer UInt8)
  | 0, _, _, _ => none
  | fuel + 1, i, len, buff =>
    if i + 2 < len then
      if isEscape (buff i) then
        let buff := buff.store i (buff (i + 1) ^^^ 0x20)
        decodeLoop fuel (i + 1) (len - 1) (Buffer.shiftDown (len - (i + 1)) (i + 1) buff)
      else
        decodeLoop fuel (i + 1) len buff
    else
      some (len, buff)

/-- What `decode` leaves: the object, the buffer and the returned length. -/
structure Decoded where
  obj : CProtolDiag
  buff : Buffer UInt8
  len : Nat

def CProtolDiag.decode (o : CProtolDiag) (buff : Buffer UInt8) (len : Nat) : Decoded :=
  let r := (decodeLoop len 1 len buff).getD (len, buff)
  ⟨{ o with nDiagAT := r.2 7 = 0x68 }, r.2, r.1⟩

/-- The loop of `encode`: the new byte behind the escape is looked at in the next round. -/
def encodeLoop : Nat → Nat → Nat → Buffer UInt8 → Option (Nat × Buffer UInt8)
  | 0, _, _, _ => none
  | fuel + 1, i, len, buff =>
    if i + 1 < len then
      if isEscape (buff i) then
        let tmp := buff i ^^^ 0x20
        let buff := Buffer.shiftUp (i + 1) (len - (i + 1)) (buff.store i 0x7d)
        encodeLoop fuel (i + 1) (len + 1) (buff.store (i + 1) tmp)
      else
        encodeLoop fuel (i + 1) len buff
    else
      some (len, buff)

/-- The response is the text of an AT command and gets a header of its own. -/
def CProtolDiag.atReply (o : CProtolDiag) : Prop :=
  (o.retType = .dealSuccess ∨ o.retType = .alsoNeedToCp) ∧ o.nDiagAT = true

instance (o : CProtolDiag) : Decidable o.atReply := inferInstanceAs (Decidable (_ ∧ _))

/-- `MSG_HEAD_T{seq 0, len, type 0x9c, subtype 0}`. -/
def atHead (len : Int) : List UInt8 :=
  [0, 0, 0, 0, UInt8.ofNat (len.toNat % 256), UInt8.ofNat (len.toNat / 256 % 256), 0x9c, 0x00]

/-- The AT branch of `encode`: header and flags around the text, less the PENDING mark. -/
def CProtolDiag.atFrame (o : CProtolDiag) (buff : Buffer UInt8) : Buffer UInt8 × Int :=
  let text := (cstr buff 0 maxChnlBuff).length
  let nPendingLen := if o.bPending then pendingMark.length else 0
  let len : Int := text + msgHeadLen - nPendingLen
  let buff := buff.copy (msgHeadLen + 1) 0 (text - nPendingLen)
  let buff := buff.fill 1 (atHead len)
  ((buff.store 0 0x7e).store (len + 1).toNat 0x7e, len + 2)

def CProtolDiag.encode (o : CProtolDiag) (buff : Buffer UInt8) (len : Int) : Buffer UInt8 × Int :=
  let (buff, len) := if o.atReply then o.atFrame buff else (buff, len)
  let r := (encodeLoop (2 * len.toNat + 1) 1 len.toNat buff).getD (len.toNat, buff)
  (r.2, len + (r.1 - len.toNat : Int))

/-- The loop of both `translate_packet` functions. -/
def translateLoop (src : Buffer UInt8) : Nat → Nat → Buffer UInt8 → Nat → Buffer UInt8 × Nat
  | 0, _, dest, translatedSize => (dest, translatedSize)
  | n + 1, i, dest, translatedSize =>
    if src i = 0x7e then
      translateLoop src n (i + 1)
        ((dest.store translatedSize 0x7d).store (translatedSize + 1) 0x5e) (translatedSize + 2)
    else if src i = 0x7d then
      translateLoop src n (i + 1)
        ((dest.store translatedSize 0x7d).store (translatedSize + 1) 0x5d) (translatedSize + 2)
    else
      translateLoop src n (i + 1) (dest.store translatedSize (src i)) (translatedSize + 1)

/-- The text that both `translate_packet` functions share. -/
def translate (dest src : Buffer UInt8) (size : Nat) : Buffer UInt8 × Nat :=
  let r := translateLoop src size 0 (dest.store 0 0x7e) 1
  (r.1.store r.2 0x7e, r.2 + 1)

def CProtolDiag.translatePacket (dest src : Buffer UInt8) (size : Nat) : Buffer UInt8 × Nat :=
  translate dest src size

/-- `translate_packet` of server/common/cpctl.cpp. -/
def CpCtl.translatePacket (dest src : Buffer UInt8) (size : Nat) : Buffer UInt8 × Nat :=
  translate dest src size

/-- The offset of the first flag among `nlen` bytes, `none` for -1. -/
def findFrameFlag (buff : Buffer UInt8) : Nat → Nat → Option Nat
  | _, 0 => none
  | off, nlen + 1 =>
    if buff off = 0x7e then some 0 else (findFrameFlag buff (off + 1) nlen).map (· + 1)

/-- What `checkframe` leaves: its verdict, the buffer and the new length. -/
structure Checked where
  type : FrameType
  buff : Buffer UInt8
  nlen : Nat

def checkframe (apProcess : Int) (buff : Buffer UInt8) (nlen : Nat) : Checked :=
  if apProcess ≠ 1 then ⟨.complete, buff, nlen⟩
  else if buff 0 = 0x7e ∧ buff (nlen - 1) = 0x7e then ⟨.complete, buff, nlen⟩
  else
    match findFrameFlag buff 0 nlen with
    | none => ⟨.invalid, buff, nlen⟩
    | some start =>
      match findFrameFlag buff (start + 1) (nlen - start - 1) with
      | some stop => ⟨.complete, buff.copy 0 start (stop + 2), stop + 2⟩
      | none => ⟨.halfContinue, buff.copy 0 start (nlen - start), nlen - start⟩

/-- `checkPending` on the text of a response. -/
def CProtolDiag.checkPending (o : CProtolDiag) (rsp : List UInt8) : Prop :=
  o.nDiagAT = true ∧ ¬strcasestr rsp (ofString "ERROR") ∧ strcasestr rsp pendingMark ∧
    rsp.drop (rsp.length - pendingMark.length) = pendingMark

instance (o : CProtolDiag) (rsp : List UInt8) : Decidable (o.checkPending rsp) :=
  inferInstanceAs (Decidable (_ ∧ _))

/-- `CProtolDiag::process`: a handler that answers with a text may still return 0. -/
def CProtolDiag.process (o : CProtolDiag) (rsp : List UInt8) (retlen : Int) : Int :=
  if o.nDiagAT = true ∧ retlen = 0 ∧ 0 < rsp.length then rsp.length else retlen

end EngPc
