import EngPc.Model.Crc16

/-!
# Phase check

`direct_phschk` of modules/libmiscdata/phasecheck.c, in the 32-bit build of the library. What the
store answers to the one access that a request makes is an input, and what is given to the store an
output.
-/

namespace EngPc
open LittleEndian

inductive ErrImei
  | errNone | crcErr | cmdErr | saveErr | readErr
  deriving DecidableEq, Repr

def ErrImei.code : ErrImei → Nat
  | .errNone => 0
  | .crcErr => 1
  | .cmdErr => 2
  | .saveErr => 3
  | .readErr => 4

def msgNack : UInt8 := 0
def msgAck : UInt8 := 1

def sp09Magic : Nat := 0x53503039
def sp15Magic : Nat := 0x53503135

/-- `sizeof (SP09_TEST_DATA_INFO_T)` and `sizeof (SP15_TEST_DATA_INFO_T)`. -/
def sp09Len : Nat := 256
def sp15Len : Nat := 492

def snLen (magic : Nat) : Nat :=
  if magic = sp09Magic then sp09Len else if magic = sp15Magic then sp15Len else 0

/-- A call of `direct_phschk` by the module manager: `readBytes` are the bytes that a read of
`rsplen` bytes delivers, and `heap` what `malloc` leaves in `nvdata`. -/
structure PhsCall where
  buf : Block UInt8
  rsp : Block UInt8
  rsplen : rsp.size = maxChnlBuff
  heap : Buffer UInt8
  readRet : Int
  readBytes : List UInt8
  read_le : readBytes.length ≤ rsp.size
  writeRet : Int

structure PhsOut where
  buf : Block UInt8
  rsp : Block UInt8
  rspLen : Nat
  stored : Option (List UInt8)

namespace PhsCall

variable (c : PhsCall)

/-- `RW_MASK` and `RM_VALID_CMD_MASK`. -/
def IsWrite : Prop := c.buf.cells 8 &&& 0x80 = 0

def HasCommand : Prop := c.buf.cells 8 &&& 0x7f ≠ 0

instance : Decidable c.IsWrite := inferInstanceAs (Decidable (_ = _))

instance : Decidable c.HasCommand := inferInstanceAs (Decidable (_ ≠ _))

/-- The reply is in `b`, from `off` on, with this `len`. -/
def reply (b : Block UInt8) (rsp : Block UInt8) (off len : Nat) :
    Except OutOfBounds (Block UInt8 × Nat) := do
  miscTranslatePacket rsp (← b.read off len)

/-- The three fields of a short reply, in the request. -/
def setReply (b : Block UInt8) (len : Nat) (subtype : UInt8) (fields : List UInt8) :
    Except OutOfBounds (Block UInt8) := do
  let b ← b.write 8 [subtype]
  let b ← b.write (1 + msgHeadLen) fields
  b.write 5 (bytesLE 2 len)

/-- What the store is asked for, and the error. -/
def store : Except OutOfBounds (Option (List UInt8) × ErrImei) :=
  if c.HasCommand then do
    let data ← c.buf.read (1 + msgHeadLen) (crcDataLen (msgLen c.buf.cells))
    return (some data, if c.writeRet = 0 then .errNone else .saveErr)
  else return (none, .cmdErr)

def write : Except OutOfBounds PhsOut := do
  let s ← c.store
  if s.2 = .errNone then
    let buf ← setReply c.buf (msgHeadLen + 2) msgAck (bytesLE 2 0)
    let r ← reply buf c.rsp 1 (msgHeadLen + 2)
    return ⟨buf, r.1, r.2, s.1⟩
  else
    let buf ← setReply c.buf (msgHeadLen + 2 * 2) msgNack (bytesLE 2 s.2.code ++ bytesLE 2 0)
    let r ← reply buf c.rsp 1 (msgHeadLen + 2 * 2)
    return ⟨buf, r.1, r.2, s.1⟩

def read : Except OutOfBounds PhsOut := do
  let nvdata : Block UInt8 := ⟨c.heap, c.rsp.size + msgHeadLen + 2⟩
  let nvdata ← nvdata.write 0 (← c.buf.read 1 msgHeadLen)
  let nvdata ← nvdata.write msgHeadLen c.readBytes
  if c.readRet ≠ 0 then
    let buf ← setReply c.buf (msgHeadLen + 2) msgNack (bytesLE 2 0)
    let r ← reply buf c.rsp 1 (msgHeadLen + 2)
    return ⟨buf, r.1, r.2, none⟩
  else
    let n := snLen (natLE (← nvdata.read msgHeadLen 4))
    let nvdata ← nvdata.write 4 (bytesLE 2 (msgHeadLen + n + 2))
    let crc := crc16 0 (← nvdata.read msgHeadLen n)
    let nvdata ← nvdata.write (msgHeadLen + n) (bytesLE 2 crc.toNat)
    let nvdata ← nvdata.write 7 [msgAck]
    let r ← reply nvdata c.rsp 0 (msgHeadLen + n + 2)
    return ⟨c.buf, r.1, r.2, none⟩

end PhsCall

/-- `direct_phschk`. After a CRC error `rsp_len` is still 0. -/
def directPhschk (c : PhsCall) : Except OutOfBounds PhsOut := do
  if (← crcCheck c.buf) = false then
    let buf ← c.buf.write 5 (bytesLE 2 (msgHeadLen + 2 * 2))
    let buf ← buf.write (1 + msgHeadLen) (bytesLE 2 ErrImei.crcErr.code)
    return ⟨buf, c.rsp, 0, none⟩
  else if c.IsWrite then c.write
  else c.read

end EngPc
