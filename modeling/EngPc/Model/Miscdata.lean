import EngPc.Lib.Block
import EngPc.Lib.LittleEndian
import EngPc.Model.Types

/-!
# The miscdata partition

modules/libmiscdata/miscdata.c with its own `translate_packet`. The partition is a `Buffer` of which
the first `MiscBuild.size` bytes are there; what the system calls of one access answer is a `MiscIo`,
and a transfer that does not fail goes on to the end of the partition. A function that reads hands
over the bytes that it puts into `databuf`.
-/

namespace EngPc
open LittleEndian

def nandMiscdataFilesize : Nat := 1024 * 1024

/-- A block device, which has room for what `get_file_size` tells. -/
structure Partition where
  size : Nat
  large : nandMiscdataFilesize ≤ size
  deriving DecidableEq, Repr

/-- With and without `CONFIG_NAND`. -/
inductive MiscBuild
  | nand
  | block (partition : Partition)
  deriving DecidableEq, Repr

/-- Where the partition ends. -/
def MiscBuild.size : MiscBuild → Nat
  | .nand => nandMiscdataFilesize
  | .block partition => partition.size

structure MiscIo where
  propertyGet : Bool
  openRdonly : Bool
  openWronly : Bool
  lseek : Bool
  read : Bool
  write : Bool
  malloc : Bool
  deriving DecidableEq, Repr

/-- No call fails. -/
def MiscIo.fine : MiscIo where
  propertyGet := true
  openRdonly := true
  openWronly := true
  lseek := true
  read := true
  write := true
  malloc := true

/-- `get_file_size` does not look at the file. -/
def getFileSize : Nat := nandMiscdataFilesize

/-! ### Access to the partition -/

section Access

variable (io : MiscIo) (store : Buffer UInt8) (build : MiscBuild)

/-- `read` at a file position, with the check of its result: it is short at the end of the
partition, and only nothing counts as a failure. -/
def readAt (pos dataLen : Nat) : Int × List UInt8 :=
  let len := min dataLen (build.size - pos)
  if io.read = false ∨ len = 0 then (-2, []) else (0, store.load pos len)

def writeAt (pos : Nat) (databuf : List UInt8) : Int × Buffer UInt8 :=
  let taken := databuf.take (build.size - pos)
  if io.write = false ∨ taken = [] then (-2, store) else (0, store.fill pos taken)

def engReadMiscdata (dataLen : Nat) : Int × List UInt8 :=
  if io.propertyGet = false then (-1, [])
  else if io.openRdonly = false then (-3, [])
  else readAt io store build 0 dataLen

def engWriteMiscdata (databuf : List UInt8) : Int × Buffer UInt8 :=
  if io.propertyGet = false then (-1, store)
  else if io.openWronly = false then (-3, store)
  else writeAt io store build 0 databuf

/-- `lseek` goes to the end of a block device at most. -/
def MiscBuild.Seekable (build : MiscBuild) (offset : Int) : Prop :=
  0 ≤ offset ∧ offset ≤ build.size

instance (build : MiscBuild) (offset : Int) : Decidable (build.Seekable offset) :=
  inferInstanceAs (Decidable (_ ∧ _))

/-- `buff` of the NAND build, cleared. -/
def nandBuff : Block UInt8 := ⟨fun _ => 0, getFileSize + 1⟩

/-- `buff + offset`; a negative offset points before the block. -/
def ptrAt (offset : Int) (n : Nat) : Except OutOfBounds Nat :=
  if offset < 0 ∧ 0 < n then .error ⟨0, n⟩ else .ok offset.toNat

def engReadMiscdataWithOffset (offset : Int) (dataLen : Nat) :
    Except OutOfBounds (Int × List UInt8) :=
  if io.propertyGet = false then .ok (-1, [])
  else match build with
    | .nand =>
      let szFile := getFileSize
      if szFile = 0 then .ok (-2, [])
      else if io.malloc = false then .ok (-3, [])
      else do
        let r := engReadMiscdata io store build szFile
        let buff ← nandBuff.write 0 r.2
        if r.1 = 0 then
          let p ← ptrAt offset dataLen
          let databuf ← buff.read p dataLen
          return (0, databuf)
        else return (r.1, [])
    | .block _ =>
      if io.openRdonly = false then .ok (-3, [])
      else if io.lseek = false ∨ ¬build.Seekable offset then .ok (-4, [])
      else .ok (readAt io store build offset.toNat dataLen)

def engWriteMiscdataWithOffset (offset : Int) (databuf : List UInt8) :
    Except OutOfBounds (Int × Buffer UInt8) :=
  if io.propertyGet = false then .ok (-1, store)
  else match build with
    | .nand =>
      let szFile := getFileSize
      if szFile = 0 then .ok (-2, store)
      else if io.malloc = false then .ok (-3, store)
      else do
        let r := engReadMiscdata io store build szFile
        let buff ← nandBuff.write 0 r.2
        if r.1 = 0 then
          let p ← ptrAt offset databuf.length
          let buff ← buff.write p databuf
          return engWriteMiscdata io store build (← buff.read 0 szFile)
        else return (-4, store)
    | .block _ =>
      if io.openWronly = false then .ok (-3, store)
      else if io.lseek = false ∨ ¬build.Seekable offset then .ok (-4, store)
      else .ok (writeAt io store build offset.toNat databuf)

end Access

/-! ### The reply -/

/-- `translate_packet` of translate_packet.c: the flags only, nothing is escaped. -/
def miscTranslatePacket (dest : Block UInt8) (src : List UInt8) :
    Except OutOfBounds (Block UInt8 × Nat) := do
  let dest ← dest.write 0 [0x7e]
  let dest ← dest.write 1 src
  let dest ← dest.write (1 + src.length) [0x7e]
  return (dest, src.length + 2)

/-- `subtype` and `len` of the header at `off` are set. -/
def setMsgHead (b : Buffer UInt8) (off : Nat) (subtype : Int) (len : Nat) : Buffer UInt8 :=
  (b.store (off + 7) (UInt8.ofInt subtype)).fill (off + 4) (bytesLE 2 len)

/-! ### `eng_diag_product_ctrl` -/

/-- A frame that holds a header and the two 16-bit fields after its flag. -/
structure MiscRequest where
  buf : Block UInt8
  fields : 1 + msgHeadLen + 4 ≤ buf.size

namespace MiscRequest

variable (q : MiscRequest)

def subtype : UInt8 := q.buf.cells 8

def offset : Nat := natLE (q.buf.cells.load (1 + msgHeadLen) 2)

def dataLen : Nat := natLE (q.buf.cells.load (1 + msgHeadLen + 2) 2)

end MiscRequest

/-- What the handler leaves: the partition, the request, whose header a write turns into the
reply's, the response buffer and the length of the response. -/
structure MiscResult where
  store : Buffer UInt8
  buf : Buffer UInt8
  rsp : Block UInt8
  rspLen : Nat

section Handler

variable (build : MiscBuild) (heap : Buffer UInt8) (io io' : MiscIo) (store : Buffer UInt8)
  (q : MiscRequest)

/-- `case 2`: what `nvdata` holds when it is sent. `heap` is what `malloc` leaves in it. -/
def productCtrlRead : Except OutOfBounds (List UInt8) := do
  let headLen := msgHeadLen + 2 * 2
  let dataLen := q.dataLen
  let nvdata : Block UInt8 := ⟨heap, dataLen + headLen⟩
  let nvdata ← nvdata.write 0 (← q.buf.read 1 headLen)
  let nverr ← engReadMiscdataWithOffset io store build 0 dataLen
  let nvdata ← nvdata.write headLen nverr.2
  let dataLen := if nverr.1 = 0 then dataLen else 0
  let nvdata := { nvdata with cells := setMsgHead nvdata.cells 0 nverr.1 (headLen + dataLen) }
  nvdata.read 0 (headLen + dataLen)

/-- `case 3`: `nverr` and the partition; `io'` is what the second access meets. -/
def productCtrlWrite (rsplen : Nat) : Except OutOfBounds (Int × Buffer UInt8) := do
  let headLen := msgHeadLen + 2 * 2
  let dataLen := q.dataLen
  let nvdata : Block UInt8 := ⟨heap, rsplen⟩
  let nverr ← engReadMiscdataWithOffset io store build 0 dataLen
  let nvdata ← nvdata.write 0 nverr.2
  if nverr.1 = 0 then
    let nvdata ← nvdata.write q.offset (← q.buf.read (1 + headLen) dataLen)
    engWriteMiscdataWithOffset io' store build 0 (← nvdata.read 0 dataLen)
  else return (nverr.1, store)

def engDiagProductCtrl (rsp : Block UInt8) : Except OutOfBounds MiscResult :=
  let headLen := msgHeadLen + 2 * 2
  if rsp.size < headLen + q.dataLen + 2 then .ok ⟨store, q.buf.cells, rsp, 0⟩
  else if q.subtype = 2 then do
    let nvdata ← productCtrlRead build heap io store q
    let r ← miscTranslatePacket rsp nvdata
    return ⟨store, q.buf.cells, r.1, r.2⟩
  else if q.subtype = 3 then do
    let w ← productCtrlWrite build heap io io' store q rsp.size
    let buf := setMsgHead q.buf.cells 1 w.1 msgHeadLen
    let r ← miscTranslatePacket rsp (buf.load 1 msgHeadLen)
    return ⟨w.2, buf, r.1, r.2⟩
  else .ok ⟨store, q.buf.cells, rsp, 0⟩

end Handler

/-- A request together with what the call of the handler finds in memory. -/
structure MiscCall extends MiscRequest where
  heap : Buffer UInt8
  rsp : Block UInt8

/-- One call while the partition answers without I/O errors: the partition and the response. -/
def miscStep (build : MiscBuild) (store : Buffer UInt8) (c : MiscCall) :
    Except OutOfBounds (Buffer UInt8 × List UInt8) := do
  let r ← engDiagProductCtrl build c.heap .fine .fine store c.toMiscRequest c.rsp
  return (r.store, r.rsp.cells.load 0 r.rspLen)

/-! ### `eng_diag_product_ctrl_ex` -/

/-- `malloc` of an `int` number of bytes, cleared by `memset`. A negative number is a size that
`malloc` has no memory for, and `memset` writes that many bytes to the null pointer. -/
def mallocCleared (size : Int) : Except OutOfBounds (Block UInt8) :=
  if size < 0 then .error ⟨0, size.natAbs⟩ else .ok ⟨fun _ => 0, size.toNat⟩

structure MiscExCall where
  buf : Block UInt8
  rsp : Block UInt8
  rsplen_int : rsp.size < 2 ^ 31

namespace MiscExCall

variable (c : MiscExCall)

def subtype : UInt8 := c.buf.cells 8

def offset : Int := intOf (natLE (c.buf.cells.load (1 + msgHeadLen) 4))

def dataLen : Int := intOf (natLE (c.buf.cells.load (1 + msgHeadLen + 4) 4))

end MiscExCall

section ExHandler

variable (build : MiscBuild) (io io' : MiscIo) (store : Buffer UInt8)

/-- `case 0x12`: what `nvdata` holds when it is sent. -/
def productCtrlExRead (c : MiscExCall) : Except OutOfBounds (List UInt8) := do
  let headLen := msgHeadLen + 2 * 4
  let dataLen := c.dataLen
  let nvdata ← mallocCleared (intOf (dataLen + headLen))
  let nvdata ← nvdata.write 0 (← c.buf.read 1 headLen)
  let nverr ← engReadMiscdataWithOffset io store build c.offset dataLen.toNat
  let nvdata ← nvdata.write headLen nverr.2
  let dataLen := if nverr.1 = 0 then dataLen.toNat else 0
  let nvdata := { nvdata with cells := setMsgHead nvdata.cells 0 nverr.1 (headLen + dataLen) }
  nvdata.read 0 (headLen + dataLen)

/-- `case 0x13`: `nverr` and the partition. -/
def productCtrlExWrite (c : MiscExCall) : Except OutOfBounds (Int × Buffer UInt8) := do
  let headLen := msgHeadLen + 2 * 4
  let dataLen := c.dataLen
  let nvdata ← mallocCleared dataLen
  let nverr ← engReadMiscdataWithOffset io store build c.offset dataLen.toNat
  let nvdata ← nvdata.write 0 nverr.2
  if nverr.1 = 0 then
    let nvdata ← nvdata.write 0 (← c.buf.read (1 + headLen) dataLen.toNat)
    engWriteMiscdataWithOffset io' store build c.offset (← nvdata.read 0 dataLen.toNat)
  else return (nverr.1, store)

def engDiagProductCtrlEx (c : MiscExCall) : Except OutOfBounds MiscResult := do
  let headLen := msgHeadLen + 2 * 4
  let _fields ← c.buf.read (1 + msgHeadLen) (2 * 4)
  if (c.rsp.size : Int) < intOf (headLen + c.dataLen + 2) then
    return ⟨store, c.buf.cells, c.rsp, 0⟩
  else if c.subtype = 0x12 then
    let nvdata ← productCtrlExRead build io store c
    let r ← miscTranslatePacket c.rsp nvdata
    return ⟨store, c.buf.cells, r.1, r.2⟩
  else if c.subtype = 0x13 then
    let w ← productCtrlExWrite build io io' store c
    let buf := setMsgHead c.buf.cells 1 w.1 msgHeadLen
    let r ← miscTranslatePacket c.rsp (buf.load 1 msgHeadLen)
    return ⟨w.2, buf, r.1, r.2⟩
  else return ⟨store, c.buf.cells, c.rsp, 0⟩

end ExHandler

/-- One call of the extended handler while the partition answers without I/O errors. -/
def miscExStep (build : MiscBuild) (store : Buffer UInt8) (c : MiscExCall) :
    Except OutOfBounds (Buffer UInt8 × List UInt8) := do
  let r ← engDiagProductCtrlEx build .fine .fine store c
  return (r.store, r.rsp.cells.load 0 r.rspLen)

end EngPc
