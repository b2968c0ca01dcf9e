import EngPc.Model.BbatConfig
import EngPc.Model.Miscdata
import EngPc.Model.ModuleMgr

/-!
# Test results

`eng_diag_read_mmi` and `eng_diag_write_mmi` of modules/libap_opt/mmiresult.c, behind the two handlers
of mmiresult_register.c. Each kind of test has a file; `none` stands for no file.
-/

namespace EngPc
open Buffer LittleEndian

/-- `sizeof(TOOLS_DIAG_AP_CNF_T)`, and `sizeof(TOOLS_DIAG_AP_CMD_T)` too. -/
def apCnfLen : Nat := 4

/-- The size of `uBuff`. -/
def mmiBuffLen : Nat := 256

inductive MmiTest
  | wholePhone | pcba | bbat
  deriving DecidableEq, Repr

/-- The test that `uType` names. -/
def mmiTest : Nat → Option MmiTest
  | 0 => some .wholePhone
  | 1 => some .pcba
  | 2 => some .bbat
  | _ => none

abbrev MmiFiles := MmiTest → Option (List UInt8)

/-- What the calls of a request answer: the `open` that makes the BBAT file, how much its `write` takes
of the table, whether a file that is there opens, and how much `read` or `write` takes at most. -/
structure MmiIo where
  openTest : BbatOpen
  created : Nat
  opens : Bool
  transfer : Option Nat
  deriving DecidableEq, Repr

def TestNewResultInfo.bytes (r : TestNewResultInfo) : List UInt8 :=
  [r.typeId, r.functionId, r.support, r.status]

/-- `eng_init_test_file` on the files. -/
def initTestFile (io : MmiIo) (conf : Option (List UInt8)) (files : MmiFiles) :
    Except OutOfBounds MmiFiles := do
  let (_, records) ← engInitTestFile ⟨(files .bbat).isSome, io.openTest⟩ conf
  match records with
  | none => return files
  | some records =>
    let table := records.flatMap TestNewResultInfo.bytes
    return Function.update files .bbat (some (table.take io.created))

/-- `open` and `read`. -/
def readResult (io : MmiIo) (files : MmiFiles) (uType : Nat) : Option (List UInt8) := do
  let test ← mmiTest uType
  let file ← files test
  guard io.opens
  let n ← io.transfer
  return file.take (min mmiBuffLen n)

/-- `open` and `write`; the file is not cut. -/
def writeResult (io : MmiIo) (files : MmiFiles) (uType : Nat) (uBuff : List UInt8) :
    Option MmiFiles := do
  let test ← mmiTest uType
  let file ← files test
  guard io.opens
  let n ← io.transfer
  return Function.update files test (some (uBuff.take n ++ file.drop (uBuff.take n).length))

/-- The two headers of an answer in the memory from `malloc`. -/
def mmiAnswer (heap buf : Buffer UInt8) (rsplen status length : Nat) : Buffer UInt8 :=
  let answer := (heap.fill 0 (buf.load 1 msgHeadLen)).fill 4 (bytesLE 2 rsplen)
  (answer.fill msgHeadLen (bytesLE 2 status)).fill (msgHeadLen + 2) (bytesLE 2 length)

/-- Where the request has `uType`. -/
def mmiAt : Nat := 1 + msgHeadLen + apCnfLen

/-- `eng_diag_read_mmi`. The type in the answer, and what is behind the bytes of a short file, is what
stood in the memory before. -/
def engDiagReadMmi (io : MmiIo) (files : MmiFiles) (buf heap : Buffer UInt8) (rsp : Block UInt8) :
    Except OutOfBounds (Block UInt8 × Nat) :=
  let rsplen := msgHeadLen + apCnfLen + 2 + mmiBuffLen
  let answer :=
    match readResult io files (le16 buf mmiAt) with
    | none => mmiAnswer heap buf rsplen 1 (2 + mmiBuffLen)
    | some bytes =>
      (mmiAnswer heap buf rsplen 0 (2 + mmiBuffLen)).fill (msgHeadLen + apCnfLen + 2) bytes
  miscTranslatePacket rsp (answer.load 0 rsplen)

/-- `eng_diag_write_mmi` -/
def engDiagWriteMmi (io : MmiIo) (files : MmiFiles) (buf heap : Buffer UInt8) (rsp : Block UInt8) :
    Except OutOfBounds (MmiFiles × Block UInt8 × Nat) := do
  let rsplen := msgHeadLen + apCnfLen
  let written := writeResult io files (le16 buf mmiAt) (buf.load (mmiAt + 2) mmiBuffLen)
  let answer := mmiAnswer heap buf rsplen (if written.isSome then 0 else 1) 0
  let r ← miscTranslatePacket rsp (answer.load 0 rsplen)
  return (written.getD files, r)

inductive MmiCmd
  | read | write
  deriving DecidableEq, Repr

/-- A request, with the configuration as it is then, the memory that `malloc` gives and the buffer for
the answer. -/
structure MmiRequest where
  cmd : MmiCmd
  io : MmiIo
  conf : Option (List UInt8)
  buf : Buffer UInt8
  heap : Buffer UInt8
  rsp : Block UInt8

/-- The two handlers: the files, and the answer that is sent. A read makes the BBAT file first. -/
def MmiRequest.run (files : MmiFiles) (r : MmiRequest) :
    Except OutOfBounds (MmiFiles × List UInt8) :=
  match r.cmd with
  | .read => do
    let files ← initTestFile r.io r.conf files
    let (rsp, n) ← engDiagReadMmi r.io files r.buf r.heap r.rsp
    return (files, rsp.cells.load 0 n)
  | .write => do
    let (files, rsp, n) ← engDiagWriteMmi r.io files r.buf r.heap r.rsp
    return (files, rsp.cells.load 0 n)

end EngPc
