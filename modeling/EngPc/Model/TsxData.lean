import EngPc.Model.ModuleMgr

/-!
# Raw data of the TSX

`tsx_rawdata_rw_handler` of modules/libtsxdata with `write_tsx_rawdata` and `read_tsx_rawdata`. The
data are kept in one file; `none` stands for no file.
-/

namespace EngPc
open Buffer LittleEndian

/-- `sizeof(DIAG_TSX_DATA_HEAD)`: command, length, subcommand, status and length of the data. -/
def tsxDataHeadLen : Nat := 16

/-- `sizeof(rawdata)` -/
def tsxRawdataLen : Nat := 256

/-- The directory of the file is there, or what `mkdir` answers. -/
inductive TsxDir
  | present | made | eexist | failed
  deriving DecidableEq, Repr

/-- What the calls answer while a request is served. A number stands for a transfer that stops with
an error after so many bytes. -/
structure TsxIo where
  dir : TsxDir
  fopen : Bool
  fwrite : Option Nat
  fileno : Int
  fread : Option Nat
  deriving DecidableEq, Repr

abbrev TsxFile := Option (List UInt8)

/-- `write_tsx_rawdata`; a negative `nLen` is a size of almost 2^32 for `fwrite`. -/
def writeTsxRawdata (io : TsxIo) (file : TsxFile) (data : Buffer UInt8) (nLen : Int) :
    Int × TsxFile :=
  if io.dir = .failed ∨ io.fopen = false then (-1, file)
  else
    -- a `mkdir` that answers EEXIST leaves its result in `ret`
    let ret : Int := if io.dir = .eexist then -1 else 0
    let size := (nLen % 2 ^ longBits).toNat
    let rcount := (io.fwrite.map (min size)).getD size
    let ret := if nLen ≠ intOf rcount then -1 else if 0 < io.fileno then ret else -1
    (ret, some (data.load 0 rcount))

/-- `read_tsx_rawdata`: its result, and what it puts into `buff`. `garbage` is in `rcount` before
anything is assigned to it. -/
def readTsxRawdata (io : TsxIo) (garbage : Int) (file : TsxFile) (nLen : Nat) : Int × List UInt8 :=
  match file with
  | none => (garbage, [])
  | some bytes =>
    if io.fopen = false then (-1, [])
    else
      let got := bytes.take ((io.fread.map (min nLen)).getD nLen)
      (got.length, got)

/-- The end of an answer: status, the two lengths, the data and the last flag. -/
def tsxAnswer (rsp : Buffer UInt8) (status : Nat) (data : List UInt8) : Buffer UInt8 :=
  let rsp := rsp.fill 17 (bytesLE 4 status)
  let rsp := rsp.fill 5 (bytesLE 2 (msgHeadLen + tsxDataHeadLen + data.length))
  let rsp := rsp.fill 21 (bytesLE 4 data.length)
  (rsp.fill 25 data).store (25 + data.length) 0x7e

structure TsxServed where
  ret : Nat
  rsp : Buffer UInt8
  file : TsxFile

def tsxRawdataRwHandler (io : TsxIo) (garbage : Int) (file : TsxFile) (buf rsp : Buffer UInt8)
    (rsplen : Nat) : TsxServed :=
  let rsp := (rsp.set 0 rsplen).fill 0 (buf.load 0 (msgHeadLen + tsxDataHeadLen + 1))
  let subcmd := le32 buf 13
  if subcmd = 0 then
    let nLen := intOf (le32 buf 21)
    let (ret, file) := writeTsxRawdata io file (buf.offset 25) nLen
    let rsp := tsxAnswer rsp (if ret = 0 then 0 else 1) []
    ⟨le16 rsp 5 + 2, rsp, file⟩
  else if subcmd = 1 then
    let (ret, bytes) := readTsxRawdata io garbage file tsxRawdataLen
    let rawdata := Buffer.fill (fun _ => 0) 0 bytes
    let rsp :=
      if 0 < ret ∧ ret < tsxRawdataLen then tsxAnswer rsp 0 (rawdata.load 0 ret.toNat)
      else tsxAnswer rsp 1 []
    ⟨le16 rsp 5 + 2, rsp, file⟩
  else ⟨le16 rsp 5 + 2, rsp, file⟩

end EngPc
