import EngPc.Lib.Block
import EngPc.Model.Config

/-!
# The BBAT support table

`parse_config` and `eng_init_test_file` of modules/libap_opt/mmiresult.c. A `char` is a byte.
`parse_string` copies into an array of its own that has 10 cells; an access outside of it or of
`bbat_support_result` ends the run.
-/

namespace EngPc
open CString

def maxBbatItemCount : Nat := 64

/-- `MAX_LINE_LEN`, less the zero at the end. -/
def bbatLineRoom : Nat := 255

/-- `sizeof(str)` in `parse_string` -/
def bbatStrLen : Nat := 10

structure HardwareResult where
  id : UInt8
  support : UInt8
  deriving DecidableEq, Repr

structure TestNewResultInfo where
  typeId : UInt8
  functionId : UInt8
  support : UInt8
  status : UInt8
  deriving DecidableEq, Repr

/-- What is left of a text behind the number that `atoi` reads at its front. -/
def behindNumber (s : List UInt8) : List UInt8 :=
  let s := s.dropWhile fun c => c = 0x20 ∨ 0x09 ≤ c ∧ c ≤ 0x0d
  let s := if s.head? = some 0x2d ∨ s.head? = some 0x2b then s.tail else s
  s.dropWhile (digit · < 10)

/-- `atoi`, set to a `char`. -/
def atoiChar (s : List UInt8) : UInt8 := UInt8.ofInt (intOf (strtol longBits 10 s))

/-- `strncpy` into the cleared array, and `atoi` of that: in a full array it goes on behind the array
if nothing ends the number. -/
def copyAtoi (s : List UInt8) : Except OutOfBounds UInt8 :=
  if bbatStrLen < s.length then .error ⟨0, s.length⟩
  else if s.length = bbatStrLen ∧ behindNumber s = [] then .error ⟨bbatStrLen, 1⟩
  else .ok (atoiChar s)

/-- `parse_string` with a tab as the gap: its result, and the value where there is a gap. -/
def parseString (buf : List UInt8) : Except OutOfBounds (Nat × Option UInt8) :=
  if 0x09 ∈ buf then do
    let str := buf.takeWhile (· ≠ 0x09)
    return (str.length, some (← copyAtoi str))
  else .ok (0, none)

/-- `parse_2_entries`; `none` where it fails. -/
def parse2Entries (str : List UInt8) : Except OutOfBounds (Option HardwareResult) := do
  match ← parseString str with
  | (0, _) | (_, none) => return none
  | (len, some id) =>
    match ← parseString (str.drop (len + 1)) with
    | (0, _) | (_, none) => return none
    | (_, some flag) => return some ⟨id, flag⟩

/-- What `fgets` gives up to the end of the file; every piece takes a byte of it. -/
def fgetsAll (room : Nat) : Nat → List UInt8 → List (List UInt8)
  | 0, _ => []
  | _ + 1, [] => []
  | fuel + 1, c :: file =>
    let r := fgets room (c :: file)
    r.1 :: fgetsAll room fuel r.2

def startsWithDigit (buffer : List UInt8) : Bool := buffer.head?.any fun c => 0x30 ≤ c ∧ c ≤ 0x39

/-- The loop of `parse_config`; `buffer` holds the piece up to the first zero. -/
def parseConfigLoop :
    List (List UInt8) → (count : Nat) → Block HardwareResult →
      Except OutOfBounds (Int × Block HardwareResult)
  | [], _, table => .ok (0, table)
  | piece :: pieces, count, table => do
    let buffer := piece.takeWhile (· ≠ 0)
    if buffer.head? = some 0x23 then parseConfigLoop pieces count table
    else if startsWithDigit buffer then
      match ← parse2Entries buffer with
      | none => return (-1, table)
      | some row =>
        let table ← table.write count [row]
        parseConfigLoop pieces (count + 1) table
    else parseConfigLoop pieces count table

/-- `parse_config`, with the contents of BBAT.conf where it can be opened. -/
def parseBbatConfig (conf : Option (List UInt8)) (table : Block HardwareResult) :
    Except OutOfBounds (Int × Block HardwareResult) :=
  match conf with
  | none => .ok (-1, table)
  | some conf => parseConfigLoop (fgetsAll bbatLineRoom conf.length conf) 0 table

/-- How `open` of the test file ends. -/
inductive BbatOpen
  | opened | eexist | failed
  deriving DecidableEq, Repr

structure BbatIo where
  /-- The test file is there already. -/
  testFile : Bool
  openTest : BbatOpen
  deriving DecidableEq, Repr

/-- The table after `memset`. -/
def bbatSupportResult : Block HardwareResult := ⟨fun _ => ⟨0, 0⟩, maxBbatItemCount⟩

/-- `eng_init_test_file`: its result, and the records that are written to the test file. -/
def engInitTestFile (io : BbatIo) (conf : Option (List UInt8)) :
    Except OutOfBounds (Int × Option (List TestNewResultInfo)) := do
  let (_, table) ← parseBbatConfig conf bbatSupportResult
  if io.testFile then return (1, none)
  match io.openTest with
  | .failed => return (0, none)
  | .eexist => return (1, none)
  | .opened =>
    let record := fun i => ⟨2, UInt8.ofNat i, (table.cells i).support, 0⟩
    return (1, some ((List.range maxBbatItemCount).map record))

end EngPc
