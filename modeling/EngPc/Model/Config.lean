import EngPc.Lib.CString
import EngPc.Model.ChnlGraph

/-!
# The configuration files

`EngConf` of server/common/config.cpp, the loops of `CDevMgr::load` and `CChnlMgr::load` over its
items, and what `CPort`, `CDev::addPort` and `CChnl::add` make of the fields. The field variables of
these loops are set to NULL once for a file; a field that an item does not have is not assigned.
-/

namespace EngPc
open CString

abbrev Token := List UInt8

/-- `fgets` with room for `n` bytes: what it reads, and what is left of the file. -/
def fgets : Nat → List UInt8 → List UInt8 × List UInt8
  | 0, file => ([], file)
  | _, [] => ([], [])
  | n + 1, c :: file =>
    if c = 0x0a then ([c], file)
    else
      let r := fgets n file
      (c :: r.1, r.2)

/-- `sizeof (buf)` in `parse_config_file`, less the zero at the end. -/
def lineRoom : Nat := 1023

def isSeparator (c : UInt8) : Bool := c = 0x09 || c = 0x0d || c = 0x0a

/-- `get_token`: the token and what stands behind it. -/
def getToken (buf : List UInt8) : Option (Token × List UInt8) :=
  match buf.dropWhile isSeparator with
  | [] => none
  | c :: rest => some (c :: rest.takeWhile (!isSeparator ·), rest.dropWhile (!isSeparator ·))

/-- The loop of `parse_line`; `none` where a token begins with `#`. -/
def parseTokens : Nat → List UInt8 → Option (List Token)
  | 0, _ => some []
  | fuel + 1, buf =>
    match getToken buf with
    | none => some []
    | some (t, rest) => if t.head? = some 0x23 then none else (parseTokens fuel rest).map (t :: ·)

/-- `parse_line`, of the text up to the first zero; every round takes a byte of it. -/
def parseLine (buf : List UInt8) : Option (List Token) :=
  let text := buf.takeWhile (· ≠ 0)
  (parseTokens text.length text).filter (· ≠ [])

/-- The loop of `parse_config_file`; every round takes a byte of the file. -/
def readItems : Nat → List UInt8 → List (List Token)
  | 0, _ => []
  | _ + 1, [] => []
  | fuel + 1, c :: file =>
    let r := fgets lineRoom (c :: file)
    (parseLine r.1).toList ++ readItems fuel r.2

/-- `parse_config_file`: `m_cnt`. -/
def parseConfigFile (file : List UInt8) : List (List Token) := readItems file.length file

inductive LoadFault
  | nullPointer | overflow
  deriving DecidableEq, Repr

/-- The field variables; `none` is NULL. -/
abbrev FieldVars (n : Nat) := Fin n → Option Token

/-- `if (j < size) var = (*pitem)[j++]`, for each of the variables. -/
def FieldVars.assign {n : Nat} (vars : FieldVars n) (item : List Token) : FieldVars n :=
  fun j => (item[j.val]?).or (vars j)

/-- An argument that is read. -/
def nonNull : Option Token → Except LoadFault Token
  | none => .error .nullPointer
  | some s => .ok s

/-- `strcpy` into an array. -/
def strcpy (size : Nat) (s : Option Token) : Except LoadFault Token := do
  let s ← nonNull s
  if s.length < size then .ok s else .error .overflow

/-- `MEMCPY` into a cleared array. -/
def memcpyField (size : Nat) : Option Token → Token
  | none => []
  | some s => s.take (size - 1)

def str2PortType (str : Token) : PortType :=
  if strcaseeq str (ofString "VSER") then .vser
  else if strcaseeq str (ofString "GSER") then .gser
  else if strcaseeq str (ofString "SOCK") then .sock
  else if strcaseeq str (ofString "COM") then .com
  else if strcaseeq str (ofString "CHR") then .chr
  else if strcaseeq str (ofString "INTERFACE") then .interface
  else if strcaseeq str (ofString "LOOP") then .loop
  else .unknown

def str2DataType (str : Token) : DataType :=
  if strcaseeq str (ofString "DATA_DIAG") then .diag
  else if strcaseeq str (ofString "DATA_AT") then .at
  else if strcaseeq str (ofString "DATA_LOG") then .log
  else if strcaseeq str (ofString "DATA_WCN_DIAG") then .wcnDiag
  else if strcaseeq str (ofString "DATA_WCN_AT") then .wcnAt
  else if strcaseeq str (ofString "DATA_AGDSP_LOG") then .agdspLog
  else if strcaseeq str (ofString "DATA_AGDSP_PCM") then .agdspPcm
  else if strcaseeq str (ofString "DATA_AGDSP_MEM") then .agdspMem
  else if strcaseeq str (ofString "DATA_AGDSP_MIX") then .agdspMix
  else .unknown

def str2act (act : Token) : WorkMode :=
  if strcaseeq act (ofString "F") then .F
  else if strcaseeq act (ofString "S") then .S
  else .unknow

/-- `atoi` is `strtol` here: an `int` has the bits of a `long`. -/
def str2enable : Option Token → Int
  | none => 0
  | some s => if 0 < strtol longBits 10 s then 1 else 0

def str2approcess (apProcess : Option Token) : Int := str2enable apProcess

/-- `DEV_PORT`. -/
structure DevPort where
  portName : Token
  portType : PortType
  portPath : Token
  dataType : DataType
  reserved : Token
  desc : Token
  deriving DecidableEq, Repr

/-- A port under its boot mode. Without a name `CPort::init` leaves the port as it is. -/
structure PortRow where
  bootmode : Token
  port : Option DevPort
  deriving DecidableEq, Repr

/-- The columns: boot mode, name, data type, port type, path, reserved, description. -/
abbrev devFields : Nat := 7

/-- The end of a round of `CDevMgr::load`: a new `CPort`, and `CDev::addPort`. -/
def buildPort (vars : FieldVars devFields) : Except LoadFault (Option PortRow) := do
  let portType ← nonNull (vars 3)
  let dataType ← nonNull (vars 2)
  let port := (vars 1).map fun name =>
    { portName := memcpyField 32 (some name), portType := str2PortType portType,
      portPath := memcpyField 64 (vars 4), dataType := str2DataType dataType,
      reserved := memcpyField 128 (vars 5), desc := memcpyField 128 (vars 6) }
  match vars 0 with
  | none => return none
  | some bootmode =>
    let bootmode ← strcpy 64 (some bootmode)
    return some ⟨bootmode, port⟩

/-- `CHNL_PROP`, with the fields that nothing reads later. -/
structure ChnlRow extends ChnlProp where
  reserved : Token
  desc : Token
  deriving DecidableEq, Repr

/-- The columns: name, source device and port, destination device and port, act, data type, enable,
ap_process, reserved, description. -/
abbrev chnlFields : Nat := 11

/-- The end of a round of `CChnlMgr::load`: `CChnl::add`. -/
def buildChnl (vars : FieldVars chnlFields) : Except LoadFault (Option ChnlRow) := do
  let act ← nonNull (vars 5)
  let dataType ← nonNull (vars 6)
  let name ← strcpy 128 (vars 0)
  let srcDevName ← strcpy 32 (vars 1)
  let srcPortName ← strcpy 32 (vars 2)
  let dstDevName ← strcpy 32 (vars 3)
  let dstPortName ← strcpy 32 (vars 4)
  let reserved ← strcpy 128 (vars 9)
  let desc ← strcpy 128 (vars 10)
  return some
    { name, srcDevName, srcPortName, dstDevName, dstPortName, act := str2act act,
      dataType := str2DataType dataType, enable := str2enable (vars 7),
      apProcess := str2approcess (vars 8), reserved, desc }

section Load

variable {n : Nat} {ρ : Type} (build : FieldVars n → Except LoadFault (Option ρ))

/-- The loop over the items. -/
def loadItems : FieldVars n → List (List Token) → Except LoadFault (List ρ)
  | _, [] => .ok []
  | vars, item :: items => do
    let row ← build (vars.assign item)
    let rows ← loadItems (vars.assign item) items
    return row.toList ++ rows

/-- The rows of a file. -/
def loadFile (file : List UInt8) : Except LoadFault (List ρ) :=
  loadItems build (fun _ => none) (parseConfigFile file)

end Load

end EngPc
