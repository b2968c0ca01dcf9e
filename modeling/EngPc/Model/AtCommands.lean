import EngPc.Lib.CString
import EngPc.Model.Types

/-!
# AT commands of the modules

`reboot_cmd_handle` of libreboot_cmd/reboot_cmd.cpp, `getProp_handle` of libapcomm/apcomm.c and
`prop_handler` of libnpipropsrv/npipropsrv.cpp. Each of them gets the text of an AT port or a whole
diag frame.
-/

namespace EngPc
open CString

/-- The text of a request: in a frame it stands behind the flag and the header. -/
def requestText (buff : Buffer UInt8) : List UInt8 :=
  cstr buff (if buff 0 = 0x7e then 1 + msgHeadLen else 0) maxChnlBuff

def atRebootCmd : List UInt8 := ofString "AT+SPREBOOTCMD="

/-- `sizeof (reboot_cmd_param)` -/
def rebootParamSize : Nat := 64

/-- The returned length, the reply, and `reboot_cmd_param` where it is set. -/
structure RebootOut where
  ret : Nat
  rsp : List UInt8
  param : Option (List UInt8)
  deriving DecidableEq, Repr

/-- `nlen`. The comparison makes a `size_t` of it, so a negative number is a large one there. -/
def rebootParamLen (buff : Buffer UInt8) : Nat :=
  let nlen := intOf ((cstr buff 0 maxChnlBuff).length - atRebootCmd.length)
  if rebootParamSize - 1 ≤ nlen % 2 ^ longBits then rebootParamSize - 1 else nlen.toNat

def rebootReply (rsp : List UInt8) (param : Option (List UInt8)) : RebootOut :=
  ⟨rsp.length, rsp, param⟩

/-- `strncpy` copies into a cleared array. -/
def rebootCmdHandle (buff : Buffer UInt8) : RebootOut :=
  let ptr := requestText buff
  if strcaseeq (ptr.take atRebootCmd.length) atRebootCmd then
    rebootReply (ofString "\r\nOK\r\n")
      (some ((ptr.drop atRebootCmd.length).take (rebootParamLen buff)))
  else rebootReply (ofString "\r\nERROR\r\n") none

/-- The result of a search is used without a check, and a pointer goes past the end of the text. -/
inductive PropFault
  | nullPointer | pastEnd
  deriving DecidableEq, Repr

/-- What a handler returns, the reply that it prints, and its calls of `property_set`. -/
structure PropOut where
  ret : Int
  rsp : Option (List UInt8)
  sets : List (List UInt8 × List UInt8)
  deriving DecidableEq, Repr

/-- `strchr`, of which every result is followed. -/
def strchr (s : List UInt8) (c : UInt8) : Except PropFault (List UInt8) :=
  match s.dropWhile (· ≠ c) with
  | [] => .error .nullPointer
  | p => .ok p

def engStrend : List UInt8 := ofString "\r\n"

def notFound : List UInt8 := ofString "NOT FOUND"

/-- `property_get` with its default, for a property that is not set or empty. -/
def propertyGet (props : List UInt8 → List UInt8) (key : List UInt8) : List UInt8 :=
  if props key = [] then notFound else props key

def propGetReply (buf : List UInt8) : List UInt8 :=
  if buf.take notFound.length = notFound then engStrend ++ buf ++ engStrend
  else engStrend ++ [0x5b] ++ buf ++ [0x5d] ++ engStrend

def propSetReply (key val : List UInt8) : List UInt8 :=
  engStrend ++ [0x5b] ++ key ++ [0x5d, 0x5b] ++ val ++ [0x5d] ++ engStrend

/-- The end of a set command, from `ptr_val` on. -/
def setProperty (key ptrVal : List UInt8) : Except PropFault PropOut := do
  let _ ← strchr ptrVal 0x5d
  let val := ptrVal.takeWhile (· ≠ 0x5d)
  return ⟨0, some (propSetReply key val), [(key, val)]⟩

/-- What the two handlers share: the searches up to the end of the key, and the command `0`. `set`
is the command `1`, from the character behind the key's bracket on. -/
def propCommand (props : List UInt8 → List UInt8)
    (set : List UInt8 → List UInt8 → Except PropFault PropOut) (ptr : List UInt8) :
    Except PropFault PropOut := do
  let eq ← strchr ptr 0x3d
  let ptrCmd := eq.tail.headD 0
  let comma ← strchr eq.tail 0x2c
  if comma.tail.head? ≠ some 0x5b then return ⟨-1, none, []⟩
  else
    let ptrKey := comma.tail.tail
    let req ← strchr ptrKey 0x5d
    let key := ptrKey.takeWhile (· ≠ 0x5d)
    if ptrCmd = 0x30 then return ⟨0, some (propGetReply (propertyGet props key)), []⟩
    else if ptrCmd = 0x31 then set key req.tail
    else return ⟨0, none, []⟩

/-- Where the bracket is missing, "ERROR" is printed, and printed over. -/
def getPropHandle (props : List UInt8 → List UInt8) (buff : Buffer UInt8) :
    Except PropFault PropOut :=
  propCommand props (fun key req =>
    match req with
    | [] => .error .pastEnd
    | _ :: ptrVal => setProperty key ptrVal) (requestText buff)

def propHandler (props : List UInt8 → List UInt8) (buff : Buffer UInt8) :
    Except PropFault PropOut :=
  propCommand props (fun key req =>
    if req.head? ≠ some 0x5b then .ok ⟨-1, none, []⟩
    else setProperty key req.tail) (requestText buff)

end EngPc
