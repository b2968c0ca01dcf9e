import EngPc.Model.PortEnable

/-!
# Where the CP logs go

`CCPCtl::logLocation` and `notice_slogmodem` of server/common/cpctl.cpp, the part of `main` that
sets the ports up, and the two adapters that keep the destination of a log type. slogmodem and the
USB configuration answer from outside.
-/

namespace EngPc
open CString

def logLocationPc : UInt8 := 0x31
def logLocationTcard : UInt8 := 0x32
def logLocationNone : UInt8 := 0x30

inductive LogType
  | modem | wcn
  deriving DecidableEq, Repr

def LogType.ofChar (c : UInt8) : Option LogType :=
  if c = 0x31 then some .modem else if c = 0x32 then some .wcn else none

def LogType.devName : LogType → List UInt8
  | .modem => ofString "cp"
  | .wcn => ofString "wcn"

/-! ### slogmodem -/

/-- What the system calls of one exchange give: the socket, `fcntl`, `write`, `poll` with its
POLLIN, and `read`. There is no result of `write` when slogmodem has hung up before. -/
structure SlogExchange where
  connected : Bool
  nonblock : Bool
  written : Option Int
  poll : Int
  pollin : Bool
  answer : Option (List UInt8)
  deriving DecidableEq, Repr

/-- `get_response`; a wrong answer leaves what `poll` returned. -/
def getResponse (x : SlogExchange) : Int :=
  if x.poll < 0 then x.poll
  else if x.pollin = true then
    match x.answer with
    | some resp => if resp.take 3 = ofString "OK\n" then 1 else x.poll
    | none => x.poll
  else x.poll

/-- How the server can end in a call: by the SIGPIPE of a write, which nothing handles, or because
init starts it anew. -/
inductive ServerEnd
  | sigpipe | restart
  deriving DecidableEq, Repr

def noticeSlogmodem (cmd : List UInt8) (x : SlogExchange) : Except ServerEnd Int :=
  if x.connected = false then .ok (-1)
  else if x.nonblock = false then .ok (-1)
  else match x.written with
    | none => .error .sigpipe
    | some len =>
      if (cmd.length : Int) ≠ len then .ok (-1)
      else if getResponse x ≠ 1 then .ok (-1)
      else .ok 0

/-! ### The destination -/

/-- The two directories of server/adapt. -/
inductive Adapter
  | android | miniap
  deriving DecidableEq, Repr

/-- The flags of the ports, and the properties of the two log types. -/
structure LogState (π : Type) where
  flags : PortFlags π
  logdest : LogType → UInt8

def sysGetlogdest {π : Type} (a : Adapter) (s : LogState π) (type : LogType) : UInt8 :=
  match a with
  | .android => s.logdest type
  | .miniap => logLocationPc

def sysSetlogdest {π : Type} (a : Adapter) (s : LogState π) (type : LogType) (location : UInt8) :
    LogState π :=
  match a with
  | .android => { s with logdest := Function.update s.logdest type location }
  | .miniap => s

/-- The property that makes init restart the service; the other adapter has none. -/
def sysRestartSelf (a : Adapter) (ret : Int) : Except ServerEnd Int :=
  match a with
  | .android => .error .restart
  | .miniap => .ok ret

/-! ### `logLocation` -/

/-- What tells the six branches apart: the first command to slogmodem, the argument of
`resetWithDevName` if it is called, whether `bqb_vendor_open` is, and the second command. -/
structure LogSwitch where
  cmd : List UInt8
  reset : Option Bool
  bqbVendorOpen : Bool
  agdsp : Option (List UInt8)

def logSwitch : LogType → UInt8 → Option LogSwitch
  | .modem, location =>
    if location = logLocationPc then
      some ⟨ofString "DISABLE_LOG 5MODE\n", some true, false,
        some (ofString "DISABLE_LOG AG-DSP\n")⟩
    else if location = logLocationTcard then
      some ⟨ofString "ENABLE_LOG 5MODE\n", some false, false,
        some (ofString "ENABLE_LOG AG-DSP\n")⟩
    else if location = logLocationNone then
      some ⟨ofString "DISABLE_LOG 5MODE\n", none, false,
        some (ofString "DISABLE_LOG AG-DSP\n")⟩
    else none
  | .wcn, location =>
    if location = logLocationPc then some ⟨ofString "DISABLE_LOG WCN\n", some true, true, none⟩
    else if location = logLocationTcard then
      some ⟨ofString "ENABLE_LOG WCN\n", some false, false, none⟩
    else if location = logLocationNone then
      some ⟨ofString "DISABLE_LOG WCN\n", none, false, none⟩
    else none

/-- A call: its arguments, the exchanges about the two commands, and the USB configuration. -/
structure LogCall where
  logType : UInt8
  location : UInt8
  diagportswitch : Int
  first : SlogExchange
  second : SlogExchange
  usbConf : List UInt8
  deriving DecidableEq, Repr

/-- What a call leaves but the state: its result, if it returns, the commands for slogmodem, and the
AT command that comes before a restart. -/
structure LogOut where
  ret : Except ServerEnd Int
  cmds : List (List UInt8)
  bqbVendorOpen : Bool
  diagSwitch : Option (List UInt8)

/-- The end of `logLocation`, whatever the result. -/
def diagPortSwitch (c : LogCall) : Option (List UInt8) :=
  if c.diagportswitch = 1 ∧ c.location = logLocationPc then
    if ¬strcaseeq c.usbConf (ofString ",gser") then some (ofString "AT+DIAGOPEN") else none
  else if c.diagportswitch = 2 ∧ c.location ≠ logLocationPc then
    if strcaseeq c.usbConf (ofString ",gser") then some (ofString "AT+DIAGCLOSE") else none
  else none

/-- What is returned behind that. -/
def LogCall.leave (c : LogCall) (a : Adapter) (ret : Int) : Except ServerEnd Int :=
  if (diagPortSwitch c).isSome then sysRestartSelf a ret else .ok ret

/-- The second command; what slogmodem says to it is only logged. -/
def LogSwitch.noticeAgdsp (b : LogSwitch) (x : SlogExchange) : Except ServerEnd Int :=
  match b.agdsp with
  | none => .ok 0
  | some cmd => noticeSlogmodem cmd x

variable {π : Type} [DecidableEq π]

/-- A branch whose first command slogmodem has taken. -/
def LogSwitch.apply (b : LogSwitch) (a : Adapter) (mgr : CDevMgr π) (type : LogType)
    (location : UInt8) (s : LogState π) : LogState π :=
  let s := match b.reset with
    | some enable => { s with flags := resetWithDevName mgr type.devName enable s.flags }
    | none => s
  sysSetlogdest a s type location

def logLocation (a : Adapter) (mgr : CDevMgr π) (s : LogState π) (c : LogCall) :
    LogState π × LogOut :=
  let refused (cmds : List (List UInt8)) : LogState π × LogOut :=
    (s, ⟨c.leave a (-1), cmds, false, diagPortSwitch c⟩)
  match LogType.ofChar c.logType with
  | none => refused []
  | some type =>
    match logSwitch type c.location with
    | none => refused []
    | some b =>
      if c.location = sysGetlogdest a s type then refused []
      else match noticeSlogmodem b.cmd c.first with
        | .error e => (s, ⟨.error e, [b.cmd], false, none⟩)
        | .ok result =>
          if result < 0 then refused [b.cmd]
          else
            let s := b.apply a mgr type c.location s
            match b.noticeAgdsp c.second with
            | .error e => (s, ⟨.error e, b.cmd :: b.agdsp.toList, b.bqbVendorOpen, none⟩)
            | .ok _ =>
              (s, ⟨c.leave a 0, b.cmd :: b.agdsp.toList, b.bqbVendorOpen, diagPortSwitch c⟩)

/-! ### The set-up -/

def bootmodeNormal : List UInt8 := ofString "normal"
def bootmodeNormalLite : List UInt8 := ofString "normal_lite"

/-- "is modem to pc? is wcn to pc?" -/
def logSetUp (a : Adapter) (mgr : CDevMgr π) (bootmode : List UInt8) (s : LogState π) :
    LogState π :=
  if strcaseeq bootmode bootmodeNormal ∨ strcaseeq bootmode bootmodeNormalLite then
    let flags := if sysGetlogdest a s .modem ≠ logLocationPc then
        resetWithDevName mgr LogType.modem.devName false s.flags
      else s.flags
    let flags := if sysGetlogdest a s .wcn = logLocationPc then
        resetWithDevName mgr LogType.wcn.devName true flags
      else resetWithDevName mgr LogType.wcn.devName false flags
    { s with flags := flags }
  else s

end EngPc
