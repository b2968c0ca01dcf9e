import EngPc.Lib.Decimal
import EngPc.Model.AtCommands
import EngPc.Model.AtTok
import EngPc.Model.CtlSocket

/-!
# The two ways to the CP logs

`CpCtlHandle` of server/common/cpctl.cpp beside the socket engpc_soc.l: an AT command and a message on
the socket ask `logLocation` for another destination, and the AT command tells the destination.
-/

namespace EngPc
open CString

def atSpatcplog : List UInt8 := ofString "AT+SPATCPLOG"

def spatcplogTag : List UInt8 := ofString "+SPATCPLOG:"

/-- What the text of a command asks for. -/
inductive CpLogCommand
  | unknown
  | badParam
  | query (type : LogType)
  | change (logType location : UInt8) (diagportswitch : Int)
  deriving DecidableEq, Repr

/-- The parameters behind the first `=`; where the text ends its zero is read. -/
def cpLogChange (ptr : List UInt8) : CpLogCommand :=
  match strchrNext 0x3d ptr with
  | none => .badParam
  | some type =>
    match strchrNext 0x2c type with
    | none => .badParam
    | some location =>
      .change (type.headD 0) (location.headD 0)
        (match strchrNext 0x2c location with
          | none => 0
          | some switch => (switch.headD 0).toNat - 0x30)

def cpLogCommand (ptr : List UInt8) : CpLogCommand :=
  if strcaseeq (ptr.take atSpatcplog.length) atSpatcplog then
    if 0x3f ∈ ptr then
      if (strstr (ofString "=1?") ptr).isSome then .query .modem
      else if (strstr (ofString "=2?") ptr).isSome then .query .wcn
      else .badParam
    else cpLogChange ptr
  else .unknown

def LogType.tag : LogType → List UInt8
  | .modem => ofString " MODEMLOG="
  | .wcn => ofString " WCNLOG="

/-- The destination stands in an array of zeros. -/
def queryReply (type : LogType) (logdest : UInt8) : List UInt8 :=
  spatcplogTag ++ type.tag ++ printInt (intOf (strtol longBits 10 (if logdest = 0 then [] else [logdest]))) ++
    ofString "\r\n"

variable {π : Type} [DecidableEq π]

/-- What it leaves, and the text that comes back if the server goes on. -/
def CpLogCommand.run (a : Adapter) (mgr : CDevMgr π) (s : LogState π) (out : LogOutside) :
    CpLogCommand → LogState π × Except ServerEnd (List UInt8)
  | .unknown => (s, .ok (spatcplogTag ++ ofString " unknown at\r\n"))
  | .badParam => (s, .ok (spatcplogTag ++ ofString " ERROR PARAM\r\n"))
  | .query type => (s, .ok (queryReply type (sysGetlogdest a s type)))
  | .change logType location diagportswitch =>
    let r := logLocation a mgr s
      ⟨logType, location, diagportswitch, out.first, out.second, out.usbConf⟩
    (r.1, r.2.ret.map fun ret => if ret = -1 then
      spatcplogTag ++ ofString " error " ++ printInt ret ++ ofString "\r\n"
      else ofString "OK\r\n")

def cpCtlHandle (a : Adapter) (mgr : CDevMgr π) (s : LogState π) (out : LogOutside)
    (buff : Buffer UInt8) : LogState π × Except ServerEnd (List UInt8) :=
  (cpLogCommand (requestText buff)).run a mgr s out

inductive CpLogRequest
  | command (buff : Buffer UInt8)
  | message (bytes : List UInt8)

/-- A request, with what slogmodem and the USB configuration answer if they are asked. -/
structure CpLogEvent where
  request : CpLogRequest
  outside : LogOutside

def cpLogServe (a : Adapter) (mgr : CDevMgr π) (s : LogState π) (e : CpLogEvent) :
    LogState π × Except ServerEnd (List UInt8) :=
  match e.request with
  | .command buff => cpCtlHandle a mgr s e.outside buff
  | .message bytes => CCPCtl.handle a mgr s e.outside bytes

/-- The requests are served one after the other, up to one that ends the server: it has no reply, and
what it has changed stays changed. -/
def cpLogStep (a : Adapter) (mgr : CDevMgr π) (s : LogState π) (e : CpLogEvent) :
    Except (ServerEnd × LogState π) (LogState π × List UInt8) :=
  let r := cpLogServe a mgr s e
  match r.2 with
  | .error end' => .error (end', r.1)
  | .ok out => .ok (r.1, out)

end EngPc
