import EngPc.Lib.RequestStream
import EngPc.Model.LogLocation

/-!
# The control sockets

The two functions `eng_socket_rw_thread`, of server/common/cpctl.cpp (socket engpc_soc.l) and of
engctl.cpp (socket engpc_ctl), with what they do for a request.
-/

namespace EngPc
open RequestStream

def engDataLength : Nat := 3

structure LogOutside where
  first : SlogExchange
  second : SlogExchange
  usbConf : List UInt8

variable {π : Type} [DecidableEq π]

/-- The call that a request makes. -/
def CCPCtl.logCall (out : LogOutside) (engData : List UInt8) : LogCall where
  logType := engData.getD 1 0 + 0x30
  location := engData.getD 2 0 + 0x30
  diagportswitch := 1
  first := out.first
  second := out.second
  usbConf := out.usbConf

/-- `ENG_DATA_T` is `sn`, `log_type`, and `location` where the result goes. A call that does not
return is the end of the server. -/
def CCPCtl.handle (a : Adapter) (mgr : CDevMgr π) (s : LogState π) (out : LogOutside)
    (engData : List UInt8) : LogState π × Except ServerEnd (List UInt8) :=
  let r := logLocation a mgr s (CCPCtl.logCall out engData)
  (r.1, r.2.ret.map fun ret => [engData.getD 0 0, engData.getD 1 0, UInt8.ofInt ret])

def CCPCtl.engSocketRwThread (a : Adapter) (mgr : CDevMgr π) :
    LogState π → (Nat → LogOutside) → List (List UInt8) →
      LogState π × List (List UInt8 × Except ServerEnd (List UInt8)) :=
  serve engDataLength 0 (CCPCtl.handle a mgr)

/-- `sizeof(CTL_CHNL_S)`, the larger member of the union. -/
def ctlChnlLen : Nat := 64 + 128 + 4 * 32 + 4 * 16

def engpcCmdLen : Nat := 2 + ctlChnlLen

def cmdRspLen : Nat := 256

/-- `chnl_s.name`, behind `dst`, `act` and `bootmode`. -/
def chnlName (cmd : List UInt8) : List UInt8 := (cmd.drop (2 + 64)).takeWhile (· ≠ 0)

abbrev EnableCalls := List (List UInt8 × Bool)

/-- `ctl_chnl`: its result and what it calls. -/
def ctlChnl (cmd : List UInt8) (calls : EnableCalls) : Int × EnableCalls :=
  let act := cmd.getD 1 0
  if act = 3 ∨ act = 4 then (0, calls ++ [(chnlName cmd, decide (act = 3))]) else (-1, calls)

/-- `CEngCtl::process`; `ctl_dev` does nothing. -/
def CEngCtl.process (cmd : List UInt8) (calls : EnableCalls) : Int × EnableCalls :=
  let dst := cmd.getD 0 0
  if dst = 0 then (-1, calls)
  else if dst = 1 then ctlChnl cmd calls
  else (0, calls)

/-- `m_cmd_rsp` is cleared and nothing is put into it. -/
def CEngCtl.handle (calls : EnableCalls) (_ : Unit) (cmd : List UInt8) :
    EnableCalls × Except Empty (List UInt8) :=
  ((CEngCtl.process cmd calls).2, .ok (List.replicate cmdRspLen 0))

def CEngCtl.engSocketRwThread :
    EnableCalls → (Nat → Unit) → List (List UInt8) →
      EnableCalls × List (List UInt8 × Except Empty (List UInt8)) :=
  serve engpcCmdLen 0 CEngCtl.handle

end EngPc
