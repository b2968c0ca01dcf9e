import EngPc.Model.MsgHead
import EngPc.Model.ProtolDiag

/-!
# Messages that nobody asked for

`time_sync_rsp_handle` and `cp_event_notify_rsp_handle` of server/common/cpctl.cpp frame a message
with cpctl's `translate_packet` and hand it to `write_to_host_diag` of server/module, which frames
it for the host diag port.
-/

namespace EngPc
open LittleEndian

structure ModemTimestamp where
  tvSec : UInt32
  tvUsec : UInt32
  sysCnt : UInt32
  deriving DecidableEq, Repr

def ModemTimestamp.bytes (ts : ModemTimestamp) : List UInt8 :=
  bytesLE 4 ts.tvSec.toNat ++ bytesLE 4 ts.tvUsec.toNat ++ bytesLE 4 ts.sysCnt.toNat

structure CpEventNotify where
  subsys : UInt8
  event : UInt8
  deriving DecidableEq, Repr

def CpEventNotify.bytes (ev : CpEventNotify) : List UInt8 := [ev.subsys, ev.event]

structure ToolsDiagApCnf where
  status : UInt16
  length : UInt16
  deriving DecidableEq, Repr

def ToolsDiagApCnf.bytes (cnf : ToolsDiagApCnf) : List UInt8 :=
  bytesLE 2 cnf.status.toNat ++ bytesLE 2 cnf.length.toNat

/-- `write_to_host_diag`: the bytes that the host port is given. -/
def writeToHostDiag (buff : Buffer UInt8) (len : Nat) : List UInt8 :=
  let dst := CProtolDiag.translatePacket (fun _ => 0) (buff.offset 1) (len - 2)
  dst.1.load 0 dst.2

/-- The text that both handlers share: header and structure go into `tmp`, their frame into `rsp`. -/
def sendRsp (head : MsgHead) (data : List UInt8) : List UInt8 :=
  let tmp : Buffer UInt8 := Buffer.fill (Buffer.fill (fun _ => 0) 0 head.bytes) msgHeadLen data
  let rsp := CpCtl.translatePacket (fun _ => 0) tmp head.len.toNat
  writeToHostDiag rsp.1 rsp.2

def timeSyncHead : MsgHead := ⟨0, 8 + 4 + 12, 0x5, 0x11⟩

def timeSyncRspHandle (ts : ModemTimestamp) : List UInt8 :=
  sendRsp timeSyncHead ((ToolsDiagApCnf.mk 0 12).bytes ++ ts.bytes)

def cpEventHead : MsgHead := ⟨0, 8 + 2, 0x33, 0xff⟩

def cpEventNotifyRspHandle (ev : CpEventNotify) : List UInt8 := sendRsp cpEventHead ev.bytes

end EngPc
