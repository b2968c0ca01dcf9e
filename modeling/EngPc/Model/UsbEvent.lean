import EngPc.Lib.CString
import EngPc.Lib.Terminated
import EngPc.Model.PortEnable

/-!
# USB events

`parse_event`, `handle_device_event` and `handle_device_fd` of server/common/usb.cpp. A pointer into
the message is the list of the bytes from there to the second of the two zeros put behind it, so
an access behind these fails. The notify function is `CDevMgr::notify`, as main.cpp registers it.
-/

namespace EngPc
open CString Terminated

/-- `struct uevent`: what the four pointers point to. -/
structure Uevent where
  action : List UInt8
  path : List UInt8
  subsystem : List UInt8
  usbConnect : List UInt8
  deriving DecidableEq, Repr

/-- The pointers before the first line: each to the empty text. -/
def Uevent.init : Uevent := ⟨[0], [0], [0], [0]⟩

def actionKey : List UInt8 := ofString "ACTION="

def devpathKey : List UInt8 := ofString "DEVPATH="

def subsystemKey : List UInt8 := ofString "SUBSYSTEM="

def usbStateKey : List UInt8 := ofString "USB_STATE="

/-- The branches of the loop of `parse_event`: the pointer behind the key, and the event. -/
def parseKey (msg : List UInt8) (ev : Uevent) : Except ReadFault (List UInt8 × Uevent) := do
  if ← startsWith actionKey msg then
    return (msg.drop 7, { ev with action := msg.drop 7 })
  else if ← startsWith devpathKey msg then
    return (msg.drop 8, { ev with path := msg.drop 8 })
  else if ← startsWith subsystemKey msg then
    return (msg.drop 10, { ev with subsystem := msg.drop 10 })
  else if ← startsWith usbStateKey msg then
    return (msg.drop 10, { ev with usbConnect := msg.drop 10 })
  else
    return (msg, ev)

def parseLoop : Nat → List UInt8 → Uevent → Except ReadFault Uevent
  | 0, _, _ => .error .noReturn
  | _ + 1, [], _ => .error .outside
  | fuel + 1, c :: msg, ev =>
    if c = 0 then .ok ev
    else do
      let r ← parseKey (c :: msg) ev
      let next ← afterNul r.1
      parseLoop fuel next r.2

/-- `parse_event`: every round passes at least one byte. -/
def parseEvent (msg : List UInt8) : Except ReadFault Uevent := parseLoop msg.length msg .init

def configured : List UInt8 := ofString "CONFIGURED"

def disconnected : List UInt8 := ofString "DISCONNECTED"

def ueventMsgLen : Nat := 1024

variable {π : Type} [DecidableEq π]

def handleDeviceEvent (mgr : CDevMgr π) (ev : Uevent) (flags : PortFlags π) :
    Except ReadFault (PortFlags π) := do
  if ← startsWith configured ev.usbConnect then
    return mgr.notify .usbConnect flags
  else if ← startsWith disconnected ev.usbConnect then
    return mgr.notify .usbDisconnect flags
  else
    return flags

/-- A round of `handle_device_fd` with what was received; nothing ends the loop, which `poll` starts
again. -/
def handleMessage (mgr : CDevMgr π) (flags : PortFlags π) (bytes : List UInt8) :
    Except ReadFault (PortFlags π) :=
  if bytes = [] ∨ ueventMsgLen ≤ bytes.length then .ok flags
  else do
    let ev ← parseEvent (bytes ++ [0, 0])
    handleDeviceEvent mgr ev flags

def handleMessages (mgr : CDevMgr π) : PortFlags π → List (List UInt8) → Except ReadFault (PortFlags π)
  | flags, [] => .ok flags
  | flags, bytes :: msgs => do
    let flags ← handleMessage mgr flags bytes
    handleMessages mgr flags msgs

end EngPc
