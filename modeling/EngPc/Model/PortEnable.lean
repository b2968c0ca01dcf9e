import EngPc.Model.ChnlGraph
import Mathlib.Logic.Function.Basic

/-!
# Enabling the ports of a device

`CDev::enablePortRD`, `enablePortWR` and `enablePort`, `CChnlMgr::resetWithDevName` and
`CDevMgr::notify` of server/chnl. The restart of the threads of the device, which follows a reset,
does not change the flags.
-/

namespace EngPc
open CString

variable {π : Type}

/-- The ports of the active mode, in the order in which the loops meet them. -/
def CDev.activePorts (dev : CDev π) : List π :=
  (dev.bmDevList.filter fun bm => strcaseeq bm.bootmode dev.curMode).flatMap
    fun bm => bm.portList.map Prod.snd

def CDev.allPorts (dev : CDev π) : List π :=
  dev.bmDevList.flatMap fun bm => bm.portList.map Prod.snd

/-- `m_devList` of `CDevMgr`: every row of a table has made a port of its own. -/
structure CDevMgr (π : Type) where
  devList : List (CDev π)
  ports_nodup : (devList.flatMap CDev.allPorts).Nodup

/-- `m_bEnableRD` and `m_bEnableWR`. -/
structure PortEnable where
  rd : Bool
  wr : Bool
  deriving DecidableEq, Repr

abbrev PortFlags (π : Type) := π → PortEnable

/-- New ports are enabled. -/
def PortFlags.init : PortFlags π := fun _ => ⟨true, true⟩

variable [DecidableEq π]

def PortFlags.enable (flags : PortFlags π) (port : π) (rd wr : Bool) : PortFlags π :=
  Function.update flags port ⟨rd, wr⟩

def CDev.enablePortRD (dev : CDev π) (enableRD : Bool) (flags : PortFlags π) : PortFlags π :=
  dev.activePorts.foldl (fun flags port => flags.enable port enableRD (flags port).wr) flags

def CDev.enablePortWR (dev : CDev π) (enableWR : Bool) (flags : PortFlags π) : PortFlags π :=
  dev.activePorts.foldl (fun flags port => flags.enable port (flags port).rd enableWR) flags

def CDev.enablePort (dev : CDev π) (name : List UInt8) (enableRD enableWR : Bool)
    (flags : PortFlags π) : PortFlags π :=
  match dev.find name with
  | none => flags
  | some port => flags.enable port enableRD enableWR

def devModemAtName : List UInt8 := ofString "COM_AT"

def resetWithDevName (mgr : CDevMgr π) (devname : List UInt8) (enable : Bool)
    (flags : PortFlags π) : PortFlags π :=
  match devFind mgr.devList devname with
  | none => flags
  | some dev =>
    let flags := dev.enablePortWR enable (dev.enablePortRD enable flags)
    dev.enablePort devModemAtName true true flags

/-- `UEVENT_MSG`. -/
inductive UeventMsg
  | usbConnect | usbDisconnect | usbUnknown
  deriving DecidableEq, Repr

def devHostName : List UInt8 := ofString "pc"

def CDevMgr.notify (mgr : CDevMgr π) (msg : UeventMsg) (flags : PortFlags π) : PortFlags π :=
  match msg with
  | .usbConnect =>
    match devFind mgr.devList devHostName with
    | none => flags
    | some dev => dev.enablePortWR true flags
  | .usbDisconnect =>
    match devFind mgr.devList devHostName with
    | none => flags
    | some dev => dev.enablePortWR false flags
  | .usbUnknown => flags

end EngPc
