import EngPc.Model.ChnlGraph

/-!
# Lookups of channels and rows

`CChnlMgr::find`, `CChnl::find` and `CChnl::enable` of server/chnl, beside the lookups of devices
and ports in `EngPc.Model.ChnlGraph`. A row that is found is given by its index.
-/

namespace EngPc
open CString

variable {π : Type}

/-- A `CChnl` with the boot mode that `getname` returns. -/
structure BootChnl extends CChnl where
  bootMode : List UInt8

def chnlFind (chnls : List BootChnl) (name : List UInt8) : Option BootChnl :=
  chnls.find? fun chnl => strcaseeq chnl.bootMode name

/-- `CChnl::find` takes the answer of `stricmp` itself as the condition. -/
def CChnl.find (chnl : CChnl) (name : List UInt8) : Option Nat :=
  chnl.chnlList.findIdx? fun item => ¬strcaseeq item.name name

def ChnlProp.setEnable (item : ChnlProp) (enable : Bool) : ChnlProp :=
  { item with enable := enable.toInt }

/-- `CChnl::enable` of one row. -/
def CChnl.enableRow (chnl : CChnl) (name : List UInt8) (enable : Bool) : Bool × CChnl :=
  match chnl.find name with
  | some i => (true, { chnl with chnlList := chnl.chnlList.modify i (·.setEnable enable) })
  | none => (false, chnl)

/-- A device as `CDevMgr::load` builds it: each port is an object of its own. -/
structure LoadedDev (π : Type) extends CDev π where
  distinct : ((bmDevList.flatMap BMDev.portList).map Prod.snd).Nodup

end EngPc
