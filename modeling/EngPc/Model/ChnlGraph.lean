import EngPc.Lib.CString
import EngPc.Lib.Reach
import EngPc.Model.Types

/-!
# The graph of channels

`CDevMgr::find`, `CDev::find` and `CPort::find`, `CChnl::run` and `CChnl::runInThread`, the lookups
of `CChnlThreadMgr`, the destination list of `CChnlThread` and `CTrans::activeOtherChnlDstPort`, all
of server/chnl and server/trans. A `CPort` object is a value of the type `π`.
-/

namespace EngPc
open CString

variable {π : Type}

structure BMDev (π : Type) where
  bootmode : List UInt8
  /-- Each port with its name. -/
  portList : List (List UInt8 × π)

structure CDev (π : Type) where
  devName : List UInt8
  curMode : List UInt8
  bmDevList : List (BMDev π)

/-- `CPort::find`: `portName` is compared with as many bytes of `name`. -/
def portFind (name portName : List UInt8) : Prop :=
  strcaseeq (name.take portName.length) portName

instance (name portName : List UInt8) : Decidable (portFind name portName) :=
  inferInstanceAs (Decidable (strcaseeq _ _))

def CDev.find (dev : CDev π) (name : List UInt8) : Option π :=
  dev.bmDevList.findSome? fun bm =>
    if strcaseeq bm.bootmode dev.curMode then
      (bm.portList.find? fun port => portFind name port.1).map Prod.snd
    else none

def devFind (devs : List (CDev π)) (name : List UInt8) : Option (CDev π) :=
  devs.find? fun dev => strcaseeq dev.devName name

/-- `CHNL_PROP`: one row of a channel table. -/
structure ChnlProp where
  name : List UInt8
  srcDevName : List UInt8
  srcPortName : List UInt8
  dstDevName : List UInt8
  dstPortName : List UInt8
  act : WorkMode
  dataType : DataType
  enable : Int
  apProcess : Int
  deriving DecidableEq, Repr

structure CChnl where
  enable : Bool
  chnlList : List ChnlProp

structure ChnlThread (π : Type) where
  name : List UInt8
  portSrc : π
  /-- The active destination. -/
  portDst : π
  enable : Int
  dataType : DataType
  apProcess : Int
  listDstPort : List π
  /-- The destination of the live `CTrans` that `m_lpTrans` points to. -/
  trans : Option π
  deriving DecidableEq, Repr

/-- `CChnlThread::CChnlThread`, and the first `addDstPort` that follows it. -/
def newThread (name : List UInt8) (src dst : π) (enable : Int) (dataType : DataType)
    (apProcess : Int) : ChnlThread π :=
  { name, portSrc := src, portDst := dst, enable, dataType, apProcess, listDstPort := [dst],
    trans := none }

def ChnlThread.addDstPort (td : ChnlThread π) (port : π) : ChnlThread π :=
  { td with listDstPort := td.listDstPort ++ [port] }

def ChnlThread.activeDstPort (td : ChnlThread π) (port : π) : ChnlThread π :=
  { td with portDst := port, trans := td.trans.map fun _ => port }

/-- `threadMain` up to its loop. -/
def ChnlThread.start (td : ChnlThread π) : ChnlThread π := { td with trans := some td.portDst }

/-- The end of `threadMain`. -/
def ChnlThread.finish (td : ChnlThread π) : ChnlThread π := { td with trans := none }

section Frame

variable (td : ChnlThread π) (port : π)

@[simp] lemma ChnlThread.activeDstPort_portSrc : (td.activeDstPort port).portSrc = td.portSrc := rfl

@[simp] lemma ChnlThread.activeDstPort_listDstPort :
    (td.activeDstPort port).listDstPort = td.listDstPort := rfl

@[simp] lemma ChnlThread.start_portSrc : td.start.portSrc = td.portSrc := rfl

@[simp] lemma ChnlThread.start_listDstPort : td.start.listDstPort = td.listDstPort := rfl

@[simp] lemma ChnlThread.finish_portSrc : td.finish.portSrc = td.portSrc := rfl

@[simp] lemma ChnlThread.finish_listDstPort : td.finish.listDstPort = td.listDstPort := rfl

end Frame

/-- The data types for which `threadMain` has a `CTrans`. -/
def hasTrans : DataType → Bool
  | .agdspMix | .unknown => false
  | _ => true

section Threads

variable [DecidableEq π]

def findSameSrcPort (tds : List (ChnlThread π)) (port : π) : Option (ChnlThread π) :=
  tds.find? fun td => td.portSrc = port

def findSameDstPort (tds : List (ChnlThread π)) (port : π) : Option (ChnlThread π) :=
  tds.find? fun td => port ∈ td.listDstPort

/-- Changes the first thread with the property. -/
def updateFirst (p : ChnlThread π → Bool) (f : ChnlThread π → ChnlThread π) :
    List (ChnlThread π) → List (ChnlThread π)
  | [] => []
  | td :: tds => if p td then f td :: tds else td :: updateFirst p f tds

/-- One direction of a row: the destination goes to the thread that has the source port, or to
a new thread. -/
def install (tds : List (ChnlThread π)) (name : List UInt8) (src dst : π) (enable : Int)
    (dataType : DataType) (apProcess : Int) : List (ChnlThread π) :=
  match findSameSrcPort tds src with
  | some _ => updateFirst (fun td => td.portSrc = src) (fun td => td.addDstPort dst) tds
  | none => tds ++ [newThread name src dst enable dataType apProcess]

/-- The two ports of a row. -/
def ChnlProp.ports (devs : List (CDev π)) (row : ChnlProp) : Option (π × π) := do
  let srcDev ← devFind devs row.srcDevName
  let src ← srcDev.find row.srcPortName
  let dstDev ← devFind devs row.dstDevName
  let dst ← dstDev.find row.dstPortName
  return (src, dst)

/-- The flag of one direction: `ap_process` names that direction, or both. -/
def ChnlProp.processes (row : ChnlProp) (direction : Int) : Int :=
  if row.apProcess = direction ∨ row.apProcess = 3 then 1 else 0

def runInThread (devs : List (CDev π)) (enable : Bool) (tds : List (ChnlThread π))
    (row : ChnlProp) : Bool × List (ChnlThread π) :=
  if enable = false then (false, tds)
  else if row.act = .S ∨ row.act = .F then
    match row.ports devs with
    | none => (false, tds)
    | some (src, dst) =>
      let forth := install tds row.name src dst row.enable row.dataType (row.processes 1)
      if row.act = .F then
        (true, install forth (row.name ++ ofString "-R") dst src row.enable row.dataType
          (row.processes 2))
      else (true, forth)
  else (true, tds)

def CChnl.run (devs : List (CDev π)) (chnl : CChnl) (tds : List (ChnlThread π)) :
    List (ChnlThread π) :=
  chnl.chnlList.foldl (fun tds row => (runInThread devs chnl.enable tds row).2) tds

/-- `CTrans::activeOtherChnlDstPort` of a loop that reads `port`. -/
def activeOtherChnlDstPort (tds : List (ChnlThread π)) (port : π) : List (ChnlThread π) :=
  updateFirst (fun td => port ∈ td.listDstPort) (fun td => td.activeDstPort port) tds

/-- Where the loop of the thread with this source port writes. -/
def transDst (tds : List (ChnlThread π)) (port : π) : Option π :=
  (findSameSrcPort tds port).bind ChnlThread.trans

/-- A row is installed; or a loop of the thread with the given source port starts, reads, ends. -/
inductive ChnlEvent (π : Type)
  | row (enable : Bool) (row : ChnlProp)
  | start (port : π)
  | read (port : π)
  | finish (port : π)

def chnlNext (devs : List (CDev π)) (tds : List (ChnlThread π)) :
    ChnlEvent π → Option (List (ChnlThread π))
  | .row enable row => some (runInThread devs enable tds row).2
  | .start port =>
    match findSameSrcPort tds port with
    | none => none
    | some td =>
      if td.enable ≠ 0 ∧ hasTrans td.dataType ∧ td.trans = none then
        some (updateFirst (fun td => td.portSrc = port) ChnlThread.start tds)
      else none
  | .read port =>
    if (transDst tds port).isSome then some (activeOtherChnlDstPort tds port) else none
  | .finish port =>
    if (transDst tds port).isSome then
      some (updateFirst (fun td => td.portSrc = port) ChnlThread.finish tds)
    else none

end Threads

end EngPc
