import EngPc.Model.ChnlLookup
import EngPc.Model.Config

/-!
# The start of the server

`CDevMgr::load`, `addDev` and `activeMode`, `CDev::addPort` and `activeMode`, `CChnlMgr::load`,
`addChnl`, `enable` and `run` of server/chnl, and `main` as far as it sets up the channel threads. A
directory is the list of what `readdir` gives.
-/

namespace EngPc
open CString

/-- An element of a directory: whether it is a file (`d_type`), and whether it can be read. -/
structure ConfFile where
  name : List UInt8
  isFile : Bool
  readable : Bool
  text : List UInt8
  deriving DecidableEq, Repr

def confSuffix : List UInt8 := ofString ".conf"

/-- Its rows are loaded: the name has ".conf" in it, wherever. -/
def ConfFile.isConf (f : ConfFile) : Bool :=
  f.isFile && f.readable && (strstr confSuffix f.name).isSome

/-- The name without its last five characters, in an array. -/
def ConfFile.stem (f : ConfFile) (size : Nat) : Except LoadFault Token :=
  strcpy size (some (f.name.take (f.name.length - confSuffix.length)))

/-- A `CPort` object: the row that it was made of. -/
structure PortId where
  file : Nat
  row : Nat
  deriving DecidableEq, Repr

def PortRow.portName (r : PortRow) : Token := (r.port.map DevPort.portName).getD []

section Devices

variable {π : Type}

/-- The port goes to the mode that `findBootMode` finds, or to a new one. -/
def CDev.addPort (dev : CDev π) (bootmode : List UInt8) (port : List UInt8 × π) : CDev π :=
  match dev.bmDevList.findIdx? fun bm => strcaseeq bm.bootmode bootmode with
  | none => { dev with bmDevList := dev.bmDevList ++ [⟨bootmode, [port]⟩] }
  | some i =>
    { dev with bmDevList :=
        dev.bmDevList.modify i fun bm => { bm with portList := bm.portList ++ [port] } }

def CDevMgr.addDev (devs : List (CDev π)) (dev : CDev π) : List (CDev π) :=
  match devFind devs dev.devName with
  | none => devs ++ [dev]
  | some _ => devs

def defBootMode : List UInt8 := ofString "normal"

/-- `CDev::activeMode`, where it returns 0. -/
def CDev.activeMode (dev : CDev π) (bootmode : List UInt8) : Option (CDev π) :=
  if dev.bmDevList.any fun bm => strcaseeq bm.bootmode bootmode then
    some { dev with curMode := bootmode }
  else none

def CDevMgr.activeMode (devs : List (CDev π)) (bootmode : List UInt8) : List (CDev π) :=
  devs.map fun dev => ((dev.activeMode bootmode).or (dev.activeMode defBootMode)).getD dev

end Devices

/-- A round of `CDevMgr::load`: the device of file `k`. -/
def ConfFile.loadDev (f : ConfFile) (k : Nat) : Except LoadFault (CDev PortId) := do
  let devName ← f.stem 32
  let rows ← loadFile buildPort f.text
  return rows.zipIdx.foldl (fun dev r => dev.addPort r.1.bootmode (r.1.portName, ⟨k, r.2⟩))
    ⟨devName, [], []⟩

/-- The loop over the directory, from element `k` on. -/
def devLoop : Nat → List ConfFile → List (CDev PortId) → Except LoadFault (List (CDev PortId))
  | _, [], devs => .ok devs
  | k, f :: fs, devs =>
    if f.isConf = true then do
      let dev ← f.loadDev k
      devLoop (k + 1) fs (CDevMgr.addDev devs dev)
    else devLoop (k + 1) fs devs

def CDevMgr.load (dir : List ConfFile) : Except LoadFault (List (CDev PortId)) := devLoop 0 dir []

/-- A round of `CChnlMgr::load`. -/
def ConfFile.loadChnl (f : ConfFile) : Except LoadFault BootChnl := do
  let chnlName ← f.stem 64
  let rows ← loadFile buildChnl f.text
  return { bootMode := chnlName, enable := true, chnlList := rows.map ChnlRow.toChnlProp }

def CChnlMgr.addChnl (chnls : List BootChnl) (chnl : BootChnl) : List BootChnl :=
  match chnlFind chnls chnl.bootMode with
  | none => chnls ++ [chnl]
  | some _ => chnls

def chnlLoop : List ConfFile → List BootChnl → Except LoadFault (List BootChnl)
  | [], chnls => .ok chnls
  | f :: fs, chnls =>
    if f.isConf = true then do
      let chnl ← f.loadChnl
      chnlLoop fs (CChnlMgr.addChnl chnls chnl)
    else chnlLoop fs chnls

def CChnlMgr.load (dir : List ConfFile) : Except LoadFault (List BootChnl) := chnlLoop dir []

def CChnlMgr.enable (chnls : List BootChnl) (bootmode : List UInt8) (enable : Bool) :
    List BootChnl :=
  match chnls.findIdx? fun chnl => strcaseeq chnl.bootMode bootmode with
  | none => chnls
  | some i => chnls.modify i fun chnl => { chnl with enable := enable }

/-- The `strcpy` into `m_name` of the threads: the way back has two bytes more than its row. -/
def fitNames (tds : List (ChnlThread PortId)) : Except LoadFault (List (ChnlThread PortId)) :=
  if ∀ td ∈ tds, td.name.length < 128 then .ok tds else .error .overflow

def CChnlMgr.run (devs : List (CDev PortId)) (chnls : List BootChnl) (bootmode : List UInt8) :
    Except LoadFault (List (ChnlThread PortId)) :=
  match chnlFind chnls bootmode with
  | none => .ok []
  | some chnl => fitNames (chnl.toCChnl.run devs [])

/-- What `main` has set up when it comes to its endless loop. -/
structure SetUp where
  devs : List (CDev PortId)
  chnls : List BootChnl
  threads : List (ChnlThread PortId)

/-- `main`; `none` where it returns -1, since a directory cannot be opened. -/
def startUp (devDir chnlDir : Option (List ConfFile)) (bootmode : List UInt8) :
    Except LoadFault (Option SetUp) :=
  match devDir with
  | none => .ok none
  | some devDir => do
    let devs ← CDevMgr.load devDir
    match chnlDir with
    | none => return none
    | some chnlDir =>
      let chnls ← CChnlMgr.load chnlDir
      let chnls := CChnlMgr.enable chnls bootmode true
      let devs := CDevMgr.activeMode devs bootmode
      let threads ← CChnlMgr.run devs chnls bootmode
      return some ⟨devs, chnls, threads⟩

end EngPc
