import EngPc.Model.ProtolSmp
import EngPc.Model.Trans

/-!
# The transfer loop for every kind of data

The loop of `CTrans::trans` calls virtual functions. `DataClass` holds them, `DataClass.step` is the
body of the loop, and `CDataDiag`, `CDataAT`, `CDataLog` and `CDataAgdsp` of server/trans are the
classes that `CChnlThread::threadMain` chooses from.
-/

namespace EngPc
open CString

/-- What `process` leaves. -/
structure Handled (σ : Type) where
  obj : σ
  mgr : MgrState
  ret : DymicRet
  retlen : Int
  rsp : Buffer UInt8

/-- The virtual functions of a class whose objects are `σ`, over modules with functions `φ`. -/
structure DataClass (φ σ : Type) where
  ctrans : σ → CTrans
  /-- What `checkframe` leaves in the object. -/
  judge : σ → Buffer UInt8 → Nat → σ
  setRetType : σ → DymicRet → σ
  decode : σ → Buffer UInt8 → Nat → σ × Buffer UInt8 × Nat
  process : Funcs φ → Dispatch → σ → MgrState → Buffer UInt8 → Buffer UInt8 → Nat →
    Except Fault (Handled σ)
  encode : σ → Buffer UInt8 → Int → σ × Buffer UInt8 × Int
  preWrite : σ → List (PortEnd × List UInt8)
  postWrite : σ → Buffer UInt8 → List (PortEnd × List UInt8)

/-- The locals `ret` and `retlen` of `trans`, beside the object. -/
structure LoopState (σ : Type) where
  obj : σ
  ret : DymicRet
  retlen : Int

namespace DataClass

variable {φ σ : Type} (C : DataClass φ σ)

/-- `decode` and `process`, where the channel processes requests at all. -/
def handle (F : Funcs φ) (dispatch : Dispatch) (m : MgrState) (t : LoopState σ) (r : Received) :
    Except Fault (Handled σ) :=
  let c := C.ctrans t.obj
  if (c.frameType = .complete ∨ c.frameType = .halfContinue) ∧ c.apProcess = 1 then
    let d := if c.dataType = .wcnAt then (t.obj, r.buff, r.len) else C.decode t.obj r.buff r.len
    C.process F dispatch d.1 m d.2.1 (fun _ => 0) d.2.2
  else .ok ⟨t.obj, m, t.ret, t.retlen, fun _ => 0⟩

def writeOut (o : σ) (port : PortEnd) (buff : Buffer UInt8) (len : Nat) :
    List (PortEnd × List UInt8) :=
  C.preWrite o ++ (port, buff.load 0 len) :: C.postWrite o buff

def answer (o : σ) (ret : DymicRet) (rsp : Buffer UInt8) (retlen : Int) :
    σ × List (PortEnd × List UInt8) :=
  let e := if (C.ctrans o).dataType = .wcnAt then (o, rsp, retlen) else C.encode o rsp retlen
  (e.1, C.writeOut e.1 (if ret = .encodeToDest then .dst else .src) e.2.1 e.2.2.toNat)

def forward (o : σ) (dstType : PortType) (bk : Buffer UInt8) (rCnt : Nat) :
    List (PortEnd × List UInt8) :=
  if dstType = .loop then [] else C.writeOut o .dst bk rCnt

def writes (o : σ) (dstType : PortType) (ret : DymicRet) (rsp : Buffer UInt8) (retlen : Int)
    (bk : Buffer UInt8) (rCnt : Nat) : σ × List (PortEnd × List UInt8) :=
  match ret with
  | .noResponseToPc => (o, [])
  | .dealSuccess | .encodeToDest => C.answer o ret rsp retlen
  | .alsoNeedToCp =>
    let a := C.answer o ret rsp retlen
    (a.1, a.2 ++ C.forward a.1 dstType bk rCnt)
  | .noDeal => (o, C.forward o dstType bk rCnt)

/-- The body of the loop for what has been read. -/
def step (F : Funcs φ) (dispatch : Dispatch) (dstType : PortType) (m : MgrState) (t : LoopState σ)
    (r : Received) : Except Fault ((MgrState × LoopState σ) × List (PortEnd × List UInt8)) :=
  let bk : Buffer UInt8 := Buffer.fill (fun _ => 0) 0 (r.buff.load 0 r.len)
  match C.handle F dispatch m t r with
  | .error e => .error e
  | .ok p =>
    let w := C.writes (C.setRetType p.obj p.ret) dstType p.ret p.rsp p.retlen bk r.len
    .ok ((p.mgr, ⟨w.1, p.ret, p.retlen⟩), w.2)

/-- A round of the channel, in which the manager is as other channels have left it. -/
def round (cbs : List (EngCallback φ)) (n : Nat) (t : LoopState σ) (q : Round φ) :
    Except Fault (LoopState σ × List (PortEnd × List UInt8)) :=
  (C.step q.funcs (dispatchAt cbs q.funcs n) q.dstType q.mgr
    { t with obj := C.judge t.obj q.read.buff q.read.len } q.read).map fun x => (x.1.2, x.2)

end DataClass

section Classes

variable {φ : Type} (cbs : List (EngCallback φ))

def CDataDiag.dataClass : DataClass φ CProtolDiag where
  ctrans o := o.toCTrans
  judge := CProtolDiag.judge
  setRetType o ret := { o with retType := ret }
  decode o buff len :=
    let d := o.decode buff len
    (d.obj, d.buff, d.len)
  process F dispatch o m req rsp len :=
    (CDataDiag.process cbs F dispatch m o req rsp len).map fun p =>
      ⟨p.obj, p.mgr, p.ret, p.retlen, p.rsp⟩
  encode o buff len := (o, o.encode buff len)
  preWrite := CDataDiag.preWrite
  postWrite := CDataDiag.postWrite

/-- `CProtolAT::process`: a handler that answers with a text may still return 0. -/
def CProtolAT.process (rsp : List UInt8) (retlen : Int) : Int :=
  if retlen = 0 ∧ 0 < rsp.length then rsp.length else retlen

def CDataAT.process (F : Funcs φ) (dispatch : Dispatch) (o : CTrans) (m : MgrState)
    (req rsp : Buffer UInt8) (reqlen : Nat) : Except Fault (Handled CTrans) :=
  match mgrProcess cbs F dispatch o.dataType m req rsp reqlen with
  | .error e => .error e
  | .ok s =>
    let retlen := CProtolAT.process (rspText s.rsp) s.rlen
    let ret := CTrans.process retlen
    let ret := if ret = .dealSuccess ∧ s.cpProcess = true then .alsoNeedToCp else ret
    .ok ⟨o, s.mgr, ret, retlen, s.rsp⟩

/-- `decode` and `encode` return the length of the text. -/
def CDataAT.dataClass : DataClass φ CTrans where
  ctrans o := o
  judge o _ _ := o
  setRetType o ret := { o with retType := ret }
  decode o buff _ := (o, buff, (rspText buff).length)
  process := CDataAT.process cbs
  encode o buff _ := (o, buff, (rspText buff).length)
  preWrite _ := []
  postWrite _ _ := []

def CDataLog.process (F : Funcs φ) (dispatch : Dispatch) (o : CTrans) (m : MgrState)
    (req rsp : Buffer UInt8) (reqlen : Nat) : Except Fault (Handled CTrans) :=
  match mgrProcess cbs F dispatch o.dataType m req rsp reqlen with
  | .error e => .error e
  | .ok s =>
    let ret := CTrans.process s.rlen
    let ret := if ret = .dealSuccess ∧ s.cpProcess = true then .alsoNeedToCp else ret
    .ok ⟨o, s.mgr, ret, s.rlen, s.rsp⟩

def CDataLog.dataClass : DataClass φ CTrans where
  ctrans o := o
  judge o _ _ := o
  setRetType o ret := { o with retType := ret }
  decode o buff len := (o, buff, len)
  process := CDataLog.process cbs
  encode o buff len := (o, buff, len)
  preWrite _ := []
  postWrite _ _ := []

def CDataAgdsp.dataClass : DataClass φ CProtolSmp where
  ctrans o := o.toCTrans
  judge o _ _ := o
  setRetType o ret := { o with retType := ret }
  decode o buff len := (o, buff, len)
  process _ _ o m req rsp len :=
    let p := CDataAgdsp.process req rsp len
    .ok ⟨o, m, p.2.2, p.2.1, p.1⟩
  encode o buff len :=
    let e := o.encode buff len.toNat
    (e.obj, e.buff, e.len)
  preWrite _ := []
  postWrite _ _ := []

end Classes

/-- A new object after `CTrans::init`. -/
def CTrans.init (dataType : DataType) (apProcess : Int) : CTrans :=
  ⟨dataType, apProcess, .noDeal, .complete⟩

/-- Only `CProtolDiag` overrides `checkframe`: to the others every read is a frame. -/
def DataType.checkProcess (dataType : DataType) (apProcess : Int) : Int :=
  match dataType with
  | .diag | .wcnDiag => apProcess
  | _ => 0

/-- An object of one of the classes. -/
structure TransObject (φ : Type) where
  σ : Type
  dataClass : DataClass φ σ
  obj : σ

/-- The object that `threadMain` makes for the data type. -/
def CChnlThread.newTrans {φ : Type} (cbs : List (EngCallback φ)) (dataType : DataType)
    (apProcess : Int) : Option (TransObject φ) :=
  match dataType with
  | .diag | .wcnDiag => some ⟨_, CDataDiag.dataClass cbs, .init dataType apProcess⟩
  | .at | .wcnAt => some ⟨_, CDataAT.dataClass cbs, .init dataType apProcess⟩
  | .log => some ⟨_, CDataLog.dataClass cbs, .init dataType apProcess⟩
  | .agdspLog | .agdspPcm | .agdspMem =>
    some ⟨_, CDataAgdsp.dataClass, .init dataType apProcess⟩
  | .agdspMix | .unknown => none

/-- The state in which the loop of `trans` begins. -/
def TransObject.start {φ : Type} (o : TransObject φ) : LoopState o.σ := ⟨o.obj, .noDeal, 0⟩

end EngPc
