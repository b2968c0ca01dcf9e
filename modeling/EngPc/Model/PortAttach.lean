import EngPc.Lib.Reach
import EngPc.Lib.SaveRestore
import EngPc.Model.PortRead

/-!
# The attached object of a port

`CPort::attach` as `CTrans::trans` and `CTrans::write` use it around a read or a write of a port:
`m_lpTrans` is set to the caller's object and put back after the call. `internal_read` asks the
attached object for `checkframe`. One thread reads the port, any thread of type `θ` writes to it,
and each of these statements is a step; the mutexes of `read` and `write` are two different ones.
-/

namespace EngPc
open Reach

/-- What does not change: the reading thread, the `CTrans` of each thread (of type `τ`), the
`m_apProcess` of each `CTrans` and the type of the port. -/
structure SharedPort (θ τ : Type) where
  reader : θ
  own : θ → τ
  apProcess : τ → Int
  portType : PortType

/-- Where a thread stands in a call on the port. -/
inductive CallStage
  | idle
  | attached
  | waiting (st : RdState)
  | selected (st : RdState)
  | received (st : RdState) (bytes : List UInt8)
  | returned (r : Option RdResult)
  | writing
  | written

/-- `judged` are the objects whose `checkframe` has been called, the last one first; the code does
not keep them. -/
structure AttachState (θ τ : Type) where
  lpTrans : Slot θ τ
  stage : θ → CallStage
  judged : List τ

variable {θ τ : Type}

def AttachState.init (c : τ) : AttachState θ τ := ⟨.free c, fun _ => .idle, []⟩

/-- A statement of `internal_read`: it enters its loop or returns at once, `select` ends without the
port, `select` finds the port readable, `::read` returns, `checkframe` is called. -/
inductive ReadStep
  | enter (ok : Bool)
  | wait (e : RdEvent)
  | select
  | read (e : RdEvent)
  | checkframe
  deriving DecidableEq

/-- The reading thread attaches, goes on inside `read`, puts the old object back; a writing thread
attaches, writes, puts the old object back. -/
inductive AttachEvent (θ : Type)
  | attachRd
  | inRead (r : ReadStep)
  | restoreRd
  | attachWr (t : θ)
  | write (t : θ)
  | restoreWr (t : θ)

/-- What `::read` can return on the port's own descriptor. -/
def RdEvent.fromPort : RdEvent → Bool
  | .data _ | .busy | .failed _ => true
  | .selectError | .selectTimeout | .notify _ => false

/-- The stage after a round of the loop. -/
def CallStage.ofRound : RdState ⊕ RdResult → CallStage
  | .inl st => .waiting st
  | .inr r => .returned (some r)

/-- A round of the loop of `internal_read`, judged by the object `x`. -/
def SharedPort.round (P : SharedPort θ τ) (x : τ) (st : RdState) (e : RdEvent) : CallStage :=
  .ofRound (rdStep (P.apProcess x) P.portType maxChnlBuff st e)

/-- `internal_read` while `x` is attached. -/
def SharedPort.readNext (P : SharedPort θ τ) (x : τ) : CallStage → ReadStep → Option CallStage
  | .attached, .enter true => some (.waiting (rdStart P.portType maxChnlBuff fun _ => 0))
  | .attached, .enter false => some (.returned none)
  | .waiting st, .wait e => if e.fromPort then none else some (P.round x st e)
  | .waiting st, .select => some (.selected st)
  | .selected st, .read (.data bytes) => some (.received st bytes)
  | .selected st, .read e => if e.fromPort then some (P.round x st e) else none
  | .received st bytes, .checkframe => some (P.round x st (.data bytes))
  | _, _ => none

section Next

variable [DecidableEq θ]

def AttachState.go (s : AttachState θ τ) (t : θ) (stage : CallStage) : AttachState θ τ :=
  { s with stage := Function.update s.stage t stage }

/-- `ptr = attach(this)`. -/
def AttachState.attach (s : AttachState θ τ) (P : SharedPort θ τ) (t : θ) (stage : CallStage) :
    AttachState θ τ :=
  { s.go t stage with lpTrans := s.lpTrans.take t (P.own t) }

/-- `attach(ptr)`. -/
def AttachState.restore (s : AttachState θ τ) (t : θ) : Option (AttachState θ τ) :=
  (s.lpTrans.kept t).map fun ptr => { s.go t .idle with lpTrans := s.lpTrans.restore t ptr }

/-- The reading thread goes on; a call of `checkframe` is noted. -/
def AttachState.read (s : AttachState θ τ) (P : SharedPort θ τ) (r : ReadStep) (stage : CallStage) :
    AttachState θ τ :=
  { s.go P.reader stage with
    judged := if r = .checkframe then s.lpTrans.value :: s.judged else s.judged }

def attachNext (P : SharedPort θ τ) (s : AttachState θ τ) :
    AttachEvent θ → Option (AttachState θ τ)
  | .attachRd =>
    match s.stage P.reader with
    | .idle => some (s.attach P P.reader .attached)
    | _ => none
  | .inRead r => (P.readNext s.lpTrans.value (s.stage P.reader) r).map (s.read P r)
  | .restoreRd =>
    match s.stage P.reader with
    | .returned _ => s.restore P.reader
    | _ => none
  | .attachWr t =>
    match s.stage t with
    | .idle => some (s.attach P t .writing)
    | _ => none
  | .write t =>
    match s.stage t with
    | .writing => some (s.go t .written)
    | _ => none
  | .restoreWr t =>
    match s.stage t with
    | .written => s.restore t
    | _ => none

end Next

/-- The condition on the state before a step: the thread that puts the old object back is the last
one to have attached, and so is the reading thread when it calls `checkframe`. -/
def InnermostCall (P : SharedPort θ τ) (s : AttachState θ τ) : AttachEvent θ → Prop
  | .inRead .checkframe | .restoreRd => s.lpTrans.nested.head? = some P.reader
  | .restoreWr t => s.lpTrans.nested.head? = some t
  | _ => True

instance decidableInnermostCall [DecidableEq θ] (P : SharedPort θ τ) (s : AttachState θ τ) :
    (ev : AttachEvent θ) → Decidable (InnermostCall P s ev)
  | .inRead .checkframe | .restoreRd | .restoreWr _ => inferInstanceAs (Decidable (_ = _))
  | .inRead (.enter _) | .inRead (.wait _) | .inRead .select | .inRead (.read _) | .attachRd
  | .attachWr _ | .write _ => inferInstanceAs (Decidable True)

end EngPc
