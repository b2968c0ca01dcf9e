import EngPc.Model.ChnlGraph

/-!
# The life of a channel thread

`CChnlThread::run` starts a thread that executes `threadMain`; each statement of `threadMain` that
others can see is a step of its own. `restartWithDev` and `enableChnl` read `m_isRunning` in one
step and call `run` in another. A thread is known by its place in the order in which they were
started, and so is the `CTrans` that it makes.
-/

namespace EngPc
open Reach

variable {π κ : Type}

/-- What a thread has done last: it has been started, has made its `CTrans`, raised `m_isRunning`,
set `m_lpTrans`, entered `trans`, left it, lowered `m_isRunning`, deleted its `CTrans`, and cleared
`m_lpTrans`. -/
inductive WorkerStage
  | created | made | flagged | published | looping | ended | unflagged | deleted | finished
  deriving DecidableEq, Repr

structure Worker (π : Type) where
  stage : WorkerStage
  /-- `m_lpPortDst` of its `CTrans`, from `init` on. -/
  portDst : Option π
  deriving DecidableEq, Repr

/-- One `CChnlThread`, its threads, and the control threads of type `κ` that have read
`m_isRunning` and found it lowered. -/
structure LifeState (π κ : Type) where
  enable : Int
  dataType : DataType
  isRunning : Bool
  lpTrans : Option Nat
  portDst : π
  workers : List (Worker π)
  foundStopped : κ → Bool

def LifeState.init (enable : Int) (dataType : DataType) (portDst : π) : LifeState π κ where
  enable := enable
  dataType := dataType
  isRunning := false
  lpTrans := none
  portDst := portDst
  workers := []
  foundStopped _ := false

/-- `run` is called; a control thread reads `m_isRunning`, or calls `run` after that; a thread takes
its next step, or its loop ends; another channel calls `activeDstPort`. -/
inductive LifeEvent (π κ : Type)
  | run
  | check (c : κ)
  | runStopped (c : κ)
  | work (i : Nat)
  | endLoop (i : Nat)
  | activeDstPort (port : π)

/-- `CChnlThread::run`. -/
def LifeState.run (s : LifeState π κ) : LifeState π κ :=
  if s.enable = 0 then s else { s with workers := s.workers ++ [⟨.created, none⟩] }

def LifeState.go (s : LifeState π κ) (i : Nat) (stage : WorkerStage) : LifeState π κ :=
  { s with workers := s.workers.modify i fun w => { w with stage } }

/-- The next step of a thread outside of its loop. -/
def threadMain (s : LifeState π κ) (i : Nat) : WorkerStage → Option (LifeState π κ)
  | .created => some (s.go i (if hasTrans s.dataType = true then .made else .finished))
  | .made => some { s.go i .flagged with isRunning := true }
  | .flagged => some { s.go i .published with lpTrans := some i }
  | .published =>
    some { s with workers := s.workers.modify i fun _ => ⟨.looping, some s.portDst⟩ }
  | .looping => none
  | .ended => some { s.go i .unflagged with isRunning := false }
  | .unflagged => some (s.go i .deleted)
  | .deleted => some { s.go i .finished with lpTrans := none }
  | .finished => none

def LifeState.activeDstPort (s : LifeState π κ) (port : π) : LifeState π κ :=
  match s.lpTrans with
  | none => { s with portDst := port }
  | some i =>
    { s with
      portDst := port
      workers := s.workers.modify i fun w => { w with portDst := some port } }

def LifeState.stageOf (s : LifeState π κ) (i : Nat) : Option WorkerStage :=
  s.workers[i]?.map Worker.stage

section Next

variable [DecidableEq κ]

def lifeNext (s : LifeState π κ) : LifeEvent π κ → Option (LifeState π κ)
  | .run => some s.run
  | .check c =>
    some { s with foundStopped := Function.update s.foundStopped c (!s.isRunning) }
  | .runStopped c =>
    if s.foundStopped c = true then
      some { s.run with foundStopped := Function.update s.foundStopped c false }
    else none
  | .work i => (s.stageOf i).bind (threadMain s i)
  | .endLoop i => if s.stageOf i = some .looping then some (s.go i .ended) else none
  | .activeDstPort port => some (s.activeDstPort port)

end Next

/-- The thread is between its setting of `m_lpTrans` and the end of its loop. -/
def LifeState.Serving (s : LifeState π κ) (i : Nat) : Prop :=
  s.stageOf i = some .published ∨ s.stageOf i = some .looping

/-- The condition on the state before a step: a thread sets or clears `m_lpTrans` only while no
other is between its setting of it and the end of its loop. -/
def Exclusive (s : LifeState π κ) : LifeEvent π κ → Prop
  | .work i => s.stageOf i = some .flagged ∨ s.stageOf i = some .deleted →
    ∀ j < s.workers.length, j ≠ i → ¬s.Serving j
  | _ => True

instance (s : LifeState π κ) (i : Nat) : Decidable (s.Serving i) :=
  inferInstanceAs (Decidable (_ ∨ _))

instance decidableExclusive (s : LifeState π κ) :
    (ev : LifeEvent π κ) → Decidable (Exclusive s ev)
  | .work _ => inferInstanceAs (Decidable (_ → _))
  | .run | .check _ | .runStopped _ | .endLoop _ | .activeDstPort _ =>
    inferInstanceAs (Decidable True)

end EngPc
