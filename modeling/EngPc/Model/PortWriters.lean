import EngPc.Lib.Reach
import EngPc.Model.PortWrite
import Mathlib.Logic.Function.Basic

/-!
# Writers of one port

Channel threads, the time sync thread and modules write to the same port. `CPort::write` tests
`m_bEnableWR`, takes a mutex of the port and calls `internal_write`. Each of these is a step, and so
is each round of the loop; other threads may open, close and reopen the port between two rounds.
-/

namespace EngPc
open Function

/-- Where a writer stands: outside of `write`, before the mutex, in the loop. -/
inductive WriterStage
  | idle
  | waiting (block : List UInt8)
  | writing (block : List UInt8) (st : WrState)
  deriving DecidableEq, Repr

/-- A call of `write` that has returned, with the number of bytes that the device has taken. -/
structure WriteDone (κ : Type) where
  writer : κ
  block : List UInt8
  taken : Nat
  ret : Int
  deriving DecidableEq, Repr

/-- `stream` is what the device has taken; `asked`, the blocks that a writer has come to the mutex
with, and `done` are not kept by the code. -/
structure WritersState (κ : Type) where
  port : PortFd
  enableWR : Bool
  lock : Option κ
  stage : κ → WriterStage
  stream : List UInt8
  asked : κ → List (List UInt8)
  done : List (WriteDone κ)

/-- `write` is called for a block; a writer gets the mutex; the writer that has it goes through a
round; another thread opens, closes or reopens the port; the port is enabled or disabled. -/
inductive WriterEvent (κ : Type)
  | call (w : κ) (block : List UInt8)
  | lock (w : κ)
  | round (e : WrEvent)
  | port (port : PortFd)
  | enable (enableWR : Bool)

/-- The bytes of the block that the device takes in a round. -/
def WrState.accepted (s : WrState) (block : List UInt8) (e : WrEvent) : List UInt8 :=
  (s.call e).toList.flatMap fun c => (block.drop c.offset).take c.taken

namespace WritersState

variable {κ : Type}

def init (port : PortFd) : WritersState κ where
  port := port
  enableWR := true
  lock := none
  stage _ := .idle
  stream := []
  asked _ := []
  done := []

variable [DecidableEq κ] (s : WritersState κ)

def go (w : κ) (stage : WriterStage) : WritersState κ := { s with stage := update s.stage w stage }

/-- `write` returns. -/
def finish (w : κ) (block : List UInt8) (taken : Nat) (ret : Int) : WritersState κ :=
  { s.go w .idle with lock := none, done := s.done ++ [⟨w, block, taken, ret⟩] }

/-- The start of `internal_write`, behind the mutex. -/
def enter (w : κ) (block : List UInt8) : WritersState κ :=
  if s.port.fd < 0 then s.finish w block 0 (-1)
  else if s.port.portType = .loop then s.finish w block 0 block.length
  else { s.go w (.writing block (wrStart s.port block.length)) with lock := some w }

/-- A round of `internal_write`. -/
def round (w : κ) (block : List UInt8) (st : WrState) (e : WrEvent) : WritersState κ :=
  let s' := { s with stream := s.stream ++ st.accepted block e }
  match st.step e with
  | .inl st' => { s'.go w (.writing block st') with port := st'.port }
  | .inr r => { s'.finish w block (st.offset + (st.accepted block e).length) r.1 with port := r.2 }

end WritersState

variable {κ : Type} [DecidableEq κ]

def writersNext (s : WritersState κ) : WriterEvent κ → Option (WritersState κ)
  | .call w block =>
    match s.stage w with
    | .idle =>
      if block = [] then none
      else if s.enableWR = false then some s
      else some { s.go w (.waiting block) with asked := update s.asked w (s.asked w ++ [block]) }
    | _ => none
  | .lock w =>
    match s.lock, s.stage w with
    | none, .waiting block => some (s.enter w block)
    | _, _ => none
  | .round e =>
    match s.lock.map fun w => (w, s.stage w) with
    | some (w, .writing block st) =>
      let st := { st with port := s.port }
      if st.grants e then some (s.round w block st e) else none
    | _ => none
  | .port port => if port.portType = s.port.portType then some { s with port } else none
  | .enable enableWR => some { s with enableWR }

end EngPc
