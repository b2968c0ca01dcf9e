import EngPc.Lib.Reach
import EngPc.Model.Types
import Mathlib.Data.Fintype.Defs
import Mathlib.Data.Finset.Card
import Mathlib.Logic.Function.Basic

/-!
# Opening and closing ports

`CPort::open`, `CPort::close` and `CPort::reopen`, and the order in which the loops of
`CTrans::trans` call them. `open` and `close` hold the mutex of the port, so each is one step;
`reopen` takes it only for the calls it makes, so each of its statements is a step of its own.
-/

namespace EngPc
open Reach Function

/-- What a `CPort` knows of its descriptor; `fd` is negative when it has none. -/
structure PortFd where
  portType : PortType
  enableRD : Bool
  fd : Int
  nClient : Int
  deriving DecidableEq, Repr

def PortFd.init (portType : PortType) : PortFd := ⟨portType, true, -1, 0⟩

/-- `CPort::open`, true for the answer 0; `result` is what the last `::open` returns. -/
def portOpen (port : PortFd) (result : Int) : Bool × PortFd :=
  if port.enableRD = false then (false, port)
  else if port.portType = .loop ∨ port.portType = .interface then (true, port)
  else if port.portType = .unknown then (false, port)
  else if 0 ≤ port.fd then (true, { port with nClient := port.nClient + 1 })
  else if port.portType = .sock then (true, port)
  else if result < 0 then (false, { port with fd := result })
  else (true, { port with fd := result, nClient := 1 })

def portClose (port : PortFd) : PortFd :=
  if 0 ≤ port.fd then
    if port.nClient - 1 ≤ 0 then { port with fd := -1, nClient := 0 }
    else { port with nClient := port.nClient - 1 }
  else port

/-- The ports for which `open` calls `::open`. -/
def PortType.isDevice : PortType → Bool
  | .vser | .gser | .com | .chr => true
  | _ => false

/-- Where a thread is in `trans`. In `reopen` of `port` it has saved `nCount` and goes on to
overwrite the counter, to close, to try to open for `second` more times, or to restore. -/
inductive TransStage (π : Type)
  | idle
  | openSrc
  | openDst
  | loop
  | reopenSet (port : π) (nCount : Int)
  | reopenClose (port : π) (nCount : Int)
  | reopenOpen (port : π) (nCount second : Int)
  | reopenRestore (port : π) (nCount : Int)
  | closeSrc
  | closeDst
  deriving DecidableEq, Repr

/-- The port that a thread is reopening. -/
def TransStage.reopens {π : Type} : TransStage π → Option π
  | .reopenSet port _ | .reopenClose port _ | .reopenOpen port _ _ | .reopenRestore port _ =>
    some port
  | _ => none

structure TransThread (π : Type) where
  portSrc : π
  portDst : π
  stage : TransStage π
  deriving DecidableEq, Repr

/-- All ports and threads. `holders` is not in the source: the threads that opened the port
successfully and have not closed it. -/
structure PortsState (π τ : Type) where
  ports : π → PortFd
  threads : τ → TransThread π
  holders : π → Finset τ

variable {π τ : Type}

def PortsState.init (types : π → PortType) (src dst : τ → π) : PortsState π τ where
  ports p := PortFd.init (types p)
  threads t := ⟨src t, dst t, .idle⟩
  holders _ := ∅

/-- A step of one thread, with what `::open` returns in it, an error in its reads or writes, or the
end of its loop; another thread redirecting it; a change of `m_bEnableRD`. -/
inductive PortEvent (π τ : Type)
  | start (t : τ)
  | step (t : τ) (result : Int)
  | fault (t : τ) (port : π)
  | endLoop (t : τ)
  | redirect (t : τ) (port : π)
  | enable (port : π) (enableRD : Bool)

section Next

variable [DecidableEq π] [DecidableEq τ]

def PortsState.go (s : PortsState π τ) (t : τ) (stage : TransStage π) : PortsState π τ :=
  { s with threads := update s.threads t { s.threads t with stage } }

/-- Thread `t` goes on to `stage`, having changed one port and its holders. -/
def PortsState.act (s : PortsState π τ) (t : τ) (stage : TransStage π) (p : π) (port : PortFd)
    (holders : Finset τ) : PortsState π τ :=
  { s.go t stage with ports := update s.ports p port, holders := update s.holders p holders }

/-- `trans` opens a port and goes on to `yes` or to `no`. -/
def PortsState.openPort (s : PortsState π τ) (t : τ) (p : π) (result : Int)
    (yes no : TransStage π) : PortsState π τ :=
  match portOpen (s.ports p) result with
  | (true, port) => s.act t yes p port (insert t (s.holders p))
  | (false, port) => s.act t no p port (s.holders p)

def PortsState.closePort (s : PortsState π τ) (t : τ) (p : π) (next : TransStage π) :
    PortsState π τ :=
  s.act t next p (portClose (s.ports p)) ((s.holders p).erase t)

/-- The next statement of a thread in `trans`. A failed destination does not end it; the loop ends
with the closing of the source and of what is the destination by then. -/
def transNext (s : PortsState π τ) (t : τ) (result : Int) : Option (PortsState π τ) :=
  let td := s.threads t
  match td.stage with
  | .idle | .loop => none
  | .openSrc => some (s.openPort t td.portSrc result .openDst .idle)
  | .openDst => some (s.openPort t td.portDst result .loop .loop)
  | .reopenSet p nCount =>
    some (s.act t (.reopenClose p nCount) p { s.ports p with nClient := 1 } (s.holders p))
  | .reopenClose p nCount =>
    some (s.act t (.reopenOpen p nCount maxPortOpenTimeout) p (portClose (s.ports p)) (s.holders p))
  | .reopenOpen p nCount second =>
    if 0 < second then
      match portOpen (s.ports p) result with
      | (true, port) => some (s.act t (.reopenRestore p nCount) p port (s.holders p))
      | (false, port) => some (s.act t (.reopenOpen p nCount (second - 1)) p port (s.holders p))
    else some (s.go t (.reopenRestore p nCount))
  | .reopenRestore p nCount =>
    some (s.act t .loop p { s.ports p with nClient := nCount } (s.holders p))
  | .closeSrc => some (s.closePort t td.portSrc .closeDst)
  | .closeDst => some (s.closePort t td.portDst .idle)

def portNext (s : PortsState π τ) : PortEvent π τ → Option (PortsState π τ)
  | .start t => if (s.threads t).stage = .idle then some (s.go t .openSrc) else none
  | .step t result => transNext s t result
  | .fault t p =>
    if (s.threads t).stage = .loop ∧ (p = (s.threads t).portSrc ∨ p = (s.threads t).portDst) then
      some (s.go t (.reopenSet p (s.ports p).nClient))
    else none
  | .endLoop t => if (s.threads t).stage = .loop then some (s.go t .closeSrc) else none
  | .redirect t p =>
    some { s with threads := update s.threads t { s.threads t with portDst := p } }
  | .enable p enableRD =>
    some { s with ports := update s.ports p { s.ports p with enableRD } }

end Next

/-- No thread is reopening the port. -/
def PortsState.Resting (s : PortsState π τ) (p : π) : Prop :=
  ∀ t, (s.threads t).stage.reopens ≠ some p

/-- The thread may open the port: it does not have it open. -/
def PortsState.MayOpen (s : PortsState π τ) (t : τ) (p : π) : Prop :=
  s.Resting p ∧ ((s.ports p).portType.isDevice = true → t ∉ s.holders p)

/-- The thread may close the port: it has it open, or nobody has. -/
def PortsState.MayClose (s : PortsState π τ) (t : τ) (p : π) : Prop :=
  s.Resting p ∧ ((s.ports p).portType.isDevice = true → t ∈ s.holders p ∨ s.holders p = ∅)

/-- What is asked of a thread that goes on from a stage. When `reopen` ends, the port has been
opened, or nobody holds it. -/
def PortsState.OrderlyAt (s : PortsState π τ) (t : τ) : TransStage π → Prop
  | .openSrc => s.MayOpen t (s.threads t).portSrc
  | .openDst => s.MayOpen t (s.threads t).portDst
  | .closeSrc => s.MayClose t (s.threads t).portSrc
  | .closeDst => s.MayClose t (s.threads t).portDst
  | .reopenRestore p _ =>
    (s.ports p).portType.isDevice = true → 0 ≤ (s.ports p).fd ∨ s.holders p = ∅
  | _ => True

/-- The condition on the state before a step: a port is not touched by others while it is reopened;
who opens it does not hold it, who closes it does; and a port that is held has been opened when
its reopening ends. -/
def Orderly (s : PortsState π τ) : PortEvent π τ → Prop
  | .step t _ => s.OrderlyAt t (s.threads t).stage
  | .fault _ p => s.Resting p
  | _ => True

section Decide

variable [DecidableEq π] [DecidableEq τ] [Fintype τ]

instance (s : PortsState π τ) (p : π) : Decidable (s.Resting p) :=
  inferInstanceAs (Decidable (∀ _, _))

instance (s : PortsState π τ) (t : τ) (p : π) : Decidable (s.MayOpen t p) :=
  inferInstanceAs (Decidable (_ ∧ _))

instance (s : PortsState π τ) (t : τ) (p : π) : Decidable (s.MayClose t p) :=
  inferInstanceAs (Decidable (_ ∧ _))

instance decidableOrderlyAt (s : PortsState π τ) (t : τ) :
    (stage : TransStage π) → Decidable (s.OrderlyAt t stage)
  | .openSrc | .openDst => inferInstanceAs (Decidable (s.MayOpen _ _))
  | .closeSrc | .closeDst => inferInstanceAs (Decidable (s.MayClose _ _))
  | .reopenRestore _ _ => inferInstanceAs (Decidable (_ → _))
  | .idle | .loop | .reopenSet _ _ | .reopenClose _ _ | .reopenOpen _ _ _ =>
    inferInstanceAs (Decidable True)

instance decidableOrderly (s : PortsState π τ) :
    (ev : PortEvent π τ) → Decidable (Orderly s ev)
  | .step t _ => inferInstanceAs (Decidable (s.OrderlyAt t (s.threads t).stage))
  | .fault _ p => inferInstanceAs (Decidable (s.Resting p))
  | .start _ | .endLoop _ | .redirect _ _ | .enable _ _ => inferInstanceAs (Decidable True)

end Decide

end EngPc
