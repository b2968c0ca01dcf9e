import EngPc.Lib.Reach
import EngPc.Model.PortRead

/-!
# Notifications to the reader of a port

`CPort::stop` and `CPort::reopen` write messages to a pipe; the loop of `internal_read` finds the
pipe readable in `select`, reads up to 256 bytes from it and compares them as a whole. The steps of
the reader, of any number of `stop` calls and of other threads' `reopen` come in any order. The pipe
is a byte string; `asked` and `reads` are not kept by the code.
-/

namespace EngPc
open CString Reach

def msgNotifyUpdateFd : List UInt8 := ofString "MSG_UPDATE_FD"

/-- `MAX_MSG_LEN` -/
def maxMsgLen : Nat := 256

/-- Where the reader stands: its channel is not running; `trans` is at work outside of `read`; at the
head of the loop of `internal_read`; in `select`; `select` has reported the pipe; it has reported the
port alone. -/
inductive ReaderStage
  | ended
  | outside
  | looping (st : RdState)
  | waiting (st : RdState)
  | notified (st : RdState)
  | ready (st : RdState)

/-- The channel runs. -/
def ReaderStage.running : ReaderStage → Bool
  | .ended => false
  | _ => true

/-- The reader is inside `read`. -/
def ReaderStage.inRead : ReaderStage → Bool
  | .ended | .outside => false
  | _ => true

/-- A read that has returned: what it returned, whether because of the exit message, and the reads
that could still return something when it did, `none` without a request to stop. -/
structure ReadReturn where
  ret : Int
  byExit : Bool
  asked : Option Nat
  deriving DecidableEq

/-- `passed` counts the calls of `stop` between the test of `m_bSuspend` and the write. `asked` is set
by a request to stop a running channel: the number of reads that may still return something. -/
structure NotifyState where
  bSuspend : Bool
  pipe : List UInt8
  reader : ReaderStage
  passed : Nat
  asked : Option Nat
  reads : List ReadReturn

def NotifyState.init : NotifyState := ⟨false, [], .ended, 0, none, []⟩

/-- The channel is started; `read` is called, and enters its loop or returns at once; `m_bSuspend` is
set; `select` fails or ends with the pipe or the port; the pipe or the port is read; `stop` tests
`m_bSuspend`, and writes; another thread's `reopen` has succeeded. -/
inductive NotifyEvent
  | run
  | call
  | refuse (ret : Int)
  | suspend
  | selectError
  | select
  | readPipe
  | readPort (e : RdEvent)
  | stopTest
  | stopWrite
  | reopened

/-- `read` returns to `trans`, which ends its loop unless it got something. -/
def NotifyState.readReturns (s : NotifyState) (ret : Int) (byExit : Bool) : NotifyState :=
  let reads := ⟨ret, byExit, s.asked⟩ :: s.reads
  if ret ≤ 0 then { s with reader := .ended, asked := none, reads }
  else { s with reader := .outside, asked := s.asked.map (· - 1), reads }

/-- The end of a round of `internal_read`. -/
def NotifyState.endRound (s : NotifyState) (byExit : Bool) : RdState ⊕ RdResult → NotifyState
  | .inl st => { s with reader := .looping st }
  | .inr r => { s with bSuspend := false }.readReturns r.offset byExit

/-- A call of `stop` is over: the read under way, or else the next one, is to return 0. -/
def NotifyState.ask (s : NotifyState) : NotifyState :=
  if s.reader.running then
    let n := if s.reader.inRead then 1 else 0
    { s with asked := some (min n (s.asked.getD n)) }
  else s

def NotifyState.notify (s : NotifyState) (msg : List UInt8) : NotifyState :=
  { s with pipe := s.pipe ++ msg }

/-- `reopen` notifies when it succeeds, also the one that the reader itself calls. -/
def NotifyState.afterRead (s : NotifyState) : RdEvent → NotifyState
  | .failed true => s.notify msgNotifyUpdateFd
  | _ => s

def notifyNext (apProcess : Int) (t : PortType) (s : NotifyState) :
    NotifyEvent → Option NotifyState
  | .run =>
    match s.reader with
    | .ended => some { s with reader := .outside }
    | _ => none
  | .call =>
    match s.reader with
    | .outside => some { s with reader := .looping (rdStart t maxChnlBuff fun _ => 0) }
    | _ => none
  | .refuse ret =>
    match s.reader with
    | .outside => if ret ≤ 0 then some (s.readReturns ret false) else none
    | _ => none
  | .suspend =>
    match s.reader with
    | .looping st => some { s with bSuspend := true, reader := .waiting st }
    | _ => none
  | .selectError =>
    match s.reader with
    | .waiting st => some { s with reader := .looping st }
    | _ => none
  | .select =>
    match s.reader with
    | .waiting st => some { s with reader := if s.pipe = [] then .ready st else .notified st }
    | _ => none
  | .readPipe =>
    match s.reader with
    | .notified st =>
      some ({ s with pipe := s.pipe.drop maxMsgLen }.endRound true
        (rdStep apProcess t maxChnlBuff st (.notify (s.pipe.take maxMsgLen))))
    | _ => none
  | .readPort e =>
    match s.reader, e with
    | .ready st, .data _ | .ready st, .busy | .ready st, .failed _ =>
      some ((s.afterRead e).endRound false (rdStep apProcess t maxChnlBuff st e))
    | _, _ => none
  | .stopTest => if s.bSuspend then some { s with passed := s.passed + 1 } else some s.ask
  | .stopWrite =>
    if s.passed = 0 then none
    else some ({ s with passed := s.passed - 1 }.notify msgNotifyExit).ask
  | .reopened => some (s.notify msgNotifyUpdateFd)

/-- The condition on the state before a step. `stop` meets a reader in its loop, or a request that
stands already; the exit message is written to an empty pipe; nothing is written behind it; a read
is not refused for want of the port while it stands; and the channel is started again when neither
the pipe nor a call of `stop` holds one. -/
def RequestAlone (s : NotifyState) : NotifyEvent → Prop
  | .stopTest => s.reader.running = true → s.bSuspend = true ∨ s.pipe = msgNotifyExit
  | .stopWrite => s.pipe = []
  | .reopened | .readPort (.failed true) => s.pipe ≠ msgNotifyExit
  | .refuse ret => ret ≠ 0 → s.pipe ≠ msgNotifyExit
  | .run => s.pipe ≠ msgNotifyExit ∧ s.passed = 0
  | _ => True

instance decidableRequestAlone (s : NotifyState) : (ev : NotifyEvent) → Decidable (RequestAlone s ev)
  | .stopTest | .refuse _ => inferInstanceAs (Decidable (_ → _))
  | .stopWrite => inferInstanceAs (Decidable (_ = _))
  | .reopened | .readPort (.failed true) => inferInstanceAs (Decidable (_ ≠ _))
  | .run => inferInstanceAs (Decidable (_ ∧ _))
  | .readPort (.failed false) | .readPort (.data _) | .readPort .busy | .readPort .selectError
  | .readPort .selectTimeout | .readPort (.notify _) | .call | .suspend | .selectError | .select
  | .readPipe => inferInstanceAs (Decidable True)

end EngPc
