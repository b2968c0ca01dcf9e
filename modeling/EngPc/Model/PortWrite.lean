import EngPc.Lib.Buffer
import EngPc.Model.PortReopen

/-!
# Writing to a port

`CPort::internal_write` of server/chnl/CPort.cpp. A write waits in `select`; what it meets there is a
list of events, and a write that has used up the events is still waiting.
-/

namespace EngPc

/-- What one round of the loop of `internal_write` meets: `select` fails, times out, or returns
without the descriptor; `::write` takes `count` bytes, fails with EBUSY, or fails otherwise, and
`reopen` gets `results` from `::open`. -/
inductive WrEvent
  | selectError
  | selectTimeout
  | notSet
  | wrote (count : Nat)
  | busy
  | failed (results : Nat → Int)

/-- The port, and the locals that live from one round to the next; `nLen` is what is left. -/
structure WrState where
  port : PortFd
  offset : Nat
  nLen : Int
  bsplite : Bool
  deriving DecidableEq, Repr

/-- A call of `::write`, with the number of bytes that the device takes. -/
structure WrCall where
  offset : Nat
  len : Int
  taken : Nat
  deriving DecidableEq, Repr

/-- The calls so far; `ret` is `none` while the write waits. -/
structure WrOut where
  calls : List WrCall
  ret : Option Int
  port : PortFd
  deriving DecidableEq, Repr

/-- The ports that are written with a time-out, and never in multiples of 64 bytes. -/
def PortType.isSerial : PortType → Bool
  | .gser | .vser | .com => true
  | _ => false

def wrStart (port : PortFd) (nLen : Int) : WrState :=
  ⟨port, 0, nLen, nLen % 64 = 0 ∧ port.portType.isSerial = true⟩

namespace WrState

/-- The length that is passed to `::write`. -/
def len (s : WrState) : Int := if s.bsplite then s.nLen - 32 else s.nLen

def call (s : WrState) : WrEvent → Option WrCall
  | .wrote count => some ⟨s.offset, s.len, count⟩
  | .busy | .failed _ => some ⟨s.offset, s.len, 0⟩
  | .selectError | .selectTimeout | .notSet => none

/-- The end of a round: `while (nLen > 0)`. -/
def again (s : WrState) : WrState ⊕ Int × PortFd :=
  if 0 < s.nLen then .inl s else .inr (s.offset, s.port)

/-- One round of the loop: it goes on with a new state, or ends with the returned number. -/
def step (s : WrState) : WrEvent → WrState ⊕ Int × PortFd
  | .selectError => s.again
  | .selectTimeout => .inr (0, s.port)
  | .notSet => s.again
  | .wrote count => again ⟨s.port, s.offset + count, s.nLen - count, false⟩
  | .busy => s.again
  | .failed results =>
    let r := portReopen s.port maxPortOpenTimeout.toNat results
    if r.ret = 0 then again { s with port := r.port } else .inr (s.offset, r.port)

end WrState

def wrLoop : WrState → List WrEvent → WrOut
  | s, [] => ⟨[], none, s.port⟩
  | s, e :: es =>
    match s.step e with
    | .inl s' =>
      let o := wrLoop s' es
      { o with calls := (s.call e).toList ++ o.calls }
    | .inr r => ⟨(s.call e).toList, some r.1, r.2⟩

def internalWrite (port : PortFd) (nLen : Int) (events : List WrEvent) : WrOut :=
  if port.fd < 0 then ⟨[], some (-1), port⟩
  else if port.portType = .loop then ⟨[], some nLen, port⟩
  else wrLoop (wrStart port nLen) events

/-- The bytes that the device takes, in the order of the calls. -/
def WrOut.accepted (o : WrOut) (buff : Buffer UInt8) : List UInt8 :=
  o.calls.flatMap fun c => buff.load c.offset c.taken

namespace WrState

/-- A write takes no more than it is given, and only a wait with a time-out times out. -/
def grants (s : WrState) : WrEvent → Prop
  | .wrote count => count ≤ s.len
  | .selectTimeout => s.port.portType.isSerial = true
  | _ => True

instance (s : WrState) : (e : WrEvent) → Decidable (s.grants e)
  | .wrote count => inferInstanceAs (Decidable (count ≤ s.len))
  | .selectTimeout => inferInstanceAs (Decidable (s.port.portType.isSerial = true))
  | .selectError | .notSet | .busy | .failed _ => isTrue trivial

/-- Every round of the loop has a property. -/
def Along (p : WrState → WrEvent → Prop) : WrState → List WrEvent → Prop
  | _, [] => True
  | s, e :: es => p s e ∧
    match s.step e with
    | .inl s' => Along p s' es
    | .inr _ => True

instance decidableAlong (p : WrState → WrEvent → Prop) [∀ s e, Decidable (p s e)] :
    (s : WrState) → (es : List WrEvent) → Decidable (s.Along p es)
  | _, [] => isTrue trivial
  | s, e :: es =>
    have : Decidable (match s.step e with
        | .inl s' => s'.Along p es
        | .inr _ => True) :=
      match s.step e with
      | .inl s' => decidableAlong p s' es
      | .inr _ => isTrue trivial
    inferInstanceAs (Decidable (_ ∧ _))

end WrState

end EngPc
