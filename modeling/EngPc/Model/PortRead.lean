import EngPc.Model.ProtolDiag

/-!
# Reading from a port

`CPort::read` and `CPort::internal_read` of server/chnl/CPort.cpp, and the reads that the loop of
`CTrans::trans` makes one after the other. A read waits in `select`; what it meets there is a
list of events, and a read that has used up the events is still waiting.
-/

namespace EngPc
open CString

structure CPort where
  portType : PortType
  bEnableRD : Bool
  fdOpen : Bool
  deriving DecidableEq, Repr

/-- What one round of the loop of `internal_read` meets: `select` fails or times out, a message
stands in the notify pipe, `::read` delivers bytes, fails with EBUSY, or fails otherwise and
`reopen` tries to get the port back. -/
inductive RdEvent
  | selectError
  | selectTimeout
  | notify (msg : List UInt8)
  | data (bytes : List UInt8)
  | busy
  | failed (reopened : Bool)
  deriving DecidableEq, Repr

def msgNotifyExit : List UInt8 := ofString "MSG_EXIT"

/-- The locals of `internal_read` that live from one round to the next. -/
structure RdState where
  buff : Buffer UInt8
  offset : Nat
  rdSize : Nat

/-- What `internal_read` leaves when its loop ends. -/
structure RdResult where
  buff : Buffer UInt8
  offset : Nat
  fdOpen : Bool

def PortType.maxLen : PortType → Nat
  | .gser | .vser | .com => maxVserBuffLen
  | _ => maxPortBuffRD

def rdStart (t : PortType) (nLen : Nat) (buff : Buffer UInt8) : RdState :=
  ⟨buff.set 0 nLen, 0, min t.maxLen nLen⟩

/-- One round of the loop: it goes on with a new state or ends with a result. -/
def rdStep (apProcess : Int) (t : PortType) (nLen : Nat) (s : RdState) : RdEvent → RdState ⊕ RdResult
  | .selectError => .inl s
  | .selectTimeout => .inl s
  | .notify msg =>
    if strcaseeq (msg.takeWhile (· ≠ 0)) msgNotifyExit then .inr ⟨s.buff, 0, true⟩ else .inl s
  | .busy => .inl s
  | .failed true => .inl s
  | .failed false => .inr ⟨s.buff, s.offset, false⟩
  | .data bytes =>
    let c := checkframe apProcess (s.buff.fill s.offset bytes) (s.offset + bytes.length)
    if c.type = .complete ∨ c.type = .invalid then
      .inr ⟨c.buff, c.nlen, true⟩
    else if nLen ≤ c.nlen then
      .inr ⟨c.buff, c.nlen, true⟩
    else
      .inl ⟨c.buff, c.nlen, min t.maxLen (nLen - c.nlen)⟩

/-- The loop: `none` while it waits, else the result and the events that come after it. -/
def rdLoop (apProcess : Int) (t : PortType) (nLen : Nat) :
    RdState → List RdEvent → Option (RdResult × List RdEvent)
  | _, [] => none
  | s, e :: es =>
    match rdStep apProcess t nLen s e with
    | .inl s => rdLoop apProcess t nLen s es
    | .inr r => some (r, es)

/-- What `CPort::read` returns, the memory it leaves and the events still to come. -/
structure ReadOut where
  ret : Int
  buff : Buffer UInt8
  fdOpen : Bool
  rest : List RdEvent

def CPort.internalRead (p : CPort) (apProcess : Int) (buff : Buffer UInt8) (nLen : Nat)
    (events : List RdEvent) : Option ReadOut :=
  if p.fdOpen = false then some ⟨-1, buff, false, events⟩
  else if p.portType = .loop then some ⟨0, buff, true, events⟩
  else
    (rdLoop apProcess p.portType nLen (rdStart p.portType nLen buff) events).map
      fun r => ⟨r.1.offset, r.1.buff, r.1.fdOpen, r.2⟩

def CPort.read (p : CPort) (apProcess : Int) (buff : Buffer UInt8) (nLen : Nat)
    (events : List RdEvent) : Option ReadOut :=
  if p.bEnableRD then p.internalRead apProcess buff nLen events
  else some ⟨0, buff, p.fdOpen, events⟩

/-- A request as `trans` gets it from `read`: the buffer and `r_cnt`. -/
structure Received where
  buff : Buffer UInt8
  len : Nat

def Received.bytes (r : Received) : List UInt8 := r.buff.load 0 r.len

/-- The bytes that `trans` hands to `process`. -/
def Received.decoded (o : CProtolDiag) (r : Received) : List UInt8 :=
  (o.decode r.buff r.len).buff.load 0 (o.decode r.buff r.len).len

/-- The requests that the loop of `trans` reads while `read` meets the given events, from a state
inside a call on. The loop ends at a read that returns nothing. -/
def receivedFrom (apProcess : Int) (t : PortType) (nLen : Nat) :
    RdState → List RdEvent → List Received
  | _, [] => []
  | s, e :: es =>
    match rdStep apProcess t nLen s e with
    | .inl s => receivedFrom apProcess t nLen s es
    | .inr r =>
      if r.offset = 0 then []
      else ⟨r.buff, r.offset⟩ ::
        if r.fdOpen then receivedFrom apProcess t nLen (rdStart t nLen r.buff) es else []

def CPort.received (p : CPort) (apProcess : Int) (buff : Buffer UInt8) (events : List RdEvent) :
    List Received :=
  if p.bEnableRD ∧ p.fdOpen = true ∧ p.portType ≠ .loop then
    receivedFrom apProcess p.portType maxChnlBuff (rdStart p.portType maxChnlBuff buff) events
  else []

/-- The kernel's side of a round: a read delivers at least one byte and no more than asked for. -/
def RdState.grants (s : RdState) : RdEvent → Prop
  | .data bytes => bytes ≠ [] ∧ bytes.length ≤ s.rdSize
  | _ => True

instance (s : RdState) : (e : RdEvent) → Decidable (s.grants e)
  | .data _ => inferInstanceAs (Decidable (_ ∧ _))
  | .selectError | .selectTimeout | .notify _ | .busy | .failed _ => inferInstanceAs (Decidable True)

/-- The state of the next round, of this read or of the one after it. -/
def rdNext (apProcess : Int) (t : PortType) (nLen : Nat) (s : RdState) (e : RdEvent) : RdState :=
  match rdStep apProcess t nLen s e with
  | .inl s => s
  | .inr r => rdStart t nLen r.buff

/-- The kernel's side of a run of reads. -/
def granted (apProcess : Int) (t : PortType) (nLen : Nat) : RdState → List RdEvent → Prop
  | _, [] => True
  | s, e :: es => s.grants e ∧ granted apProcess t nLen (rdNext apProcess t nLen s e) es

lemma granted_cons (a : Int) (t : PortType) (nLen : Nat) (s : RdState) (e : RdEvent)
    (es : List RdEvent) :
    granted a t nLen s (e :: es) ↔ s.grants e ∧ granted a t nLen (rdNext a t nLen s e) es :=
  Iff.rfl

instance decidableGranted (a : Int) (t : PortType) (nLen : Nat) :
    (s : RdState) → (es : List RdEvent) → Decidable (granted a t nLen s es)
  | _, [] => isTrue trivial
  | s, e :: es =>
    have := decidableGranted a t nLen (rdNext a t nLen s e) es
    inferInstanceAs (Decidable (_ ∧ _))

/-- The kernel's side of the reads of `trans`. -/
def CPort.grants (p : CPort) (apProcess : Int) (buff : Buffer UInt8) (es : List RdEvent) : Prop :=
  granted apProcess p.portType maxChnlBuff (rdStart p.portType maxChnlBuff buff) es

instance (p : CPort) (a : Int) (buff : Buffer UInt8) (es : List RdEvent) :
    Decidable (p.grants a buff es) := inferInstanceAs (Decidable (granted ..))

/-- `receivedFrom` makes the calls of `internal_read` one after the other. -/
lemma receivedFrom_eq_rdLoop (apProcess : Int) (t : PortType) (nLen : Nat) (s : RdState)
    (es : List RdEvent) :
    receivedFrom apProcess t nLen s es =
      match rdLoop apProcess t nLen s es with
      | none => []
      | some (r, rest) =>
        if r.offset = 0 then []
        else ⟨r.buff, r.offset⟩ ::
          if r.fdOpen then receivedFrom apProcess t nLen (rdStart t nLen r.buff) rest else [] := by
  induction es generalizing s with
  | nil => rfl
  | cons e es ih =>
    rw [receivedFrom, rdLoop]
    cases rdStep apProcess t nLen s e with
    | inl s' => exact ih s'
    | inr r => rfl

end EngPc
