import EngPc.Model.Trans
import EngPc.Proofs.DiagCodec
import EngPc.Proofs.ModuleMgr

/-!
# Requests that nobody handles

A request that no module matches, or that every matching module declines, goes to the destination
port as it was read, whatever the modules have done to the buffers.
-/

namespace EngPc
open CString Buffer

variable {φ : Type} {F : Funcs φ} {dispatch : Dispatch}

/-- From entry `k` on, every entry that matches the request, as the functions before it have left
it, has a function that declines it; an entry without a function ends the search. -/
def declined (F : Funcs φ) (dispatch : Dispatch) (len : Nat) :
    List (EngCallback φ) → Nat → Served → Bool
  | [], _, _ => true
  | cb :: cbs, k, s =>
    match cb.selects F s.req len with
    | none => declined F dispatch len cbs (k + 1) (s.setCur k)
    | some kind =>
      match cb.call F kind (s.setCur k) len with
      | none => true
      | some c =>
        match c.run dispatch (s.setCur k).mgr with
        | .error _ => false
        | .ok a =>
          a.rlen = engDiagRetUnsupport &&
          declined F dispatch len cbs (k + 1) ((cb.announce k kind (s.setCur k)).called k kind a)

/-- The state of a request that nobody has handled: nothing was written, or the last function
called has declined. -/
structure Unhandled (s : Served) : Prop where
  bProcess_eq : s.bProcess = false
  cpProcess_eq : s.cpProcess = false
  rlen_eq : (s.rlen = 0 ∧ s.rsp 0 = 0) ∨ s.rlen = engDiagRetUnsupport
  pending_eq : s.mgr.lpPendingCB = none

lemma Unhandled.start {m : MgrState} (hm : m.lpPendingCB = none) (buf : Buffer UInt8) :
    Unhandled (.start m buf fun _ => 0) :=
  ⟨rfl, rfl, .inl ⟨rfl, rfl⟩, hm⟩

lemma Unhandled.setCur {s : Served} (h : Unhandled s) (k : Nat) : Unhandled (s.setCur k) :=
  ⟨h.bProcess_eq, h.cpProcess_eq, h.rlen_eq, h.pending_eq⟩

lemma Unhandled.declined {s : Served} (h : Unhandled s) (cb : EngCallback φ) (k : Nat)
    (kind : FuncKind) (a : Answer) (ha : a.rlen = engDiagRetUnsupport)
    (hpending : a.mgr.lpPendingCB = none) :
    Unhandled ((cb.announce k kind s).called k kind a) := by
  have hb : (cb.announce k kind s).bProcess = s.bProcess := by
    unfold EngCallback.announce
    split_ifs <;> rfl
  have hc : (cb.announce k kind s).cpProcess = s.cpProcess := by
    unfold EngCallback.announce
    split_ifs <;> rfl
  exact ⟨hb.trans h.bProcess_eq, hc.trans h.cpProcess_eq, .inr ha, hpending⟩

lemma diagLoop_declined
    (hd : dispatch.Keeps fun m => m.lpPendingCB = none) (len : Nat) (l : List (EngCallback φ))
    (k : Nat) (s : Served) (hs : Unhandled s) (h : declined F dispatch len l k s = true) :
    ∃ s', diagLoop F dispatch len l k s = .ok s' ∧ Unhandled s' := by
  induction l generalizing k s with
  | nil => exact ⟨s, rfl, hs⟩
  | cons cb l ih =>
    have hset := hs.setCur k
    rw [declined] at h
    rw [diagLoop]
    have hreq : (s.setCur k).req = s.req := rfl
    rw [hreq]
    cases hsel : cb.selects F s.req len with
    | none =>
      rw [hsel] at h
      exact ih (k + 1) (s.setCur k) hset h
    | some kind =>
      rw [hsel] at h
      cases hcall : cb.call F kind (s.setCur k) len with
      | none => exact ⟨s.setCur k, by simp [hcall], hset⟩
      | some c =>
        cases hrun : c.run dispatch (s.setCur k).mgr with
        | error e => simp [hcall, hrun] at h
        | ok a =>
          simp only [hcall, hrun, Bool.and_eq_true, decide_eq_true_eq] at h
          have hpending := Call.run_keeps hd c hset.pending_eq hrun
          obtain ⟨s', hs', hu⟩ := ih (k + 1) _ (hset.declined cb k kind a h.1 hpending) h.2
          refine ⟨s', ?_, hu⟩
          simpa [hcall, hrun, h.1] using hs'

lemma pendingCall_noSession (cbs : List (EngCallback φ)) {s : Served} (hs : Unhandled s) :
    ∃ s', pendingCall cbs F dispatch s = .ok s' ∧ Unhandled s' := by
  unfold pendingCall
  split_ifs
  · rw [hs.pending_eq]
    exact ⟨_, rfl, ⟨hs.bProcess_eq, hs.cpProcess_eq, hs.rlen_eq, hs.pending_eq⟩⟩
  · exact ⟨_, rfl, ⟨hs.bProcess_eq, hs.cpProcess_eq, hs.rlen_eq, rfl⟩⟩

/-- The request of a diag channel is offered to the modules, and all of them decline it. -/
def requestDeclined (cbs : List (EngCallback φ)) (F : Funcs φ) (dispatch : Dispatch)
    (m : MgrState) (t : TransState) (r : Received) : Prop :=
  t.obj.dataType = .diag →
    declined F dispatch (t.obj.decode r.buff r.len).len cbs 0
      (.start m (t.obj.decode r.buff r.len).buff fun _ => 0) = true

/-- Nothing to send: no text, or the last function called has declined. -/
def Served.unanswered (s : Served) : Prop :=
  (s.rlen = 0 ∧ s.rsp 0 = 0) ∨ s.rlen = engDiagRetUnsupport

lemma finish_unanswered (o : CProtolDiag) {s : Served} (hs : s.unanswered) :
    (CDataDiag.finish o s).ret = .noDeal := by
  have hretlen : o.process (rspText s.rsp) s.rlen = s.rlen := by
    rcases hs with ⟨h0, hrsp⟩ | hun
    · have htext : rspText s.rsp = [] := cstr_of_zero hrsp _
      simp [CProtolDiag.process, htext]
    · simp [CProtolDiag.process, hun, engDiagRetUnsupport]
  have hret : CTrans.process s.rlen = .noDeal := by
    rcases hs with ⟨h0, -⟩ | hun
    · rw [h0]
      decide
    · rw [hun]
      decide
  unfold CDataDiag.finish
  simp only [hretlen, hret, reduceCtorEq, false_and, if_false]
  split_ifs <;> rfl

/-- A channel of one of the two diag types that processes requests. -/
structure TransState.DiagChannel (t : TransState) : Prop where
  kind : t.obj.dataType = .diag ∨ t.obj.dataType = .wcnDiag
  ap : t.obj.apProcess = 1
  frame : t.obj.frameType = .complete

lemma diagChannel_init (dataType : DataType) (h : dataType = .diag ∨ dataType = .wcnDiag) :
    (TransState.init dataType 1).DiagChannel :=
  ⟨h, rfl, rfl⟩

lemma finish_ctrans (o : CProtolDiag) (s : Served) :
    (CDataDiag.finish o s).obj.dataType = o.dataType ∧
      (CDataDiag.finish o s).obj.apProcess = o.apProcess ∧
      (CDataDiag.finish o s).obj.frameType = o.frameType := by
  unfold CDataDiag.finish
  dsimp only
  split_ifs <;> exact ⟨rfl, rfl, rfl⟩

/-- What `trans` makes of the copy of the request and what the manager leaves. -/
def transOf (dstType : PortType) (t : TransState) (r : Received) (s : Served) :
    (MgrState × TransState) × TransOut :=
  transEnd dstType (Buffer.fill (fun _ => 0) 0 (r.buff.load 0 r.len)) r.len
    (CDataDiag.finish (t.obj.decode r.buff r.len).obj s)

section Channel

variable {cbs : List (EngCallback φ)} {dstType : PortType} {m : MgrState} {t : TransState}
  {r : Received}

/-- Every request of a diag channel is decoded and given to the manager. -/
lemma TransState.DiagChannel.handle_eq (ht : t.DiagChannel) :
    CDataDiag.handle cbs F dispatch m t r =
      (mgrProcess cbs F dispatch t.obj.dataType m (t.obj.decode r.buff r.len).buff (fun _ => 0)
        (t.obj.decode r.buff r.len).len).map (CDataDiag.finish (t.obj.decode r.buff r.len).obj) := by
  unfold CDataDiag.handle CDataDiag.process
  rw [if_pos ⟨.inl ht.frame, ht.ap⟩]
  have hobj : (t.obj.decode r.buff r.len).obj.dataType = t.obj.dataType := rfl
  dsimp only
  rw [hobj]
  cases mgrProcess cbs F dispatch t.obj.dataType m (t.obj.decode r.buff r.len).buff (fun _ => 0)
      (t.obj.decode r.buff r.len).len <;> rfl

lemma TransState.DiagChannel.transStep_eq (ht : t.DiagChannel) {s : Served}
    (h : mgrProcess cbs F dispatch t.obj.dataType m (t.obj.decode r.buff r.len).buff (fun _ => 0)
      (t.obj.decode r.buff r.len).len = .ok s) :
    transStep cbs F dispatch dstType m t r = .ok (transOf dstType t r s) := by
  unfold transStep
  rw [ht.handle_eq, h]
  rfl

lemma TransState.DiagChannel.transStep_ok (ht : t.DiagChannel)
    {x : (MgrState × TransState) × TransOut}
    (h : transStep cbs F dispatch dstType m t r = .ok x) :
    ∃ s, mgrProcess cbs F dispatch t.obj.dataType m (t.obj.decode r.buff r.len).buff (fun _ => 0)
      (t.obj.decode r.buff r.len).len = .ok s ∧ x = transOf dstType t r s := by
  unfold transStep at h
  rw [ht.handle_eq] at h
  cases hp : mgrProcess cbs F dispatch t.obj.dataType m (t.obj.decode r.buff r.len).buff
      (fun _ => 0) (t.obj.decode r.buff r.len).len with
  | error e =>
    rw [hp] at h
    cases h
  | ok s =>
    rw [hp] at h
    exact ⟨s, rfl, (Except.ok.inj h).symm⟩

lemma transOf_calls (dstType : PortType) (t : TransState) (r : Received) (s : Served) :
    (transOf dstType t r s).2.calls = s.calls := by
  unfold transOf transEnd CDataDiag.finish
  dsimp only
  split_ifs <;> rfl

lemma TransState.DiagChannel.step {m' : MgrState} {t' : TransState} {out : TransOut}
    (ht : t.DiagChannel) (h : transStep cbs F dispatch dstType m t r = .ok ((m', t'), out)) :
    t'.DiagChannel := by
  obtain ⟨s, -, heq⟩ := ht.transStep_ok h
  obtain ⟨hkind, hap, hframe⟩ := finish_ctrans (t.obj.decode r.buff r.len).obj s
  obtain rfl : t' = (transOf dstType t r s).1.2 := congrArg (fun x => x.1.2) heq
  refine ⟨?_, hap.trans ht.ap, hframe.trans ht.frame⟩
  rcases ht.kind with h | h
  · exact .inl (hkind.trans h)
  · exact .inr (hkind.trans h)

lemma transOf_unanswered (dstType : PortType) (t : TransState) (r : Received) {s : Served}
    (hs : s.unanswered) :
    (transOf dstType t r s).2.writes = if dstType = .loop then [] else [(.dst, r.bytes)] := by
  have hret := finish_unanswered (t.obj.decode r.buff r.len).obj hs
  have hcopy : (Buffer.fill (fun _ => 0) 0 (r.buff.load 0 r.len)).load 0 r.len = r.bytes :=
    load_fill_of_length _ _ (length_load _ _ _)
  unfold transOf transEnd
  simp only [hret, CDataDiag.writes, CDataDiag.forward, CDataDiag.writeOut, hcopy,
    CDataDiag.preWrite, CDataDiag.postWrite, CProtolDiag.atReply]
  simp

end Channel

/-- What the diag channels process: `process` of the manager knows DATA_DIAG only. -/
lemma mgrProcess_declined (cbs : List (EngCallback φ)) (n : Nat) (m : MgrState)
    (hm : m.lpPendingCB = none) (o : CProtolDiag) (hkind : o.dataType = .diag ∨ o.dataType = .wcnDiag)
    (req : Buffer UInt8) (len : Nat)
    (h : o.dataType = .diag →
      declined F (dispatchAt cbs F n) len cbs 0 (.start m req fun _ => 0) = true) :
    ∃ s, mgrProcess cbs F (dispatchAt cbs F n) o.dataType m req (fun _ => 0) len = .ok s ∧
      Unhandled s := by
  have hstart := Unhandled.start hm req
  rcases hkind with hkind | hkind
  · obtain ⟨s, hloop, hs⟩ := diagLoop_declined (dispatchAt_keeps noSession_invariant n) len cbs 0
      _ hstart (h hkind)
    obtain ⟨s', hend, hs'⟩ : ∃ s', pendingCall cbs F (dispatchAt cbs F n) s = .ok s' ∧
        Unhandled s' :=
      pendingCall_noSession cbs hs
    refine ⟨s', ?_, hs'⟩
    rw [hkind]
    unfold mgrProcess processDiag
    simp only [hloop, hend]
  · rw [hkind]
    exact ⟨_, rfl, hstart⟩

/-- The router is transparent: a request that nobody handles is written to the destination port
once, as it was read, and nothing goes back to the source port. -/
theorem declined_forwarded (cbs : List (EngCallback φ)) (F : Funcs φ) (n : Nat) (dstType : PortType)
    (hdst : dstType ≠ .loop) (m : MgrState) (hm : m.lpPendingCB = none) (t : TransState)
    (ht : t.DiagChannel) (r : Received)
    (h : requestDeclined cbs F (dispatchAt cbs F n) m t r) :
    ∃ s out, transStep cbs F (dispatchAt cbs F n) dstType m t r = .ok (s, out) ∧
      out.writes = [(.dst, r.bytes)] := by
  obtain ⟨s, hs, hun⟩ := mgrProcess_declined cbs n m hm t.obj ht.kind
    (t.obj.decode r.buff r.len).buff (t.obj.decode r.buff r.len).len h
  have hwrites := transOf_unanswered dstType t r hun.rlen_eq
  rw [if_neg hdst] at hwrites
  exact ⟨_, _, ht.transStep_eq hs, hwrites⟩

instance (cbs : List (EngCallback φ)) (m : MgrState) (t : TransState) (r : Received) :
    Decidable (requestDeclined cbs F dispatch m t r) :=
  inferInstanceAs (Decidable (_ → _))

/-- A module that declines and scribbles on both buffers. -/
theorem declined_forwarded_scribbled :
    let cb : EngCallback Unit :=
      ⟨0xffffffff, 0xff, 0xff, ofString "AT+M", false, none, some (), none, none⟩
    let F : Funcs Unit :=
      ⟨fun _ _ rsp => .ret engDiagRetUnsupport (fun _ => 1) (rsp.fill 0 pendingMark),
        fun _ buf _ rsp _ => .ret 0 buf rsp, fun _ _ _ => 0⟩
    let m : Buffer UInt8 := fun _ => 0
    let f := flagged ([0, 0, 0, 0, 12, 0, 0x68, 0] ++ ofString "at+m")
    ∃ s out, transStep [cb] F (dispatchAt [cb] F 1) .gser .init (.init .diag 1)
      ⟨m.fill 0 f, f.length⟩ = .ok (s, out) ∧ out.writes = [(.dst, f)] := by
  intro cb F m f
  have hbytes : Received.bytes ⟨m.fill 0 f, f.length⟩ = f := load_fill m 0 f
  rw [← hbytes]
  exact declined_forwarded [cb] F 1 .gser (by decide) .init rfl (.init .diag 1)
    (diagChannel_init .diag (.inl rfl)) ⟨m.fill 0 f, f.length⟩ (by decide)

end EngPc
