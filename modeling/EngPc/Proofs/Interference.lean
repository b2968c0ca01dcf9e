import EngPc.Proofs.Session

/-!
# Channels that share the manager

All channels go through one pair of pointers. A request whose processing, however deep, never
comes to the test of `m_lpPendingCB` with data goes the same way whatever session is open; the
others meet what the request before them has left.
-/

namespace EngPc
open CString Machine

variable {φ : Type} {cbs : List (EngCallback φ)} {F : Funcs φ} {dispatch : Dispatch}

def MgrState.withPending (m : MgrState) (p : Option Nat) : MgrState := { m with lpPendingCB := p }

def Served.withPending (s : Served) (p : Option Nat) : Served :=
  { s with mgr := s.mgr.withPending p }

def Answer.withPending (a : Answer) (p : Option Nat) : Answer :=
  { a with mgr := a.mgr.withPending p }

/-- A dispatch that goes the same way under every session unless data is offered to it. -/
def Dispatch.Blind (dispatch : Dispatch) : Prop :=
  ∀ type m buf len d, dispatch type m buf len = .ok d → d.offered = false →
    ∀ p, ∃ p', dispatch type (m.withPending p) buf len = .ok (d.withPending p')

lemma Call.run_blind (hd : dispatch.Blind) (c : Call) {m : MgrState} {a : Answer}
    (h : c.run dispatch m = .ok a) (ho : a.offered = false) (p : Option Nat) :
    ∃ p', c.run dispatch (m.withPending p) = .ok (a.withPending p') := by
  induction c generalizing m a p with
  | ret rlen req rsp =>
    obtain rfl := Except.ok.inj h
    exact ⟨p, rfl⟩
  | send way buf len next ih =>
    obtain ⟨d, a', hdis, hrun, rfl⟩ := Call.run_send h
    rw [Bool.or_eq_false_iff] at ho
    obtain ⟨p₁, hdis'⟩ := hd _ _ _ _ _ hdis ho.1 p
    have hrun' : (next d.rlen d.req).run dispatch d.mgr = .ok a' := hrun
    obtain ⟨p₂, hrun₂⟩ := ih d.rlen d.req hrun' ho.2 p₁
    have hmgr : (d.withPending p₁).mgr = d.mgr.withPending p₁ := rfl
    have hnext : next (d.withPending p₁).rlen (d.withPending p₁).req = next d.rlen d.req := rfl
    refine ⟨p₂, ?_⟩
    rw [Call.run, hdis']
    simp only [hnext, hmgr, hrun₂]
    rfl

lemma announce_withPending (cb : EngCallback φ) (k : Nat) (kind : FuncKind) (s : Served)
    (p : Option Nat) :
    cb.announce k kind (s.withPending p) = (cb.announce k kind s).withPending p := by
  unfold EngCallback.announce
  split_ifs <;> rfl

lemma announce_offered (cb : EngCallback φ) (k : Nat) (kind : FuncKind) (s : Served) :
    (cb.announce k kind s).offered = s.offered := by
  unfold EngCallback.announce
  split_ifs <;> rfl

lemma called_offered {s : Served} {k : Nat} {kind : FuncKind} {a : Answer}
    (h : (s.called k kind a).offered = false) : s.offered = false ∧ a.offered = false :=
  Bool.or_eq_false_iff.mp h

lemma diagLoop_offered (len : Nat) (l : List (EngCallback φ)) (k : Nat) {s s' : Served}
    (h : diagLoop F dispatch len l k s = .ok s') (ho : s'.offered = false) :
    s.offered = false := by
  induction l generalizing k s with
  | nil =>
    obtain rfl := Except.ok.inj h
    exact ho
  | cons cb l ih =>
    rcases diagLoop_cons h with ⟨-, h⟩ | ⟨kind, -, -, rfl⟩ | ⟨kind, c, a, -, -, -, hend⟩
    · have hset : (s.setCur k).offered = false := ih (k + 1) h
      exact hset
    · exact ho
    · have hcalled : ((cb.announce k kind (s.setCur k)).called k kind a).offered = false := by
        rcases hend with ⟨-, h⟩ | ⟨-, rfl⟩
        · exact ih (k + 1) h
        · exact ho
      exact (announce_offered cb k kind (s.setCur k)).symm.trans (called_offered hcalled).1

lemma diagLoop_blind (hd : dispatch.Blind) (len : Nat) (l : List (EngCallback φ)) (k : Nat)
    {s s' : Served} (h : diagLoop F dispatch len l k s = .ok s') (ho : s'.offered = false)
    (p : Option Nat) :
    ∃ p', diagLoop F dispatch len l k (s.withPending p) = .ok (s'.withPending p') := by
  induction l generalizing k s p with
  | nil =>
    obtain rfl := Except.ok.inj h
    exact ⟨p, rfl⟩
  | cons cb l ih =>
    have hset : (s.withPending p).setCur k = (s.setCur k).withPending p := rfl
    have hreq : ((s.setCur k).withPending p).req = s.req := rfl
    have hcall : ∀ kind, cb.call F kind ((s.setCur k).withPending p) len =
        cb.call F kind (s.setCur k) len := by
      intro kind
      cases kind <;> rfl
    rw [diagLoop, hset]
    simp only [hreq, hcall]
    rcases diagLoop_cons h with ⟨hsel, h⟩ | ⟨kind, hsel, hnone, rfl⟩ |
      ⟨kind, c, a, hsel, hsome, hrun, hend⟩
    · simp only [hsel]
      exact ih (k + 1) h p
    · simp only [hsel, hnone]
      exact ⟨p, rfl⟩
    · have hcalled : ((cb.announce k kind (s.setCur k)).called k kind a).offered = false := by
        rcases hend with ⟨-, h⟩ | ⟨-, rfl⟩
        · exact diagLoop_offered len l (k + 1) h ho
        · exact ho
      obtain ⟨p₁, hrun'⟩ := Call.run_blind hd c hrun (called_offered hcalled).2 p
      have hmgr : ((s.setCur k).withPending p).mgr = (s.setCur k).mgr.withPending p := rfl
      have hnext : ((cb.announce k kind (s.setCur k)).withPending p).called k kind
          (a.withPending p₁) =
          ((cb.announce k kind (s.setCur k)).called k kind a).withPending p₁ := rfl
      have hrlen : (a.withPending p₁).rlen = a.rlen := rfl
      simp only [hsel, hsome, hmgr, hrun', announce_withPending, hnext, hrlen]
      rcases hend with ⟨hun, h⟩ | ⟨hun, rfl⟩
      · rw [if_pos hun]
        exact ih (k + 1) h p₁
      · rw [if_neg hun]
        exact ⟨p₁, rfl⟩

/-- Without an offer the end of `processDiag` leaves the same under every session. -/
lemma pendingCall_blind {s s' : Served} (h : pendingCall cbs F dispatch s = .ok s')
    (ho : s'.offered = false) (p : Option Nat) :
    pendingCall cbs F dispatch (s.withPending p) = .ok s' ∧ s.offered = false := by
  rcases pendingCall_cases h with ⟨hdata, rfl⟩ | ⟨-, -, rfl⟩ | ⟨k, cb, c, a, -, -, -, -, -, rfl⟩
  · have hdata' : ¬(s.withPending p).isData := hdata
    unfold pendingCall
    rw [if_neg hdata']
    exact ⟨rfl, ho⟩
  · cases ho
  · cases ho

lemma processDiag_blind (hd : dispatch.Blind) {m : MgrState} {buf rsp : Buffer UInt8} {len : Nat}
    {s : Served} (h : processDiag cbs F dispatch m buf rsp len = .ok s) (ho : s.offered = false)
    (p : Option Nat) : processDiag cbs F dispatch (m.withPending p) buf rsp len = .ok s := by
  obtain ⟨s₁, hloop, hend⟩ := processDiag_ok h
  have ho₁ := (pendingCall_blind hend ho none).2
  obtain ⟨p', hloop'⟩ := diagLoop_blind hd len cbs 0 hloop ho₁ p
  have hstart : (Served.start m buf rsp).withPending p = .start (m.withPending p) buf rsp := rfl
  rw [hstart] at hloop'
  unfold processDiag
  rw [hloop']
  exact (pendingCall_blind hend ho p').1

lemma atLoop_offered (l : List (EngCallback φ)) (k : Nat) {s s' : Served}
    (h : atLoop F dispatch l k s = .ok s') (ho : s'.offered = false) : s.offered = false := by
  induction l generalizing k s with
  | nil =>
    obtain rfl := Except.ok.inj h
    exact ho
  | cons cb l ih =>
    rcases atLoop_cons h with ⟨-, h⟩ | ⟨-, -, rfl⟩ | ⟨c, a, -, -, -, hend⟩
    · exact ih (k + 1) h
    · exact ho
    · have hcalled : (s.called k .linuxcmd a).offered = false := by
        rcases hend with ⟨-, h⟩ | ⟨-, rfl⟩
        · exact ih (k + 1) h
        · exact ho
      exact (called_offered hcalled).1

lemma atLoop_blind (hd : dispatch.Blind) (l : List (EngCallback φ)) (k : Nat) {s s' : Served}
    (h : atLoop F dispatch l k s = .ok s') (ho : s'.offered = false) (p : Option Nat) :
    ∃ p', atLoop F dispatch l k (s.withPending p) = .ok (s'.withPending p') := by
  induction l generalizing k s p with
  | nil =>
    obtain rfl := Except.ok.inj h
    exact ⟨p, rfl⟩
  | cons cb l ih =>
    have hreq : (s.withPending p).req = s.req := rfl
    have hcall : cb.call F .linuxcmd (s.withPending p) 0 = cb.call F .linuxcmd s 0 := rfl
    rw [atLoop, hreq, hcall]
    rcases atLoop_cons h with ⟨hm, h⟩ | ⟨hm, hnone, rfl⟩ | ⟨c, a, hm, hsome, hrun, hend⟩
    · rw [if_neg hm]
      exact ih (k + 1) h p
    · rw [if_pos hm, hnone]
      exact ⟨p, rfl⟩
    · have hcalled : (s.called k .linuxcmd a).offered = false := by
        rcases hend with ⟨-, h⟩ | ⟨-, rfl⟩
        · exact atLoop_offered l (k + 1) h ho
        · exact ho
      obtain ⟨p₁, hrun'⟩ := Call.run_blind hd c hrun (called_offered hcalled).2 p
      have hmgr : (s.withPending p).mgr = s.mgr.withPending p := rfl
      have hnext : (s.withPending p).called k .linuxcmd (a.withPending p₁) =
          (s.called k .linuxcmd a).withPending p₁ := rfl
      have hrlen : (a.withPending p₁).rlen = a.rlen := rfl
      rw [if_pos hm]
      simp only [hsome, hmgr, hrun', hnext, hrlen]
      rcases hend with ⟨hun, h⟩ | ⟨hun, rfl⟩
      · rw [if_pos hun]
        exact ih (k + 1) h p₁
      · rw [if_neg hun]
        exact ⟨p₁, rfl⟩

/-- However deep the modules dispatch, without an offer the session does not matter. -/
lemma dispatchAt_blind (n : Nat) : (dispatchAt cbs F n).Blind := by
  induction n with
  | zero =>
    intro type m buf len d h
    cases h
  | succ n ih =>
    intro type m buf len d h ho p
    have hat : ∀ s, processAT cbs F (dispatchAt cbs F n) m buf (fun _ => 0) = .ok s →
        s.offered = false →
        ∃ p', processAT cbs F (dispatchAt cbs F n) (m.withPending p) buf (fun _ => 0) =
          .ok (s.withPending p') := fun s hs hos => atLoop_blind ih cbs 0 hs hos p
    cases type with
    | «at» => exact hat d h ho
    | wcnAt =>
      simp only [dispatchAt, mgrProcess, processWcnAT] at h ⊢
      cases hs : processAT cbs F (dispatchAt cbs F n) m buf (fun _ => 0) with
      | error e => simp [hs] at h
      | ok s =>
        simp only [hs] at h
        have hos : s.offered = false := by
          split at h
          · obtain rfl := Except.ok.inj h
            exact ho
          · obtain rfl := Except.ok.inj h
            exact ho
        obtain ⟨p', hs'⟩ := hat s hs hos
        have hrlen : (s.withPending p').rlen = s.rlen := rfl
        have hrsp : (s.withPending p').rsp = s.rsp := rfl
        simp only [hs', hrlen, hrsp]
        refine ⟨p', ?_⟩
        split at h
        · obtain rfl := Except.ok.inj h
          rw [if_pos ‹_›]
        · obtain rfl := Except.ok.inj h
          rw [if_neg ‹_›]
          rfl
    | diag =>
      have hsame := processDiag_blind ih (h : processDiag cbs F (dispatchAt cbs F n) m buf
        (fun _ => 0) len = .ok d) ho p
      exact ⟨d.mgr.lpPendingCB, hsame⟩
    | log | wcnDiag | agdspLog | agdspPcm | agdspMem | agdspMix | unknown =>
      obtain rfl := Except.ok.inj h
      exact ⟨p, rfl⟩

/-- Without entries nothing is called, and the response stays empty. -/
lemma processDiag_nil {m : MgrState} {buf rsp : Buffer UInt8} {len : Nat} {s : Served}
    (h : processDiag ([] : List (EngCallback φ)) F dispatch m buf rsp len = .ok s) :
    s.rsp = rsp ∧ ∀ m' : MgrState, (s.offered = true → m'.lpPendingCB = m.lpPendingCB) →
      ∃ x, processDiag ([] : List (EngCallback φ)) F dispatch m' buf rsp len =
        .ok { s with mgr := x } := by
  obtain ⟨s₁, hloop, hend⟩ := processDiag_ok h
  obtain rfl := Except.ok.inj hloop
  have hloop' : ∀ m' : MgrState, processDiag ([] : List (EngCallback φ)) F dispatch m' buf rsp len =
      pendingCall [] F dispatch (.start m' buf rsp) := fun _ => rfl
  have hdata' : ∀ m' : MgrState, (Served.start m' buf rsp).isData ↔
      (Served.start m buf rsp).isData := fun _ => Iff.rfl
  rcases pendingCall_cases hend with ⟨hdata, rfl⟩ | ⟨hdata, hp, rfl⟩ | ⟨k, cb, c, a, -, -, hk, -⟩
  · refine ⟨rfl, fun m' _ => ⟨m'.clearPendingMark, ?_⟩⟩
    rw [hloop', pendingCall, if_neg (by rw [hdata']; exact hdata)]
    rfl
  · refine ⟨rfl, fun m' hsame => ⟨m', ?_⟩⟩
    have hp' : (Served.start m' buf rsp).mgr.lpPendingCB = none := (hsame rfl).trans hp
    rw [hloop', pendingCall, if_pos (by rw [hdata']; exact hdata), hp']
    rfl
  · simp at hk

lemma processDiag_cur (cb : EngCallback φ) (cbs : List (EngCallback φ)) (m : MgrState)
    (c : Option Nat) (buf rsp : Buffer UInt8) (len : Nat) :
    processDiag (cb :: cbs) F dispatch { m with lpCurCB := c } buf rsp len =
      processDiag (cb :: cbs) F dispatch m buf rsp len := by
  unfold processDiag
  rw [diagLoop, diagLoop]
  rfl

/-- What `process` leaves for a diag channel depends on the manager's pointers only through the
session, and on that only where data is offered. -/
lemma mgrProcess_same (n : Nat) {type : DataType} (htype : type = .diag ∨ type = .wcnDiag)
    {m m' : MgrState} {buf : Buffer UInt8} {len : Nat} {s : Served}
    (h : mgrProcess cbs F (dispatchAt cbs F n) type m buf (fun _ => 0) len = .ok s)
    (hsame : s.offered = true → m'.lpPendingCB = m.lpPendingCB) :
    ∃ x, mgrProcess cbs F (dispatchAt cbs F n) type m' buf (fun _ => 0) len =
      .ok { s with mgr := x } ∧ (x = s.mgr ∨ rspText s.rsp = []) := by
  have hempty : rspText (fun _ => 0) = [] := cstr_of_zero rfl _
  rcases htype with rfl | rfl
  · have h : processDiag cbs F (dispatchAt cbs F n) m buf (fun _ => 0) len = .ok s := h
    cases cbs with
    | nil =>
      obtain ⟨hrsp, hother⟩ := processDiag_nil h
      obtain ⟨x, hx⟩ := hother m' hsame
      exact ⟨x, hx, .inr (by rw [hrsp]; exact hempty)⟩
    | cons cb cbs =>
      refine ⟨s.mgr, ?_, .inl rfl⟩
      have hm' : m' = { m.withPending m'.lpPendingCB with lpCurCB := m'.lpCurCB } := rfl
      have hgoal : processDiag (cb :: cbs) F (dispatchAt (cb :: cbs) F n) m' buf (fun _ => 0) len =
          .ok s := by
        rw [hm', processDiag_cur]
        cases ho : s.offered with
        | false => exact processDiag_blind (dispatchAt_blind n) h ho _
        | true =>
          rw [hsame ho]
          exact h
      exact hgoal
  · obtain rfl := Except.ok.inj h
    exact ⟨m', rfl, .inr hempty⟩

lemma finish_same (o : CProtolDiag) (s : Served) (x : MgrState)
    (hx : x = s.mgr ∨ rspText s.rsp = []) :
    ∃ y, CDataDiag.finish o { s with mgr := x } = { CDataDiag.finish o s with mgr := y } ∧
      y.lpPendingCB = (CDataDiag.finish o s).mgr.lpPendingCB := by
  rcases hx with rfl | hempty
  · exact ⟨(CDataDiag.finish o s).mgr, rfl, rfl⟩
  · have hno : ¬o.checkPending (rspText s.rsp) := by
      rw [hempty]
      rintro ⟨-, -, hmark, -⟩
      exact absurd ((strcasestr_nil_iff pendingMark).mp hmark) (by decide)
    refine ⟨x.clearPendingMark, ?_, ?_⟩
    · unfold CDataDiag.finish
      simp only [if_neg hno]
    · unfold CDataDiag.finish
      simp only [if_neg hno]
      rfl

/-- One request from two states of the manager: the same writes and calls, and the same session
afterwards. -/
lemma transStep_same (n : Nat) {dstType : PortType} {m m' m₁ : MgrState} {t t₁ : TransState}
    (ht : t.DiagChannel) {r : Received} {out : TransOut}
    (h : transStep cbs F (dispatchAt cbs F n) dstType m t r = .ok ((m₁, t₁), out))
    (hsame : out.offered = true → m'.lpPendingCB = m.lpPendingCB) :
    ∃ y, transStep cbs F (dispatchAt cbs F n) dstType m' t r = .ok ((y, t₁), out) ∧
      y.lpPendingCB = m₁.lpPendingCB := by
  have hkind : (t.obj.decode r.buff r.len).obj.dataType = .diag ∨
      (t.obj.decode r.buff r.len).obj.dataType = .wcnDiag := ht.kind
  unfold transStep CDataDiag.handle CDataDiag.process at h ⊢
  rw [if_pos ⟨.inl ht.frame, ht.ap⟩] at h ⊢
  cases hs : mgrProcess cbs F (dispatchAt cbs F n) (t.obj.decode r.buff r.len).obj.dataType m
      (t.obj.decode r.buff r.len).buff (fun _ => 0) (t.obj.decode r.buff r.len).len with
  | error e => simp [hs] at h
  | ok s =>
    simp only [hs, Except.ok.injEq] at h
    have hoff : out.offered = s.offered := by
      rw [← congrArg (fun x => x.2.offered) h]
      simp only [transEnd, CDataDiag.finish]
      split_ifs <;> rfl
    obtain ⟨x, hx, hcase⟩ := mgrProcess_same n hkind hs (by rw [← hoff]; exact hsame)
    obtain ⟨y, hy, hpending⟩ := finish_same (t.obj.decode r.buff r.len).obj s x hcase
    refine ⟨y, ?_, ?_⟩
    · simp only [hx, hy, Except.ok.injEq]
      rw [← (Prod.mk.inj h).2, ← (Prod.mk.inj (Prod.mk.inj h).1).2]
      rfl
    · rw [hpending, ← (Prod.mk.inj (Prod.mk.inj h).1).1]

/-- The manager and the loops of its channels. -/
structure Server (ι : Type) where
  mgr : MgrState
  chan : ι → TransState

/-- A request that a channel processes, with what the modules do meanwhile. -/
structure ChanRequest (ι φ : Type) where
  chan : ι
  funcs : Funcs φ
  req : Received

variable {ι : Type} [DecidableEq ι]

/-- One request of one channel. -/
def serverStep (cbs : List (EngCallback φ)) (n : Nat) (dstType : ι → PortType) (s : Server ι)
    (q : ChanRequest ι φ) : Except Fault (Server ι × TransOut) :=
  match transStep cbs q.funcs (dispatchAt cbs q.funcs n) (dstType q.chan) s.mgr (s.chan q.chan)
      q.req with
  | .error e => .error e
  | .ok r => .ok (⟨r.1.1, Function.update s.chan q.chan r.1.2⟩, r.2)

/-- The requests of channel `a`. -/
def isOf (a : ι) (q : ChanRequest ι φ) : Bool := q.chan = a

/-- No session is open in either of two runs. -/
def noSession (s s' : Server ι) : Prop := s.mgr.lpPendingCB = none ∧ s'.mgr.lpPendingCB = none

/-- In the run from `s`, each request of channel `a` that offers data to a session comes directly
after another request of `a`, or no session is open, neither there nor in the run of `a` alone. -/
def undisturbed (cbs : List (EngCallback φ)) (n : Nat) (dstType : ι → PortType) (a : ι)
    (s : Server ι) (l : List (ChanRequest ι φ)) : Prop :=
  Undisturbed (serverStep cbs n dstType) (isOf a) (fun out => out.offered = true) noSession true s s l

instance (s s' : Server ι) : Decidable (noSession s s') := inferInstanceAs (Decidable (_ ∧ _))

instance (n : Nat) (dstType : ι → PortType) (a : ι) (s : Server ι) (l : List (ChanRequest ι φ)) :
    Decidable (undisturbed cbs n dstType a s l) := inferInstanceAs (Decidable (Undisturbed ..))

lemma serverStep_ok {n : Nat} {dstType : ι → PortType} {s s₁ : Server ι} {q : ChanRequest ι φ}
    {out : TransOut} (h : serverStep cbs n dstType s q = .ok (s₁, out)) :
    ∃ t₁, transStep cbs q.funcs (dispatchAt cbs q.funcs n) (dstType q.chan) s.mgr (s.chan q.chan)
      q.req = .ok ((s₁.mgr, t₁), out) ∧ s₁.chan = Function.update s.chan q.chan t₁ := by
  unfold serverStep at h
  cases hstep : transStep cbs q.funcs (dispatchAt cbs q.funcs n) (dstType q.chan) s.mgr
      (s.chan q.chan) q.req with
  | error e => simp [hstep] at h
  | ok r =>
    simp only [hstep, Except.ok.injEq] at h
    obtain ⟨rfl, rfl⟩ := Prod.mk.inj h
    exact ⟨r.1.2, rfl, rfl⟩

/-- The channels do not disturb each other where data is offered to one's own session only: the
functions called for one channel's requests, the texts left and all it writes are the same when
the requests of the others are removed. -/
theorem channels_undisturbed (cbs : List (EngCallback φ)) (n : Nat) (dstType : ι → PortType) (a : ι)
    (s : Server ι) (hs : (s.chan a).DiagChannel) (l : List (ChanRequest ι φ)) (s' : Server ι)
    (os : List TransOut) (hrun : run (serverStep cbs n dstType) s l = .ok (s', os))
    (hquiet : undisturbed cbs n dstType a s l) :
    ∃ s'', run (serverStep cbs n dstType) s (l.filter (isOf a)) =
      .ok (s'', outputsOf (isOf a) l os) := by
  have hother : ∀ (s s' : Server ι) q s₁ out, isOf a q = false →
      (s.chan a = s'.chan a ∧ (s.chan a).DiagChannel) →
      serverStep cbs n dstType s q = .ok (s₁, out) →
      (s₁.chan a = s'.chan a ∧ (s₁.chan a).DiagChannel) := by
    intro s s' q s₁ out hq hweak h
    obtain ⟨t₁, -, hchan⟩ := serverStep_ok h
    have hne : a ≠ q.chan := by
      rintro rfl
      simp [isOf] at hq
    rw [hchan, Function.update_of_ne hne]
    exact hweak
  have hmine : ∀ (s s' : Server ι) q s₁ out, isOf a q = true →
      (s.chan a = s'.chan a ∧ (s.chan a).DiagChannel) →
      (out.offered = true → s.mgr.lpPendingCB = s'.mgr.lpPendingCB) →
      serverStep cbs n dstType s q = .ok (s₁, out) →
      ∃ s₁', serverStep cbs n dstType s' q = .ok (s₁', out) ∧
        (s₁.chan a = s₁'.chan a ∧ (s₁.chan a).DiagChannel) ∧
        s₁.mgr.lpPendingCB = s₁'.mgr.lpPendingCB := by
    intro s s' q s₁ out hq hweak hagree h
    obtain rfl : q.chan = a := by simpa [isOf] using hq
    obtain ⟨t₁, hstep, hchan⟩ := serverStep_ok h
    have hsame : out.offered = true → s'.mgr.lpPendingCB = s.mgr.lpPendingCB :=
      fun ho => (hagree ho).symm
    obtain ⟨y, hy, hpending⟩ := transStep_same n hweak.2 hstep hsame
    have hstep' : serverStep cbs n dstType s' q =
        .ok (⟨y, Function.update s'.chan q.chan t₁⟩, out) := by
      unfold serverStep
      rw [← hweak.1, hy]
    refine ⟨_, hstep', ?_, hpending.symm⟩
    rw [hchan, Function.update_self]
    have hchan' : Function.update s'.chan q.chan t₁ q.chan = t₁ := Function.update_self _ _ _
    exact ⟨hchan'.symm, hweak.2.step hstep⟩
  exact run_purge (fun s s' => s.chan a = s'.chan a ∧ (s.chan a).DiagChannel)
    (fun s s' => s.mgr.lpPendingCB = s'.mgr.lpPendingCB) hother hmine
    (fun _ _ h => h.1.trans h.2.symm) l true s s s' os ⟨rfl, hs⟩ (fun _ => rfl) hquiet hrun

section Example

/-- A diag channel and a WCN channel. -/
def twoChannels : Server Bool := ⟨.init, fun b => .init (if b then .diag else .wcnDiag) 1⟩

/-- The diag channel opens a session, sends data and closes; the WCN channel asks first. -/
def wcnFirst : List (ChanRequest Bool Unit) :=
  [⟨false, answerWith (ofString "OK"), diagAt []⟩,
    ⟨true, answerWith pendingMark, diagAt (ofString "AT+M")⟩,
    ⟨true, answerWith (ofString "OK"), diagAt (ofString "x")⟩]

/-- The WCN channel asks between the command and the data. -/
def wcnBetween : List (ChanRequest Bool Unit) :=
  [⟨true, answerWith pendingMark, diagAt (ofString "AT+M")⟩,
    ⟨false, answerWith (ofString "OK"), diagAt []⟩,
    ⟨true, answerWith (ofString "OK"), diagAt (ofString "x")⟩]

end Example

/-- The session of the diag channel, after a request of the other. -/
theorem channels_undisturbed_wcn_first :
    ∃ s os s', run (serverStep (twoModules none (some ())) 0 fun _ => .gser) twoChannels wcnFirst =
        .ok (s, os) ∧
      run (serverStep (twoModules none (some ())) 0 fun _ => .gser) twoChannels
        (wcnFirst.filter (isOf true)) = .ok (s', outputsOf (isOf true) wcnFirst os) := by
  obtain ⟨s, os, hrun⟩ := ok_of_isOk
    (r := run (serverStep (twoModules none (some ())) 0 fun _ => .gser) twoChannels wcnFirst)
    (by decide)
  obtain ⟨s', hs'⟩ := channels_undisturbed (twoModules none (some ())) 0 (fun _ => .gser) true
    twoChannels (diagChannel_init .diag (.inl rfl)) wcnFirst s os hrun (by decide)
  exact ⟨s, os, s', hrun, hs'⟩

/-- A request of the WCN channel ends the session of the diag channel, whose data is then handed
to nobody. -/
theorem wcn_request_ends_session :
    (run (serverStep (twoModules none (some ())) 0 fun _ => .gser) twoChannels wcnBetween).isOk =
      true ∧
    outputsOf (isOf true) wcnBetween
        (outs (run (serverStep (twoModules none (some ())) 0 fun _ => .gser) twoChannels
          wcnBetween)) ≠
      outs (run (serverStep (twoModules none (some ())) 0 fun _ => .gser) twoChannels
        (wcnBetween.filter (isOf true))) := by
  decide

end EngPc
