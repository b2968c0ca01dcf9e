import EngPc.Lib.Machine
import EngPc.Proofs.Reassembly
import EngPc.Proofs.Session

/-!
# Input without a flag

`checkframe` leaves its verdict in `m_iCurFrameType`, and the loop of `trans` asks `m_frameType`,
which stays as `init` sets it. Input without a flag byte is therefore decoded and offered to the
modules like any frame; it reaches the destination port untouched exactly when no module claims it.
-/

namespace EngPc
open Machine

variable {φ : Type} {cbs : List (EngCallback φ)} {F : Funcs φ} {dispatch : Dispatch}

/-- The test of `trans` before `decode`. -/
def TransState.decodes (t : TransState) : Prop :=
  (t.obj.frameType = .complete ∨ t.obj.frameType = .halfContinue) ∧ t.obj.apProcess = 1

/-- The round calls no function of a module and writes what was read to the destination port. -/
def passedOn (cbs : List (EngCallback φ)) (n : Nat) (t : TransState) (q : Round φ) : Prop :=
  ∃ t' out, transRound cbs n t q = .ok (t', out) ∧ out.calls = [] ∧
    out.writes = [(.dst, q.read.bytes)]

structure Untouched (cbs : List (EngCallback φ)) (n : Nat) (t : TransState) (q : Round φ) : Prop where
  not_decoded : ¬(t.afterRead q).decodes
  passed : passedOn cbs n t q

def EngCallback.func (cb : EngCallback φ) : FuncKind → Option φ
  | .linuxcmd => cb.engLinuxcmdFunc
  | _ => cb.engDiagFunc

/-- The loop of `processDiag` calls nothing: the first entry that selects the request, if there is
one, has no function for it. -/
def unclaimed (F : Funcs φ) (req : Buffer UInt8) (len : Nat) : List (EngCallback φ) → Prop
  | [] => True
  | cb :: cbs =>
    match cb.selects F req len with
    | none => unclaimed F req len cbs
    | some kind => cb.func kind = none

lemma call_eq_none (cb : EngCallback φ) (kind : FuncKind) (s : Served) (len : Nat) :
    cb.call F kind s len = none ↔ cb.func kind = none := by
  cases kind <;> simp [EngCallback.call, EngCallback.func]

lemma diagLoop_unclaimed (F : Funcs φ) (dispatch : Dispatch) (len : Nat)
    (l : List (EngCallback φ)) (k : Nat) (s : Served) (h : unclaimed F s.req len l) :
    ∃ c, diagLoop F dispatch len l k s = .ok { s with mgr := { s.mgr with lpCurCB := c } } := by
  induction l generalizing k s with
  | nil => exact ⟨s.mgr.lpCurCB, rfl⟩
  | cons cb l ih =>
    have hreq : (s.setCur k).req = s.req := rfl
    rw [unclaimed] at h
    rw [diagLoop, hreq]
    cases hsel : cb.selects F s.req len with
    | none =>
      rw [hsel] at h
      exact ih (k + 1) (s.setCur k) h
    | some kind =>
      rw [hsel] at h
      have hcall := (call_eq_none cb kind (s.setCur k) len (F := F)).mpr h
      refine ⟨some k, ?_⟩
      simp only [hcall]
      rfl

lemma called_calls_lt (cb : EngCallback φ) (k : Nat) (kind : FuncKind) (s : Served) (a : Answer) :
    s.calls.length < ((cb.announce k kind s).called k kind a).calls.length := by
  unfold EngCallback.announce Served.called
  split_ifs
  · simp only [List.length_append, List.length_cons]
    omega
  · simp only [List.length_append, List.length_cons]
    omega

lemma diagLoop_calls (len : Nat) (l : List (EngCallback φ)) (k : Nat) {s s' : Served}
    (h : diagLoop F dispatch len l k s = .ok s') : s.calls.length ≤ s'.calls.length := by
  induction l generalizing k s with
  | nil =>
    obtain rfl := Except.ok.inj h
    exact le_rfl
  | cons cb l ih =>
    rcases diagLoop_cons h with ⟨-, h⟩ | ⟨kind, -, -, rfl⟩ | ⟨kind, c, a, -, -, -, hend⟩
    · exact ih (k + 1) (s := s.setCur k) h
    · exact le_rfl
    · have hadd := called_calls_lt cb k kind (s.setCur k) a
      rcases hend with ⟨-, h⟩ | ⟨-, rfl⟩
      · exact hadd.le.trans (ih (k + 1) h)
      · exact hadd.le

lemma diagLoop_claimed (len : Nat) (l : List (EngCallback φ)) (k : Nat) {s s' : Served}
    (h : diagLoop F dispatch len l k s = .ok s') (hclaimed : ¬unclaimed F s.req len l) :
    s.calls.length < s'.calls.length := by
  induction l generalizing k s with
  | nil => exact absurd trivial hclaimed
  | cons cb l ih =>
    rw [unclaimed] at hclaimed
    rcases diagLoop_cons h with ⟨hsel, h⟩ | ⟨kind, hsel, hcall, -⟩ | ⟨kind, c, a, -, -, -, hend⟩
    · rw [hsel] at hclaimed
      exact ih (k + 1) (s := s.setCur k) h hclaimed
    · rw [hsel] at hclaimed
      exact absurd ((call_eq_none cb kind (s.setCur k) len).mp hcall) hclaimed
    · have hadd := called_calls_lt cb k kind (s.setCur k) a
      rcases hend with ⟨-, h⟩ | ⟨-, rfl⟩
      · exact hadd.trans_le (diagLoop_calls len l (k + 1) h)
      · exact hadd

/-- Neither the loop of `processDiag` nor its end calls a function. -/
structure Unclaimed (cbs : List (EngCallback φ)) (F : Funcs φ) (m : MgrState) (req : Buffer UInt8)
    (len : Nat) : Prop where
  entries : unclaimed F req len cbs
  session : (Served.start m req fun _ => 0).isData → m.lpPendingCB = none

/-- The end of `processDiag`, when it has nobody to give the data to. -/
lemma pendingCall_quiet (cbs : List (EngCallback φ)) (F : Funcs φ) (dispatch : Dispatch)
    (s : Served) (hr : s.rlen = 0 ∧ s.rsp 0 = 0) (h : s.isData → s.mgr.lpPendingCB = none) :
    ∃ s', pendingCall cbs F dispatch s = .ok s' ∧ s'.calls = s.calls ∧ s'.unanswered := by
  unfold pendingCall
  split_ifs with hdata
  · rw [h hdata]
    exact ⟨_, rfl, rfl, .inl hr⟩
  · exact ⟨_, rfl, rfl, .inl hr⟩

lemma Unclaimed.processDiag {m : MgrState} {req : Buffer UInt8} {len : Nat}
    (h : Unclaimed cbs F m req len) :
    ∃ s, processDiag cbs F dispatch m req (fun _ => 0) len = .ok s ∧ s.calls = [] ∧
      s.unanswered := by
  obtain ⟨c, hloop⟩ :=
    diagLoop_unclaimed F dispatch len cbs 0 (.start m req fun _ => 0) h.entries
  obtain ⟨s, hend, hcalls, hs⟩ := pendingCall_quiet cbs F dispatch
    { Served.start m req (fun _ => 0) with mgr := { m with lpCurCB := c } }
    ⟨rfl, rfl⟩ h.session
  refine ⟨s, ?_, hcalls, hs⟩
  unfold EngPc.processDiag
  rw [hloop]
  exact hend

lemma unclaimed_of_calls {m : MgrState} {req : Buffer UInt8} {len : Nat} {s : Served}
    (h : processDiag cbs F dispatch m req (fun _ => 0) len = .ok s) (hcalls : s.calls = []) :
    Unclaimed cbs F m req len := by
  obtain ⟨s₁, hloop, hend⟩ := processDiag_ok h
  have hle : s₁.calls.length ≤ s.calls.length := by
    rcases pendingCall_cases hend with ⟨-, rfl⟩ | ⟨-, -, rfl⟩ | ⟨k, cb, c, a, -, -, -, -, -, rfl⟩
    · exact le_rfl
    · exact le_rfl
    · unfold Served.called
      simp only [List.length_append]
      omega
  have hentries : unclaimed F req len cbs := by
    by_contra hclaimed
    have hlt := diagLoop_claimed len cbs 0 hloop hclaimed
    rw [hcalls] at hle
    exact absurd (hlt.trans_le hle) (Nat.not_lt_zero _)
  refine ⟨hentries, fun hdata => ?_⟩
  obtain ⟨c, hloop'⟩ :=
    diagLoop_unclaimed F dispatch len cbs 0 (.start m req fun _ => 0) hentries
  obtain rfl := Except.ok.inj (hloop.symm.trans hloop')
  rcases pendingCall_cases hend with ⟨hno, -⟩ | ⟨-, hnone, -⟩ | ⟨k, cb, c, a, -, -, -, -, -, rfl⟩
  · exact absurd hdata hno
  · exact hnone
  · cases hcalls

lemma TransState.DiagChannel.afterRead {t : TransState} (ht : t.DiagChannel) (q : Round φ) :
    (t.afterRead q).DiagChannel := by
  unfold TransState.afterRead CProtolDiag.judge
  rw [if_neg (not_not_intro ht.ap)]
  exact ⟨ht.kind, ht.ap, ht.frame⟩

lemma TransState.DiagChannel.decodes {t : TransState} (ht : t.DiagChannel) : t.decodes :=
  ⟨.inl ht.frame, ht.ap⟩

lemma transRound_ok {n : Nat} {t : TransState} {q : Round φ} {x : TransState × TransOut}
    (h : transRound cbs n t q = .ok x) :
    ∃ m', transStep cbs q.funcs (dispatchAt cbs q.funcs n) q.dstType q.mgr (t.afterRead q)
      ⟨(checkframe t.obj.apProcess q.read.buff q.read.len).buff,
        (checkframe t.obj.apProcess q.read.buff q.read.len).nlen⟩ = .ok ((m', x.1), x.2) := by
  unfold transRound at h
  dsimp only at h
  split at h
  next => cases h
  next r hr =>
    obtain rfl := Except.ok.inj h
    exact ⟨r.1.1, hr⟩

lemma TransState.DiagChannel.round {n : Nat} {t : TransState} (ht : t.DiagChannel) {q : Round φ}
    {x : TransState × TransOut} (h : transRound cbs n t q = .ok x) : x.1.DiagChannel := by
  obtain ⟨m', hstep⟩ := transRound_ok h
  exact (ht.afterRead q).step hstep

lemma TransState.DiagChannel.run {n : Nat} {t t' : TransState} (ht : t.DiagChannel)
    (hist : List (Round φ)) {os : List TransOut}
    (h : Machine.run (transRound cbs n) t hist = .ok (t', os)) : t'.DiagChannel := by
  induction hist generalizing t os with
  | nil =>
    obtain ⟨rfl, -⟩ := Prod.mk.inj (Except.ok.inj h)
    exact ht
  | cons q hist ih =>
    obtain ⟨t₁, o, os', hround, hrest, -⟩ := run_cons_ok h
    exact ih (ht.round hround) hrest

lemma checkframe_of_invalid {buff : Buffer UInt8} {nlen : Nat}
    (h : (checkframe 1 buff nlen).type = .invalid) :
    checkframe 1 buff nlen = ⟨.invalid, buff, nlen⟩ := by
  unfold checkframe at h ⊢
  rw [if_neg (by decide)] at h ⊢
  split_ifs at h ⊢ with hends
  split at h
  next => rfl
  next =>
    split at h
    next => cases h
    next => cases h

/-- A round whose read is invalid input: the step gets the bytes as they are. -/
lemma transRound_invalid (cbs : List (EngCallback φ)) (n : Nat) {t : TransState}
    (ht : t.DiagChannel) {q : Round φ}
    (hinv : (checkframe 1 q.read.buff q.read.len).type = .invalid) :
    transRound cbs n t q = (transStep cbs q.funcs (dispatchAt cbs q.funcs n) q.dstType q.mgr
      (t.afterRead q) q.read).map fun r => (r.1.2, r.2) := by
  unfold transRound
  rw [ht.ap, checkframe_of_invalid hinv]
  dsimp only
  cases transStep cbs q.funcs (dispatchAt cbs q.funcs n) q.dstType q.mgr (t.afterRead q) q.read <;>
    rfl

/-- No function of a module runs for what was read. -/
def Round.unclaimed (cbs : List (EngCallback φ)) (t : TransState) (q : Round φ) : Prop :=
  t.obj.dataType = .diag → Unclaimed cbs q.funcs q.mgr q.read.frame.buff q.read.frame.len

lemma mgrProcess_unclaimed {n : Nat} {t : TransState} (ht : t.DiagChannel) {q : Round φ}
    (h : q.unclaimed cbs t) :
    ∃ s, mgrProcess cbs q.funcs (dispatchAt cbs q.funcs n) t.obj.dataType q.mgr
      q.read.frame.buff (fun _ => 0) q.read.frame.len = .ok s ∧ s.calls = [] ∧ s.unanswered := by
  rcases ht.kind with hkind | hkind
  · rw [hkind]
    exact (h hkind).processDiag
  · rw [hkind]
    exact ⟨_, rfl, rfl, .inl ⟨rfl, rfl⟩⟩

/-- Input without a flag goes on as it was read exactly when no function claims it. -/
lemma passedOn_iff (cbs : List (EngCallback φ)) (n : Nat) {t : TransState} (ht : t.DiagChannel)
    {q : Round φ} (hinv : (checkframe 1 q.read.buff q.read.len).type = .invalid) :
    passedOn cbs n t q ↔ q.unclaimed cbs t ∧ q.dstType ≠ .loop := by
  have hafter := ht.afterRead q
  have hkind : (t.afterRead q).obj.dataType = t.obj.dataType := by
    unfold TransState.afterRead CProtolDiag.judge
    rw [if_neg (not_not_intro ht.ap)]
  -- a round that calls nothing is the one of an unclaimed request
  have hround : ∀ s, mgrProcess cbs q.funcs (dispatchAt cbs q.funcs n) t.obj.dataType q.mgr
      q.read.frame.buff (fun _ => 0) q.read.frame.len = .ok s → s.unanswered →
      ∃ t' out, transRound cbs n t q = .ok (t', out) ∧ out.calls = s.calls ∧
        out.writes = if q.dstType = .loop then [] else [(.dst, q.read.bytes)] := by
    intro s hs hun
    rw [← hkind] at hs
    refine ⟨(transOf q.dstType (t.afterRead q) q.read s).1.2, _, ?_,
      transOf_calls q.dstType (t.afterRead q) q.read s,
      transOf_unanswered q.dstType (t.afterRead q) q.read hun⟩
    rw [transRound_invalid cbs n ht hinv, hafter.transStep_eq hs]
    rfl
  constructor
  · rintro ⟨t', out, h, hcalls, hwrites⟩
    have hclaim : q.unclaimed cbs t := by
      intro hdiag
      rw [transRound_invalid cbs n ht hinv] at h
      cases hstep : transStep cbs q.funcs (dispatchAt cbs q.funcs n) q.dstType q.mgr
          (t.afterRead q) q.read with
      | error e =>
        rw [hstep] at h
        cases h
      | ok x =>
        rw [hstep] at h
        obtain rfl : x.2 = out := congrArg Prod.snd (Except.ok.inj h)
        obtain ⟨s, hs, rfl⟩ := hafter.transStep_ok hstep
        rw [transOf_calls] at hcalls
        rw [hkind, hdiag] at hs
        exact unclaimed_of_calls hs hcalls
    obtain ⟨s, hs, -, hun⟩ := mgrProcess_unclaimed ht hclaim
    obtain ⟨t'', out', h', -, hwrites'⟩ := hround s hs hun
    obtain rfl : out = out' := congrArg Prod.snd (Except.ok.inj (h.symm.trans h'))
    refine ⟨hclaim, fun hloop => ?_⟩
    rw [if_pos hloop, hwrites] at hwrites'
    cases hwrites'
  · rintro ⟨hclaim, hloop⟩
    obtain ⟨s, hs, hcalls, hun⟩ := mgrProcess_unclaimed ht hclaim
    obtain ⟨t', out, h, hcalls', hwrites⟩ := hround s hs hun
    rw [if_neg hloop] at hwrites
    exact ⟨t', out, h, hcalls'.trans hcalls, hwrites⟩

/-- Whatever a diag channel has read before, it decodes input without a flag, so that no such input
is untouched; it is at least passed on exactly when no function claims it and the destination is no
loop port. -/
theorem invalid_read_decoded (cbs : List (EngCallback φ)) (n : Nat) (dataType : DataType)
    (hkind : dataType = .diag ∨ dataType = .wcnDiag) (hist : List (Round φ)) (t : TransState)
    (os : List TransOut) (hrun : run (transRound cbs n) (.init dataType 1) hist = .ok (t, os))
    (q : Round φ) (hinv : (checkframe 1 q.read.buff q.read.len).type = .invalid) :
    ¬Untouched cbs n t q ∧ (passedOn cbs n t q ↔ q.unclaimed cbs t ∧ q.dstType ≠ .loop) := by
  have ht := (diagChannel_init dataType hkind).run hist hrun
  exact ⟨fun h => h.not_decoded (ht.afterRead q).decodes, passedOn_iff cbs n ht hinv⟩

/-- A module for the command 0x10, 0x20, and the round of a read that carries it without flags. -/
def plainModule : List (EngCallback Unit) :=
  [⟨0xffffffff, 0x10, 0x20, [], false, some (), none, none, none⟩]

def plainRound : Round Unit where
  read := ⟨Buffer.fill (fun _ => 0) 0 [1, 0, 0, 0, 0, 8, 0, 0x10, 0x20, 1], 10⟩
  mgr := .init
  funcs := ⟨fun _ req rsp => .ret 0 req rsp, fun _ req _ rsp _ => .ret engDiagNoResponse req rsp,
    fun _ _ _ => 1⟩
  dstType := .gser

theorem invalid_read_decoded_first :
    ¬Untouched plainModule 0 (.init .diag 1) plainRound ∧
      (passedOn plainModule 0 (.init .diag 1) plainRound ↔
        plainRound.unclaimed plainModule (.init .diag 1) ∧ plainRound.dstType ≠ .loop) :=
  invalid_read_decoded plainModule 0 .diag (.inl rfl) [] (.init .diag 1) [] rfl plainRound rfl

/-- The module gets the bytes, and nothing goes to the destination port. -/
theorem invalid_read_claimed :
    (checkframe 1 plainRound.read.buff plainRound.read.len).type = .invalid ∧
      ((TransState.init .diag 1).afterRead plainRound).decodes ∧
      ∃ t out, transRound plainModule 0 (.init .diag 1) plainRound = .ok (t, out) ∧
        out.calls = [⟨0, .diag, engDiagNoResponse⟩] ∧ out.writes = [] :=
  ⟨rfl, ⟨.inl rfl, rfl⟩, _, _, rfl, rfl, rfl⟩

end EngPc
