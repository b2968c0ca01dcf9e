import EngPc.Model.ModuleMgr

/-!
# The manager's loops

What one round of each loop can do, and from it what any processing of a request does to the two
pointers of the manager.
-/

namespace EngPc

variable {φ : Type} {cbs : List (EngCallback φ)} {F : Funcs φ} {dispatch : Dispatch}

lemma Call.run_send {way : WriteInterface} {buf : Buffer UInt8} {len : Nat}
    {next : Int → Buffer UInt8 → Call} {m : MgrState} {a : Answer}
    (h : (Call.send way buf len next).run dispatch m = .ok a) :
    ∃ d a', dispatch way.dataType m buf len = .ok d ∧
      (next d.rlen d.req).run dispatch d.mgr = .ok a' ∧
      a = { a' with calls := d.calls ++ a'.calls, offered := d.offered || a'.offered } := by
  rw [Call.run] at h
  cases hdis : dispatch way.dataType m buf len with
  | error e => simp [hdis] at h
  | ok d =>
    cases hrun : (next d.rlen d.req).run dispatch d.mgr with
    | error e => simp [hdis, hrun] at h
    | ok a' =>
      simp only [hdis, hrun, Except.ok.injEq] at h
      exact ⟨d, a', rfl, hrun, h.symm⟩

/-- The three ways through a round of the loop of `processDiag`. -/
lemma diagLoop_cons {len k : Nat} {cb : EngCallback φ} {l : List (EngCallback φ)} {s s' : Served}
    (h : diagLoop F dispatch len (cb :: l) k s = .ok s') :
    (cb.selects F s.req len = none ∧ diagLoop F dispatch len l (k + 1) (s.setCur k) = .ok s') ∨
    (∃ kind, cb.selects F s.req len = some kind ∧ cb.call F kind (s.setCur k) len = none ∧
      s' = s.setCur k) ∨
    ∃ kind c a, cb.selects F s.req len = some kind ∧
      cb.call F kind (s.setCur k) len = some c ∧ c.run dispatch (s.setCur k).mgr = .ok a ∧
      ((a.rlen = engDiagRetUnsupport ∧
        diagLoop F dispatch len l (k + 1) ((cb.announce k kind (s.setCur k)).called k kind a) =
          .ok s') ∨
      (a.rlen ≠ engDiagRetUnsupport ∧
        s' = cb.accept ((cb.announce k kind (s.setCur k)).called k kind a))) := by
  rw [diagLoop] at h
  have hreq : (s.setCur k).req = s.req := rfl
  rw [← hreq]
  cases hsel : cb.selects F (s.setCur k).req len with
  | none =>
    simp only [hsel] at h
    exact .inl ⟨rfl, h⟩
  | some kind =>
    cases hcall : cb.call F kind (s.setCur k) len with
    | none =>
      simp only [hsel, hcall, Except.ok.injEq] at h
      exact .inr (.inl ⟨kind, rfl, hcall, h.symm⟩)
    | some c =>
      cases hrun : c.run dispatch (s.setCur k).mgr with
      | error e => simp [hsel, hcall, hrun] at h
      | ok a =>
        simp only [hsel, hcall, hrun] at h
        split at h
        · exact .inr (.inr ⟨kind, c, a, rfl, hcall, hrun, .inl ⟨‹_›, h⟩⟩)
        · exact .inr (.inr ⟨kind, c, a, rfl, hcall, hrun, .inr ⟨‹_›, (Except.ok.inj h).symm⟩⟩)

lemma pendingCall_cases {s s' : Served} (h : pendingCall cbs F dispatch s = .ok s') :
    (¬s.isData ∧ s' = { s with mgr := s.mgr.clearPendingMark }) ∨
    (s.isData ∧ s.mgr.lpPendingCB = none ∧ s' = { s with offered := true }) ∨
    ∃ k cb c a, s.isData ∧ s.mgr.lpPendingCB = some k ∧ cbs[k]? = some cb ∧
      cb.call F .linuxcmd s 0 = some c ∧ c.run dispatch s.mgr = .ok a ∧
      s' = { s.called k .linuxcmd a with offered := true } := by
  unfold pendingCall at h
  split at h
  case isTrue hdata =>
    cases hp : s.mgr.lpPendingCB with
    | none =>
      simp only [hp, Except.ok.injEq] at h
      exact .inr (.inl ⟨hdata, rfl, h.symm⟩)
    | some k =>
      cases hk : cbs[k]? with
      | none => simp [hp, hk] at h
      | some cb =>
        cases hcall : cb.call F .linuxcmd s 0 with
        | none => simp [hp, hk, hcall] at h
        | some c =>
          cases hrun : c.run dispatch s.mgr with
          | error e => simp [hp, hk, hcall, hrun] at h
          | ok a =>
            simp only [hp, hk, hcall, hrun, Except.ok.injEq] at h
            exact .inr (.inr ⟨k, cb, c, a, hdata, rfl, hk, hcall, hrun, h.symm⟩)
  case isFalse hdata => exact .inl ⟨hdata, (Except.ok.inj h).symm⟩

/-- The three ways through a round of the loop of `processAT`. -/
lemma atLoop_cons {k : Nat} {cb : EngCallback φ} {l : List (EngCallback φ)} {s s' : Served}
    (h : atLoop F dispatch (cb :: l) k s = .ok s') :
    (¬cb.atMatches s.req ∧ atLoop F dispatch l (k + 1) s = .ok s') ∨
    (cb.atMatches s.req ∧ cb.call F .linuxcmd s 0 = none ∧ s' = s) ∨
    ∃ c a, cb.atMatches s.req ∧ cb.call F .linuxcmd s 0 = some c ∧
      c.run dispatch s.mgr = .ok a ∧
      ((a.rlen = engDiagRetUnsupport ∧
        atLoop F dispatch l (k + 1) (s.called k .linuxcmd a) = .ok s') ∨
      (a.rlen ≠ engDiagRetUnsupport ∧ s' = cb.accept (s.called k .linuxcmd a))) := by
  rw [atLoop] at h
  split at h
  case isTrue hm =>
    cases hcall : cb.call F .linuxcmd s 0 with
    | none =>
      simp only [hcall, Except.ok.injEq] at h
      exact .inr (.inl ⟨hm, rfl, h.symm⟩)
    | some c =>
      cases hrun : c.run dispatch s.mgr with
      | error e => simp [hcall, hrun] at h
      | ok a =>
        simp only [hcall, hrun] at h
        split at h
        · exact .inr (.inr ⟨c, a, hm, rfl, hrun, .inl ⟨‹_›, h⟩⟩)
        · exact .inr (.inr ⟨c, a, hm, rfl, hrun, .inr ⟨‹_›, (Except.ok.inj h).symm⟩⟩)
  case isFalse hm => exact .inl ⟨hm, h⟩

lemma processDiag_ok {m : MgrState} {buf rsp : Buffer UInt8} {len : Nat} {s' : Served}
    (h : processDiag cbs F dispatch m buf rsp len = .ok s') :
    ∃ s, diagLoop F dispatch len cbs 0 (.start m buf rsp) = .ok s ∧
      pendingCall cbs F dispatch s = .ok s' := by
  unfold processDiag at h
  cases hloop : diagLoop F dispatch len cbs 0 (.start m buf rsp) with
  | error e => simp [hloop] at h
  | ok s => exact ⟨s, rfl, by simpa [hloop] using h⟩

section Keeps

/-- The loop of `processDiag` may point `m_lpCurCB` anywhere, its end may clear `m_lpPendingCB`. -/
structure PointerInvariant (P : MgrState → Prop) : Prop where
  cur : ∀ (m : MgrState) (k : Nat), P m → P { m with lpCurCB := some k }
  clear : ∀ m : MgrState, P m → P m.clearPendingMark

def Dispatch.Keeps (dispatch : Dispatch) (P : MgrState → Prop) : Prop :=
  ∀ type m buf len d, P m → dispatch type m buf len = .ok d → P d.mgr

variable {P : MgrState → Prop}

lemma Call.run_keeps (hd : dispatch.Keeps P) (c : Call) {m : MgrState} {a : Answer} (hm : P m)
    (h : c.run dispatch m = .ok a) : P a.mgr := by
  induction c generalizing m a with
  | ret rlen req rsp =>
    obtain rfl := Except.ok.inj h
    exact hm
  | send way buf len next ih =>
    obtain ⟨d, a', hdis, hrun, rfl⟩ := Call.run_send h
    have ha : P a'.mgr := ih d.rlen d.req (hd _ _ _ _ _ hm hdis) hrun
    exact ha

lemma diagLoop_keeps (hP : PointerInvariant P) (hd : dispatch.Keeps P) (len : Nat)
    (l : List (EngCallback φ)) (k : Nat) {s s' : Served} (hs : P s.mgr)
    (h : diagLoop F dispatch len l k s = .ok s') : P s'.mgr := by
  induction l generalizing k s with
  | nil =>
    obtain rfl := Except.ok.inj h
    exact hs
  | cons cb l ih =>
    have hset : P (s.setCur k).mgr := hP.cur _ k hs
    rcases diagLoop_cons h with ⟨-, h⟩ | ⟨kind, -, -, rfl⟩ | ⟨kind, c, a, -, -, hrun, hend⟩
    · exact ih (k + 1) hset h
    · exact hset
    · have ha := Call.run_keeps hd c hset hrun
      rcases hend with ⟨-, h⟩ | ⟨-, rfl⟩
      · exact ih (k + 1) ha h
      · exact ha

lemma pendingCall_keeps (hP : PointerInvariant P) (hd : dispatch.Keeps P) {s s' : Served}
    (hs : P s.mgr) (h : pendingCall cbs F dispatch s = .ok s') : P s'.mgr := by
  rcases pendingCall_cases h with ⟨-, rfl⟩ | ⟨-, -, rfl⟩ | ⟨k, cb, c, a, -, -, -, -, hrun, rfl⟩
  · exact hP.clear _ hs
  · exact hs
  · exact Call.run_keeps hd c hs hrun

lemma atLoop_keeps (hd : dispatch.Keeps P) (l : List (EngCallback φ)) (k : Nat) {s s' : Served}
    (hs : P s.mgr) (h : atLoop F dispatch l k s = .ok s') : P s'.mgr := by
  induction l generalizing k s with
  | nil =>
    obtain rfl := Except.ok.inj h
    exact hs
  | cons cb l ih =>
    rcases atLoop_cons h with ⟨-, h⟩ | ⟨-, -, rfl⟩ | ⟨c, a, -, -, hrun, hend⟩
    · exact ih (k + 1) hs h
    · exact hs
    · have ha := Call.run_keeps hd c hs hrun
      rcases hend with ⟨-, h⟩ | ⟨-, rfl⟩
      · exact ih (k + 1) ha h
      · exact ha

lemma processDiag_keeps (hP : PointerInvariant P) (hd : dispatch.Keeps P) {m : MgrState}
    {buf rsp : Buffer UInt8} {len : Nat} {s' : Served} (hm : P m)
    (h : processDiag cbs F dispatch m buf rsp len = .ok s') : P s'.mgr := by
  obtain ⟨s, hloop, hend⟩ := processDiag_ok h
  exact pendingCall_keeps hP hd (diagLoop_keeps hP hd len cbs 0 hm hloop) hend

lemma mgrProcess_keeps (hP : PointerInvariant P) (hd : dispatch.Keeps P) {type : DataType}
    {m : MgrState} {buf rsp : Buffer UInt8} {len : Nat} {s' : Served} (hm : P m)
    (h : mgrProcess cbs F dispatch type m buf rsp len = .ok s') : P s'.mgr := by
  have hstart : P (Served.start m buf rsp).mgr := hm
  cases type with
  | «at» => exact atLoop_keeps hd cbs 0 hstart h
  | wcnAt =>
    unfold mgrProcess processWcnAT at h
    cases hat : processAT cbs F dispatch m buf rsp with
    | error e => simp [hat] at h
    | ok s =>
      have hs := atLoop_keeps hd cbs 0 hstart hat
      simp only [hat] at h
      split at h
      · obtain rfl := Except.ok.inj h
        exact hs
      · obtain rfl := Except.ok.inj h
        exact hs
  | diag => exact processDiag_keeps hP hd hm h
  | log | wcnDiag | agdspLog | agdspPcm | agdspMem | agdspMix | unknown =>
    obtain rfl := Except.ok.inj h
    exact hm

/-- However deep the modules dispatch, an invariant of the two pointers stays true. -/
lemma dispatchAt_keeps (hP : PointerInvariant P) (n : Nat) :
    (dispatchAt cbs F n).Keeps P := by
  induction n with
  | zero =>
    intro type m buf len d _ h
    cases h
  | succ n ih =>
    intro type m buf len d hm h
    exact mgrProcess_keeps hP ih hm h

end Keeps

/-- No processing of a request opens a session: that is left to `setPendingMark`. -/
lemma noSession_invariant : PointerInvariant fun m => m.lpPendingCB = none :=
  ⟨fun _ _ h => h, fun _ _ => rfl⟩

end EngPc
