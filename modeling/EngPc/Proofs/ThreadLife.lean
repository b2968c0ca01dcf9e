import EngPc.Model.ThreadLife

/-!
# One live loop for each channel thread

As long as `m_lpTrans` is not written while another loop is served by it, there is one loop at most,
`m_lpTrans` points to its object, and so `activeDstPort` reaches it.
-/

namespace EngPc
open Reach

variable {π κ : Type} {s s' : LifeState π κ} {i : Nat}

structure LifeInvariant (s : LifeState π κ) : Prop where
  pointed : ∀ (i : Nat) (w : Worker π), s.workers[i]? = some w →
    w.stage = .published ∨ w.stage = .looping → s.lpTrans = some i
  reached : ∀ (i : Nat) (w : Worker π), s.workers[i]? = some w → w.stage = .looping →
    w.portDst = some s.portDst

lemma modify_getElem?_eq_some {l : List (Worker π)} {f : Worker π → Worker π} {j : Nat}
    {w : Worker π} (h : (l.modify i f)[j]? = some w) :
    j ≠ i ∧ l[j]? = some w ∨ j = i ∧ ∃ v, l[i]? = some v ∧ w = f v := by
  rw [List.getElem?_modify] at h
  by_cases hij : i = j
  · right
    subst hij
    simp only [if_true, Option.map_eq_map, Option.map_eq_some_iff] at h
    obtain ⟨v, hv, rfl⟩ := h
    exact ⟨rfl, v, hv, rfl⟩
  · left
    simp only [if_neg hij, Option.map_eq_map, Option.map_id'] at h
    exact ⟨Ne.symm hij, h⟩

lemma append_getElem?_eq_some {l : List (Worker π)} {v w : Worker π} {j : Nat}
    (h : (l ++ [v])[j]? = some w) : l[j]? = some w ∨ w = v := by
  rw [List.getElem?_append] at h
  split_ifs at h with hj
  · exact .inl h
  · right
    have hv := List.mem_of_getElem? h
    exact List.mem_singleton.mp hv

lemma lifeInvariant_init (enable : Int) (dataType : DataType) (portDst : π) :
    LifeInvariant (LifeState.init enable dataType portDst : LifeState π κ) where
  pointed i w hw := by simp [LifeState.init] at hw
  reached i w hw := by simp [LifeState.init] at hw

lemma LifeInvariant.congr (h : LifeInvariant s) (hworkers : s'.workers = s.workers)
    (htrans : s'.lpTrans = s.lpTrans) (hdst : s'.portDst = s.portDst) : LifeInvariant s' := by
  refine ⟨?_, ?_⟩
  · rw [hworkers, htrans]
    exact h.pointed
  · rw [hworkers, hdst]
    exact h.reached

lemma LifeInvariant.go (h : LifeInvariant s) {stage : WorkerStage} (hpub : stage ≠ .published)
    (hloop : stage ≠ .looping) : LifeInvariant (s.go i stage) := by
  refine ⟨?_, ?_⟩
  · intro j w hw hst
    rcases modify_getElem?_eq_some hw with ⟨-, hold⟩ | ⟨-, v, -, rfl⟩
    · exact h.pointed j w hold hst
    · rcases hst with hst | hst
      · exact absurd hst hpub
      · exact absurd hst hloop
  · intro j w hw hst
    rcases modify_getElem?_eq_some hw with ⟨-, hold⟩ | ⟨-, v, -, rfl⟩
    · exact h.reached j w hold hst
    · exact absurd hst hloop

lemma LifeInvariant.run (h : LifeInvariant s) : LifeInvariant s.run := by
  unfold LifeState.run
  split_ifs
  · exact h
  refine ⟨?_, ?_⟩
  · intro j w hw hst
    rcases append_getElem?_eq_some hw with hold | rfl
    · exact h.pointed j w hold hst
    · rcases hst with hst | hst <;> cases hst
  · intro j w hw hst
    rcases append_getElem?_eq_some hw with hold | rfl
    · exact h.reached j w hold hst
    · cases hst

lemma not_serving_others (hok : ∀ j < s.workers.length, j ≠ i → ¬s.Serving j) {j : Nat}
    {w : Worker π} (hj : j ≠ i) (hw : s.workers[j]? = some w) :
    ¬(w.stage = .published ∨ w.stage = .looping) := by
  intro hst
  obtain ⟨hlen, -⟩ := List.getElem?_eq_some_iff.mp hw
  apply hok j hlen hj
  unfold LifeState.Serving LifeState.stageOf
  rw [hw]
  simpa using hst

lemma LifeInvariant.publish (h : LifeInvariant s)
    (hok : ∀ j < s.workers.length, j ≠ i → ¬s.Serving j) :
    LifeInvariant { s.go i .published with lpTrans := some i } := by
  refine ⟨?_, ?_⟩
  · intro j w hw hst
    rcases modify_getElem?_eq_some hw with ⟨hj, hold⟩ | ⟨rfl, -⟩
    · exact absurd hst (not_serving_others hok hj hold)
    · rfl
  · intro j w hw hst
    rcases modify_getElem?_eq_some hw with ⟨-, hold⟩ | ⟨-, v, -, rfl⟩
    · exact h.reached j w hold hst
    · cases hst

lemma LifeInvariant.clear (h : LifeInvariant s)
    (hok : ∀ j < s.workers.length, j ≠ i → ¬s.Serving j) :
    LifeInvariant { s.go i .finished with lpTrans := none } := by
  refine ⟨?_, ?_⟩
  · intro j w hw hst
    rcases modify_getElem?_eq_some hw with ⟨hj, hold⟩ | ⟨-, v, -, rfl⟩
    · exact absurd hst (not_serving_others hok hj hold)
    · rcases hst with hst | hst <;> cases hst
  · intro j w hw hst
    rcases modify_getElem?_eq_some hw with ⟨-, hold⟩ | ⟨-, v, -, rfl⟩
    · exact h.reached j w hold hst
    · cases hst

lemma LifeInvariant.enter (h : LifeInvariant s) (hst : s.stageOf i = some .published) :
    LifeInvariant
      { s with workers := s.workers.modify i fun _ => ⟨.looping, some s.portDst⟩ } := by
  refine ⟨?_, ?_⟩
  · intro j w hw hserving
    rcases modify_getElem?_eq_some hw with ⟨-, hold⟩ | ⟨rfl, v, hv, -⟩
    · exact h.pointed j w hold hserving
    · unfold LifeState.stageOf at hst
      rw [hv] at hst
      exact h.pointed j v hv (.inl (Option.some.inj hst))
  · intro j w hw hloop
    rcases modify_getElem?_eq_some hw with ⟨-, hold⟩ | ⟨-, v, -, rfl⟩
    · exact h.reached j w hold hloop
    · rfl

lemma LifeInvariant.activeDstPort (h : LifeInvariant s) (port : π) :
    LifeInvariant (s.activeDstPort port) := by
  unfold LifeState.activeDstPort
  cases htrans : s.lpTrans with
  | none =>
    have hno : ∀ (j : Nat) (w : Worker π), s.workers[j]? = some w →
        ¬(w.stage = .published ∨ w.stage = .looping) := by
      intro j w hw hst
      have hsome := h.pointed j w hw hst
      rw [htrans] at hsome
      cases hsome
    refine ⟨?_, ?_⟩
    · intro j w hw hst
      exact absurd hst (hno j w hw)
    · intro j w hw hst
      exact absurd (.inr hst) (hno j w hw)
  | some k =>
    have honly : ∀ (j : Nat) (w : Worker π), s.workers[j]? = some w →
        w.stage = .published ∨ w.stage = .looping → k = j := by
      intro j w hw hst
      have hsome := h.pointed j w hw hst
      rw [htrans] at hsome
      exact Option.some.inj hsome
    refine ⟨?_, ?_⟩
    · intro j w hw hst
      rcases modify_getElem?_eq_some hw with ⟨-, hold⟩ | ⟨rfl, -⟩
      · exact congrArg some (honly j w hold hst)
      · rfl
    · intro j w hw hst
      rcases modify_getElem?_eq_some hw with ⟨hj, hold⟩ | ⟨-, v, -, rfl⟩
      · exact absurd (honly j w hold (.inr hst)).symm hj
      · rfl

lemma threadMain_keeps {stage : WorkerStage} (h : LifeInvariant s)
    (hst : s.stageOf i = some stage) (hok : Exclusive s (.work i))
    (hstep : threadMain s i stage = some s') : LifeInvariant s' := by
  have hexcl : stage = .flagged ∨ stage = .deleted →
      ∀ j < s.workers.length, j ≠ i → ¬s.Serving j := by
    intro hor
    apply hok
    rw [hst]
    simpa using hor
  cases stage with
  | created =>
    cases hstep
    apply h.go <;> split_ifs <;> decide
  | made =>
    cases hstep
    exact (h.go (i := i) (by decide) (by decide)).congr rfl rfl rfl
  | flagged =>
    cases hstep
    exact h.publish (hexcl (.inl rfl))
  | published =>
    cases hstep
    exact h.enter hst
  | looping => cases hstep
  | ended =>
    cases hstep
    exact (h.go (i := i) (by decide) (by decide)).congr rfl rfl rfl
  | unflagged =>
    cases hstep
    exact h.go (by decide) (by decide)
  | deleted =>
    cases hstep
    exact h.clear (hexcl (.inr rfl))
  | finished => cases hstep

section Runs

variable [DecidableEq κ]

lemma lifeNext_keeps {ev : LifeEvent π κ} (h : LifeInvariant s) (hok : Exclusive s ev)
    (hstep : lifeNext s ev = some s') : LifeInvariant s' := by
  cases ev with
  | run =>
    cases hstep
    exact h.run
  | check c =>
    cases hstep
    exact h.congr rfl rfl rfl
  | runStopped c =>
    simp only [lifeNext] at hstep
    split_ifs at hstep
    cases hstep
    exact h.run.congr rfl rfl rfl
  | work i =>
    simp only [lifeNext] at hstep
    obtain ⟨stage, hst, hstep⟩ := Option.bind_eq_some_iff.mp hstep
    exact threadMain_keeps h hst hok hstep
  | endLoop i =>
    simp only [lifeNext] at hstep
    split_ifs at hstep
    cases hstep
    exact h.go (by decide) (by decide)
  | activeDstPort port =>
    cases hstep
    exact h.activeDstPort port

/-- In every run of exclusive steps: there is one loop at most, `m_lpTrans` points to its live
object, and the loop writes to the active destination of the channel thread. -/
theorem one_live_loop (enable : Int) (dataType : DataType) (portDst : π) (s : LifeState π κ)
    (h : Reachable (guarded lifeNext Exclusive) (LifeState.init enable dataType portDst) s) :
    (∀ i j, s.stageOf i = some .looping → s.stageOf j = some .looping → i = j) ∧
    ∀ i, s.stageOf i = some .looping → s.lpTrans = some i ∧
      s.workers[i]? = some ⟨.looping, some s.portDst⟩ := by
  have hinv : LifeInvariant s := by
    apply h.invariant_guarded (lifeInvariant_init enable dataType portDst)
    intro s ev s' hs hok hstep
    exact lifeNext_keeps hs hok hstep
  have hloop : ∀ i, s.stageOf i = some .looping → s.lpTrans = some i ∧
      s.workers[i]? = some ⟨.looping, some s.portDst⟩ := by
    intro i hi
    unfold LifeState.stageOf at hi
    obtain ⟨⟨stage, dst⟩, hw, hst⟩ := Option.map_eq_some_iff.mp hi
    refine ⟨hinv.pointed i _ hw (.inr hst), ?_⟩
    have hdst := hinv.reached i _ hw hst
    dsimp only at hst hdst
    rw [hw, hst, hdst]
  refine ⟨?_, hloop⟩
  intro i j hi hj
  exact Option.some.inj ((hloop i hi).1.symm.trans (hloop j hj).1)

/-- A channel thread that is stopped, started again when its first thread has finished, and then
redirected. -/
def restarted : List (LifeEvent Nat Unit) :=
  [.run, .work 0, .work 0, .work 0, .work 0, .endLoop 0, .work 0, .work 0, .work 0, .check (),
    .runStopped (), .work 1, .work 1, .work 1, .work 1, .activeDstPort 3]

def restartedState : LifeState Nat Unit :=
  (replay (guarded lifeNext Exclusive) (.init 1 .diag 2) restarted).getD (.init 1 .diag 2)

theorem one_live_loop_restarted :
    restartedState.lpTrans = some 1 ∧
    restartedState.workers[1]? = some ⟨.looping, some 3⟩ := by
  have hreach : Reachable (guarded lifeNext Exclusive) (.init 1 .diag 2) restartedState :=
    reachable_of_replay (l := restarted) rfl
  obtain ⟨-, hloop⟩ := one_live_loop 1 .diag 2 restartedState hreach
  exact hloop 1 rfl

end Runs

/-- A control thread calls `run` before the thread that was started first has raised
`m_isRunning`. -/
def startTwice : List (LifeEvent Nat Unit) :=
  [.run, .check (), .runStopped (), .work 0, .work 0, .work 0, .work 0, .work 1, .work 1, .work 1,
    .work 1]

/-- A control thread calls `run` when the loop of the first thread has ended, and that one clears
`m_lpTrans` in the end. -/
def startAfterEnd : List (LifeEvent Nat Unit) :=
  [.run, .work 0, .work 0, .work 0, .work 0, .endLoop 0, .work 0, .check (), .runStopped (),
    .work 1, .work 1, .work 1, .work 1, .work 0, .work 0]

def lifeAfter (evs : List (LifeEvent Nat Unit)) : LifeState Nat Unit :=
  (replay lifeNext (.init 1 .diag 2) evs).getD (.init 1 .diag 2)

/-- Two loops at once, with `m_lpTrans` on the second one; and one loop with no `m_lpTrans`. -/
theorem loops_out_of_reach :
    (Reachable lifeNext (.init 1 .diag 2) (lifeAfter startTwice) ∧
      (lifeAfter startTwice).stageOf 0 = some .looping ∧
      (lifeAfter startTwice).stageOf 1 = some .looping ∧
      (lifeAfter startTwice).lpTrans = some 1) ∧
    Reachable lifeNext (.init 1 .diag 2) (lifeAfter startAfterEnd) ∧
    (lifeAfter startAfterEnd).stageOf 1 = some .looping ∧
    (lifeAfter startAfterEnd).lpTrans = none :=
  ⟨⟨reachable_of_replay (l := startTwice) rfl, rfl, rfl, rfl⟩,
    reachable_of_replay (l := startAfterEnd) rfl, rfl, rfl⟩

end EngPc
