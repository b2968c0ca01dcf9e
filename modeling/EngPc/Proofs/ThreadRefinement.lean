import EngPc.Proofs.ThreadLife

/-!
# Channel threads in the graph of channels

The graph has one thread for each source port, with one live loop at most. A `CChnlThread` is such a
thread as long as the steps of its threads are exclusive: forgetting the threads, each step is a
move of the thread in the graph, or none.
-/

namespace EngPc
open Reach

variable {π κ : Type} {s s' : LifeState π κ} {i : Nat}

/-- The destination of the loop, where there is one. -/
def LifeState.liveDst (s : LifeState π κ) : Option π :=
  (s.workers.find? fun w => w.stage = .looping).bind Worker.portDst

/-- The channel thread with its threads forgotten. -/
def LifeState.asThread (s : LifeState π κ) (td : ChnlThread π) : ChnlThread π :=
  { td with enable := s.enable, dataType := s.dataType, portDst := s.portDst, trans := s.liveDst }

/-- The moves of one thread in the graph of channels. -/
inductive Moves (td : ChnlThread π) : ChnlThread π → Prop
  | stay : Moves td td
  | start : td.enable ≠ 0 → hasTrans td.dataType = true → td.trans = none → Moves td td.start
  | finish : td.trans.isSome = true → Moves td td.finish
  | activeDstPort (port : π) : Moves td (td.activeDstPort port)

/-- Only a channel thread that is enabled has threads, and only one with a `CTrans` lets them go on
to their loop. -/
def Started (s : LifeState π κ) : Prop :=
  ∀ w ∈ s.workers, s.enable ≠ 0 ∧
    (w.stage ≠ .created → w.stage ≠ .finished → hasTrans s.dataType = true)

lemma stageOf_eq_some {stage : WorkerStage} :
    s.stageOf i = some stage ↔ ∃ w, s.workers[i]? = some w ∧ w.stage = stage :=
  Option.map_eq_some_iff

lemma liveDst_cases (h : LifeInvariant s) :
    (∃ i, s.stageOf i = some .looping) ∧ s.liveDst = some s.portDst ∨
    (∀ i, s.stageOf i ≠ some .looping) ∧ s.liveDst = none := by
  unfold LifeState.liveDst
  cases hfind : s.workers.find? fun w => w.stage = .looping with
  | none =>
    right
    refine ⟨?_, rfl⟩
    intro i hi
    obtain ⟨w, hw, hst⟩ := stageOf_eq_some.mp hi
    rw [List.find?_eq_none] at hfind
    exact hfind w (List.mem_of_getElem? hw) (decide_eq_true hst)
  | some w =>
    left
    have hst : w.stage = .looping := by simpa using List.find?_some hfind
    obtain ⟨i, hi⟩ := List.mem_iff_getElem?.mp (List.mem_of_find?_eq_some hfind)
    exact ⟨⟨i, stageOf_eq_some.mpr ⟨w, hi, hst⟩⟩, h.reached i w hi hst⟩

/-- Where the same loops run and nothing is redirected, the thread of the graph stays. -/
lemma asThread_congr (h : LifeInvariant s) (h' : LifeInvariant s')
    (hloops : ∀ i, s'.stageOf i = some .looping ↔ s.stageOf i = some .looping)
    (henable : s'.enable = s.enable) (htype : s'.dataType = s.dataType)
    (hdst : s'.portDst = s.portDst) (td : ChnlThread π) : s'.asThread td = s.asThread td := by
  have hlive : s'.liveDst = s.liveDst := by
    rcases liveDst_cases h with ⟨⟨i, hi⟩, heq⟩ | ⟨hno, heq⟩
    · rcases liveDst_cases h' with ⟨-, heq'⟩ | ⟨hno', -⟩
      · rw [heq, heq', hdst]
      · exact absurd ((hloops i).mpr hi) (hno' i)
    · rcases liveDst_cases h' with ⟨⟨i, hi⟩, -⟩ | ⟨-, heq'⟩
      · exact absurd ((hloops i).mp hi) (hno i)
      · rw [heq, heq']
  unfold LifeState.asThread
  rw [henable, htype, hdst, hlive]

lemma stageOf_modify {f : Worker π → Worker π} (hworkers : s'.workers = s.workers.modify i f)
    (j : Nat) :
    s'.stageOf j = (s.workers[j]?).map fun w => if i = j then (f w).stage else w.stage := by
  unfold LifeState.stageOf
  rw [hworkers, List.getElem?_modify, Option.map_eq_map, Option.map_map]
  congr 1
  funext w
  by_cases hij : i = j
  · simp [hij]
  · simp [hij]

/-- A step that leaves its thread out of the loop, as it was before. -/
lemma loops_modify {f : Worker π → Worker π} {stage : WorkerStage}
    (hworkers : s'.workers = s.workers.modify i f) (hst : s.stageOf i = some stage)
    (hold : stage ≠ .looping) (hnew : ∀ w : Worker π, (f w).stage ≠ .looping) (j : Nat) :
    s'.stageOf j = some .looping ↔ s.stageOf j = some .looping := by
  obtain ⟨v, hv, rfl⟩ := stageOf_eq_some.mp hst
  rw [stageOf_modify hworkers]
  by_cases hij : i = j
  · subst hij
    simp [LifeState.stageOf, hv, hnew, hold]
  · simp [LifeState.stageOf, hij]

lemma loops_run (j : Nat) :
    s.run.stageOf j = some .looping ↔ s.stageOf j = some .looping := by
  unfold LifeState.run
  split_ifs
  · rfl
  rw [stageOf_eq_some, stageOf_eq_some]
  constructor
  · rintro ⟨w, hw, hst⟩
    rcases append_getElem?_eq_some hw with hold | rfl
    · exact ⟨w, hold, hst⟩
    · cases hst
  · rintro ⟨w, hw, hst⟩
    refine ⟨w, ?_, hst⟩
    obtain ⟨hlen, -⟩ := List.getElem?_eq_some_iff.mp hw
    rw [← hw]
    exact List.getElem?_append_left hlen

lemma threadMain_moves {stage : WorkerStage} (h : LifeInvariant s) (h' : LifeInvariant s')
    (hstarted : Started s) (hst : s.stageOf i = some stage)
    (hstep : threadMain s i stage = some s') (td : ChnlThread π) :
    Moves (s.asThread td) (s'.asThread td) := by
  have hstay : stage ≠ .looping → s'.enable = s.enable → s'.dataType = s.dataType →
      s'.portDst = s.portDst → (∃ f : Worker π → Worker π, s'.workers = s.workers.modify i f ∧
        ∀ w, (f w).stage ≠ .looping) → Moves (s.asThread td) (s'.asThread td) := by
    rintro hold henable htype hdst ⟨f, hworkers, hnew⟩
    rw [asThread_congr h h' (loops_modify hworkers hst hold hnew) henable htype hdst]
    exact .stay
  cases stage with
  | looping | finished => cases hstep
  | created =>
    cases hstep
    refine hstay (by decide) rfl rfl rfl ⟨_, rfl, ?_⟩
    intro w
    dsimp only
    split_ifs <;> decide
  | made | flagged | ended | unflagged | deleted =>
    cases hstep
    exact hstay (by decide) rfl rfl rfl ⟨_, rfl, fun w h => by cases h⟩
  | published =>
    obtain ⟨v, hv, hvst⟩ := stageOf_eq_some.mp hst
    have hnone : s.liveDst = none := by
      rcases liveDst_cases h with ⟨⟨j, hj⟩, -⟩ | ⟨-, heq⟩
      · obtain ⟨w, hw, hwst⟩ := stageOf_eq_some.mp hj
        have hi := h.pointed i v hv (.inl hvst)
        have hij := Option.some.inj (hi.symm.trans (h.pointed j w hw (.inr hwst)))
        rw [hij, hj] at hst
        cases hst
      · exact heq
    obtain ⟨henable, htype⟩ := hstarted v (List.mem_of_getElem? hv)
    have hs' := (Option.some.inj hstep).symm
    have hworkers : s'.workers =
        s.workers.modify i fun _ => ⟨.looping, some s.portDst⟩ := by rw [hs']
    have hself : s'.stageOf i = some .looping := by
      rw [stageOf_modify hworkers, hv]
      simp
    have hlive : s'.liveDst = some s.portDst := by
      rcases liveDst_cases h' with ⟨-, heq⟩ | ⟨hno, -⟩
      · rw [heq, hs']
      · exact absurd hself (hno i)
    have hthread : s'.asThread td = (s.asThread td).start := by
      unfold LifeState.asThread ChnlThread.start
      rw [hlive, hs']
    rw [hthread]
    exact .start henable (htype (by rw [hvst]; decide) (by rw [hvst]; decide)) hnone

lemma endLoop_moves (h : LifeInvariant s) (h' : LifeInvariant (s.go i .ended))
    (hst : s.stageOf i = some .looping) (td : ChnlThread π) :
    Moves (s.asThread td) ((s.go i .ended).asThread td) := by
  have honly : ∀ j, s.stageOf j = some .looping → i = j := by
    intro j hj
    obtain ⟨v, hv, hvst⟩ := stageOf_eq_some.mp hst
    obtain ⟨w, hw, hwst⟩ := stageOf_eq_some.mp hj
    exact Option.some.inj ((h.pointed i v hv (.inr hvst)).symm.trans
      (h.pointed j w hw (.inr hwst)))
  have hnone : (s.go i .ended).liveDst = none := by
    rcases liveDst_cases h' with ⟨⟨j, hj⟩, -⟩ | ⟨-, heq⟩
    · rw [stageOf_modify rfl] at hj
      obtain ⟨w, hw, hwst⟩ := Option.map_eq_some_iff.mp hj
      split_ifs at hwst with hij
      exact absurd (honly j (stageOf_eq_some.mpr ⟨w, hw, hwst⟩)) hij
    · exact heq
  have hsome : s.liveDst.isSome = true := by
    rcases liveDst_cases h with ⟨-, heq⟩ | ⟨hno, -⟩
    · rw [heq]
      rfl
    · exact absurd hst (hno i)
  have hthread : (s.go i .ended).asThread td = (s.asThread td).finish := by
    unfold LifeState.asThread ChnlThread.finish
    rw [hnone]
    rfl
  rw [hthread]
  exact .finish hsome

lemma activeDstPort_stageOf (port : π) (j : Nat) :
    (s.activeDstPort port).stageOf j = s.stageOf j := by
  unfold LifeState.activeDstPort
  cases s.lpTrans with
  | none => rfl
  | some k =>
    dsimp only
    rw [stageOf_modify rfl]
    unfold LifeState.stageOf
    congr 1
    funext w
    simp

lemma activeDstPort_moves (h : LifeInvariant s) (port : π) (td : ChnlThread π) :
    Moves (s.asThread td) ((s.activeDstPort port).asThread td) := by
  have hfields : (s.activeDstPort port).enable = s.enable ∧
      (s.activeDstPort port).dataType = s.dataType ∧
      (s.activeDstPort port).portDst = port := by
    unfold LifeState.activeDstPort
    cases s.lpTrans <;> exact ⟨rfl, rfl, rfl⟩
  have hlive : (s.activeDstPort port).liveDst = s.liveDst.map fun _ => port := by
    rcases liveDst_cases h with ⟨⟨i, hi⟩, heq⟩ | ⟨hno, heq⟩
    · rcases liveDst_cases (h.activeDstPort port) with ⟨-, heq'⟩ | ⟨hno', -⟩
      · rw [heq, heq', hfields.2.2]
        rfl
      · exact absurd hi (by rw [← activeDstPort_stageOf port]; exact hno' i)
    · rcases liveDst_cases (h.activeDstPort port) with ⟨⟨i, hi⟩, -⟩ | ⟨-, heq'⟩
      · rw [activeDstPort_stageOf] at hi
        exact absurd hi (hno i)
      · rw [heq, heq']
        rfl
  have hthread : (s.activeDstPort port).asThread td = (s.asThread td).activeDstPort port := by
    unfold LifeState.asThread ChnlThread.activeDstPort
    rw [hfields.1, hfields.2.1, hfields.2.2, hlive]
  rw [hthread]
  exact .activeDstPort port

lemma Started.run (h : Started s) : Started s.run := by
  unfold LifeState.run
  split_ifs with hen
  · exact h
  intro w hw
  rcases List.mem_append.mp hw with hw | hw
  · exact h w hw
  · rw [List.mem_singleton.mp hw]
    exact ⟨hen, fun hst => absurd rfl hst⟩

/-- A step that a thread takes behind `created`, or by which it comes there. -/
lemma Started.modify (h : Started s) {f : Worker π → Worker π}
    (hworkers : s'.workers = s.workers.modify i f) (henable : s'.enable = s.enable)
    (htype : s'.dataType = s.dataType)
    (hf : ∀ w, s.workers[i]? = some w → (f w).stage ≠ .created → (f w).stage ≠ .finished →
      hasTrans s.dataType = true) : Started s' := by
  intro w hw
  obtain ⟨j, hj⟩ := List.mem_iff_getElem?.mp hw
  rw [hworkers] at hj
  rw [henable, htype]
  rcases modify_getElem?_eq_some hj with ⟨-, hold⟩ | ⟨-, v, hv, rfl⟩
  · exact h w (List.mem_of_getElem? hold)
  · exact ⟨(h v (List.mem_of_getElem? hv)).1, hf v hv⟩

lemma Started.activeDstPort (h : Started s) (port : π) : Started (s.activeDstPort port) := by
  unfold LifeState.activeDstPort
  cases s.lpTrans with
  | none => exact h
  | some k =>
    refine h.modify rfl rfl rfl ?_
    intro w hw
    exact (h w (List.mem_of_getElem? hw)).2

section Moving

variable [DecidableEq κ]

lemma lifeNext_started {ev : LifeEvent π κ} (h : Started s) (hstep : lifeNext s ev = some s') :
    Started s' := by
  have hlater : ∀ {i : Nat} {stage : WorkerStage}, s.stageOf i = some stage →
      stage ≠ .created → stage ≠ .finished → hasTrans s.dataType = true := by
    intro i stage hst hcreated hfinished
    obtain ⟨v, hv, rfl⟩ := stageOf_eq_some.mp hst
    exact (h v (List.mem_of_getElem? hv)).2 hcreated hfinished
  cases ev with
  | run =>
    cases hstep
    exact h.run
  | check c =>
    cases hstep
    exact h
  | runStopped c =>
    simp only [lifeNext] at hstep
    split_ifs at hstep
    cases hstep
    exact h.run
  | work i =>
    simp only [lifeNext] at hstep
    obtain ⟨stage, hst, hstep⟩ := Option.bind_eq_some_iff.mp hstep
    cases stage with
    | looping | finished => cases hstep
    | created =>
      have hs' := (Option.some.inj hstep).symm
      have hworkers : s'.workers = s.workers.modify i fun w =>
          { w with stage := if hasTrans s.dataType = true then .made else .finished } := by
        rw [hs']
        rfl
      refine h.modify hworkers (by rw [hs']; rfl) (by rw [hs']; rfl) ?_
      intro w _ _ hfin
      dsimp only at hfin
      split_ifs at hfin with hhas
      · exact hhas
      · exact absurd rfl hfin
    | made | flagged | published | ended | unflagged | deleted =>
      cases hstep
      exact h.modify rfl rfl rfl fun _ _ _ _ => hlater hst (by decide) (by decide)
  | endLoop i =>
    simp only [lifeNext] at hstep
    split_ifs at hstep with hst
    cases hstep
    exact h.modify rfl rfl rfl fun _ _ _ _ => hlater hst (by decide) (by decide)
  | activeDstPort port =>
    cases hstep
    exact h.activeDstPort port

lemma lifeNext_moves {ev : LifeEvent π κ} (h : LifeInvariant s) (h' : LifeInvariant s')
    (hstarted : Started s) (hstep : lifeNext s ev = some s') (td : ChnlThread π) :
    Moves (s.asThread td) (s'.asThread td) := by
  have hstay : (∀ i, s'.stageOf i = some .looping ↔ s.stageOf i = some .looping) →
      s'.enable = s.enable → s'.dataType = s.dataType → s'.portDst = s.portDst →
      Moves (s.asThread td) (s'.asThread td) := by
    intro hloops henable htype hdst
    rw [asThread_congr h h' hloops henable htype hdst]
    exact .stay
  have hrun : s.run.enable = s.enable ∧ s.run.dataType = s.dataType ∧
      s.run.portDst = s.portDst := by
    unfold LifeState.run
    split_ifs <;> exact ⟨rfl, rfl, rfl⟩
  cases ev with
  | run =>
    cases hstep
    exact hstay loops_run hrun.1 hrun.2.1 hrun.2.2
  | check c =>
    cases hstep
    exact hstay (fun _ => Iff.rfl) rfl rfl rfl
  | runStopped c =>
    simp only [lifeNext] at hstep
    split_ifs at hstep
    cases hstep
    exact hstay loops_run hrun.1 hrun.2.1 hrun.2.2
  | work i =>
    simp only [lifeNext] at hstep
    obtain ⟨stage, hst, hstep⟩ := Option.bind_eq_some_iff.mp hstep
    exact threadMain_moves h h' hstarted hst hstep td
  | endLoop i =>
    simp only [lifeNext] at hstep
    split_ifs at hstep with hst
    cases hstep
    exact endLoop_moves h h' hst td
  | activeDstPort port =>
    cases hstep
    exact activeDstPort_moves h port td

/-- Run by run, a channel thread with its threads, as long as their steps are exclusive, is a thread
of the graph of channels. -/
theorem life_refines_thread (enable : Int) (dataType : DataType) (portDst : π) (s : LifeState π κ)
    (h : Reachable (guarded lifeNext Exclusive) (LifeState.init enable dataType portDst) s)
    (td : ChnlThread π) :
    Relation.ReflTransGen Moves
      { td with enable := enable, dataType := dataType, portDst := portDst, trans := none }
      (s.asThread td) := by
  have hall : (LifeInvariant s ∧ Started s) ∧ Relation.ReflTransGen Moves
      { td with enable := enable, dataType := dataType, portDst := portDst, trans := none }
      (s.asThread td) := by
    apply h.invariant_guarded (P := fun s => (LifeInvariant s ∧ Started s) ∧
      Relation.ReflTransGen Moves
        { td with enable := enable, dataType := dataType, portDst := portDst, trans := none }
        (s.asThread td))
    · refine ⟨⟨lifeInvariant_init enable dataType portDst, ?_⟩, .refl⟩
      intro w hw
      cases hw
    · rintro s ev s' ⟨⟨hs, hstarted⟩, hmoves⟩ hok hstep
      have hs' := lifeNext_keeps hs hok hstep
      exact ⟨⟨hs', lifeNext_started hstarted hstep⟩,
        hmoves.tail (lifeNext_moves hs hs' hstarted hstep td)⟩
  exact hall.2

end Moving

end EngPc
