import EngPc.Model.PortNotify

/-!
# No request to stop is lost

As long as each request stands alone in the pipe, the pipe holds the exit message from a call of
`stop` on until the reader takes it, and at no other time while the channel runs. The reader looks
at the pipe before the port, so it ends with the read under way or the next one.
-/

namespace EngPc
open CString Reach

variable {s s' : NotifyState} {a : Int} {t : PortType}

lemma exit_not_update : ∃ b ∈ msgNotifyExit, b ∉ msgNotifyUpdateFd.map toLower ∧
    toLower b ∉ msgNotifyUpdateFd.map toLower := ⟨0x58, by decide, by decide, by decide⟩

lemma not_exit_of_update {l : List UInt8} (h : ∀ b ∈ l, b ∈ msgNotifyUpdateFd) :
    ¬strcaseeq (l.takeWhile (· ≠ 0)) msgNotifyExit := by
  intro heq
  obtain ⟨x, hx, -, hlow⟩ := exit_not_update
  have hmem : toLower x ∈ (l.takeWhile (· ≠ 0)).map toLower := by
    rw [heq]
    exact List.mem_map_of_mem hx
  obtain ⟨b, hb, hbx⟩ := List.mem_map.mp hmem
  apply hlow
  rw [← hbx]
  exact List.mem_map_of_mem (h b ((List.takeWhile_sublist _).subset hb))

lemma update_ne_exit {l : List UInt8} (h : ∀ b ∈ l, b ∈ msgNotifyUpdateFd) :
    l ≠ msgNotifyExit := by
  rintro rfl
  apply not_exit_of_update h
  decide

lemma rdStep_exit (a : Int) (t : PortType) (st : RdState) :
    rdStep a t maxChnlBuff st (.notify (msgNotifyExit.take maxMsgLen)) =
      .inr ⟨st.buff, 0, true⟩ := by
  rw [rdStep, if_pos (by decide)]

lemma rdStep_update {l : List UInt8} (h : ∀ b ∈ l, b ∈ msgNotifyUpdateFd) (st : RdState) :
    rdStep a t maxChnlBuff st (.notify (l.take maxMsgLen)) = .inl st := by
  have htake : ∀ b ∈ l.take maxMsgLen, b ∈ msgNotifyUpdateFd :=
    fun b hb => h b (List.mem_of_mem_take hb)
  rw [rdStep, if_neg (not_exit_of_update htake)]

structure NotifyInvariant (s : NotifyState) : Prop where
  pipe : s.pipe = msgNotifyExit ∨ ∀ b ∈ s.pipe, b ∈ msgNotifyUpdateFd
  pipe_of_asked : s.asked ≠ none → s.pipe = msgNotifyExit
  asked_of_pipe : s.pipe = msgNotifyExit → s.reader.running = true → s.asked ≠ none
  not_ready : s.asked = some 0 → ∀ st, s.reader ≠ .ready st
  answered : ∀ x ∈ s.reads, x.asked = some 0 → x.ret = 0
  fresh : ∀ x ∈ s.reads, x.byExit = true → x.asked ≠ none

lemma notifyInvariant_init : NotifyInvariant .init where
  pipe := .inr (by simp [NotifyState.init])
  pipe_of_asked h := absurd rfl h
  asked_of_pipe h := by cases h
  not_ready h := by cases h
  answered x hx := by cases hx
  fresh x hx := by cases hx

lemma NotifyInvariant.move (h : NotifyInvariant s) (hpipe : s'.pipe = s.pipe)
    (hasked : s'.asked = s.asked) (hreads : s'.reads = s.reads)
    (hrun : s'.reader.running = true → s.reader.running = true ∨ s.pipe ≠ msgNotifyExit)
    (hready : s'.asked = some 0 → ∀ st, s'.reader ≠ .ready st) : NotifyInvariant s' := by
  refine ⟨hpipe ▸ h.pipe, ?_, ?_, hready, hreads ▸ h.answered, hreads ▸ h.fresh⟩
  · rw [hasked, hpipe]
    exact h.pipe_of_asked
  · rw [hasked, hpipe]
    intro hexit hrun'
    rcases hrun hrun' with hrun | hne
    · exact h.asked_of_pipe hexit hrun
    · exact absurd hexit hne

lemma NotifyInvariant.update (h : NotifyInvariant s) (hne : s.pipe ≠ msgNotifyExit) :
    NotifyInvariant (s.notify msgNotifyUpdateFd) := by
  have hall : ∀ b ∈ s.pipe ++ msgNotifyUpdateFd, b ∈ msgNotifyUpdateFd := by
    intro b hb
    rcases List.mem_append.mp hb with hb | hb
    · exact h.pipe.resolve_left hne b hb
    · exact hb
  refine ⟨.inr hall, ?_, ?_, h.not_ready, h.answered, h.fresh⟩
  · intro hasked
    exact absurd (h.pipe_of_asked hasked) hne
  · intro hexit
    exact absurd hexit (update_ne_exit hall)

lemma NotifyInvariant.ask (h : NotifyInvariant s) (hpipe : s'.pipe = msgNotifyExit)
    (hreader : s'.reader = s.reader) (hasked : s'.asked = s.asked) (hreads : s'.reads = s.reads) :
    NotifyInvariant s'.ask := by
  have hanswered : ∀ x ∈ s'.reads, x.asked = some 0 → x.ret = 0 := hreads ▸ h.answered
  have hfresh : ∀ x ∈ s'.reads, x.byExit = true → x.asked ≠ none := hreads ▸ h.fresh
  unfold NotifyState.ask
  by_cases hrun : s'.reader.running = true
  · rw [if_pos hrun]
    refine ⟨.inl hpipe, fun _ => hpipe, fun _ _ => by simp, ?_, hanswered, hfresh⟩
    rintro hzero st (hready : s'.reader = .ready st)
    have hold : s.asked = some 0 := by
      rw [hready, hasked] at hzero
      cases hasked : s.asked with
      | none => simp [hasked, ReaderStage.inRead] at hzero
      | some n =>
        simp only [hasked, ReaderStage.inRead, if_true, Option.getD_some, Option.some.injEq] at hzero
        rw [show n = 0 by omega]
    exact h.not_ready hold st (hreader ▸ hready)
  · rw [if_neg hrun]
    refine ⟨.inl hpipe, fun _ => hpipe, fun _ hrun' => absurd hrun' hrun, ?_, hanswered, hfresh⟩
    rw [hasked, hreader]
    exact h.not_ready

lemma NotifyInvariant.ended (h : NotifyInvariant s) {x : ReadReturn}
    (hpipe : s'.pipe = msgNotifyExit ∨ ∀ b ∈ s'.pipe, b ∈ msgNotifyUpdateFd)
    (hreader : s'.reader = .ended) (hasked : s'.asked = none) (hreads : s'.reads = x :: s.reads)
    (hzero : x.asked = some 0 → x.ret = 0) (hexit : x.byExit = true → x.asked ≠ none) :
    NotifyInvariant s' := by
  refine ⟨hpipe, ?_, ?_, ?_, ?_, ?_⟩
  · intro hne
    exact absurd hasked hne
  · intro _ hrun
    rw [hreader] at hrun
    cases hrun
  · intro heq
    rw [hasked] at heq
    cases heq
  · rw [hreads]
    intro y hy
    rcases List.mem_cons.mp hy with rfl | hy
    · exact hzero
    · exact h.answered y hy
  · rw [hreads]
    intro y hy
    rcases List.mem_cons.mp hy with rfl | hy
    · exact hexit
    · exact h.fresh y hy

lemma NotifyInvariant.readReturns (h : NotifyInvariant s) {ret : Int}
    (hrun : s.reader.running = true) (hzero : s.asked = some 0 → ret = 0) :
    NotifyInvariant (s.readReturns ret false) := by
  unfold NotifyState.readReturns
  by_cases hret : ret ≤ 0
  · rw [if_pos hret]
    exact h.ended h.pipe rfl rfl rfl hzero (fun hexit => by cases hexit)
  · rw [if_neg hret]
    refine ⟨h.pipe, ?_, ?_, fun _ _ => by simp, ?_, ?_⟩
    · intro hasked
      apply h.pipe_of_asked
      intro hnone
      exact hasked (by rw [hnone]; rfl)
    · intro hpipe _ hnone
      exact h.asked_of_pipe hpipe hrun (Option.map_eq_none_iff.mp hnone)
    · intro x hx
      rcases List.mem_cons.mp hx with rfl | hx
      · exact hzero
      · exact h.answered x hx
    · intro x hx
      rcases List.mem_cons.mp hx with rfl | hx
      · exact fun hexit => by cases hexit
      · exact h.fresh x hx

/-- The pipe has been read: the exit message ends the read, anything else is dropped. -/
lemma NotifyInvariant.readPipe (h : NotifyInvariant s) {st : RdState}
    (hst : s.reader = .notified st) :
    NotifyInvariant ({ s with pipe := s.pipe.drop maxMsgLen }.endRound true
      (rdStep a t maxChnlBuff st (.notify (s.pipe.take maxMsgLen)))) := by
  have hrun : s.reader.running = true := by
    rw [hst]
    rfl
  rcases h.pipe with hexit | hall
  · rw [hexit, rdStep_exit]
    have hempty : msgNotifyExit.drop maxMsgLen = [] := rfl
    apply h.ended (x := ⟨0, true, s.asked⟩) (.inr _) rfl rfl rfl (fun _ => rfl)
      (fun _ => h.asked_of_pipe hexit hrun)
    intro b hb
    simp [NotifyState.endRound, NotifyState.readReturns, hempty] at hb
  · rw [rdStep_update hall]
    have hdrop : ∀ b ∈ s.pipe.drop maxMsgLen, b ∈ msgNotifyUpdateFd :=
      fun b hb => hall b (List.mem_of_mem_drop hb)
    refine ⟨.inr hdrop, ?_, ?_, fun _ _ => by simp [NotifyState.endRound], h.answered, h.fresh⟩
    · intro hasked
      exact absurd (h.pipe_of_asked hasked) (update_ne_exit hall)
    · intro hexit
      exact absurd hexit (update_ne_exit hdrop)

/-- The port has been read: with the last read allowed to return something behind it, it was not. -/
lemma NotifyInvariant.endRound (h : NotifyInvariant s) (hrun : s.reader.running = true)
    (hzero : s.asked ≠ some 0) (x : RdState ⊕ RdResult) :
    NotifyInvariant (s.endRound false x) := by
  cases x with
  | inl st => exact h.move rfl rfl rfl (fun _ => .inl hrun) (fun _ _ => by simp [NotifyState.endRound])
  | inr r =>
    have hlow : NotifyInvariant { s with bSuspend := false } :=
      h.move rfl rfl rfl (fun _ => .inl hrun) h.not_ready
    exact hlow.readReturns hrun (fun heq => absurd heq hzero)

lemma notifyNext_keeps {ev : NotifyEvent} (h : NotifyInvariant s) (hok : RequestAlone s ev)
    (hstep : notifyNext a t s ev = some s') : NotifyInvariant s' := by
  cases ev with
  | run =>
    simp only [notifyNext] at hstep
    split at hstep
    next =>
      cases hstep
      exact h.move rfl rfl rfl (fun _ => .inr hok.1) (fun _ _ => by simp)
    next => cases hstep
  | call =>
    simp only [notifyNext] at hstep
    split at hstep
    next hreader =>
      cases hstep
      exact h.move rfl rfl rfl (fun _ => .inl (by rw [hreader]; rfl)) (fun _ _ => by simp)
    next => cases hstep
  | refuse ret =>
    simp only [notifyNext] at hstep
    split at hstep
    next hreader =>
      split_ifs at hstep
      cases hstep
      apply h.readReturns (by rw [hreader]; rfl)
      intro hzero
      by_contra hret
      apply hok hret
      exact h.pipe_of_asked (by rw [hzero]; simp)
    next => cases hstep
  | suspend =>
    simp only [notifyNext] at hstep
    split at hstep
    next hreader =>
      cases hstep
      exact h.move rfl rfl rfl (fun _ => .inl (by rw [hreader]; rfl)) (fun _ _ => by simp)
    next => cases hstep
  | selectError =>
    simp only [notifyNext] at hstep
    split at hstep
    next hreader =>
      cases hstep
      exact h.move rfl rfl rfl (fun _ => .inl (by rw [hreader]; rfl)) (fun _ _ => by simp)
    next => cases hstep
  | select =>
    simp only [notifyNext] at hstep
    split at hstep
    next hreader =>
      cases hstep
      refine h.move rfl rfl rfl (fun _ => .inl (by rw [hreader]; rfl)) ?_
      -- a request that stands is in the pipe, so `select` reports the pipe
      intro hzero st'
      have hpipe := h.pipe_of_asked (by rw [hzero]; simp)
      rw [if_neg (by rw [hpipe]; decide)]
      simp
    next => cases hstep
  | readPipe =>
    simp only [notifyNext] at hstep
    split at hstep
    next hreader =>
      cases hstep
      exact h.readPipe hreader
    next => cases hstep
  | readPort e =>
    simp only [notifyNext] at hstep
    split at hstep
    next st bytes hreader =>
      cases hstep
      exact h.endRound (by rw [hreader]; rfl) (fun hzero => h.not_ready hzero _ hreader) _
    next st hreader =>
      cases hstep
      exact h.endRound (by rw [hreader]; rfl) (fun hzero => h.not_ready hzero _ hreader) _
    next st reopened hreader =>
      cases hstep
      cases reopened with
      | false =>
        exact h.endRound (by rw [hreader]; rfl) (fun hzero => h.not_ready hzero _ hreader) _
      | true =>
        exact (h.update hok).endRound (by rw [NotifyState.notify, hreader]; rfl)
          (fun hzero => h.not_ready hzero _ hreader) _
    next => cases hstep
  | stopTest =>
    simp only [notifyNext] at hstep
    split_ifs at hstep with hsuspend
    · cases hstep
      exact h.move rfl rfl rfl (fun hrun => .inl hrun) h.not_ready
    · cases hstep
      by_cases hrun : s.reader.running = true
      · exact h.ask ((hok hrun).resolve_left hsuspend) rfl rfl rfl
      · rw [NotifyState.ask, if_neg hrun]
        exact h
  | stopWrite =>
    simp only [notifyNext] at hstep
    split_ifs at hstep
    cases hstep
    refine h.ask ?_ rfl rfl rfl
    rw [NotifyState.notify, show s.pipe = [] from hok, List.nil_append]
  | reopened =>
    cases hstep
    exact h.update hok

/-- What a request to stop is for. No read returned something when it had to return nothing; no read
was ended by a request of an earlier life of the channel; and as long as a request stands, the next
look at the pipe ends the read with 0. -/
structure StopsServed (a : Int) (t : PortType) (s : NotifyState) : Prop where
  answered : ∀ x ∈ s.reads, x.asked = some 0 → x.ret = 0
  fresh : ∀ x ∈ s.reads, x.byExit = true → x.asked ≠ none
  woken : s.asked ≠ none → s.pipe ≠ [] ∧ ∀ st,
    rdStep a t maxChnlBuff st (.notify (s.pipe.take maxMsgLen)) = .inr ⟨st.buff, 0, true⟩

/-- In a run whose requests each stand alone no request is lost. -/
theorem stops_served (a : Int) (t : PortType) (s : NotifyState)
    (h : Reachable (guarded (notifyNext a t) RequestAlone) .init s) : StopsServed a t s := by
  have hinv : NotifyInvariant s := by
    apply h.invariant_guarded notifyInvariant_init
    intro u ev u' hu hok hstep
    exact notifyNext_keeps hu hok hstep
  refine ⟨hinv.answered, hinv.fresh, ?_⟩
  intro hasked
  rw [hinv.pipe_of_asked hasked]
  exact ⟨by decide, rdStep_exit a t⟩

def sampleNotify (l : List NotifyEvent) : NotifyState :=
  (replay (notifyNext 1 .gser) .init l).getD .init

def sampleFrame : RdEvent := .data [0x7e, 0x01, 0x7e]

/-- A stop while the reader waits in `select`, then the channel is started again. -/
def stopOnce : List NotifyEvent :=
  [.run, .call, .suspend, .stopTest, .stopWrite, .select, .readPipe, .run, .call, .suspend]

/-- Two stops before the reader looks at the pipe, then two frames. -/
def stopTwice : List NotifyEvent :=
  [.run, .call, .suspend, .stopTest, .stopWrite, .stopTest, .stopWrite, .select, .readPipe,
    .suspend, .select, .readPort sampleFrame, .call, .suspend, .select, .readPort sampleFrame]

/-- A stop while a frame is being processed, then one more frame. -/
def stopOutside : List NotifyEvent :=
  [.run, .call, .suspend, .select, .readPort sampleFrame, .stopTest, .call, .suspend, .select,
    .readPort sampleFrame]

/-- The port is lost under a reader that has a stop in its pipe, then the channel is started
again. -/
def stopLeft : List NotifyEvent :=
  [.run, .call, .suspend, .select, .stopTest, .stopWrite, .readPort (.failed false), .run, .call,
    .suspend, .select, .readPipe]

theorem stops_served_once : (sampleNotify stopOnce).reads = [⟨0, true, some 1⟩] ∧
    StopsServed 1 .gser (sampleNotify stopOnce) := by
  refine ⟨rfl, stops_served 1 .gser (sampleNotify stopOnce) ?_⟩
  exact reachable_of_replay (l := stopOnce) rfl

/-- Two requests are read as one message and dropped; a request to a busy reader is not sent; a
request left in the pipe ends the channel when it is started again. -/
theorem stops_lost :
    (Reachable (notifyNext 1 .gser) .init (sampleNotify stopTwice) ∧
      (sampleNotify stopTwice).reads = [⟨3, false, some 0⟩, ⟨3, false, some 1⟩]) ∧
    (Reachable (notifyNext 1 .gser) .init (sampleNotify stopOutside) ∧
      (sampleNotify stopOutside).reads = [⟨3, false, some 0⟩, ⟨3, false, none⟩]) ∧
    (Reachable (notifyNext 1 .gser) .init (sampleNotify stopLeft) ∧
      (sampleNotify stopLeft).reads = [⟨0, true, none⟩, ⟨0, false, some 1⟩]) := by
  refine ⟨⟨?_, rfl⟩, ⟨?_, rfl⟩, ?_, rfl⟩
  · exact reachable_of_replay (l := stopTwice) rfl
  · exact reachable_of_replay (l := stopOutside) rfl
  · exact reachable_of_replay (l := stopLeft) rfl

end EngPc
