import EngPc.Model.PortAttach

/-!
# Whose `checkframe` judges a read

As long as the calls on a port end in the opposite order of their beginning, and no writer is inside
a call that it began behind the reader's when `checkframe` is called, the attached object is the
reader's there, and the old one when all calls have ended. A read then ends as it would if nobody
wrote to the port.
-/

namespace EngPc
open Reach

variable {θ τ : Type} {P : SharedPort θ τ} {s s' : AttachState θ τ} {t : θ} {c : τ}

lemma round_ne_idle (P : SharedPort θ τ) (x : τ) (st : RdState) (e : RdEvent) :
    P.round x st e ≠ .idle := by
  unfold SharedPort.round
  cases rdStep (P.apProcess x) P.portType maxChnlBuff st e <;> simp [CallStage.ofRound]

/-- The reader enters `internal_read`, waits, gets bytes, or ends a round. -/
lemma readNext_cases {x : τ} {stage stage' : CallStage} {r : ReadStep}
    (h : P.readNext x stage r = some stage') :
    (stage = .attached ∧ (stage' = .returned none ∨
      stage' = .waiting (rdStart P.portType maxChnlBuff fun _ => 0))) ∨
    (∃ st, stage = .waiting st ∧ stage' = .selected st) ∨
    (∃ st bytes, stage = .selected st ∧ stage' = .received st bytes) ∨
    (r = .checkframe ∧ ∃ st bytes, stage = .received st bytes ∧
      stage' = P.round x st (.data bytes)) ∨
    ∃ st e, (stage = .waiting st ∨ stage = .selected st) ∧ (∀ bytes, e ≠ .data bytes) ∧
      stage' = P.round x st e := by
  match stage, r with
  | .attached, .enter true =>
    cases h
    exact .inl ⟨rfl, .inr rfl⟩
  | .attached, .enter false =>
    cases h
    exact .inl ⟨rfl, .inl rfl⟩
  | .waiting st, .select =>
    cases h
    exact .inr (.inl ⟨st, rfl, rfl⟩)
  | .selected st, .read (.data bytes) =>
    cases h
    exact .inr (.inr (.inl ⟨st, bytes, rfl, rfl⟩))
  | .received st bytes, .checkframe =>
    cases h
    exact .inr (.inr (.inr (.inl ⟨rfl, st, bytes, rfl, rfl⟩)))
  | .waiting st, .wait e =>
    right; right; right; right
    cases e with
    | selectError | selectTimeout | notify =>
      cases h
      exact ⟨st, _, .inl rfl, by simp, rfl⟩
    | data | busy | failed => cases h
  | .selected st, .read .busy | .selected st, .read (.failed _) =>
    right; right; right; right
    cases h
    exact ⟨st, _, .inr rfl, by simp, rfl⟩

lemma readNext_ne_idle {x : τ} {stage stage' : CallStage} {r : ReadStep}
    (h : P.readNext x stage r = some stage') : stage ≠ .idle ∧ stage' ≠ .idle := by
  rcases readNext_cases h with ⟨rfl, rfl | rfl⟩ | ⟨st, rfl, rfl⟩ | ⟨st, bytes, rfl, rfl⟩ |
    ⟨-, st, bytes, rfl, rfl⟩ | ⟨st, e, rfl | rfl, -, rfl⟩
  all_goals simp [round_ne_idle]

lemma rdStep_of_not_data {a a' : Int} {pt : PortType} {nLen : Nat} {st : RdState} {e : RdEvent}
    (h : ∀ bytes, e ≠ .data bytes) : rdStep a pt nLen st e = rdStep a' pt nLen st e := by
  cases e with
  | data bytes => exact absurd rfl (h bytes)
  | failed reopened => cases reopened <;> rfl
  | selectError | selectTimeout | notify | busy => rfl

/-- `internal_read` on a port that nobody writes to. -/
def SharedPort.readAlone (P : SharedPort θ τ) (st : RdState) (es : List RdEvent) :
    Option (RdResult × List RdEvent) :=
  rdLoop (P.apProcess (P.own P.reader)) P.portType maxChnlBuff st es

/-- The state that `internal_read` alone is in after some events. -/
def SharedPort.Met (P : SharedPort θ τ) (st : RdState) : Prop :=
  ∃ es, ∀ rest, P.readAlone (rdStart P.portType maxChnlBuff fun _ => 0) (es ++ rest) =
    P.readAlone st rest

/-- The stage is one that `internal_read` alone goes through. -/
def CallStage.Alone (P : SharedPort θ τ) : CallStage → Prop
  | .waiting st | .selected st | .received st _ => P.Met st
  | .returned (some r) =>
    ∃ es, P.readAlone (rdStart P.portType maxChnlBuff fun _ => 0) es = some (r, [])
  | .idle | .attached | .returned none | .writing | .written => True

lemma SharedPort.Met.round {st : RdState} (h : P.Met st) (e : RdEvent) :
    (P.round (P.own P.reader) st e).Alone P := by
  obtain ⟨es, hes⟩ := h
  unfold SharedPort.round
  cases hstep : rdStep (P.apProcess (P.own P.reader)) P.portType maxChnlBuff st e with
  | inl st' =>
    refine ⟨es ++ [e], fun rest => ?_⟩
    rw [List.append_assoc, hes]
    simp [SharedPort.readAlone, rdLoop, hstep]
  | inr r =>
    refine ⟨es ++ [e], ?_⟩
    rw [hes]
    simp [SharedPort.readAlone, rdLoop, hstep]

lemma readNext_alone {x : τ} {stage stage' : CallStage} {r : ReadStep}
    (h : P.readNext x stage r = some stage') (halone : stage.Alone P)
    (hx : r = .checkframe → x = P.own P.reader) : stage'.Alone P := by
  rcases readNext_cases h with ⟨rfl, rfl | rfl⟩ | ⟨st, rfl, rfl⟩ | ⟨st, bytes, rfl, rfl⟩ |
    ⟨rfl, st, bytes, rfl, rfl⟩ | ⟨st, e, hstage, he, rfl⟩
  · trivial
  · exact ⟨[], fun _ => rfl⟩
  · exact halone
  · exact halone
  · rw [hx rfl]
    exact SharedPort.Met.round halone _
  · have hmet : P.Met st := by rcases hstage with rfl | rfl <;> exact halone
    have hround : P.round x st e = P.round (P.own P.reader) st e := by
      unfold SharedPort.round
      rw [rdStep_of_not_data he]
    rw [hround]
    exact hmet.round e

structure AttachInvariant (P : SharedPort θ τ) (c : τ) (s : AttachState θ τ) : Prop where
  stacked : s.lpTrans.Stacked P.own c
  idle_iff : ∀ t, s.lpTrans.kept t = none ↔ s.stage t = .idle
  judged : ∀ x ∈ s.judged, x = P.own P.reader
  alone : ∀ t, t = P.reader → (s.stage t).Alone P

lemma attachInvariant_init (P : SharedPort θ τ) (c : τ) : AttachInvariant P c (.init c) where
  stacked := Slot.stacked_free P.own c
  idle_iff _ := ⟨fun _ => rfl, fun _ => rfl⟩
  judged x hx := by cases hx
  alone _ _ := trivial

section Interleaving

variable [DecidableEq θ]

lemma alone_go (h : AttachInvariant P c s) {stage : CallStage}
    (halone : t = P.reader → stage.Alone P) :
    ∀ u, u = P.reader → ((s.go t stage).stage u).Alone P := by
  intro u hu
  by_cases hut : u = t
  · subst hut
    simpa [AttachState.go] using halone hu
  · simpa [AttachState.go, hut] using h.alone u hu

lemma AttachInvariant.go (h : AttachInvariant P c s) {stage : CallStage} (ht : s.stage t ≠ .idle)
    (hstage : stage ≠ .idle) (halone : t = P.reader → stage.Alone P) :
    AttachInvariant P c (s.go t stage) := by
  refine ⟨h.stacked, ?_, h.judged, alone_go h halone⟩
  intro u
  by_cases hu : u = t
  · subst hu
    have hkept : s.lpTrans.kept u ≠ none := fun hnone => ht ((h.idle_iff u).mp hnone)
    simp [AttachState.go, hkept, hstage]
  · simpa [AttachState.go, hu] using h.idle_iff u

lemma AttachInvariant.attach (h : AttachInvariant P c s) {stage : CallStage}
    (ht : s.stage t = .idle) (hstage : stage ≠ .idle) (halone : stage.Alone P) :
    AttachInvariant P c (s.attach P t stage) := by
  refine ⟨h.stacked.take ((h.idle_iff t).mpr ht), ?_, h.judged, alone_go h fun _ => halone⟩
  intro u
  by_cases hu : u = t
  · subst hu
    simp [AttachState.attach, AttachState.go, hstage]
  · simpa [AttachState.attach, AttachState.go, hu, Slot.take_kept_of_ne _ _ hu] using h.idle_iff u

lemma AttachInvariant.restore (h : AttachInvariant P c s)
    (ht : s.lpTrans.nested.head? = some t) (hs : s.restore t = some s') :
    AttachInvariant P c s' := by
  obtain ⟨ptr, hptr, rfl⟩ := Option.map_eq_some_iff.mp hs
  refine ⟨h.stacked.restore ht hptr, ?_, h.judged, alone_go h fun _ => trivial⟩
  intro u
  by_cases hu : u = t
  · subst hu
    simp [AttachState.go]
  · simpa [AttachState.go, hu, Slot.restore_kept_of_ne _ _ hu] using h.idle_iff u

lemma AttachInvariant.read (h : AttachInvariant P c s) {r : ReadStep} {stage : CallStage}
    (hread : P.readNext s.lpTrans.value (s.stage P.reader) r = some stage)
    (hr : r = .checkframe → s.lpTrans.nested.head? = some P.reader) :
    AttachInvariant P c (s.read P r stage) := by
  have hown : r = .checkframe → s.lpTrans.value = P.own P.reader :=
    fun hcheck => h.stacked.value_of_head (hr hcheck)
  obtain ⟨hfrom, hto⟩ := readNext_ne_idle hread
  have hgo := h.go hfrom hto fun _ => readNext_alone hread (h.alone _ rfl) hown
  refine ⟨hgo.stacked, hgo.idle_iff, ?_, hgo.alone⟩
  intro x hx
  unfold AttachState.read at hx
  split_ifs at hx with hcheck
  · rcases List.mem_cons.mp hx with rfl | hx
    · exact hown hcheck
    · exact h.judged x hx
  · exact h.judged x hx

lemma attachNext_keeps {ev : AttachEvent θ} (h : AttachInvariant P c s)
    (hok : InnermostCall P s ev) (hstep : attachNext P s ev = some s') :
    AttachInvariant P c s' := by
  cases ev with
  | attachRd =>
    simp only [attachNext] at hstep
    split at hstep
    next hidle =>
      cases hstep
      exact h.attach hidle (by simp) trivial
    next => cases hstep
  | inRead r =>
    obtain ⟨stage, hread, rfl⟩ := Option.map_eq_some_iff.mp hstep
    apply h.read hread
    rintro rfl
    exact hok
  | restoreRd =>
    simp only [attachNext] at hstep
    split at hstep
    next => exact h.restore hok hstep
    next => cases hstep
  | attachWr t =>
    simp only [attachNext] at hstep
    split at hstep
    next hidle =>
      cases hstep
      exact h.attach hidle (by simp) trivial
    next => cases hstep
  | write t =>
    simp only [attachNext] at hstep
    split at hstep
    next hwriting =>
      cases hstep
      have hbusy : s.stage t ≠ .idle := by
        rw [hwriting]
        simp
      exact h.go hbusy (by simp) fun _ => (trivial : CallStage.written.Alone P)
    next => cases hstep
  | restoreWr t =>
    simp only [attachNext] at hstep
    split at hstep
    next => exact h.restore hok hstep
    next => cases hstep

lemma Reachable.attachInvariant (h : Reachable (guarded (attachNext P) (InnermostCall P))
    (.init c) s) : AttachInvariant P c s := by
  apply h.invariant_guarded (attachInvariant_init P c)
  intro u ev u' hu hok hstep
  exact attachNext_keeps hu hok hstep

/-- In a run of nested calls every `checkframe` is called on the reader's object, a read ends as on a
port that nobody writes to, and when no call is under way the attached object is the one from before
the run. -/
theorem framed_by_own_reader (P : SharedPort θ τ) (c : τ) (s : AttachState θ τ)
    (h : Reachable (guarded (attachNext P) (InnermostCall P)) (.init c) s) :
    (∀ x ∈ s.judged, x = P.own P.reader) ∧
      (∀ r, s.stage P.reader = .returned (some r) →
        ∃ es, P.readAlone (rdStart P.portType maxChnlBuff fun _ => 0) es = some (r, [])) ∧
      ((∀ t, s.stage t = .idle) → s.lpTrans.value = c) := by
  have hinv := Reachable.attachInvariant h
  refine ⟨hinv.judged, ?_, ?_⟩
  · intro r hr
    have halone := hinv.alone P.reader rfl
    rw [hr] at halone
    exact halone
  · intro hidle
    apply hinv.stacked.value_of_done
    intro t
    exact (hinv.idle_iff t).mpr (hidle t)

end Interleaving

/-- Thread `false` reads the port for the object 1, which has requests processed on the AP; thread
`true` writes to it for the object 2 of a channel without AP processing. -/
def samplePort : SharedPort Bool Nat where
  reader := false
  own t := if t then 2 else 1
  apProcess x := if x = 1 then 1 else 0
  portType := .gser

/-- The reader gets a flag and one byte more while the writer's call is over. -/
def nestedCalls : List (AttachEvent Bool) :=
  [.attachRd, .inRead (.enter true), .attachWr true, .write true, .restoreWr true, .inRead .select,
    .inRead (.read (.data [0x7e, 0x01])), .inRead .checkframe]

/-- The writer attaches while the reader waits, and has not yet put the reader's object back. -/
def crossedCalls : List (AttachEvent Bool) :=
  [.attachRd, .inRead (.enter true), .attachWr true, .write true, .inRead .select,
    .inRead (.read (.data [0x7e, 0x01])), .inRead .checkframe]

def sampleAttach (l : List (AttachEvent Bool)) : AttachState Bool Nat :=
  (replay (attachNext samplePort) (.init 0) l).getD (.init 0)

theorem framed_by_own_reader_nested :
    (sampleAttach nestedCalls).judged ≠ [] ∧ ∀ x ∈ (sampleAttach nestedCalls).judged, x = 1 := by
  have hreach : Reachable (guarded (attachNext samplePort) (InnermostCall samplePort)) (.init 0)
      (sampleAttach nestedCalls) := reachable_of_replay (l := nestedCalls) rfl
  exact ⟨by decide, (framed_by_own_reader samplePort 0 (sampleAttach nestedCalls) hreach).1⟩

/-- The half frame is judged by the writer's object, which takes everything for complete, and when
both calls have ended the reader's object stays attached. -/
theorem framed_by_writer :
    Reachable (attachNext samplePort) (.init 0) (sampleAttach crossedCalls) ∧
    (sampleAttach crossedCalls).judged = [2] ∧
    Reachable (attachNext samplePort) (.init 0)
      (sampleAttach (crossedCalls ++ [.restoreRd, .restoreWr true])) ∧
    (∀ t, (sampleAttach (crossedCalls ++ [.restoreRd, .restoreWr true])).stage t = .idle) ∧
    (sampleAttach (crossedCalls ++ [.restoreRd, .restoreWr true])).lpTrans.value = 1 := by
  refine ⟨reachable_of_replay (l := crossedCalls) rfl, rfl,
    reachable_of_replay (l := crossedCalls ++ [.restoreRd, .restoreWr true]) rfl, ?_, rfl⟩
  intro t
  cases t <;> rfl

end EngPc
