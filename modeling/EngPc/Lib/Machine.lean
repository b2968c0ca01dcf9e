import Mathlib.Data.List.Basic
import Mathlib.Tactic.Common

/-!
# Machines that answer

A machine takes a state and an input to the next state and an output, or fails. `run_obeys` shows
that the runs of a machine are accepted by a monitor, by a simulation between the two;
`meets_iff_guarded` carries an exact condition on one step to the runs; `run_purge` shows that the
outputs to one kind of input do not change when the other inputs are removed. `run_simulates` runs
two machines side by side.
-/

namespace Machine

variable {σ τ α ω ε : Type*} (step : σ → α → Except ε (σ × ω))

def run : σ → List α → Except ε (σ × List ω)
  | s, [] => .ok (s, [])
  | s, a :: l =>
    match step s a with
    | .error e => .error e
    | .ok (s, o) =>
      match run s l with
      | .error e => .error e
      | .ok (s, os) => .ok (s, o :: os)

/-- The outputs of a run; none of a run that fails. -/
def outs : Except ε (σ × List ω) → List ω
  | .error _ => []
  | .ok r => r.2

variable {step}

lemma ok_of_isOk {r : Except ε (σ × List ω)} (h : r.isOk = true) : ∃ s os, r = .ok (s, os) := by
  cases r with
  | error e => cases h
  | ok r => exact ⟨r.1, r.2, rfl⟩

lemma run_cons {s s₁ s₂ : σ} {a : α} {o : ω} {l : List α} {os : List ω}
    (h : step s a = .ok (s₁, o)) (hl : run step s₁ l = .ok (s₂, os)) :
    run step s (a :: l) = .ok (s₂, o :: os) := by
  simp [run, h, hl]

lemma run_cons_ok {s s₂ : σ} {a : α} {l : List α} {os : List ω}
    (h : run step s (a :: l) = .ok (s₂, os)) :
    ∃ s₁ o os', step s a = .ok (s₁, o) ∧ run step s₁ l = .ok (s₂, os') ∧ os = o :: os' := by
  rw [run] at h
  cases hstep : step s a with
  | error e => simp [hstep] at h
  | ok r =>
    obtain ⟨s₁, o⟩ := r
    cases hrun : run step s₁ l with
    | error e => simp [hstep, hrun] at h
    | ok r =>
      obtain ⟨s', os'⟩ := r
      simp only [hstep, hrun, Except.ok.injEq, Prod.mk.injEq] at h
      obtain ⟨rfl, rfl⟩ := h
      exact ⟨s₁, o, os', rfl, hrun, rfl⟩

lemma run_total (h : ∀ s a, ∃ r, step s a = .ok r) (s : σ) (l : List α) :
    ∃ r, run step s l = .ok r := by
  induction l generalizing s with
  | nil => exact ⟨(s, []), rfl⟩
  | cons a l ih =>
    obtain ⟨⟨s₁, o⟩, hs⟩ := h s a
    obtain ⟨⟨s₂, os⟩, hrun⟩ := ih s₁
    exact ⟨(s₂, o :: os), run_cons hs hrun⟩

/-! ### Monitors -/

section Monitor

variable (step) (ok : σ → α → Prop) (allow : τ → α → ω → Prop) (next : τ → α → ω → τ)

/-- Every step of the run meets the guard. -/
def Guarded : σ → List α → Prop
  | _, [] => True
  | s, a :: l => ok s a ∧
    match step s a with
    | .error _ => True
    | .ok r => Guarded r.1 l

instance decidableGuarded [∀ s a, Decidable (ok s a)] :
    (s : σ) → (l : List α) → Decidable (Guarded step ok s l)
  | _, [] => isTrue trivial
  | s, a :: l =>
    have : Decidable (match step s a with
        | .error _ => True
        | .ok r => Guarded step ok r.1 l) :=
      match step s a with
      | .error _ => isTrue trivial
      | .ok r => decidableGuarded r.1 l
    inferInstanceAs (Decidable (_ ∧ _))

/-- The monitor allows each of the outputs. -/
def Obeys : τ → List α → List ω → Prop
  | _, [], os => os = []
  | _, _ :: _, [] => False
  | t, a :: l, o :: os => allow t a o ∧ Obeys (next t a o) l os

instance decidableObeys [∀ t a o, Decidable (allow t a o)] :
    (t : τ) → (l : List α) → (os : List ω) → Decidable (Obeys allow next t l os)
  | _, [], [] => isTrue rfl
  | _, [], _ :: _ => isFalse (List.cons_ne_nil _ _)
  | _, _ :: _, [] => inferInstanceAs (Decidable False)
  | t, a :: l, o :: os =>
    have := decidableObeys (next t a o) l os
    inferInstanceAs (Decidable (_ ∧ _))

variable {step ok allow next}

lemma guarded_of_forall {l : List α} (h : ∀ s, ∀ a ∈ l, ok s a) (s : σ) :
    Guarded step ok s l := by
  induction l generalizing s with
  | nil => trivial
  | cons a l ih =>
    refine ⟨h s a List.mem_cons_self, ?_⟩
    cases step s a with
    | error e => trivial
    | ok r => exact ih (fun s a ha => h s a (List.mem_cons_of_mem _ ha)) r.1

/-- A simulation between a machine and a monitor: guarded runs succeed and are allowed. -/
theorem run_obeys (sim : σ → τ → Prop) (l : List α)
    (hstep : ∀ s t a, a ∈ l → sim s t → ok s a →
      ∃ s' o, step s a = .ok (s', o) ∧ allow t a o ∧ sim s' (next t a o))
    (s : σ) (t : τ) (hsim : sim s t) (hguard : Guarded step ok s l) :
    ∃ s' os, run step s l = .ok (s', os) ∧ Obeys allow next t l os := by
  induction l generalizing s t with
  | nil => exact ⟨s, [], rfl, rfl⟩
  | cons a l ih =>
    obtain ⟨hok, hrest⟩ := hguard
    obtain ⟨s₁, o, hs, hallow, hsim₁⟩ := hstep s t a List.mem_cons_self hsim hok
    rw [hs] at hrest
    obtain ⟨s₂, os, hrun, hobeys⟩ :=
      ih (fun s t a ha => hstep s t a (List.mem_cons_of_mem _ ha)) s₁ (next t a o) hsim₁ hrest
    exact ⟨s₂, o :: os, run_cons hs hrun, hallow, hobeys⟩

/-- Without a guard the run goes on up to the first step that fails. -/
theorem run_obeys_until (sim : σ → τ → Prop) (l : List α)
    (hstep : ∀ s t a, a ∈ l → sim s t → (∃ e, step s a = .error e) ∨
      ∃ s' o, step s a = .ok (s', o) ∧ allow t a o ∧ sim s' (next t a o))
    (s : σ) (t : τ) (hsim : sim s t) :
    ∃ l₁ l₂ s' os, l = l₁ ++ l₂ ∧ run step s l₁ = .ok (s', os) ∧ Obeys allow next t l₁ os ∧
      ∀ a ∈ l₂.head?, ∃ e, step s' a = .error e := by
  induction l generalizing s t with
  | nil => exact ⟨[], [], s, [], rfl, rfl, rfl, fun a ha => by cases ha⟩
  | cons a l ih =>
    rcases hstep s t a List.mem_cons_self hsim with ⟨e, he⟩ | ⟨s₁, o, hs, hallow, hsim₁⟩
    · refine ⟨[], a :: l, s, [], rfl, rfl, rfl, fun b hb => ?_⟩
      obtain rfl : a = b := Option.some.inj hb
      exact ⟨e, he⟩
    · obtain ⟨l₁, l₂, s', os, rfl, hrun, hobeys, hend⟩ :=
        ih (fun s t a ha => hstep s t a (List.mem_cons_of_mem _ ha)) s₁ (next t a o) hsim₁
      exact ⟨a :: l₁, l₂, s', o :: os, rfl, run_cons hs hrun, ⟨hallow, hobeys⟩, hend⟩

end Monitor

/-! ### Two machines -/

section Simulation

variable {τ' β ω' ε' : Type*} {step' : τ' → β → Except ε' (τ' × ω')} {ok' : τ' → β → Prop}

/-- A simulation between two machines of which the second takes the first one's inputs for its own:
where it meets its guard, both run, and their outputs correspond. -/
theorem run_simulates (f : β → α) (sim : σ → τ' → Prop) (out : ω → ω' → Prop) (l : List β)
    (hstep : ∀ s t b, b ∈ l → sim s t → ok' t b → ∃ s' o t' o', step s (f b) = .ok (s', o) ∧
      step' t b = .ok (t', o') ∧ sim s' t' ∧ out o o')
    {s : σ} {t : τ'} (hsim : sim s t) (hguard : Guarded step' ok' t l) :
    ∃ s' os t' os', run step s (l.map f) = .ok (s', os) ∧ run step' t l = .ok (t', os') ∧
      sim s' t' ∧ List.Forall₂ out os os' := by
  induction l generalizing s t with
  | nil => exact ⟨s, [], t, [], rfl, rfl, hsim, .nil⟩
  | cons b l ih =>
    obtain ⟨hok, hrest⟩ := hguard
    obtain ⟨s₁, o, t₁, o', hs, ht, hsim₁, hout⟩ := hstep s t b List.mem_cons_self hsim hok
    rw [ht] at hrest
    obtain ⟨s₂, os, t₂, os', hrun, hrun', hsim₂, houts⟩ :=
      ih (fun s t b hb => hstep s t b (List.mem_cons_of_mem _ hb)) hsim₁ hrest
    exact ⟨s₂, o :: os, t₂, o' :: os', run_cons hs hrun, run_cons ht hrun', hsim₂,
      .cons hout houts⟩

end Simulation

/-! ### Postconditions of the single steps -/

section Stepwise

variable (step) (post : σ → α → σ × ω → Prop)

/-- Every step of the run succeeds and meets its postcondition. -/
def Meets : σ → List α → Prop
  | _, [] => True
  | s, a :: l =>
    match step s a with
    | .error _ => False
    | .ok r => post s a r ∧ Meets r.1 l

variable {step post}

/-- Where `ok` says exactly when one step meets the postcondition, the runs that meet it are the
guarded ones. -/
theorem meets_iff_guarded {ok : σ → α → Prop}
    (hstep : ∀ s a, ok s a ↔ ∃ r, step s a = .ok r ∧ post s a r) (s : σ) (l : List α) :
    Meets step post s l ↔ Guarded step ok s l := by
  induction l generalizing s with
  | nil => exact Iff.rfl
  | cons a l ih =>
    rw [Meets, Guarded, hstep]
    cases hs : step s a with
    | error e =>
      constructor
      · exact False.elim
      · rintro ⟨⟨r, hr, -⟩, -⟩
        cases hr
    | ok r =>
      constructor
      · rintro ⟨hpost, hrest⟩
        exact ⟨⟨r, rfl, hpost⟩, (ih r.1).mp hrest⟩
      · rintro ⟨⟨r', hr, hpost⟩, hrest⟩
        cases hr
        exact ⟨hpost, (ih r.1).mpr hrest⟩

/-- Where an invariant and the guard give the postcondition of one step, and the invariant again,
guarded runs meet the postconditions. -/
theorem meets_of_guarded {ok : σ → α → Prop} (inv : σ → Prop)
    (hstep : ∀ s a, inv s → ok s a → ∃ r, step s a = .ok r ∧ post s a r ∧ inv r.1) (s : σ)
    (l : List α) (hinv : inv s) (h : Guarded step ok s l) : Meets step post s l := by
  induction l generalizing s with
  | nil => trivial
  | cons a l ih =>
    obtain ⟨hok, hrest⟩ := h
    obtain ⟨r, hs, hpost, hinv'⟩ := hstep s a hinv hok
    rw [hs] at hrest
    rw [Meets, hs]
    exact ⟨hpost, ih r.1 hinv' hrest⟩

/-- Where, as long as an invariant holds, the input alone decides whether a step meets its
postcondition, the runs that meet it are those all of whose inputs are fine. -/
theorem meets_iff_forall {ok : α → Prop} (inv : σ → Prop)
    (hstep : ∀ s a, inv s → (ok a ↔ ∃ r, step s a = .ok r ∧ post s a r))
    (hinv : ∀ s a r, inv s → step s a = .ok r → inv r.1) (s : σ) (l : List α) (h : inv s) :
    Meets step post s l ↔ ∀ a ∈ l, ok a := by
  induction l generalizing s with
  | nil => exact iff_of_true trivial fun a ha => absurd ha List.not_mem_nil
  | cons a l ih =>
    rw [Meets, List.forall_mem_cons, hstep s a h]
    cases hs : step s a with
    | error e =>
      constructor
      · exact False.elim
      · rintro ⟨⟨r, hr, -⟩, -⟩
        cases hr
    | ok r =>
      have hrest := ih r.1 (hinv s a r h hs)
      constructor
      · rintro ⟨hpost, hmeets⟩
        exact ⟨⟨r, rfl, hpost⟩, hrest.mp hmeets⟩
      · rintro ⟨⟨r', hr, hpost⟩, hall⟩
        cases hr
        exact ⟨hpost, hrest.mpr hall⟩

end Stepwise

/-! ### Removing the inputs of others -/

section Purge

variable (step) (mine : α → Bool)

/-- The outputs to the inputs of interest. -/
def outputsOf : List α → List ω → List ω
  | a :: l, o :: os => if mine a then o :: outputsOf l os else outputsOf l os
  | _, _ => []

variable (touched : ω → Prop) (calm : σ → σ → Prop)

/-- Beside the full run, from `s`, goes the purged one, from `s'`. An input of interest whose
output is `touched` by what others may have left follows another input of interest directly
(`own`), or meets calm states. -/
def Undisturbed : Bool → σ → σ → List α → Prop
  | _, _, _, [] => True
  | own, s, s', a :: l =>
    match step s a with
    | .error _ => True
    | .ok r =>
      if mine a then
        (touched r.2 → own = true ∨ calm s s') ∧
        match step s' a with
        | .error _ => True
        | .ok r' => Undisturbed true r.1 r'.1 l
      else Undisturbed false r.1 s' l

instance decidableUndisturbed [∀ o, Decidable (touched o)] [∀ s s', Decidable (calm s s')] :
    (own : Bool) → (s s' : σ) → (l : List α) →
      Decidable (Undisturbed step mine touched calm own s s' l)
  | _, _, _, [] => isTrue trivial
  | own, s, s', a :: l =>
    match h : step s a with
    | .error _ => decidable_of_iff True (by rw [Undisturbed, h])
    | .ok r =>
      match hm : mine a, h' : step s' a with
      | true, .error _ =>
        decidable_of_iff (touched r.2 → own = true ∨ calm s s') (by simp [Undisturbed, h, hm, h'])
      | true, .ok r' =>
        have := decidableUndisturbed true r.1 r'.1 l
        decidable_of_iff ((touched r.2 → own = true ∨ calm s s') ∧
          Undisturbed step mine touched calm true r.1 r'.1 l) (by simp [Undisturbed, h, hm, h'])
      | false, _ =>
        have := decidableUndisturbed false r.1 s' l
        decidable_of_iff (Undisturbed step mine touched calm false r.1 s' l)
          (by simp [Undisturbed, h, hm])

variable {step mine touched calm}

/-- Noninterference by unwinding: `weak` relates the states of the two runs throughout, `agree`
after each input of interest. -/
theorem run_purge (weak agree : σ → σ → Prop)
    (hother : ∀ s s' a s₁ o, mine a = false → weak s s' → step s a = .ok (s₁, o) → weak s₁ s')
    (hmine : ∀ s s' a s₁ o, mine a = true → weak s s' → (touched o → agree s s') →
      step s a = .ok (s₁, o) → ∃ s₁', step s' a = .ok (s₁', o) ∧ weak s₁ s₁' ∧ agree s₁ s₁')
    (hcalm : ∀ s s', calm s s' → agree s s') (l : List α) (own : Bool) (s s' sf : σ)
    (os : List ω) (hweak : weak s s') (hown : own = true → agree s s')
    (hquiet : Undisturbed step mine touched calm own s s' l)
    (hrun : run step s l = .ok (sf, os)) :
    ∃ sf', run step s' (l.filter mine) = .ok (sf', outputsOf mine l os) := by
  induction l generalizing own s s' os with
  | nil =>
    simp only [run, Except.ok.injEq, Prod.mk.injEq] at hrun
    obtain ⟨-, rfl⟩ := hrun
    exact ⟨s', rfl⟩
  | cons a l ih =>
    obtain ⟨s₁, o, os, hs, hrest, rfl⟩ := run_cons_ok hrun
    simp only [Undisturbed, hs] at hquiet
    cases hm : mine a with
    | true =>
      rw [if_pos hm] at hquiet
      have hagree : touched o → agree s s' := fun ht => (hquiet.1 ht).elim hown (hcalm s s')
      obtain ⟨s₁', hs', hweak₁, hagree₁⟩ := hmine s s' a s₁ o hm hweak hagree hs
      have hnext := hquiet.2
      rw [hs'] at hnext
      obtain ⟨sf', hfinal⟩ := ih true s₁ s₁' os hweak₁ (fun _ => hagree₁) hnext hrest
      refine ⟨sf', ?_⟩
      rw [List.filter_cons_of_pos hm, outputsOf, if_pos hm]
      exact run_cons hs' hfinal
    | false =>
      have hm' : ¬mine a = true := by simp [hm]
      rw [if_neg hm'] at hquiet
      obtain ⟨sf', hfinal⟩ := ih false s₁ s' os (hother s s' a s₁ o hm hweak hs)
        (fun h => absurd h (by decide)) hquiet hrest
      refine ⟨sf', ?_⟩
      rw [List.filter_cons_of_neg hm', outputsOf, if_neg hm']
      exact hfinal

end Purge

end Machine
