import Mathlib.Logic.Relation
import Mathlib.Tactic.Common

/-!
# Interleavings

`next s a` is the state after step `a`, or nothing where the step is not possible in `s`. The order
of the steps is free, so a system of several parties is one such function. `guarded` keeps only the
steps that meet a condition on the state before them.
-/

namespace Reach

variable {σ τ α β : Type*}

def Step (next : σ → α → Option σ) (s s' : σ) : Prop := ∃ a, next s a = some s'

/-- The states of the runs from a given one. -/
def Reachable (next : σ → α → Option σ) : σ → σ → Prop := Relation.ReflTransGen (Step next)

def replay (next : σ → α → Option σ) : σ → List α → Option σ
  | s, [] => some s
  | s, a :: l => (next s a).bind (fun s => replay next s l)

def guarded (next : σ → α → Option σ) (ok : σ → α → Prop) [∀ s a, Decidable (ok s a)] (s : σ)
    (a : α) : Option σ :=
  if ok s a then next s a else none

section Runs

variable {next : σ → α → Option σ} {s s' : σ}

lemma guarded_eq_some {ok : σ → α → Prop} [∀ s a, Decidable (ok s a)] {a : α} :
    guarded next ok s a = some s' ↔ ok s a ∧ next s a = some s' := by
  unfold guarded
  split_ifs with h <;> simp [h]

lemma replay_cons {a : α} {l : List α} :
    replay next s (a :: l) = some s' ↔ ∃ s₁, next s a = some s₁ ∧ replay next s₁ l = some s' := by
  simp [replay, Option.bind_eq_some_iff]

lemma replay_append {l l' : List α} :
    replay next s (l ++ l') = some s' ↔
      ∃ s₁, replay next s l = some s₁ ∧ replay next s₁ l' = some s' := by
  induction l generalizing s with
  | nil => simp [replay]
  | cons a l ih =>
    rw [List.cons_append, replay_cons]
    simp only [ih, replay_cons]
    constructor
    · rintro ⟨s₁, h₁, s₂, h₂, h₃⟩
      exact ⟨s₂, ⟨s₁, h₁, h₂⟩, h₃⟩
    · rintro ⟨s₂, ⟨s₁, h₁, h₂⟩, h₃⟩
      exact ⟨s₁, h₁, s₂, h₂, h₃⟩

lemma reachable_of_replay {l : List α} (hl : replay next s l = some s') :
    Reachable next s s' := by
  induction l generalizing s with
  | nil =>
    cases hl
    exact .refl
  | cons a l ih =>
    obtain ⟨s₁, hs, hl⟩ := replay_cons.mp hl
    exact .head ⟨a, hs⟩ (ih hl)

/-- What holds at first and is kept by each step holds in every state of every run. -/
theorem Reachable.invariant {P : σ → Prop} (h : Reachable next s s') (h0 : P s)
    (hstep : ∀ s a s', P s → next s a = some s' → P s') : P s' := by
  induction h with
  | refl => exact h0
  | tail _ hs ih =>
    obtain ⟨a, hs⟩ := hs
    exact hstep _ a _ ih hs

variable {ok : σ → α → Prop} [∀ s a, Decidable (ok s a)]

theorem Reachable.invariant_guarded {P : σ → Prop} (h : Reachable (guarded next ok) s s')
    (h0 : P s) (hstep : ∀ s a s', P s → ok s a → next s a = some s' → P s') : P s' := by
  apply h.invariant h0
  intro s a s' hs hnext
  obtain ⟨hok, hnext⟩ := guarded_eq_some.mp hnext
  exact hstep s a s' hs hok hnext

end Runs

end Reach
