import EngPc.Lib.Block
import EngPc.Lib.Machine

/-!
# Refinement of computations that may fail

A computation refines another one when every value that it ends with stands for one that the other
ends with. It may fail where the other goes on: nothing is asked for there. The rules go along the
steps of a computation, and `run_refines` along the runs of two machines.
-/

namespace Refinement
open Machine

variable {ε ε' α β γ δ : Type} {R : α → β → Prop} {S : γ → δ → Prop}

def Refines (R : α → β → Prop) (m : Except ε α) (m' : Except ε' β) : Prop :=
  ∀ a, m = .ok a → ∃ b, m' = .ok b ∧ R a b

lemma refines_ok {a : α} {b : β} (h : R a b) :
    Refines R (.ok a : Except ε α) (.ok b : Except ε' β) := by
  intro a' ha
  cases ha
  exact ⟨b, rfl, h⟩

lemma refines_error (e : ε) (m' : Except ε' β) : Refines R (.error e) m' := by
  intro a ha
  cases ha

lemma Refines.map {m : Except ε α} {m' : Except ε' β} (h : Refines R m m') {f : α → γ} {g : β → δ}
    (hfg : ∀ a b, R a b → S (f a) (g b)) : Refines S (m.map f) (m'.map g) := by
  intro c hc
  cases m with
  | error e => cases hc
  | ok a =>
    cases hc
    obtain ⟨b, rfl, hab⟩ := h a rfl
    exact ⟨g b, rfl, hfg a b hab⟩

/-- The refining computation takes a step of its own. -/
theorem refines_bind_left {m : Except ε α} {f : α → Except ε γ} {n : Except ε' δ}
    (h : ∀ a, m = .ok a → Refines S (f a) n) : Refines S (m >>= f) n := by
  cases m with
  | error e => exact refines_error e n
  | ok a => exact h a rfl

/-- Both computations take a step, the refined one in whatever way it goes on with its result. -/
theorem Refines.step {m : Except ε α} {m' : Except ε' β} (h : Refines R m m')
    {f : α → Except ε γ} {n : Except ε' δ}
    (hf : ∀ a b, m' = .ok b → R a b → Refines S (f a) n) : Refines S (m >>= f) n := by
  apply refines_bind_left
  intro a ha
  obtain ⟨b, hb, hab⟩ := h a ha
  exact hf a b hb hab

/-- Two machines with the same inputs, of which each step of the one refines the step of the other. -/
theorem run_refines {σ τ ι ω ω' : Type} {step : σ → ι → Except ε (σ × ω)}
    {step' : τ → ι → Except ε' (τ × ω')} {sim : σ → τ → Prop} {out : ω → ω' → Prop}
    (hstep : ∀ s t i, sim s t →
      Refines (fun r r' => sim r.1 r'.1 ∧ out r.2 r'.2) (step s i) (step' t i))
    (l : List ι) {s : σ} {t : τ} (hsim : sim s t) :
    Refines (fun r r' => sim r.1 r'.1 ∧ List.Forall₂ out r.2 r'.2) (run step s l)
      (run step' t l) := by
  induction l generalizing s t with
  | nil => exact refines_ok ⟨hsim, .nil⟩
  | cons i l ih =>
    intro r hr
    obtain ⟨s₂, os⟩ := r
    obtain ⟨s₁, o, os, hs, hrun, rfl⟩ := run_cons_ok hr
    obtain ⟨⟨t₁, o'⟩, ht, hsim₁, ho⟩ := hstep s t i hsim (s₁, o) hs
    obtain ⟨⟨t₂, os'⟩, hrun', hsim₂, hos⟩ := ih hsim₁ (s₂, os) hrun
    exact ⟨(t₂, o' :: os'), run_cons ht hrun', hsim₂, .cons ho hos⟩

end Refinement
