import Mathlib.Data.Nat.Find
import Mathlib.Tactic.Common

/-!
# Loops that count down

`whileLoop` runs a loop for a number of rounds. Where the states of a loop are numbered and each
round goes to the next lower number, the loop stops at the greatest number that lets it
(`Nat.findGreatest`).
-/

namespace Countdown

variable {σ : Type*}

/-- `while (go s) s = body s;`, or `none` where more tests are needed than there is fuel. -/
def whileLoop (go : σ → Bool) (body : σ → σ) : ℕ → σ → Option σ
  | 0, _ => none
  | fuel + 1, s => if go s then whileLoop go body fuel (body s) else some s

section Loops

variable {go : σ → Bool} {body : σ → σ} {fuel : ℕ} {s : σ}

lemma whileLoop_stop (h : go s = false) : whileLoop go body (fuel + 1) s = some s := by
  simp [whileLoop, h]

lemma whileLoop_step (h : go s = true) :
    whileLoop go body (fuel + 1) s = whileLoop go body fuel (body s) := by
  simp [whileLoop, h]

/-- The loop stops at the first number, on the way down from `n`, that lets it. -/
theorem whileLoop_countdown {stage : ℕ → σ} {p : ℕ → Prop} [DecidablePred p] {n : ℕ}
    (hbody : ∀ k < n, body (stage (k + 1)) = stage k)
    (hgo : ∀ k ≤ n, go (stage k) = false ↔ p k) (hstop : ∃ k ≤ n, p k) (hfuel : n < fuel) :
    whileLoop go body fuel (stage n) = some (stage (Nat.findGreatest p n)) := by
  induction n generalizing fuel with
  | zero =>
    obtain ⟨k, hk, hpk⟩ := hstop
    obtain rfl : k = 0 := by omega
    obtain ⟨fuel, rfl⟩ := Nat.exists_eq_add_of_lt hfuel
    rw [Nat.findGreatest_zero]
    exact whileLoop_stop ((hgo 0 le_rfl).mpr hpk)
  | succ n ih =>
    obtain ⟨fuel, rfl⟩ : ∃ m, fuel = m + 1 := ⟨fuel - 1, by omega⟩
    have hhere := hgo (n + 1) le_rfl
    by_cases hp : p (n + 1)
    · rw [whileLoop_stop (hhere.mpr hp), Nat.findGreatest_eq hp]
    · have hrun : go (stage (n + 1)) = true := by simpa [hp] using hhere
      rw [Nat.findGreatest_of_not hp, whileLoop_step hrun, hbody n n.lt_succ_self]
      apply ih (fun k hk => hbody k (by omega)) (fun k hk => hgo k (by omega)) _ (by omega)
      obtain ⟨k, hk, hpk⟩ := hstop
      have hne : k ≠ n + 1 := by
        rintro rfl
        exact hp hpk
      exact ⟨k, by omega, hpk⟩

end Loops

lemma findGreatest_or_zero (p : ℕ → Bool) (n : ℕ) :
    Nat.findGreatest (fun k => p k = true ∨ k = 0) n =
      Nat.findGreatest (fun k => p k = true) n := by
  induction n with
  | zero => rfl
  | succ n ih =>
    rw [Nat.findGreatest_succ, Nat.findGreatest_succ, ih]
    simp

end Countdown
