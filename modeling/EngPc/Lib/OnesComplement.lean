import Mathlib.Data.List.Basic
import Mathlib.Tactic.Common

/-!
# One's complement sums

Words are numbers below `B`. `add` brings the carry round to the lowest place, and the sum of some
words together with the complement of their sum is the word of ones, `B - 1`.
-/

namespace OnesComplement

variable {B : Nat}

def add (B a b : Nat) : Nat := (a + b) % B + (a + b) / B

def sum (B : Nat) (l : List Nat) : Nat := l.foldl (add B) 0

def complement (B s : Nat) : Nat := B - 1 - s

lemma add_of_lt {a b : Nat} (h : a + b < B) : add B a b = a + b := by
  unfold add
  rw [Nat.mod_eq_of_lt h, Nat.div_eq_of_lt h]
  rfl

lemma add_cases {a b : Nat} (ha : a < B) (hb : b < B) :
    a + b < B ∧ add B a b = a + b ∨ B ≤ a + b ∧ add B a b = a + b - B + 1 := by
  by_cases h : a + b < B
  · left
    exact ⟨h, add_of_lt h⟩
  · right
    have hle : B ≤ a + b := Nat.le_of_not_lt h
    have hlt : a + b - B < B := by omega
    have hmod : (a + b) % B = a + b - B := by
      rw [Nat.mod_eq_sub_mod hle, Nat.mod_eq_of_lt hlt]
    have hdiv : (a + b) / B = 1 := by
      apply Nat.div_eq_of_lt_le <;> omega
    unfold add
    rw [hmod, hdiv]
    exact ⟨hle, rfl⟩

lemma add_lt {a b : Nat} (ha : a < B) (hb : b < B) : add B a b < B := by
  rcases add_cases ha hb with ⟨h, heq⟩ | ⟨h, heq⟩ <;> rw [heq] <;> omega

lemma add_complement {s : Nat} (hs : s < B) : add B s (complement B s) = B - 1 := by
  have hc : complement B s < B := by
    unfold complement
    omega
  rcases add_cases hs hc with ⟨-, heq⟩ | ⟨h, -⟩
  · rw [heq]
    unfold complement
    omega
  · unfold complement at h
    omega

lemma foldl_add_lt {s : Nat} (hs : s < B) (l : List Nat) (h : ∀ w ∈ l, w < B) :
    l.foldl (add B) s < B := by
  induction l generalizing s with
  | nil => exact hs
  | cons w l ih =>
    rw [List.forall_mem_cons] at h
    exact ih (add_lt hs h.1) h.2

/-- What a sender that appends the complement relies on. -/
theorem sum_append_complement (hB : 0 < B) (l : List Nat) (h : ∀ w ∈ l, w < B) :
    sum B (l ++ [complement B (sum B l)]) = B - 1 := by
  unfold sum
  rw [List.foldl_append]
  exact add_complement (foldl_add_lt hB l h)

end OnesComplement
