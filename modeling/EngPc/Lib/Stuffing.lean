import Mathlib.Data.List.Basic
import Mathlib.Tactic.Common

/-!
# Byte stuffing

A stuffing code over an alphabet `α` replaces every special symbol by an escape symbol
followed by a masked copy of it. `stuff` and `unstuff` are inverse to each other, the one on
all words and the other on the words that `stuff` produces (`WellStuffed`).
-/

/-- The parameters of a stuffing code. The receiver treats every special symbol as an escape. -/
structure Stuffing (α : Type*) [DecidableEq α] where
  special : α → Prop
  decSpecial : DecidablePred special
  esc : α
  mask : α → α
  esc_special : special esc
  mask_mask : ∀ a, mask (mask a) = a
  mask_not_special : ∀ a, special a → ¬special (mask a)

namespace Stuffing

variable {α : Type*} [DecidableEq α] (S : Stuffing α)

instance : DecidablePred S.special := S.decSpecial

def stuff : List α → List α
  | [] => []
  | a :: l => if S.special a then S.esc :: S.mask a :: stuff l else a :: stuff l

def unstuff : List α → List α
  | [] => []
  | [a] => [a]
  | a :: b :: l => if S.special a then S.mask b :: unstuff l else a :: unstuff (b :: l)

/-- The words that `stuff` produces: a special symbol is the escape symbol and is followed by
the masked copy of a special one. -/
inductive WellStuffed : List α → Prop
  | nil : WellStuffed []
  | plain {a l} : ¬S.special a → WellStuffed l → WellStuffed (a :: l)
  | escaped {a l} : S.special a → WellStuffed l → WellStuffed (S.esc :: S.mask a :: l)

@[simp] lemma stuff_nil : S.stuff [] = [] := rfl

lemma stuff_special {a : α} (h : S.special a) (l : List α) :
    S.stuff (a :: l) = S.esc :: S.mask a :: S.stuff l := by
  simp [stuff, h]

lemma stuff_plain {a : α} (h : ¬S.special a) (l : List α) : S.stuff (a :: l) = a :: S.stuff l := by
  simp [stuff, h]

lemma unstuff_short {l : List α} (h : l.length ≤ 1) : S.unstuff l = l := by
  match l, h with
  | [], _ => rfl
  | [_], _ => rfl

lemma unstuff_special {a : α} (h : S.special a) (b : α) (l : List α) :
    S.unstuff (a :: b :: l) = S.mask b :: S.unstuff l := by
  simp [unstuff, h]

lemma unstuff_plain {a : α} (h : ¬S.special a) (l : List α) :
    S.unstuff (a :: l) = a :: S.unstuff l := by
  cases l with
  | nil => rfl
  | cons b l => simp [unstuff, h]

lemma length_stuff (l : List α) : (S.stuff l).length = l.length + l.countP S.special := by
  induction l with
  | nil => rfl
  | cons a l ih =>
    by_cases h : S.special a
    · rw [S.stuff_special h, List.countP_cons_of_pos (by simpa using h)]
      simp only [List.length_cons, ih]
      omega
    · rw [S.stuff_plain h, List.countP_cons_of_neg (by simpa using h)]
      simp only [List.length_cons, ih]
      omega

lemma stuff_eq_self_iff (l : List α) : S.stuff l = l ↔ ∀ a ∈ l, ¬S.special a := by
  constructor
  · intro h
    have hlen := S.length_stuff l
    rw [h] at hlen
    have hcount : l.countP S.special = 0 := by omega
    simpa using List.countP_eq_zero.mp hcount
  · intro h
    induction l with
    | nil => rfl
    | cons a l ih =>
      rw [S.stuff_plain (h a List.mem_cons_self), ih]
      intro b hb
      exact h b (List.mem_cons_of_mem a hb)

theorem unstuff_stuff (l : List α) : S.unstuff (S.stuff l) = l := by
  induction l with
  | nil => rfl
  | cons a l ih =>
    by_cases h : S.special a
    · rw [S.stuff_special h, S.unstuff_special S.esc_special, S.mask_mask, ih]
    · rw [S.stuff_plain h, S.unstuff_plain h, ih]

theorem stuff_unstuff {l : List α} (h : S.WellStuffed l) : S.stuff (S.unstuff l) = l := by
  induction h with
  | nil => rfl
  | plain ha _ ih => rw [S.unstuff_plain ha, S.stuff_plain ha, ih]
  | escaped ha _ ih =>
    rw [S.unstuff_special S.esc_special, S.mask_mask, S.stuff_special ha, ih]

/-- A special symbol other than the escape symbol never occurs in a stuffed word. -/
theorem not_mem_stuff {f : α} (hf : S.special f) (hne : f ≠ S.esc) (l : List α) :
    f ∉ S.stuff l := by
  induction l with
  | nil => simp
  | cons a l ih =>
    by_cases h : S.special a
    · rw [S.stuff_special h]
      have hm : f ≠ S.mask a := fun he => S.mask_not_special a h (he ▸ hf)
      simp [hne, hm, ih]
    · rw [S.stuff_plain h]
      have ha : f ≠ a := fun he => h (he ▸ hf)
      simp [ha, ih]

end Stuffing
