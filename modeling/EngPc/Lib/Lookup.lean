import Mathlib.Data.List.Nodup
import Mathlib.Tactic.Common

/-!
# Lookups in a list

What it means to be the first entry with a property, and how `List.find?` and `List.findIdx?` meet
it. Two lookups of which one asks for more agree exactly if what the weaker one finds is right for
the other as well.
-/

namespace Lookup

variable {α β : Type*}

/-- The first entry with the property is at `i`. -/
def IsFirst (p : α → Prop) (l : List α) (i : Nat) : Prop :=
  (∃ a, l[i]? = some a ∧ p a) ∧ ∀ j < i, ∀ a, l[j]? = some a → ¬p a

section IsFirst

variable {p : α → Prop} {l : List α} {i : Nat}

lemma IsFirst.unique {j : Nat} (hi : IsFirst p l i) (hj : IsFirst p l j) : i = j := by
  obtain ⟨⟨a, ha, hpa⟩, hbefore⟩ := hi
  obtain ⟨⟨b, hb, hpb⟩, hbefore'⟩ := hj
  by_contra hne
  cases Nat.lt_or_gt_of_ne hne with
  | inl hlt => exact hbefore' i hlt a ha hpa
  | inr hgt => exact hbefore j hgt b hb hpb

lemma not_isFirst_nil : ¬IsFirst p [] i := by
  rintro ⟨⟨a, ha, -⟩, -⟩
  simp at ha

lemma isFirst_cons_zero {a : α} : IsFirst p (a :: l) 0 ↔ p a := by
  simp [IsFirst]

lemma isFirst_cons_succ {a : α} : IsFirst p (a :: l) (i + 1) ↔ ¬p a ∧ IsFirst p l i := by
  unfold IsFirst
  constructor
  · rintro ⟨hsome, hbefore⟩
    refine ⟨hbefore 0 (Nat.succ_pos i) a rfl, by simpa using hsome, ?_⟩
    intro j hj b hb
    exact hbefore (j + 1) (Nat.succ_lt_succ hj) b (by simpa using hb)
  · rintro ⟨ha, hsome, hbefore⟩
    refine ⟨by simpa using hsome, ?_⟩
    intro j hj b hb
    cases j with
    | zero => simpa using (by simpa using hb : a = b) ▸ ha
    | succ j => exact hbefore j (Nat.lt_of_succ_lt_succ hj) b (by simpa using hb)

lemma exists_isFirst [DecidablePred p] {a : α} (ha : a ∈ l) (hp : p a) : ∃ i, IsFirst p l i := by
  induction l with
  | nil => exact absurd ha List.not_mem_nil
  | cons b l ih =>
    by_cases hb : p b
    · exact ⟨0, isFirst_cons_zero.mpr hb⟩
    · have hne : a ≠ b := fun heq => hb (heq ▸ hp)
      obtain ⟨i, hi⟩ := ih (List.mem_of_ne_of_mem hne ha)
      exact ⟨i + 1, isFirst_cons_succ.mpr ⟨hb, hi⟩⟩

theorem findIdx?_eq_some_iff [DecidablePred p] :
    l.findIdx? (fun a => decide (p a)) = some i ↔ IsFirst p l i := by
  induction l generalizing i with
  | nil => simp [not_isFirst_nil]
  | cons a l ih =>
    rw [List.findIdx?_cons]
    by_cases ha : p a
    · rw [if_pos (decide_eq_true ha)]
      cases i with
      | zero => simp [isFirst_cons_zero, ha]
      | succ i => simp [isFirst_cons_succ, ha]
    · rw [if_neg (by simpa using ha)]
      cases i with
      | zero => simp [isFirst_cons_zero, ha]
      | succ i => simp [isFirst_cons_succ, ha, ih]

theorem find?_eq_some_iff [DecidablePred p] {a : α} :
    l.find? (fun a => decide (p a)) = some a ↔ ∃ i, IsFirst p l i ∧ l[i]? = some a := by
  induction l with
  | nil => simp
  | cons b l ih =>
    rw [List.find?_cons]
    by_cases hb : p b
    · rw [decide_eq_true hb]
      constructor
      · intro h
        exact ⟨0, isFirst_cons_zero.mpr hb, by simpa using h⟩
      · rintro ⟨i, hi, ha⟩
        have hzero := hi.unique (isFirst_cons_zero.mpr hb)
        simpa [hzero] using ha
    · rw [decide_eq_false hb]
      constructor
      · intro h
        obtain ⟨i, hi, ha⟩ := ih.mp h
        exact ⟨i + 1, isFirst_cons_succ.mpr ⟨hb, hi⟩, by simpa using ha⟩
      · rintro ⟨i, hi, ha⟩
        cases i with
        | zero => exact absurd (isFirst_cons_zero.mp hi) hb
        | succ i => exact ih.mpr ⟨i, (isFirst_cons_succ.mp hi).2, by simpa using ha⟩

end IsFirst

/-- Every entry that only the weaker property `q` holds of stands behind one with `p`. -/
def Behind (p q : α → Prop) (l : List α) : Prop :=
  ∀ (i : Nat) (a : α), l[i]? = some a → q a → ¬p a → ∃ j < i, ∃ b, l[j]? = some b ∧ p b

lemma behind_cons {p q : α → Prop} {a : α} {l : List α} :
    Behind p q (a :: l) ↔ (q a → p a) ∧ (p a ∨ Behind p q l) := by
  constructor
  · intro h
    have hhead : q a → p a := by
      intro hq
      by_contra hp
      obtain ⟨j, hj, -⟩ := h 0 a rfl hq hp
      omega
    refine ⟨hhead, ?_⟩
    by_cases hp : p a
    · exact .inl hp
    · right
      intro i b hb hqb hpb
      obtain ⟨j, hj, c, hc, hpc⟩ := h (i + 1) b (by simpa using hb) hqb hpb
      cases j with
      | zero => exact absurd ((by simpa using hc : a = c) ▸ hpc) hp
      | succ j => exact ⟨j, by omega, c, by simpa using hc, hpc⟩
  · rintro ⟨hhead, htail⟩ i b hb hqb hpb
    cases i with
    | zero =>
      have hab : a = b := by simpa using hb
      exact absurd (hab ▸ hhead (hab.symm ▸ hqb)) hpb
    | succ i =>
      cases htail with
      | inl hp => exact ⟨0, Nat.succ_pos i, a, rfl, hp⟩
      | inr htail =>
        obtain ⟨j, hj, c, hc, hpc⟩ := htail i b (by simpa using hb) hqb hpb
        exact ⟨j + 1, by omega, c, by simpa using hc, hpc⟩

/-- A lookup with the property `p` against one with the weaker property `q`. -/
theorem find?_eq_find?_iff {p q : α → Prop} [DecidablePred p] [DecidablePred q]
    (hpq : ∀ a, p a → q a) (l : List α) :
    l.find? (fun a => decide (p a)) = l.find? (fun a => decide (q a)) ↔ Behind p q l := by
  induction l with
  | nil => simp [Behind]
  | cons a l ih =>
    rw [behind_cons, List.find?_cons, List.find?_cons]
    by_cases hp : p a
    · rw [decide_eq_true hp, decide_eq_true (hpq a hp)]
      simp [hp]
    · rw [decide_eq_false hp]
      by_cases hq : q a
      · rw [decide_eq_true hq]
        have hne : l.find? (fun a => decide (p a)) ≠ some a := by
          intro heq
          exact hp (by simpa using List.find?_some heq)
        simp [hp, hq, hne]
      · rw [decide_eq_false hq]
        simp [hp, hq, ih]

/-- The same for the places that are found. -/
theorem findIdx?_eq_findIdx?_iff {p q : α → Prop} [DecidablePred p] [DecidablePred q]
    (hpq : ∀ a, p a → q a) (l : List α) :
    l.findIdx? (fun a => decide (p a)) = l.findIdx? (fun a => decide (q a)) ↔ Behind p q l := by
  induction l with
  | nil => simp [Behind]
  | cons a l ih =>
    rw [behind_cons, List.findIdx?_cons, List.findIdx?_cons]
    by_cases hp : p a
    · simp [hp, hpq a hp]
    · by_cases hq : q a
      · simp [hp, hq]
      · have hinj : Function.Injective (Option.map fun i : Nat => i + 1) :=
          Option.map_injective fun _ _ h => Nat.succ.inj h
        simp only [hp, hq, decide_false, Bool.false_eq_true, if_false, false_or, false_imp_iff,
          true_and, hinj.eq_iff, ih]

/-- What is found may be compared by a key that tells the entries apart. -/
lemma map_find?_eq_iff {p q : α → Bool} {l : List α} {key : α → β} (h : (l.map key).Nodup) :
    (l.find? p).map key = (l.find? q).map key ↔ l.find? p = l.find? q := by
  constructor
  · intro heq
    cases hp : l.find? p with
    | none =>
      rw [hp] at heq
      exact (Option.map_eq_none_iff.mp heq.symm).symm
    | some a =>
      rw [hp] at heq
      obtain ⟨b, hb, hkey⟩ := Option.map_eq_some_iff.mp heq.symm
      rw [hb, List.inj_on_of_nodup_map h (List.mem_of_find?_eq_some hb)
        (List.mem_of_find?_eq_some hp) hkey]
  · intro heq
    rw [heq]

end Lookup
