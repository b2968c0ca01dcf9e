import Mathlib.Logic.Function.Basic
import Mathlib.Tactic.Common

/-!
# A slot that is saved and restored

Several parties share one slot. A party puts its own value in, keeps the value that it found and
puts that back when it is done. `nested` lists the parties that are not done, the last one to come
first. If each party that leaves is the last one that came, the slot always holds the value of the
first party of the list, and in the end the value from before.
-/

/-- The slot, what each party has kept, and the parties that are not done. -/
structure Slot (θ τ : Type*) where
  value : τ
  kept : θ → Option τ
  nested : List θ

namespace Slot

variable {θ τ : Type*}

def free (c : τ) : Slot θ τ := ⟨c, fun _ => none, []⟩

/-- The value that belongs in the slot. -/
def innermost (own : θ → τ) (c : τ) : List θ → τ
  | [] => c
  | t :: _ => own t

/-- Each party of the list has found what belongs to the rest of the list. -/
def Kept (own : θ → τ) (c : τ) (kept : θ → Option τ) : List θ → Prop
  | [] => True
  | t :: l => kept t = some (innermost own c l) ∧ t ∉ l ∧ Kept own c kept l

/-- The parties have come and gone as on a stack. -/
structure Stacked (own : θ → τ) (c : τ) (s : Slot θ τ) : Prop where
  value_eq : s.value = innermost own c s.nested
  kept : Kept own c s.kept s.nested
  done : ∀ t, t ∉ s.nested → s.kept t = none

section Parties

variable [DecidableEq θ]

def take (s : Slot θ τ) (t : θ) (v : τ) : Slot θ τ :=
  ⟨v, Function.update s.kept t (some s.value), t :: s.nested⟩

def restore (s : Slot θ τ) (t : θ) (v : τ) : Slot θ τ :=
  ⟨v, Function.update s.kept t none, s.nested.erase t⟩

variable (s : Slot θ τ) {t u : θ} (v : τ)

@[simp] lemma take_kept_self : (s.take t v).kept t = some s.value := Function.update_self ..

@[simp] lemma restore_kept_self : (s.restore t v).kept t = none := Function.update_self ..

lemma take_kept_of_ne (h : u ≠ t) : (s.take t v).kept u = s.kept u := Function.update_of_ne h ..

lemma restore_kept_of_ne (h : u ≠ t) : (s.restore t v).kept u = s.kept u :=
  Function.update_of_ne h ..

end Parties

section Stack

variable {own : θ → τ} {c : τ} {s : Slot θ τ} {t : θ} {v : τ}

lemma kept_congr {kept kept' : θ → Option τ} {l : List θ} (heq : ∀ u ∈ l, kept' u = kept u)
    (h : Kept own c kept l) : Kept own c kept' l := by
  induction l with
  | nil => trivial
  | cons u l ih =>
    obtain ⟨hu, hmem, hl⟩ := h
    refine ⟨?_, hmem, ?_⟩
    · rw [heq u List.mem_cons_self]
      exact hu
    · apply ih _ hl
      intro w hw
      exact heq w (List.mem_cons_of_mem u hw)

lemma kept_of_mem {kept : θ → Option τ} {l : List θ} (h : Kept own c kept l) (ht : t ∈ l) :
    ∃ w, kept t = some w := by
  induction l with
  | nil => cases ht
  | cons u l ih =>
    rcases List.mem_cons.mp ht with rfl | ht
    · exact ⟨_, h.1⟩
    · exact ih h.2.2 ht

lemma stacked_free (own : θ → τ) (c : τ) : (free c : Slot θ τ).Stacked own c :=
  ⟨rfl, trivial, fun _ _ => rfl⟩

lemma Stacked.value_of_head (h : s.Stacked own c) (ht : s.nested.head? = some t) :
    s.value = own t := by
  rw [h.value_eq]
  cases hl : s.nested with
  | nil =>
    rw [hl] at ht
    cases ht
  | cons u l =>
    rw [hl] at ht
    rw [innermost, Option.some.inj ht]

lemma Stacked.value_of_done (h : s.Stacked own c) (hdone : ∀ t, s.kept t = none) :
    s.value = c := by
  rw [h.value_eq]
  cases hl : s.nested with
  | nil => rfl
  | cons u l =>
    have hkept := h.kept
    rw [hl] at hkept
    have hsome := hkept.1
    rw [hdone u] at hsome
    cases hsome

variable [DecidableEq θ]

lemma Stacked.take (h : s.Stacked own c) (ht : s.kept t = none) :
    (s.take t (own t)).Stacked own c := by
  have hfresh : t ∉ s.nested := by
    intro hmem
    obtain ⟨w, hw⟩ := kept_of_mem h.kept hmem
    rw [ht] at hw
    cases hw
  refine ⟨rfl, ⟨?_, hfresh, ?_⟩, ?_⟩
  · rw [take_kept_self, h.value_eq]
  · apply kept_congr _ h.kept
    intro u hu
    apply take_kept_of_ne
    rintro rfl
    exact hfresh hu
  · intro u hu
    have hne : u ≠ t := fun heq => hu (heq ▸ List.mem_cons_self)
    rw [take_kept_of_ne s _ hne]
    exact h.done u (fun hmem => hu (List.mem_cons_of_mem t hmem))

lemma Stacked.restore (h : s.Stacked own c) (ht : s.nested.head? = some t)
    (hv : s.kept t = some v) : (s.restore t v).Stacked own c := by
  obtain ⟨hvalue, hkept, hdone⟩ := h
  cases hl : s.nested with
  | nil =>
    rw [hl] at ht
    cases ht
  | cons u l =>
    rw [hl] at ht hkept hdone
    obtain rfl : u = t := Option.some.inj ht
    obtain ⟨hu, hfresh, hrest⟩ := hkept
    have herase : (s.restore u v).nested = l := by
      rw [Slot.restore, hl, List.erase_cons_head]
    refine ⟨?_, ?_, ?_⟩
    · rw [herase]
      rw [hv] at hu
      exact Option.some.inj hu
    · rw [herase]
      apply kept_congr _ hrest
      intro w hw
      apply restore_kept_of_ne
      rintro rfl
      exact hfresh hw
    · rw [herase]
      intro w hw
      by_cases hwu : w = u
      · subst hwu
        exact restore_kept_self s v
      · rw [restore_kept_of_ne s v hwu]
        apply hdone
        intro hmem
        rcases List.mem_cons.mp hmem with rfl | hmem
        · exact hwu rfl
        · exact hw hmem

end Stack

end Slot
