import EngPc.Lib.CLayout
import Mathlib.Order.Basic

/-!
# Paths to members

A path of indices goes down through structures and arrays to a member. What it leads to lies in the
structure that it starts from (`offsetAt_add_size_le`), and two paths to different scalars lead to
places that do not overlap (`offsetAt_disjoint`).
-/

namespace CLayout

mutual

/-- No scalar is empty. -/
def CType.sized : CType → Bool
  | .scalar size => 0 < size
  | .array elem _ => elem.sized
  | .struct fields => allSized fields

def allSized : List CType → Bool
  | [] => true
  | t :: fields => t.sized && allSized fields

end

def CType.typeAt : CType → List Nat → Option CType
  | t, [] => some t
  | .scalar _, _ :: _ => none
  | .array elem n, i :: path => if i < n then elem.typeAt path else none
  | .struct fields, i :: path =>
    match fields[i]? with
    | none => none
    | some t => t.typeAt path

def CType.offsetAt : CType → List Nat → Nat
  | _, [] => 0
  | .scalar _, _ :: _ => 0
  | .array elem _, i :: path => i * elem.size + elem.offsetAt path
  | .struct fields, i :: path =>
    match fields[i]? with
    | none => 0
    | some t => (offsets 0 fields).getD i 0 + t.offsetAt path

variable {t u : CType} {fields : List CType} {path : List Nat} {i j off : Nat}

/-! ### Paths step by step -/

@[simp] lemma typeAt_nil : t.typeAt [] = some t := by
  cases t <;> rfl

lemma offsetAt_nil : t.offsetAt [] = 0 := by
  cases t <;> rfl

@[simp] lemma typeAt_array {n : Nat} (i : Fin n) :
    (CType.array t n).typeAt (i :: path) = t.typeAt path := if_pos i.isLt

@[simp] lemma typeAt_struct_cons :
    (CType.struct fields).typeAt (i :: path) = fields[i]?.bind fun t => t.typeAt path := by
  rw [CType.typeAt]
  cases fields[i]? <;> rfl

lemma typeAt_struct (h : fields[i]? = some t) :
    (CType.struct fields).typeAt (i :: path) = t.typeAt path := by
  rw [CType.typeAt, h]

lemma offsetAt_struct (h : fields[i]? = some t) :
    (CType.struct fields).offsetAt (i :: path) = (offsets 0 fields).getD i 0 + t.offsetAt path := by
  rw [CType.offsetAt, h]

/-! ### Alignment -/

lemma alignMax_pos (fields : List CType) : 0 < alignMax fields := by
  induction fields with
  | nil => exact Nat.one_pos
  | cons t fields ih =>
    rw [alignMax]
    exact ih.trans_le (Nat.le_max_right _ _)

lemma align_pos : ∀ {t : CType}, t.sized = true → 0 < t.align
  | .scalar _, h => of_decide_eq_true h
  | .array elem _, h => align_pos (t := elem) h
  | .struct fields, _ => alignMax_pos fields

lemma le_alignUp {align : Nat} (h : 0 < align) : off ≤ alignUp off align := by
  have hdiv := Nat.div_add_mod (off + (align - 1)) align
  have hmod := Nat.mod_lt (off + (align - 1)) h
  rw [alignUp, Nat.mul_comm]
  omega

lemma sized_cons : allSized (t :: fields) = true ↔ t.sized = true ∧ allSized fields = true := by
  rw [allSized, Bool.and_eq_true]

lemma sized_of_getElem? (h : allSized fields = true) (ht : fields[i]? = some t) : t.sized = true := by
  induction fields generalizing i with
  | nil => cases ht
  | cons t' fields ih =>
    rw [sized_cons] at h
    cases i with
    | zero =>
      cases ht
      exact h.1
    | succ i => exact ih h.2 ht

/-! ### Members of a structure -/

lemma le_endOf (h : allSized fields = true) : off ≤ endOf off fields := by
  induction fields generalizing off with
  | nil => exact Nat.le_refl off
  | cons t fields ih =>
    rw [sized_cons] at h
    rw [endOf]
    exact (le_alignUp (align_pos h.1)).trans ((Nat.le_add_right _ _).trans (ih h.2))

lemma le_offset (h : allSized fields = true) (ht : fields[i]? = some t) :
    off ≤ (offsets off fields).getD i 0 := by
  induction fields generalizing off i with
  | nil => cases ht
  | cons t' fields ih =>
    rw [sized_cons] at h
    have hstart : off ≤ alignUp off t'.align := le_alignUp (align_pos h.1)
    cases i with
    | zero => exact hstart
    | succ i => exact hstart.trans ((Nat.le_add_right _ _).trans (ih h.2 ht))

lemma offset_add_size_le (h : allSized fields = true) (ht : fields[i]? = some t) :
    (offsets off fields).getD i 0 + t.size ≤ endOf off fields := by
  induction fields generalizing off i with
  | nil => cases ht
  | cons t' fields ih =>
    rw [sized_cons] at h
    cases i with
    | zero =>
      cases ht
      exact le_endOf h.2
    | succ i => exact ih h.2 ht

lemma offset_add_size_le_offset (h : allSized fields = true) (hij : i < j) (ht : fields[i]? = some t)
    (hu : fields[j]? = some u) :
    (offsets off fields).getD i 0 + t.size ≤ (offsets off fields).getD j 0 := by
  induction fields generalizing off i j with
  | nil => cases ht
  | cons t' fields ih =>
    rw [sized_cons] at h
    cases j with
    | zero => exact absurd hij (Nat.not_lt_zero i)
    | succ j =>
      cases i with
      | zero =>
        cases ht
        exact le_offset h.2 hu
      | succ i => exact ih h.2 (Nat.lt_of_succ_lt_succ hij) ht hu

/-! ### Members at the end of a path -/

/-- An element ends where a later one begins, or the array, or before. -/
lemma element_end_le {elem off size i j : Nat} (h : off + size ≤ elem) (hij : i < j) :
    i * elem + off + size ≤ j * elem := by
  have hmul : (i + 1) * elem ≤ j * elem := Nat.mul_le_mul_right elem hij
  rw [Nat.succ_mul] at hmul
  omega

theorem offsetAt_add_size_le (h : t.sized = true) (hpath : t.typeAt path = some u) :
    t.offsetAt path + u.size ≤ t.size := by
  induction path generalizing t with
  | nil =>
    rw [typeAt_nil] at hpath
    cases hpath
    rw [offsetAt_nil, Nat.zero_add]
  | cons i path ih =>
    cases t with
    | scalar size => cases hpath
    | array elem n =>
      rw [CType.typeAt] at hpath
      split_ifs at hpath with hi
      rw [CType.offsetAt, CType.size]
      exact element_end_le (ih h hpath) hi
    | struct fields =>
      cases ht : fields[i]? with
      | none =>
        rw [CType.typeAt, ht] at hpath
        cases hpath
      | some t =>
        rw [typeAt_struct ht] at hpath
        have hinner := ih (sized_of_getElem? h ht) hpath
        have houter := @offset_add_size_le _ _ _ 0 h ht
        have hpad := @le_alignUp (endOf 0 fields) _ (alignMax_pos fields)
        rw [offsetAt_struct ht, CType.size]
        omega

/-- Different scalars do not overlap. -/
theorem offsetAt_disjoint {path' : List Nat} {a b : Nat} (h : t.sized = true)
    (hpath : t.typeAt path = some (.scalar a)) (hpath' : t.typeAt path' = some (.scalar b))
    (hne : path ≠ path') :
    t.offsetAt path + a ≤ t.offsetAt path' ∨ t.offsetAt path' + b ≤ t.offsetAt path := by
  induction path generalizing t path' with
  | nil =>
    rw [typeAt_nil] at hpath
    cases hpath
    cases path' with
    | nil => exact absurd rfl hne
    | cons j path' => cases hpath'
  | cons i path ih =>
    cases path' with
    | nil =>
      rw [typeAt_nil] at hpath'
      cases hpath'
      cases hpath
    | cons j path' =>
      cases t with
      | scalar size => cases hpath
      | array elem n =>
        rw [CType.typeAt] at hpath hpath'
        split_ifs at hpath with hi
        split_ifs at hpath' with hj
        have helem : elem.sized = true := h
        have hend : elem.offsetAt path + a ≤ elem.size := offsetAt_add_size_le helem hpath
        have hend' : elem.offsetAt path' + b ≤ elem.size := offsetAt_add_size_le helem hpath'
        rw [CType.offsetAt, CType.offsetAt]
        rcases Nat.lt_trichotomy i j with hlt | rfl | hgt
        · exact .inl ((element_end_le hend hlt).trans (Nat.le_add_right _ _))
        · have hinner := ih helem hpath hpath' fun heq => hne (heq ▸ rfl)
          omega
        · exact .inr ((element_end_le hend' hgt).trans (Nat.le_add_right _ _))
      | struct fields =>
        cases ht : fields[i]? with
        | none =>
          rw [CType.typeAt, ht] at hpath
          cases hpath
        | some t =>
          cases hu : fields[j]? with
          | none =>
            rw [CType.typeAt, hu] at hpath'
            cases hpath'
          | some u =>
            rw [typeAt_struct ht] at hpath
            rw [typeAt_struct hu] at hpath'
            have hend : t.offsetAt path + a ≤ t.size :=
              offsetAt_add_size_le (sized_of_getElem? h ht) hpath
            have hend' : u.offsetAt path' + b ≤ u.size :=
              offsetAt_add_size_le (sized_of_getElem? h hu) hpath'
            rw [offsetAt_struct ht, offsetAt_struct hu]
            rcases Nat.lt_trichotomy i j with hlt | rfl | hgt
            · have hnext := @offset_add_size_le_offset _ _ _ _ _ 0 h hlt ht hu
              omega
            · cases ht.symm.trans hu
              have hinner := ih (sized_of_getElem? h ht) hpath hpath' fun heq => hne (heq ▸ rfl)
              omega
            · have hnext := @offset_add_size_le_offset _ _ _ _ _ 0 h hgt hu ht
              omega

end CLayout
