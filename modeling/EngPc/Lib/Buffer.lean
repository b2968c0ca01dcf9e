import Mathlib.Data.List.OfFn
import Mathlib.Logic.Function.Basic
import Mathlib.Tactic.Common

/-!
# Memory seen from a pointer

A `Buffer α` gives the cell at every offset from a pointer. `load` reads a block as a list,
`copy` is a block move between possibly overlapping places, and the two cell-by-cell loops
`shiftDown` and `shiftUp` are proved to be block moves by one cell.
-/

abbrev Buffer (α : Type*) := Nat → α

namespace Buffer

variable {α : Type*}

def store (b : Buffer α) (i : Nat) (v : α) : Buffer α := Function.update b i v

/-- `memmove (b + dst, b + src, n)`. -/
def copy (b : Buffer α) (dst src n : Nat) : Buffer α :=
  fun k => if dst ≤ k ∧ k < dst + n then b (src + (k - dst)) else b k

/-- `memcpy` of the list `l` to `b + off`. -/
def fill (b : Buffer α) (off : Nat) (l : List α) : Buffer α :=
  fun k => if off ≤ k then l[k - off]?.getD (b k) else b k

/-- `memset (b, v, n)`. -/
def set (b : Buffer α) (v : α) (n : Nat) : Buffer α := fun k => if k < n then v else b k

/-- The memory seen from `b + k`. -/
def offset (b : Buffer α) (k : Nat) : Buffer α := fun i => b (k + i)

/-- The `n` cells from `off` on. -/
def load (b : Buffer α) (off : Nat) : Nat → List α
  | 0 => []
  | n + 1 => b off :: load b (off + 1) n

/-- `for (n times, j from the given one upwards) b[j] = b[j+1]`. -/
def shiftDown : Nat → Nat → Buffer α → Buffer α
  | 0, _, b => b
  | n + 1, j, b => shiftDown n (j + 1) (b.store j (b (j + 1)))

/-- `for (j = base+n; j > base; j--) b[j] = b[j-1]`. -/
def shiftUp (base : Nat) : Nat → Buffer α → Buffer α
  | 0, b => b
  | n + 1, b => shiftUp base n (b.store (base + n + 1) (b (base + n)))

@[simp] lemma store_same (b : Buffer α) (i : Nat) (v : α) : b.store i v i = v := by
  simp [store]

lemma store_ne (b : Buffer α) {i k : Nat} (v : α) (h : k ≠ i) : b.store i v k = b k := by
  simp [store, h]

lemma copy_inside (b : Buffer α) {dst src n k : Nat} (h : dst ≤ k) (h' : k < dst + n) :
    b.copy dst src n k = b (src + (k - dst)) := by
  simp [copy, h, h']

lemma copy_outside (b : Buffer α) {dst src n k : Nat} (h : k < dst ∨ dst + n ≤ k) :
    b.copy dst src n k = b k := by
  have hk : ¬(dst ≤ k ∧ k < dst + n) := by omega
  simp [copy, hk]

@[simp] lemma copy_zero (b : Buffer α) (dst src : Nat) : b.copy dst src 0 = b := by
  funext k
  exact copy_outside b (by omega)

lemma fill_inside (b : Buffer α) {off i : Nat} {l : List α} (h : i < l.length) :
    b.fill off l (off + i) = l[i] := by
  simp [fill, h]

lemma fill_outside (b : Buffer α) {off k : Nat} {l : List α}
    (h : k < off ∨ off + l.length ≤ k) : b.fill off l k = b k := by
  unfold fill
  split
  · have hn : l[k - off]? = none := List.getElem?_eq_none (by omega)
    rw [hn, Option.getD_none]
  · rfl

lemma fill_apply_congr {b c : Buffer α} {k : Nat} (h : b k = c k) (off : Nat) (l : List α) :
    b.fill off l k = c.fill off l k := by
  rw [fill, fill, h]

@[simp] lemma load_zero (b : Buffer α) (off : Nat) : b.load off 0 = [] := rfl

lemma load_succ (b : Buffer α) (off n : Nat) :
    b.load off (n + 1) = b off :: b.load (off + 1) n := rfl

@[simp] lemma length_load (b : Buffer α) (off n : Nat) : (b.load off n).length = n := by
  induction n generalizing off with
  | zero => rfl
  | succ n ih => simp [load, ih]

@[simp] lemma getElem_load (b : Buffer α) (off n i : Nat) (h : i < (b.load off n).length) :
    (b.load off n)[i] = b (off + i) := by
  induction n generalizing off i with
  | zero => simp at h
  | succ n ih =>
    cases i with
    | zero => rfl
    | succ i =>
      simp only [load, List.getElem_cons_succ]
      rw [ih]
      congr 1
      omega

lemma load_congr {b c : Buffer α} {off off' n : Nat} (h : ∀ i, i < n → b (off + i) = c (off' + i)) :
    b.load off n = c.load off' n := by
  apply List.ext_getElem (by simp)
  intro i hi _
  simpa using h i (by simpa using hi)

lemma load_add (b : Buffer α) (off m n : Nat) :
    b.load off (m + n) = b.load off m ++ b.load (off + m) n := by
  induction m generalizing off with
  | zero => simp
  | succ m ih =>
    rw [show m + 1 + n = (m + n) + 1 by omega, load_succ, load_succ, ih (off + 1),
      show off + 1 + m = off + (m + 1) by omega]
    rfl

lemma load_snoc (b : Buffer α) (off n : Nat) :
    b.load off (n + 1) = b.load off n ++ [b (off + n)] := by
  rw [load_add]
  rfl

lemma load_take (b : Buffer α) (off : Nat) {m n : Nat} (h : m ≤ n) :
    (b.load off n).take m = b.load off m := by
  obtain ⟨d, rfl⟩ := Nat.exists_eq_add_of_le h
  rw [load_add, List.take_left' (by simp)]

lemma load_drop (b : Buffer α) (off : Nat) {m n : Nat} (h : m ≤ n) :
    (b.load off n).drop m = b.load (off + m) (n - m) := by
  obtain ⟨d, rfl⟩ := Nat.exists_eq_add_of_le h
  rw [load_add, List.drop_left' (by simp), Nat.add_sub_cancel_left]

lemma load_offset (b : Buffer α) (k off n : Nat) : (b.offset k).load off n = b.load (k + off) n := by
  apply load_congr
  intro i _
  rw [offset, Nat.add_assoc]

lemma load_store_outside (b : Buffer α) {off n i : Nat} (v : α) (h : i < off ∨ off + n ≤ i) :
    (b.store i v).load off n = b.load off n := by
  apply load_congr
  intro j hj
  exact store_ne b v (by omega)

lemma load_store_snoc (b : Buffer α) (n : Nat) (v : α) :
    (b.store n v).load 0 (n + 1) = b.load 0 n ++ [v] := by
  rw [load_snoc, load_store_outside b v (by omega), Nat.zero_add, store_same]

lemma load_copy_outside (b : Buffer α) {dst src m off n : Nat}
    (h : off + n ≤ dst ∨ dst + m ≤ off) : (b.copy dst src m).load off n = b.load off n := by
  apply load_congr
  intro j hj
  exact copy_outside b (by omega)

lemma load_copy_inside (b : Buffer α) {dst src m off n : Nat} (h : dst ≤ off)
    (h' : off + n ≤ dst + m) : (b.copy dst src m).load off n = b.load (src + (off - dst)) n := by
  apply load_congr
  intro j hj
  rw [copy_inside b (by omega) (by omega)]
  congr 1
  omega

lemma load_of_apply_eq {b : Buffer α} {off : Nat} {l : List α}
    (h : ∀ i (hi : i < l.length), b (off + i) = l[i]) : b.load off l.length = l := by
  apply List.ext_getElem (by simp)
  intro i _ hi
  simpa using h i hi

@[simp] lemma load_fill (b : Buffer α) (off : Nat) (l : List α) :
    (b.fill off l).load off l.length = l := by
  apply load_of_apply_eq
  intro i hi
  exact fill_inside b hi

lemma load_fill_of_length (b : Buffer α) (off : Nat) {l : List α} {n : Nat} (h : l.length = n) :
    (b.fill off l).load off n = l := by
  rw [← h, load_fill]

lemma load_fill_slice (b : Buffer α) (l : List α) {k n : Nat} (h : k + n ≤ l.length) :
    (b.fill 0 l).load k n = (l.drop k).take n := by
  have hdrop := load_drop (b.fill 0 l) 0 (show k ≤ l.length by omega)
  rw [load_fill, Nat.zero_add] at hdrop
  rw [hdrop, load_take _ _ (by omega)]

lemma load_fill_before (b : Buffer α) (off off' n : Nat) (l : List α) (h : off' + n ≤ off) :
    (b.fill off l).load off' n = b.load off' n := by
  apply load_congr
  intro i hi
  exact fill_outside b (by omega)

lemma load_fill_append (b : Buffer α) (n : Nat) (l : List α) :
    (b.fill n l).load 0 (n + l.length) = b.load 0 n ++ l := by
  rw [load_add, load_fill_before b n 0 n l (by omega), Nat.zero_add, load_fill]

lemma load_copy (b : Buffer α) (dst src n : Nat) : (b.copy dst src n).load dst n = b.load src n := by
  rw [load_copy_inside b (le_refl _) (le_refl _), Nat.sub_self, Nat.add_zero]

@[simp] lemma fill_nil (b : Buffer α) (off : Nat) : b.fill off [] = b := by
  funext k
  apply fill_outside
  rw [List.length_nil]
  omega

lemma fill_fill (b : Buffer α) (off : Nat) (l l' : List α) :
    (b.fill off l).fill (off + l.length) l' = b.fill off (l ++ l') := by
  funext k
  by_cases hbefore : k < off + l.length
  · rw [fill_outside _ (.inl hbefore)]
    by_cases hoff : off ≤ k
    · obtain ⟨i, rfl⟩ := Nat.exists_eq_add_of_le hoff
      have hi : i < l.length := by omega
      rw [fill_inside b hi, fill_inside b (by rw [List.length_append]; omega),
        List.getElem_append_left hi]
    · rw [fill_outside _ (.inl (by omega)), fill_outside _ (.inl (by omega))]
  · obtain ⟨i, rfl⟩ := Nat.exists_eq_add_of_le (not_lt.mp hbefore)
    by_cases hi : i < l'.length
    · have hin : l.length + i < (l ++ l').length := by
        rw [List.length_append]
        omega
      have happ : b.fill off (l ++ l') (off + (l.length + i)) = (l ++ l')[l.length + i] :=
        fill_inside b hin
      rw [List.getElem_append_right (by omega), ← Nat.add_assoc] at happ
      rw [fill_inside _ hi, happ]
      congr 1
      omega
    · rw [fill_outside _ (.inr (by omega)), fill_outside b (.inr (by omega)),
        fill_outside b (.inr (by rw [List.length_append]; omega))]

lemma fill_comm (b : Buffer α) {off off' : Nat} {l l' : List α}
    (h : off + l.length ≤ off' ∨ off' + l'.length ≤ off) :
    (b.fill off l).fill off' l' = (b.fill off' l').fill off l := by
  funext k
  by_cases hl : k < off ∨ off + l.length ≤ k
  · rw [fill_outside _ hl]
    exact fill_apply_congr (fill_outside b hl) off' l'
  · have hl' : k < off' ∨ off' + l'.length ≤ k := by omega
    rw [fill_outside _ hl']
    exact fill_apply_congr (fill_outside b hl').symm off l

lemma fill_singleton (b : Buffer α) (i : Nat) (v : α) : b.fill i [v] = b.store i v := by
  funext k
  by_cases hk : k = i
  · subst hk
    rw [store_same]
    exact @fill_inside _ b k 0 [v] Nat.one_pos
  · rw [store_ne _ _ hk, fill_outside b (by rw [List.length_singleton]; omega)]

lemma fill_over (b : Buffer α) (off : Nat) {l l' : List α} (h : l.length ≤ l'.length) :
    (b.fill off l).fill off l' = b.fill off l' := by
  funext k
  by_cases hk : k < off ∨ off + l'.length ≤ k
  · rw [fill_outside _ hk, fill_outside b hk, fill_outside b (by omega)]
  · obtain ⟨i, rfl⟩ := Nat.exists_eq_add_of_le (show off ≤ k by omega)
    rw [fill_inside _ (by omega), fill_inside b (by omega)]

lemma fill_take_apply (b : Buffer α) (off n : Nat) (l : List α) (k : Nat) :
    b.fill off (l.take (n - off)) k = if k < n then b.fill off l k else b k := by
  by_cases hin : off ≤ k ∧ k < off + (l.take (n - off)).length
  · obtain ⟨i, rfl⟩ := Nat.exists_eq_add_of_le hin.1
    have hi : i < (l.take (n - off)).length := by omega
    rw [fill_inside b hi, List.getElem_take]
    rw [List.length_take] at hi
    rw [if_pos (by omega), fill_inside b (by omega)]
  · rw [fill_outside b (by omega)]
    rw [List.length_take] at hin
    split
    · rw [fill_outside b (by omega)]
    · rfl

lemma fill_append_there (b : Buffer α) (off : Nat) {l l' : List α}
    (h : b.load (off + l.length) l'.length = l') : b.fill off (l ++ l') = b.fill off l := by
  rw [← fill_fill]
  funext k
  by_cases hk : k < off + l.length ∨ off + l.length + l'.length ≤ k
  · exact fill_outside _ hk
  · obtain ⟨i, rfl⟩ := Nat.exists_eq_add_of_le (show off + l.length ≤ k by omega)
    have hi : i < l'.length := by omega
    rw [fill_inside _ hi, fill_outside b (.inr (by omega)), ← getElem_load b _ _ i (by simpa)]
    simp only [h]

lemma fill_load_apply (b c : Buffer α) (off : Nat) {n k : Nat} (h : k < n) :
    b.fill 0 (c.load off n) k = c (off + k) := by
  have hinside := @fill_inside _ b 0 k (c.load off n) (by simpa)
  rwa [Nat.zero_add, getElem_load] at hinside

section Patch

variable {b c : Buffer α} {n : Nat} (hcopy : ∀ k, k < n → c k = b k) (off : Nat) (l : List α)

include hcopy

/-- Of the patch only what lies among the first `n` cells is written back. -/
lemma fill_patched_apply (k : Nat) :
    b.fill 0 ((c.fill off l).load 0 n) k = if k < n then b.fill off l k else b k := by
  split
  · rename_i hk
    rw [fill_load_apply b (c.fill off l) 0 hk, Nat.zero_add]
    exact fill_apply_congr (hcopy k hk) off l
  · apply fill_outside
    rw [length_load]
    omega

/-- The first `n` cells are copied, patched and written back: this is the patch itself exactly when
what it puts behind them is there already. -/
theorem fill_patched_iff :
    b.fill 0 ((c.fill off l).load 0 n) = b.fill off l ↔
      ∀ i (hi : i < l.length), n ≤ off + i → b (off + i) = l[i] := by
  constructor
  · intro h i hi hn
    have hcell := congrFun h (off + i)
    rwa [fill_patched_apply hcopy, if_neg (by omega), fill_inside b hi] at hcell
  · intro h
    funext k
    rw [fill_patched_apply hcopy]
    split
    · rfl
    · by_cases hk : k < off ∨ off + l.length ≤ k
      · rw [fill_outside b hk]
      · obtain ⟨i, rfl⟩ := Nat.exists_eq_add_of_le (show off ≤ k by omega)
        rw [fill_inside b (by omega)]
        exact h i (by omega) (by omega)

lemma fill_patched (h : off + l.length ≤ n) :
    b.fill 0 ((c.fill off l).load 0 n) = b.fill off l := by
  rw [fill_patched_iff hcopy]
  intro i hi hn
  omega

end Patch

lemma shiftDown_eq_copy (n j : Nat) (b : Buffer α) : shiftDown n j b = b.copy j (j + 1) n := by
  induction n generalizing j b with
  | zero => simp [shiftDown]
  | succ n ih =>
    rw [shiftDown, ih]
    funext k
    by_cases hk : k = j
    · subst hk
      rw [copy_outside _ (by omega), store_same, copy_inside b (by omega) (by omega)]
      simp
    · by_cases hin : j + 1 ≤ k ∧ k < j + 1 + n
      · rw [copy_inside _ hin.1 hin.2, store_ne _ _ (by omega), copy_inside b (by omega) (by omega)]
        congr 1
        omega
      · rw [copy_outside _ (by omega), store_ne _ _ hk, copy_outside b (by omega)]

lemma shiftUp_eq_copy (base n : Nat) (b : Buffer α) : shiftUp base n b = b.copy (base + 1) base n := by
  induction n generalizing b with
  | zero => simp [shiftUp]
  | succ n ih =>
    rw [shiftUp, ih]
    funext k
    by_cases hk : k = base + n + 1
    · subst hk
      rw [copy_outside _ (by omega), store_same, copy_inside b (by omega) (by omega)]
      congr 1
      omega
    · by_cases hin : base + 1 ≤ k ∧ k < base + 1 + n
      · rw [copy_inside _ hin.1 hin.2, store_ne _ _ (by omega), copy_inside b (by omega) (by omega)]
      · rw [copy_outside _ (by omega), store_ne _ _ hk, copy_outside b (by omega)]

end Buffer
