import Mathlib.Data.List.Range
import Mathlib.Logic.Function.Iterate
import Mathlib.Tactic.Common

/-!
# Reflected CRCs

A CRC register of width `w` that takes a message bit by bit, the least significant bit first. The
register is linear in exclusive or, and if the top bit of the polynomial is set a step loses
nothing; so an error that is confined to `w` consecutive bits always changes the CRC.
-/

namespace ReflectedCrc

variable {w : Nat} (poly : BitVec w)

/-- One step of the register. -/
def shift (c : BitVec w) : BitVec w :=
  if c.getLsbD 0 = true then (c >>> 1) ^^^ poly else c >>> 1

/-- The bit `b` in the lowest place. -/
def bit (b : Bool) : BitVec w := if b = true then 1#w else 0#w

def feed (c : BitVec w) (bits : List Bool) : BitVec w :=
  bits.foldl (fun c b => shift poly (c ^^^ bit b)) c

/-- The first bits of a list as a register. -/
def ofBits : List Bool → BitVec w
  | [] => 0#w
  | b :: l => bit b ^^^ ofBits l <<< 1

@[simp] lemma bit_false : (bit false : BitVec w) = 0#w := rfl

lemma bit_xor (a b : Bool) : (bit (a ^^ b) : BitVec w) = bit a ^^^ bit b := by
  cases a
  · simp
  · cases b
    · simp
    · simp

@[simp] lemma shift_zero : shift poly 0#w = 0#w := by
  simp [shift]

lemma xor_xor_xor_comm (a b c d : BitVec w) : a ^^^ b ^^^ (c ^^^ d) = a ^^^ c ^^^ (b ^^^ d) := by
  rw [BitVec.xor_assoc, ← BitVec.xor_assoc b, BitVec.xor_comm b c, BitVec.xor_assoc c,
    ← BitVec.xor_assoc a]

lemma shift_xor (c d : BitVec w) : shift poly (c ^^^ d) = shift poly c ^^^ shift poly d := by
  have hcarry : (c ^^^ d).getLsbD 0 = (c.getLsbD 0 ^^ d.getLsbD 0) := BitVec.getLsbD_xor
  have hdown : (c ^^^ d) >>> 1 = c >>> 1 ^^^ d >>> 1 := BitVec.ushiftRight_xor_distrib ..
  unfold shift
  rw [hcarry, hdown]
  cases hc : c.getLsbD 0
  · cases hd : d.getLsbD 0
    · simp
    · simp [BitVec.xor_assoc]
  · cases hd : d.getLsbD 0
    · simp only [Bool.xor_false, Bool.false_eq_true, if_true, if_false]
      rw [BitVec.xor_assoc, BitVec.xor_comm (d >>> 1), ← BitVec.xor_assoc]
    · simp only [Bool.xor_true, Bool.not_true, Bool.false_eq_true, if_true, if_false]
      rw [xor_xor_xor_comm (c >>> 1), BitVec.xor_self, BitVec.xor_zero]

lemma iterate_shift_xor (n : Nat) (c d : BitVec w) :
    (shift poly)^[n] (c ^^^ d) = (shift poly)^[n] c ^^^ (shift poly)^[n] d := by
  induction n generalizing c d with
  | zero => rfl
  | succ n ih =>
    rw [Function.iterate_succ_apply, shift_xor, ih, ← Function.iterate_succ_apply,
      ← Function.iterate_succ_apply]

lemma feed_nil (c : BitVec w) : feed poly c [] = c := rfl

lemma feed_cons (c : BitVec w) (b : Bool) (l : List Bool) :
    feed poly c (b :: l) = feed poly (shift poly (c ^^^ bit b)) l := rfl

lemma feed_append (c : BitVec w) (l m : List Bool) :
    feed poly c (l ++ m) = feed poly (feed poly c l) m := List.foldl_append

lemma feed_xor {ι : Type*} (f g : ι → Bool) (l : List ι) (c d : BitVec w) :
    feed poly (c ^^^ d) (l.map fun i => f i ^^ g i) =
      feed poly c (l.map f) ^^^ feed poly d (l.map g) := by
  induction l generalizing c d with
  | nil => rfl
  | cons i l ih =>
    rw [List.map_cons, List.map_cons, List.map_cons, feed_cons, feed_cons, feed_cons, bit_xor,
      xor_xor_xor_comm, shift_xor, ih]

lemma feed_replicate_false (c : BitVec w) (n : Nat) :
    feed poly c (List.replicate n false) = (shift poly)^[n] c := by
  induction n generalizing c with
  | zero => rfl
  | succ n ih =>
    rw [List.replicate_succ, feed_cons, bit_false, BitVec.xor_zero, ih, Function.iterate_succ_apply]

/-- A value whose top bit is clear comes back from the place above. -/
lemma shift_shiftLeft {x : BitVec w} (h : x.getLsbD (w - 1) = false) :
    shift poly (x <<< 1) = x := by
  have hlow : (x <<< 1).getLsbD 0 = false := by
    simp
  unfold shift
  rw [hlow, if_neg Bool.false_ne_true]
  apply BitVec.eq_of_getLsbD_eq
  intro i hi
  rw [BitVec.getLsbD_ushiftRight, BitVec.getLsbD_shiftLeft]
  by_cases hlast : 1 + i < w
  · simp [hlast]
  · have htop : i = w - 1 := by omega
    rw [htop, h]
    simp
    omega

lemma getLsbD_bit_succ (b : Bool) (i : Nat) : (bit b : BitVec w).getLsbD (i + 1) = false := by
  cases b
  · simp
  · simp [bit]

lemma getLsbD_ofBits_of_le (l : List Bool) {i : Nat} (h : l.length ≤ i) :
    (ofBits l : BitVec w).getLsbD i = false := by
  induction l generalizing i with
  | nil => simp [ofBits]
  | cons b l ih =>
    obtain ⟨j, rfl⟩ : ∃ j, i = j + 1 := ⟨i - 1, by simp at h; omega⟩
    have hrest := ih (i := j) (by simpa using h)
    rw [ofBits, BitVec.getLsbD_xor, getLsbD_bit_succ, BitVec.getLsbD_shiftLeft]
    simp [hrest]

lemma feed_eq_iterate (l : List Bool) (h : l.length ≤ w) (c : BitVec w) :
    feed poly c l = (shift poly)^[l.length] (c ^^^ ofBits l) := by
  induction l generalizing c with
  | nil => simp [feed_nil, ofBits]
  | cons b l ih =>
    have hlen : l.length + 1 ≤ w := h
    have htop : (ofBits l : BitVec w).getLsbD (w - 1) = false :=
      getLsbD_ofBits_of_le l (by omega)
    rw [feed_cons, ih (by omega), List.length_cons, Function.iterate_succ_apply, ofBits,
      ← BitVec.xor_assoc, shift_xor poly (c ^^^ bit b), shift_shiftLeft poly htop]

lemma iterate_shift_of_low {n : Nat} {c : BitVec w} (h : ∀ i < n, c.getLsbD i = false) :
    (shift poly)^[n] c = c >>> n := by
  induction n with
  | zero => simp
  | succ n ih =>
    have hlow : (c >>> n).getLsbD 0 = false := by
      rw [BitVec.getLsbD_ushiftRight]
      exact h n (by omega)
    rw [Function.iterate_succ_apply', ih fun i hi => h i (by omega), shift, hlow,
      if_neg Bool.false_ne_true, BitVec.shiftRight_add]

/-- `n` steps at once: those of the lowest `n` bits `d`, from a table, and the rest moved down. -/
lemma iterate_shift_table {n : Nat} {c d : BitVec w} (hlow : ∀ i < n, d.getLsbD i = c.getLsbD i)
    (hd : d >>> n = 0#w) : (shift poly)^[n] c = c >>> n ^^^ (shift poly)^[n] d := by
  have hrest : (shift poly)^[n] (d ^^^ c) = c >>> n := by
    rw [iterate_shift_of_low poly (c := d ^^^ c) fun i hi => by simp [hlow i hi],
      BitVec.ushiftRight_xor_distrib, hd, BitVec.zero_xor]
  rw [← hrest, ← iterate_shift_xor, BitVec.xor_comm d c, BitVec.xor_assoc, BitVec.xor_self,
    BitVec.xor_zero]

lemma ofBits_append (l m : List Bool) :
    (ofBits (l ++ m) : BitVec w) = ofBits l ^^^ ofBits m <<< l.length := by
  induction l with
  | nil => simp [ofBits]
  | cons b l ih =>
    rw [List.cons_append, ofBits, ih, ofBits, BitVec.shiftLeft_xor_distrib, List.length_cons,
      BitVec.shiftLeft_add, BitVec.xor_assoc]

variable {poly}

lemma shift_eq_zero (htop : poly.getLsbD (w - 1) = true) {c : BitVec w} (h : shift poly c = 0#w) :
    c = 0#w := by
  unfold shift at h
  by_cases hlow : c.getLsbD 0 = true
  · rw [if_pos hlow] at h
    have hbit := congrArg (fun x => x.getLsbD (w - 1)) h
    have hout : 1 + (w - 1) ≥ w := by omega
    simp [htop, BitVec.getLsbD_of_ge c _ hout] at hbit
  · rw [if_neg hlow] at h
    apply BitVec.eq_of_getLsbD_eq
    intro i hi
    cases i with
    | zero => simpa using hlow
    | succ i =>
      have hbit := congrArg (fun x => x.getLsbD i) h
      rw [BitVec.getLsbD_ushiftRight, Nat.add_comm] at hbit
      simpa using hbit

lemma iterate_shift_eq_zero (htop : poly.getLsbD (w - 1) = true) {n : Nat} {c : BitVec w}
    (h : (shift poly)^[n] c = 0#w) : c = 0#w := by
  induction n with
  | zero => exact h
  | succ n ih =>
    rw [Function.iterate_succ_apply'] at h
    exact ih (shift_eq_zero htop h)

/-- The last `w` bits bring the register to 0 exactly if they are the register. -/
lemma feed_eq_zero_iff (htop : poly.getLsbD (w - 1) = true) {l : List Bool} (h : l.length ≤ w)
    {c : BitVec w} : feed poly c l = 0#w ↔ c = ofBits l := by
  rw [feed_eq_iterate poly l h]
  constructor
  · intro hzero
    exact BitVec.xor_eq_zero_iff.mp (iterate_shift_eq_zero htop hzero)
  · intro heq
    rw [BitVec.xor_eq_zero_iff.mpr heq]
    exact Function.iterate_fixed (shift_zero poly) _

/-- An error pattern `e` within `w` consecutive places. -/
theorem feed_burst_ne_zero (htop : poly.getLsbD (w - 1) = true) {e : Nat → Bool} {s : Nat}
    (hwin : ∀ i, e i = true → s ≤ i ∧ i < s + w) (n a : Nat)
    (hsome : ∃ i, a ≤ i ∧ i < a + n ∧ e i = true) :
    feed poly 0#w ((List.range' a n).map e) ≠ 0#w := by
  induction n generalizing a with
  | zero =>
    obtain ⟨i, hle, hlt, -⟩ := hsome
    omega
  | succ n ih =>
    cases ha : e a with
    | false =>
      rw [List.range'_succ, List.map_cons, feed_cons, ha, bit_false, BitVec.xor_zero, shift_zero]
      obtain ⟨i, hle, hlt, hi⟩ := hsome
      have hne : i ≠ a := by
        rintro rfl
        simp [ha] at hi
      exact ih (a + 1) ⟨i, by omega, by omega, hi⟩
    | true =>
      -- the window ends before `a + w`, what follows is quiet
      have hwin' := hwin a ha
      obtain ⟨m, k, hmk, hm, hrest⟩ : ∃ m k, m + k = n ∧ m + 1 ≤ w ∧ (k = 0 ∨ m + 1 = w) := by
        by_cases hn : n + 1 ≤ w
        · exact ⟨n, 0, rfl, hn, .inl rfl⟩
        · exact ⟨w - 1, n - (w - 1), by omega, by omega, .inr (by omega)⟩
      have hquiet : (List.range' (a + (m + 1)) k).map e = List.replicate k false := by
        apply List.eq_replicate_iff.mpr
        refine ⟨by simp, ?_⟩
        intro b hb
        obtain ⟨i, hi, rfl⟩ := List.mem_map.mp hb
        have hmem := List.mem_range'_1.mp hi
        by_contra hne
        have hin := hwin i (by simpa using hne)
        omega
      have hsplit : List.range' a (n + 1) =
          List.range' a (m + 1) ++ List.range' (a + (m + 1)) k := by
        rw [List.range'_append_1]
        congr 1
        omega
      rw [hsplit, List.map_append, feed_append, hquiet, feed_replicate_false]
      intro hzero
      have hfirst := iterate_shift_eq_zero htop hzero
      rw [feed_eq_zero_iff htop (by simpa using hm), List.range'_succ, List.map_cons, ha] at hfirst
      have hbit := congrArg (fun x => x.getLsbD 0) hfirst
      simp [ofBits, bit] at hbit
      omega

end ReflectedCrc
