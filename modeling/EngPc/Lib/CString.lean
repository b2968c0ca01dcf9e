import EngPc.Lib.Buffer
import Mathlib.Data.List.Infix
import Mathlib.Data.List.TakeWhile
import Mathlib.Tactic.Ring

/-!
# C strings

Texts are lists of bytes without their terminating zero. `cstr` reads one out of memory and
scans at most the given number of cells; case is folded for the ASCII letters only.
-/

namespace CString

def ofString (s : String) : List UInt8 := s.toList.map (fun c => c.toNat.toUInt8)

def toLower (c : UInt8) : UInt8 := if 0x41 ≤ c ∧ c ≤ 0x5a then c + 0x20 else c

/-- The text at `off`, scanning `n` cells at most. -/
def cstr (b : Buffer UInt8) : Nat → Nat → List UInt8
  | _, 0 => []
  | off, n + 1 => if b off = 0 then [] else b off :: cstr b (off + 1) n

/-- `strcasecmp (s, t) == 0`. -/
def strcaseeq (s t : List UInt8) : Prop := s.map toLower = t.map toLower

/-- `strcasestr (s, t) != NULL`. -/
def strcasestr (s t : List UInt8) : Prop := t.map toLower <:+: s.map toLower

instance (s t : List UInt8) : Decidable (strcaseeq s t) := inferInstanceAs (Decidable (_ = _))

instance (s t : List UInt8) : Decidable (strcasestr s t) :=
  inferInstanceAs (Decidable (_ <:+: _))

/-- `strstr (s, t)`: the text from the first place of `t` on. -/
def strstr (t : List UInt8) : List UInt8 → Option (List UInt8)
  | [] => if t = [] then some [] else none
  | c :: s => if t.isPrefixOf (c :: s) then some (c :: s) else strstr t s

/-- The value of a digit, 36 for what is none. -/
def digit (c : UInt8) : Nat :=
  let c := (toLower c).toNat
  if 0x30 ≤ c ∧ c ≤ 0x39 then c - 0x30 else if 0x61 ≤ c ∧ c ≤ 0x7a then c - 0x57 else 36

/-- `strtol (s, NULL, base)`, with a `long` of `w` bits; a number that is too large gives the largest. -/
def strtol (w base : Nat) (s : List UInt8) : Int :=
  let s := s.dropWhile fun c => c = 0x20 ∨ 0x09 ≤ c ∧ c ≤ 0x0d
  let neg := s.head? = some 0x2d
  let s := if neg ∨ s.head? = some 0x2b then s.tail else s
  let s := if base = 16 ∧ strcaseeq (s.take 2) [0x30, 0x78] ∧ (s.drop 2).head?.any (digit · < 16)
    then s.drop 2 else s
  let n : Nat := (s.takeWhile (digit · < base)).foldl (fun n c => n * base + digit c) 0
  if neg then max (-2 ^ (w - 1)) (-n) else min (2 ^ (w - 1) - 1) n

/-- The eight characters of `%8x`: no zeros in front but the last digit. -/
def hex8 (v : UInt32) : List UInt8 :=
  (List.range 8).map fun i =>
    let rest := v.toNat / 16 ^ (7 - i)
    let d := rest % 16
    if rest = 0 ∧ i < 7 then 0x20 else UInt8.ofNat (if d < 10 then 0x30 + d else 0x57 + d)

def hexDigit (d : Nat) : UInt8 := UInt8.ofNat (if d < 10 then 0x30 + d else 0x57 + d)

/-- `%02x` of a byte. -/
def hex2 (b : UInt8) : List UInt8 := [hexDigit (b.toNat / 16), hexDigit (b.toNat % 16)]

lemma length_hex8 (v : UInt32) : (hex8 v).length = 8 := by
  simp [hex8]

lemma cstr_of_zero {b : Buffer UInt8} {off : Nat} (h : b off = 0) (n : Nat) : cstr b off n = [] := by
  cases n with
  | zero => rfl
  | succ n => simp [cstr, h]

lemma cstr_eq_takeWhile (b : Buffer UInt8) (off n : Nat) :
    cstr b off n = (b.load off n).takeWhile (· ≠ 0) := by
  induction n generalizing off with
  | zero => rfl
  | succ n ih =>
    rw [cstr, Buffer.load_succ]
    by_cases hzero : b off = 0
    · rw [if_pos hzero, List.takeWhile_cons_of_neg (by simpa using hzero)]
    · rw [if_neg hzero, List.takeWhile_cons_of_pos (by simpa using hzero), ih]

/-- Cells up to a zero, or what stands before the first zero among them. -/
lemma cstr_of_load {b : Buffer UInt8} {off n : Nat} {l : List UInt8}
    (h : b.load off (l.length + 1) = l ++ [0]) (hn : l.length < n) :
    cstr b off n = l.takeWhile (· ≠ 0) := by
  induction l generalizing off n with
  | nil =>
    apply cstr_of_zero
    simpa [Buffer.load_succ] using h
  | cons c l ih =>
    obtain ⟨n, rfl⟩ : ∃ m, n = m + 1 := ⟨n - 1, by rw [List.length_cons] at hn; omega⟩
    rw [List.length_cons, Buffer.load_succ, List.cons_append] at h
    obtain ⟨hc, hrest⟩ := List.cons.inj h
    rw [cstr, hc]
    by_cases hzero : c = 0
    · rw [if_pos hzero, List.takeWhile_cons_of_neg (by simpa using hzero)]
    · rw [if_neg hzero, List.takeWhile_cons_of_pos (by simpa using hzero), ih hrest]
      rw [List.length_cons] at hn
      omega

lemma takeWhile_ne_append {c : UInt8} {t : List UInt8} (ht : c ∉ t) (rest : List UInt8) :
    (t ++ rest).takeWhile (· ≠ c) = t ++ rest.takeWhile (· ≠ c) := by
  apply List.takeWhile_append_of_pos
  intro x hx
  exact decide_eq_true fun heq => ht (heq ▸ hx)

lemma takeWhile_text {t : List UInt8} (ht : 0 ∉ t) : t.takeWhile (· ≠ 0) = t := by
  have htake := takeWhile_ne_append ht []
  rwa [List.takeWhile_nil, List.append_nil] at htake

lemma cstr_eq {b : Buffer UInt8} {off n : Nat} {s : List UInt8}
    (h : b.load off (s.length + 1) = s ++ [0]) (hs : 0 ∉ s) (hn : s.length < n) :
    cstr b off n = s := by
  rw [cstr_of_load h hn, takeWhile_text hs]

lemma load_fill_zero (l : List UInt8) {k : Nat} (h : k ≤ l.length) :
    (Buffer.fill (fun _ => 0) 0 l).load k ((l.drop k).length + 1) = l.drop k ++ [0] := by
  have hend : Buffer.fill (fun _ => (0 : UInt8)) 0 l l.length = 0 :=
    Buffer.fill_outside _ (.inr (Nat.zero_add _).le)
  have hall := Buffer.load_fill (fun _ => (0 : UInt8)) 0 l
  have hdrop := Buffer.load_drop (Buffer.fill (fun _ => (0 : UInt8)) 0 l) 0 h
  rw [hall, Nat.zero_add] at hdrop
  rw [Buffer.load_snoc, List.length_drop, Nat.add_sub_cancel' h, hend, hdrop]

lemma cstr_fill_zero (l : List UInt8) {k n : Nat} (hk : k ≤ l.length) (hn : l.length < n) :
    cstr (Buffer.fill (fun _ => 0) 0 l) k n = (l.drop k).takeWhile (· ≠ 0) := by
  apply cstr_of_load (load_fill_zero l hk)
  rw [List.length_drop]
  omega

lemma load_cstr (b : Buffer UInt8) (off n : Nat) : b.load off (cstr b off n).length = cstr b off n := by
  induction n generalizing off with
  | zero => rfl
  | succ n ih =>
    rw [cstr]
    split_ifs with h
    · rfl
    · rw [List.length_cons, Buffer.load_succ, ih]

lemma strcasestr_nil_iff (t : List UInt8) : strcasestr [] t ↔ t = [] := by
  simp [strcasestr]

lemma first_unique {α : Type*} {c : α} {u v u' v' : List α} (h : u ++ c :: v = u' ++ c :: v')
    (hu : c ∉ u) (hu' : c ∉ u') : u = u' ∧ v = v' := by
  induction u generalizing u' with
  | nil =>
    cases u' with
    | nil => exact ⟨rfl, (List.cons.inj h).2⟩
    | cons a u' =>
      have ha := (List.cons.inj h).1
      exact absurd (by rw [ha]; exact List.mem_cons_self) hu'
  | cons a u ih =>
    cases u' with
    | nil =>
      have ha := (List.cons.inj h).1
      exact absurd (by rw [← ha]; exact List.mem_cons_self) hu
    | cons a' u' =>
      obtain ⟨rfl, htail⟩ := List.cons.inj h
      obtain ⟨rfl, hv⟩ := ih htail (fun hm => hu (List.mem_cons_of_mem _ hm))
        (fun hm => hu' (List.mem_cons_of_mem _ hm))
      exact ⟨rfl, hv⟩

lemma digit_hexDigit : ∀ {d : Nat}, d < 16 → digit (hexDigit d) = d := by
  decide

lemma toLower_hexDigit : ∀ {d : Nat}, d < 16 → toLower (hexDigit d) = hexDigit d := by
  decide

/-- A digit is none of the characters that end or separate a text, begin a number or mark its base. -/
lemma hexDigit_mem : ∀ {d : Nat}, d < 16 →
    hexDigit d ∉ ([0, 0x3a, 0x20, 0x2d, 0x2b, 0x78, 0x3b] : List UInt8) ∧
      ¬(0x09 ≤ hexDigit d ∧ hexDigit d ≤ 0x0d) := by
  decide

@[simp] lemma length_hex2 (b : UInt8) : (hex2 b).length = 2 := rfl

lemma hex2_halves (b : UInt8) : b.toNat / 16 < 16 ∧ b.toNat % 16 < 16 := by
  have hb := b.toNat_lt
  omega

lemma notMem_hex2 (b : UInt8) {c : UInt8} (hc : c = 0 ∨ c = 0x3a ∨ c = 0x3b) : c ∉ hex2 b := by
  obtain ⟨hhigh, hlow⟩ := hex2_halves b
  have h₁ := (hexDigit_mem hhigh).1
  have h₂ := (hexDigit_mem hlow).1
  simp only [List.mem_cons, not_or] at h₁ h₂
  simp only [hex2, List.mem_cons, List.not_mem_nil, or_false, not_or]
  rcases hc with rfl | rfl | rfl
  · exact ⟨Ne.symm h₁.1, Ne.symm h₂.1⟩
  · exact ⟨Ne.symm h₁.2.1, Ne.symm h₂.2.1⟩
  · exact ⟨Ne.symm h₁.2.2.2.2.2.2.1, Ne.symm h₂.2.2.2.2.2.2.1⟩

/-- Two digits are read back as the byte. -/
theorem strtol_hex2 {w : Nat} (hw : 9 ≤ w) (b : UInt8) : strtol w 16 (hex2 b) = b.toNat := by
  obtain ⟨hhigh, hlow⟩ := hex2_halves b
  obtain ⟨h₁, hs₁⟩ := hexDigit_mem hhigh
  have h₂ := (hexDigit_mem hlow).1
  simp only [List.mem_cons, not_or] at h₁ h₂
  have hsum : b.toNat / 16 * 16 + b.toNat % 16 = b.toNat := Nat.div_add_mod' _ _
  have hbase : ¬strcaseeq ((hex2 b).take 2) [0x30, 0x78] := by
    rw [strcaseeq, hex2]
    simp only [List.take_succ_cons, List.take_zero, List.map_cons, List.map_nil,
      toLower_hexDigit hhigh, toLower_hexDigit hlow]
    intro h
    exact h₂.2.2.2.2.2.1 (List.cons.inj (List.cons.inj h).2).1
  have hdigits : (hex2 b).takeWhile (digit · < 16) = hex2 b := by
    simp [hex2, digit_hexDigit hhigh, digit_hexDigit hlow, hhigh, hlow]
  have hspace : (hex2 b).dropWhile (fun c => c = 0x20 ∨ 0x09 ≤ c ∧ c ≤ 0x0d) = hex2 b := by
    rw [hex2, List.dropWhile_cons_of_neg]
    simp only [decide_eq_true_eq, not_or]
    exact ⟨h₁.2.2.1, hs₁⟩
  have hhead : (hex2 b).head? = some (hexDigit (b.toNat / 16)) := rfl
  have hminus : ¬(hex2 b).head? = some 0x2d := by
    rw [hhead, Option.some.injEq]
    exact h₁.2.2.2.1
  have hplus : ¬(hex2 b).head? = some 0x2b := by
    rw [hhead, Option.some.injEq]
    exact h₁.2.2.2.2.1
  have hvalue : (hex2 b).foldl (fun n c => n * 16 + digit c) 0 = b.toNat := by
    simp only [hex2, List.foldl_cons, List.foldl_nil, digit_hexDigit hhigh, digit_hexDigit hlow]
    omega
  have hlarge : (2 : Int) ^ 8 ≤ 2 ^ (w - 1) :=
    mod_cast Nat.pow_le_pow_right (by decide : 0 < 2) (show 8 ≤ w - 1 by omega)
  have hb := b.toNat_lt
  rw [strtol]
  simp only [hspace, hminus, hplus, or_self, if_false, hbase, false_and, and_false, hdigits,
    hvalue]
  rw [min_eq_right]
  omega

end CString
