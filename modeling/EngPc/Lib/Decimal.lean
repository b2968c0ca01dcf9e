import EngPc.Lib.CString
import Mathlib.Data.List.TakeWhile

/-!
# Decimal numbers

What `%d` prints, and `strtoul` with the base taken from the text: a number that is printed is read
back in every width up to that of a `long`.
-/

namespace CString

def decDigit (d : Nat) : UInt8 := UInt8.ofNat (0x30 + d)

/-- The digits of a number, in rounds of one each. -/
def decDigits : Nat → Nat → List UInt8
  | 0, _ => []
  | fuel + 1, n => if n < 10 then [decDigit n] else decDigits fuel (n / 10) ++ [decDigit (n % 10)]

def decimal (n : Nat) : List UInt8 := decDigits (n + 1) n

/-- `%d`. -/
def printInt (v : Int) : List UInt8 :=
  if v < 0 then 0x2d :: decimal v.natAbs else decimal v.natAbs

/-- `snprintf (dst, size, "%d", v)`. -/
def snprintfInt (size : Nat) (v : Int) : List UInt8 := (printInt v).take (size - 1)

/-- The value of the digits in front. -/
def digitsValue (base : Nat) (s : List UInt8) : Nat :=
  (s.takeWhile (digit · < base)).foldl (fun n c => n * base + digit c) 0

def skipSpace (s : List UInt8) : List UInt8 := s.dropWhile fun c => c = 0x20 ∨ 0x09 ≤ c ∧ c ≤ 0x0d

/-- The number behind the sign, in the base that its first characters mark. -/
def magnitude (s : List UInt8) : Nat :=
  if strcaseeq (s.take 2) [0x30, 0x78] ∧ (s.drop 2).head?.any (digit · < 16) then
    digitsValue 16 (s.drop 2)
  else if s.head? = some 0x30 then digitsValue 8 s
  else digitsValue 10 s

/-- `strtoul (s, NULL, 0)`, with a `long` of `w` bits; a number that is too large gives the largest. -/
def strtoul (w : Nat) (s : List UInt8) : Nat :=
  let s := skipSpace s
  if s.head? = some 0x2d then
    if 2 ^ w ≤ magnitude s.tail then 2 ^ w - 1 else (2 ^ w - magnitude s.tail) % 2 ^ w
  else min (2 ^ w - 1) (magnitude (if s.head? = some 0x2b then s.tail else s))

lemma digit_decDigit : ∀ {d : Nat}, d < 10 → digit (decDigit d) = d := by
  decide

lemma decDigit_mem : ∀ {d : Nat}, d < 10 →
    decDigit d ∉ ([0x20, 0x2d, 0x2b] : List UInt8) ∧ ¬(0x09 ≤ decDigit d ∧ decDigit d ≤ 0x0d) := by
  decide

lemma decDigit_zero_iff : ∀ {d : Nat}, d < 10 → (decDigit d = 0x30 ↔ d = 0) := by
  decide

lemma decDigits_fuel {fuel fuel' n : Nat} (h : n < fuel) (h' : n < fuel') :
    decDigits fuel n = decDigits fuel' n := by
  induction fuel generalizing fuel' n with
  | zero => omega
  | succ fuel ih =>
    obtain ⟨fuel', rfl⟩ : ∃ m, fuel' = m + 1 := ⟨fuel' - 1, by omega⟩
    rw [decDigits, decDigits]
    split_ifs with hn
    · rfl
    · rw [ih (show n / 10 < fuel by omega) (show n / 10 < fuel' by omega)]

lemma decimal_eq (n : Nat) :
    decimal n = if n < 10 then [decDigit n] else decimal (n / 10) ++ [decDigit (n % 10)] := by
  rw [decimal, decDigits]
  split_ifs with hn
  · rfl
  · rw [decimal, decDigits_fuel (show n / 10 < n by omega) (Nat.lt_succ_self _)]

lemma decimal_ne_nil (n : Nat) : decimal n ≠ [] := by
  rw [decimal_eq]
  split_ifs <;> simp

lemma mem_decimal {n : Nat} {c : UInt8} (h : c ∈ decimal n) : ∃ d < 10, c = decDigit d := by
  induction n using Nat.strong_induction_on with
  | _ n ih =>
    rw [decimal_eq] at h
    split_ifs at h with hn
    · exact ⟨n, hn, List.mem_singleton.mp h⟩
    · rcases List.mem_append.mp h with h | h
      · exact ih (n / 10) (by omega) h
      · exact ⟨n % 10, by omega, List.mem_singleton.mp h⟩

lemma head?_decimal {n : Nat} (h : n ≠ 0) : (decimal n).head? ≠ some 0x30 := by
  induction n using Nat.strong_induction_on with
  | _ n ih =>
    rw [decimal_eq]
    split_ifs with hn
    · rw [List.head?_singleton, Ne, Option.some.injEq, decDigit_zero_iff hn]
      exact h
    · rw [List.head?_append_of_ne_nil _ (decimal_ne_nil _)]
      exact ih (n / 10) (by omega) (by omega)

lemma takeWhile_decimal (n : Nat) : (decimal n).takeWhile (digit · < 10) = decimal n := by
  rw [List.takeWhile_eq_self_iff]
  intro c hc
  obtain ⟨d, hd, rfl⟩ := mem_decimal hc
  simpa [digit_decDigit hd] using hd

lemma digitsValue_decimal (n : Nat) : digitsValue 10 (decimal n) = n := by
  rw [digitsValue, takeWhile_decimal]
  induction n using Nat.strong_induction_on with
  | _ n ih =>
    rw [decimal_eq]
    split_ifs with hn
    · simp [digit_decDigit hn]
    · rw [List.foldl_append, ih (n / 10) (by omega), List.foldl_cons, List.foldl_nil,
        digit_decDigit (by omega)]
      omega

lemma length_decimal {n k : Nat} (h : n < 10 ^ (k + 1)) : (decimal n).length ≤ k + 1 := by
  induction k generalizing n with
  | zero =>
    rw [decimal_eq, if_pos (by simpa using h)]
    rfl
  | succ k ih =>
    rw [decimal_eq]
    split_ifs with hn
    · simp
    · rw [List.length_append, List.length_singleton]
      have hdiv : n / 10 < 10 ^ (k + 1) := by
        rw [pow_succ] at h
        omega
      have := ih hdiv
      omega

lemma lt_length_decimal {n k : Nat} (h : 10 ^ k ≤ n) : k < (decimal n).length := by
  induction k generalizing n with
  | zero => exact List.length_pos_of_ne_nil (decimal_ne_nil n)
  | succ k ih =>
    have hpow : 10 ^ k * 10 ≤ n := by rwa [← pow_succ]
    have hpos : 0 < 10 ^ k := Nat.pow_pos (by decide)
    rw [decimal_eq, if_neg (by omega), List.length_append, List.length_singleton]
    exact Nat.succ_lt_succ (ih (by omega))

lemma length_decimal_iff {n k : Nat} : (decimal n).length ≤ k + 1 ↔ n < 10 ^ (k + 1) := by
  refine ⟨fun h => ?_, length_decimal⟩
  by_contra hn
  exact absurd (lt_length_decimal (not_lt.mp hn)) (not_lt.mpr h)

lemma zero_notMem_printInt (v : Int) : 0 ∉ printInt v := by
  have hdec : ∀ n, 0 ∉ decimal n := by
    intro n h
    obtain ⟨d, hd, hc⟩ := mem_decimal h
    exact (by decide : ∀ d < 10, (0 : UInt8) ≠ decDigit d) d hd hc
  rw [printInt]
  split_ifs
  · exact fun h => (List.mem_cons.mp h).elim (by decide) (hdec _)
  · exact hdec _

lemma length_printInt {v : Int} {k : Nat} (h : v.natAbs < 10 ^ (k + 1)) :
    (printInt v).length ≤ k + 2 := by
  have hlen := length_decimal h
  rw [printInt]
  split_ifs
  · rw [List.length_cons]
    omega
  · omega

lemma skipSpace_cons {c : UInt8} (hspace : c ≠ 0x20) (hrange : ¬(0x09 ≤ c ∧ c ≤ 0x0d))
    (s : List UInt8) : skipSpace (c :: s) = c :: s := by
  rw [skipSpace, List.dropWhile_cons_of_neg]
  simpa [hspace] using hrange

lemma magnitude_decimal (n : Nat) : magnitude (decimal n) = n := by
  rw [magnitude]
  by_cases hn : n = 0
  · rw [hn]
    decide
  · have hbase : ¬strcaseeq ((decimal n).take 2) [0x30, 0x78] := by
      intro h
      have hhead := head?_decimal hn
      cases hs : decimal n with
      | nil => exact decimal_ne_nil n hs
      | cons c s =>
        obtain ⟨d, hd, hc⟩ := mem_decimal (hs ▸ List.mem_cons_self : c ∈ decimal n)
        rw [hs, hc, List.head?_cons, Ne, Option.some.injEq, decDigit_zero_iff hd] at hhead
        rw [hs, hc, strcaseeq, List.take_succ_cons, List.map_cons] at h
        have hlower : toLower (decDigit d) = toLower 0x30 := (List.cons.inj h).1
        revert hlower
        exact (by decide : ∀ d < 10, d ≠ 0 → toLower (decDigit d) ≠ toLower 0x30) d hd hhead
    rw [if_neg (fun h => hbase h.1), if_neg (head?_decimal hn), digitsValue_decimal]

theorem strtoul_printInt {w : Nat} {v : Int} (h : v.natAbs < 2 ^ w) :
    strtoul w (printInt v) = if v < 0 then 2 ^ w - v.natAbs else v.natAbs := by
  rw [printInt]
  split_ifs with hv
  · have hspace : skipSpace (0x2d :: decimal v.natAbs) = 0x2d :: decimal v.natAbs :=
      skipSpace_cons (by decide) (by decide) _
    rw [strtoul, hspace]
    rw [if_pos (List.head?_cons), List.tail_cons, magnitude_decimal, if_neg (not_le.mpr h)]
    exact Nat.mod_eq_of_lt (by omega)
  · cases hs : decimal v.natAbs with
    | nil => exact absurd hs (decimal_ne_nil _)
    | cons c s =>
      obtain ⟨d, hd, hc⟩ := mem_decimal (hs ▸ List.mem_cons_self : c ∈ decimal v.natAbs)
      obtain ⟨hmem, hrange⟩ := decDigit_mem hd
      simp only [List.mem_cons, not_or] at hmem
      rw [← hc] at hmem hrange
      have hplus : c ≠ 0x2b := hmem.2.2.1
      rw [strtoul, skipSpace_cons hmem.1 hrange, List.head?_cons,
        if_neg (fun heq => hmem.2.1 (Option.some.inj heq)),
        if_neg (fun heq => hplus (Option.some.inj heq)), ← hs, magnitude_decimal]
      exact min_eq_right (by omega)

/-- A number is read back in every width. -/
theorem ofNat_strtoul_printInt {w n : Nat} (hn : n ≤ w) {v : Int} (h : v.natAbs < 2 ^ w) :
    BitVec.ofNat n (strtoul w (printInt v)) = BitVec.ofInt n v := by
  apply BitVec.eq_of_toNat_eq
  rw [BitVec.toNat_ofNat, BitVec.toNat_ofInt, strtoul_printInt h]
  split_ifs with hv
  · have hdvd : ((2 ^ n : Nat) : Int) ∣ ((2 ^ w : Nat) : Int) :=
      Int.natCast_dvd_natCast.mpr (pow_dvd_pow 2 hn)
    have hvalue : ((2 ^ w - v.natAbs : Nat) : Int) = v + ((2 ^ w : Nat) : Int) := by omega
    have hmod : ((2 ^ w - v.natAbs : Nat) : Int) % ((2 ^ n : Nat) : Int) =
        v % ((2 ^ n : Nat) : Int) := by
      rw [hvalue, Int.add_emod, Int.emod_eq_zero_of_dvd hdvd, add_zero, Int.emod_emod_of_dvd _ dvd_rfl]
    rw [← hmod, ← Int.natCast_mod, Int.toNat_natCast]
  · have hvalue : ((v.natAbs : Nat) : Int) = v := by omega
    rw [← hvalue, Int.natAbs_natCast, ← Int.natCast_mod, Int.toNat_natCast]

lemma printInt_cases (v : Int) :
    (v < 0 ∧ printInt v = 0x2d :: decimal v.natAbs) ∨
      (0 ≤ v ∧ ∃ d < 10, ∃ s, printInt v = decDigit d :: s ∧ decimal v.natAbs = decDigit d :: s) := by
  rw [printInt]
  split_ifs with hv
  · exact .inl ⟨hv, rfl⟩
  · cases hs : decimal v.natAbs with
    | nil => exact absurd hs (decimal_ne_nil _)
    | cons c s =>
      obtain ⟨d, hd, rfl⟩ := mem_decimal (hs ▸ List.mem_cons_self : c ∈ decimal v.natAbs)
      exact .inr ⟨by omega, d, hd, s, rfl, rfl⟩

theorem strtol_printInt {w : Nat} {v : Int} (hlow : -2 ^ (w - 1) ≤ v) (hhigh : v < 2 ^ (w - 1)) :
    strtol w 10 (printInt v) = v := by
  have hvalue := digitsValue_decimal v.natAbs
  rw [digitsValue] at hvalue
  rcases printInt_cases v with ⟨hv, hs⟩ | ⟨hv, d, hd, s, hs, hdec⟩
  · have hspace : skipSpace (0x2d :: decimal v.natAbs) = 0x2d :: decimal v.natAbs :=
      skipSpace_cons (by decide) (by decide) _
    rw [skipSpace] at hspace
    rw [hs, strtol]
    simp only [hspace, List.head?_cons, true_or, if_true, List.tail_cons, hvalue,
      (by decide : ¬(10 : Nat) = 16), false_and, if_false]
    omega
  · obtain ⟨hmem, hrange⟩ := decDigit_mem hd
    simp only [List.mem_cons, not_or] at hmem
    have hspace : skipSpace (decDigit d :: s) = decDigit d :: s := skipSpace_cons hmem.1 hrange _
    rw [skipSpace] at hspace
    rw [hdec] at hvalue
    rw [hs, strtol]
    simp only [hspace, List.head?_cons, Option.some.injEq, hmem.2.1, hmem.2.2.1, or_self, if_false,
      (by decide : ¬(10 : Nat) = 16), false_and, hvalue]
    omega

end CString
