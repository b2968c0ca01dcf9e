import EngPc.Lib.Decimal

/-!
# Hexadecimal fields

A number in a field of fixed width, with spaces in front and a space behind it: `strtol` skips the
spaces and stops at the one behind the digits, so that it reads this field only.
-/

namespace CString

/-- `v` in hexadecimal digits, right-aligned with spaces. -/
structure HexField (width v : Nat) (s : List UInt8) : Prop where
  length_eq : s.length = width
  split : ∃ pad digits, s = List.replicate pad 0x20 ++ digits ∧ digits ≠ [] ∧
    (∀ c ∈ digits, digit c < 16) ∧ digitsValue 16 digits = v

def isSpace (c : UInt8) : Bool := c = 0x20 ∨ 0x09 ≤ c ∧ c ≤ 0x0d

lemma hex_char {c : UInt8} (h : digit c < 16) :
    isSpace c = false ∧ c ≠ 0x2d ∧ c ≠ 0x2b ∧ toLower c ≠ 0x78 ∧ c ≠ 0 := by
  have hall : ∀ n < 256, digit (UInt8.ofNat n) < 16 → isSpace (UInt8.ofNat n) = false ∧
      UInt8.ofNat n ≠ 0x2d ∧ UInt8.ofNat n ≠ 0x2b ∧ toLower (UInt8.ofNat n) ≠ 0x78 ∧
      UInt8.ofNat n ≠ 0 := by decide +kernel
  have hc := hall c.toNat c.toNat_lt
  rw [UInt8.ofNat_toNat] at hc
  exact hc h

section Field

variable {pad width v : Nat} {digits s : List UInt8}

lemma dropWhile_pad (hne : digits ≠ []) (hdigits : ∀ c ∈ digits, digit c < 16) (rest : List UInt8) :
    (List.replicate pad 0x20 ++ (digits ++ rest)).dropWhile isSpace = digits ++ rest := by
  have hpad : ∀ c ∈ List.replicate pad (0x20 : UInt8), isSpace c = true := by
    intro c hc
    rw [List.eq_of_mem_replicate hc]
    rfl
  obtain ⟨c, digits, rfl⟩ := List.exists_cons_of_ne_nil hne
  have hc := (hex_char (hdigits c List.mem_cons_self)).1
  rw [List.dropWhile_append_of_pos hpad, List.cons_append, List.dropWhile_cons_of_neg]
  rw [hc]
  exact Bool.false_ne_true

lemma digits_front (hne : digits ≠ []) (hdigits : ∀ c ∈ digits, digit c < 16) (rest : List UInt8) :
    (digits ++ 0x20 :: rest).head? ≠ some 0x2d ∧ (digits ++ 0x20 :: rest).head? ≠ some 0x2b ∧
      ¬strcaseeq ((digits ++ 0x20 :: rest).take 2) [0x30, 0x78] := by
  obtain ⟨c, digits, rfl⟩ := List.exists_cons_of_ne_nil hne
  obtain ⟨-, hminus, hplus, -, -⟩ := hex_char (hdigits c List.mem_cons_self)
  rw [List.cons_append, List.head?_cons]
  refine ⟨fun h => hminus (Option.some.inj h), fun h => hplus (Option.some.inj h), ?_⟩
  intro h
  rw [strcaseeq, List.take_succ_cons, List.map_cons] at h
  have hsecond := (List.cons.inj h).2
  cases digits with
  | nil => exact absurd (List.cons.inj hsecond).1 (by decide)
  | cons d digits =>
    have hd := (hex_char (hdigits d (List.mem_cons_of_mem _ List.mem_cons_self))).2.2.2.1
    exact hd (List.cons.inj hsecond).1

lemma digits_run (hdigits : ∀ c ∈ digits, digit c < 16) (rest : List UInt8) :
    (digits ++ 0x20 :: rest).takeWhile (digit · < 16) = digits ∧
      (digits ++ 0x20 :: rest).dropWhile (digit · < 16) = 0x20 :: rest := by
  have hall : ∀ c ∈ digits, decide (digit c < 16) = true := fun c hc => decide_eq_true (hdigits c hc)
  rw [List.takeWhile_append_of_pos hall, List.dropWhile_append_of_pos hall,
    List.takeWhile_cons_of_neg (by decide), List.dropWhile_cons_of_neg (by decide), List.append_nil]
  exact ⟨rfl, rfl⟩

lemma HexField.zero_notMem (h : HexField width v s) : 0 ∉ s := by
  obtain ⟨pad, digits, rfl, -, hdigits, -⟩ := h.split
  rw [List.mem_append, not_or]
  refine ⟨fun h0 => ?_, fun h0 => (hex_char (hdigits 0 h0)).2.2.2.2 rfl⟩
  exact absurd (List.eq_of_mem_replicate h0) (by decide)

/-- The number of the field, whatever stands behind it. -/
theorem HexField.strtol_eq {w : Nat} (h : HexField width v s) (hv : (v : Int) < 2 ^ (w - 1))
    (rest : List UInt8) : strtol w 16 (s ++ 0x20 :: rest) = v := by
  obtain ⟨pad, digits, rfl, hne, hdigits, hvalue⟩ := h.split
  have hspace := @dropWhile_pad pad digits hne hdigits (0x20 :: rest)
  have hrun := (digits_run hdigits rest).1
  obtain ⟨hminus, hplus, hbase⟩ := digits_front hne hdigits rest
  have hself : digits.takeWhile (digit · < 16) = digits := by
    rw [List.takeWhile_eq_self_iff]
    exact fun c hc => decide_eq_true (hdigits c hc)
  rw [digitsValue, hself] at hvalue
  have hskip : (List.replicate pad 0x20 ++ digits ++ 0x20 :: rest).dropWhile
      (fun c => c = 0x20 ∨ 0x09 ≤ c ∧ c ≤ 0x0d) = digits ++ 0x20 :: rest := by
    rw [List.append_assoc]
    exact hspace
  rw [strtol]
  simp only [hskip, hminus, hplus, or_self, if_false, hbase, false_and, and_false, hrun, hvalue]
  omega

end Field

end CString
