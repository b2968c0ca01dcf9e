import EngPc.Lib.HexField
import EngPc.Model.PQMemory

/-!
# The register values that are read

`HexStrstoInt` writes the values over the texts it reads. A value takes four bytes and its text nine,
so what is written stays behind what is read, as long as the place of the text fits into 32 bits.
-/

namespace EngPc
open Buffer CString LittleEndian

/-- The texts of the values, each with a space behind it. -/
def fieldsText (fields : List (UInt32 × List UInt8)) : List UInt8 :=
  fields.flatMap fun f => f.2 ++ [0x20]

def fieldsBytes (fields : List (UInt32 × List UInt8)) : List UInt8 :=
  fields.flatMap fun f => bytesLE 4 f.1.toNat

/-- Each value has its text. -/
def HexFields (fields : List (UInt32 × List UInt8)) : Prop :=
  ∀ f ∈ fields, HexField 8 f.1.toNat f.2

lemma length_fieldsBytes (fields : List (UInt32 × List UInt8)) :
    (fieldsBytes fields).length = 4 * fields.length := by
  induction fields with
  | nil => rfl
  | cons f fields ih =>
    rw [fieldsBytes, List.flatMap_cons, List.length_append, length_bytesLE, List.length_cons]
    rw [fieldsBytes] at ih
    omega

lemma length_fieldsText {fields : List (UInt32 × List UInt8)} (h : HexFields fields) :
    (fieldsText fields).length = 9 * fields.length := by
  induction fields with
  | nil => rfl
  | cons f fields ih =>
    obtain ⟨hf, hfields⟩ := List.forall_mem_cons.mp h
    have hrest := ih hfields
    rw [fieldsText] at hrest
    rw [fieldsText, List.flatMap_cons, List.length_append, List.length_append, hf.length_eq, hrest,
      List.length_singleton, List.length_cons]
    omega

lemma strtolEnds_field {v : Nat} {s : List UInt8} (h : HexField 8 v s) (rest : List UInt8) :
    strtolEnds (s ++ 0x20 :: rest) := by
  obtain ⟨pad, digits, rfl, hne, hdigits, -⟩ := h.split
  have hspace : (List.replicate pad 0x20 ++ digits ++ 0x20 :: rest).dropWhile
      (fun c => c = 0x20 ∨ 0x09 ≤ c ∧ c ≤ 0x0d) = digits ++ 0x20 :: rest := by
    rw [List.append_assoc]
    exact dropWhile_pad hne hdigits (0x20 :: rest)
  obtain ⟨hminus, hplus, hbase⟩ := digits_front hne hdigits rest
  rw [strtolEnds]
  simp only [hspace, hminus, hplus, or_self, if_false, hbase, (digits_run hdigits rest).2]
  exact List.cons_ne_nil _ _

section Conversion

variable {off size i : Nat} {cells : Buffer UInt8} {fields : List (UInt32 × List UInt8)}

lemma strtolAt_field {v : UInt32} {s : List UInt8} (h : HexField 8 v.toNat s)
    (hload : cells.load off 9 = s ++ [0x20]) (hsize : off + 9 ≤ size) :
    strtolAt 64 ⟨cells, size⟩ off = .ok v.toNat := by
  have hv := v.toNat_lt
  have hall : cells.load off (size - off) =
      s ++ 0x20 :: cells.load (off + 9) (size - off - 9) := by
    rw [show size - off = 9 + (size - off - 9) by omega, load_add, hload, List.append_assoc,
      Nat.add_sub_cancel_left]
    rfl
  have htext : cstr cells off (size - off) =
      s ++ 0x20 :: (cells.load (off + 9) (size - off - 9)).takeWhile (· ≠ 0) := by
    rw [cstr_eq_takeWhile, hall, takeWhile_ne_append h.zero_notMem,
      List.takeWhile_cons_of_pos (by decide)]
  have hends : strtolEnds (cells.load off (size - off)) := by
    rw [hall]
    exact strtolEnds_field h _
  rw [strtolAt, if_pos hends, htext, h.strtol_eq (by omega)]
  congr 1
  omega

/-- The loop from value `i` on: the texts that it has not read yet stand behind the bytes that it has
written. -/
lemma hexStrstoInt_fields (h : HexFields fields) (hsmall : 9 * (i + fields.length) < 2 ^ 32 + 9)
    (htext : cells.load (off + 9 * i) (9 * fields.length) = fieldsText fields)
    (hsize : off + 9 * (i + fields.length) ≤ size) :
    hexStrstoInt 64 off fields.length i ⟨cells, size⟩ =
      .ok ⟨cells.fill (off + 4 * i) (fieldsBytes fields), size⟩ := by
  induction fields generalizing i cells with
  | nil => simp [hexStrstoInt, fieldsBytes]
  | cons f fields ih =>
    obtain ⟨hf, hfields⟩ := List.forall_mem_cons.mp h
    rw [List.length_cons] at hsmall hsize htext
    have hmod : 9 * i % 2 ^ 32 = 9 * i := Nat.mod_eq_of_lt (by omega)
    rw [show 9 * (fields.length + 1) = 9 + 9 * fields.length by omega, load_add, fieldsText,
      List.flatMap_cons] at htext
    have hlen : (cells.load (off + 9 * i) 9).length = (f.2 ++ [0x20]).length := by
      rw [length_load, List.length_append, hf.length_eq]
      rfl
    obtain ⟨hhead, hrest⟩ := List.append_inj htext hlen
    have hroom : off + 4 * i + (bytesLE 4 f.1.toNat).length ≤ size := by
      rw [length_bytesLE]
      omega
    have hkeep : (cells.fill (off + 4 * i) (bytesLE 4 f.1.toNat)).load (off + 9 * (i + 1))
        (9 * fields.length) = fieldsText fields := by
      rw [fieldsText, ← hrest, show off + 9 * (i + 1) = off + 9 * i + 9 by omega]
      apply load_congr
      intro k _
      exact fill_outside _ (.inr (by rw [length_bytesLE]; omega))
    have hnext := fill_fill cells (off + 4 * i) (bytesLE 4 f.1.toNat) (fieldsBytes fields)
    rw [length_bytesLE] at hnext
    rw [List.length_cons, hexStrstoInt, hmod, strtolAt_field hf hhead (by omega), Except.ok_bind,
      Block.write_eq (Block.holds_of_le hroom)]
    exact (ih hfields (by omega) hkeep (by omega)).trans
      (by rw [show off + 4 * (i + 1) = off + 4 * i + 4 by omega, hnext]; rfl)

/-- The values come to stand at the front, in order; nothing behind them changes. -/
theorem hexStrstoInt_in_place (h : HexFields fields) (hn : fields.length ≤ 477218589)
    (htext : cells.load off (9 * fields.length) = fieldsText fields)
    (hsize : off + 9 * fields.length ≤ size) :
    (hexStrstoInt 64 off fields.length 0 ⟨cells, size⟩).Succeeds fun rsp =>
      rsp.cells.load off (4 * fields.length) = fieldsBytes fields ∧ rsp.size = size ∧
      ∀ k, k < off ∨ off + 4 * fields.length ≤ k → rsp.cells k = cells k := by
  rw [hexStrstoInt_fields h (by omega) htext (by omega), Except.succeeds_ok]
  refine ⟨load_fill_of_length _ _ (length_fieldsBytes fields), rfl, fun k hk => ?_⟩
  apply fill_outside
  rw [length_fieldsBytes]
  omega

end Conversion

/-- The value 4294967295. -/
def fullField : UInt32 × List UInt8 := (0xffffffff, List.replicate 8 0x66)

lemma hexField_full : HexField 8 fullField.1.toNat fullField.2 where
  length_eq := rfl
  split := by
    refine ⟨0, List.replicate 8 0x66, rfl, by decide, fun c hc => ?_, by decide⟩
    rw [List.eq_of_mem_replicate hc]
    decide

/-- Three values; the text of the second has spaces in front. -/
def threeFields : List (UInt32 × List UInt8) :=
  [fullField, (0x1a, List.replicate 6 0x20 ++ [0x31, 0x61]),
    (0x80000000, 0x38 :: List.replicate 7 0x30)]

lemma hexFields_three : HexFields threeFields := by
  have hsecond : HexField 8 0x1a (List.replicate 6 0x20 ++ [0x31, 0x61]) := by
    refine ⟨rfl, 6, [0x31, 0x61], rfl, by decide, fun c hc => ?_, by decide⟩
    rw [List.mem_pair] at hc
    rcases hc with rfl | rfl
    · decide
    · decide
  have hthird : HexField 8 0x80000000 (0x38 :: List.replicate 7 0x30) := by
    refine ⟨rfl, 0, 0x38 :: List.replicate 7 0x30, rfl, by decide, fun c hc => ?_, by decide⟩
    rcases List.mem_cons.mp hc with rfl | hc
    · decide
    · rw [List.eq_of_mem_replicate hc]
      decide
  intro f hf
  simp only [threeFields, List.mem_cons, List.not_mem_nil, or_false] at hf
  rcases hf with rfl | rfl | rfl
  · exact hexField_full
  · exact hsecond
  · exact hthird

/-- The second value is written over the end of the first text, and the third over the second. -/
theorem hexStrstoInt_in_place_three :
    (hexStrstoInt 64 21 3 0 ⟨Buffer.fill (fun _ => 0) 21 (fieldsText threeFields), 48⟩).Succeeds
      fun rsp => rsp.cells.load 21 12 = fieldsBytes threeFields ∧ rsp.size = 48 ∧
        ∀ k, k < 21 ∨ 21 + 12 ≤ k →
          rsp.cells k = Buffer.fill (fun _ => 0) 21 (fieldsText threeFields) k :=
  hexStrstoInt_in_place hexFields_three (by decide) (load_fill _ _ _) (by decide)

lemma hexStrstoInt_add (off m n i : Nat) (rsp : Block UInt8) :
    hexStrstoInt 64 off (m + n) i rsp = hexStrstoInt 64 off m i rsp >>= hexStrstoInt 64 off n (i + m) := by
  induction m generalizing i rsp with
  | zero => rw [Nat.zero_add, hexStrstoInt, Except.ok_bind, Nat.add_zero]
  | succ m ih =>
    rw [show m + 1 + n = m + n + 1 by omega, hexStrstoInt, hexStrstoInt]
    cases strtolAt 64 rsp (off + 9 * i % 2 ^ 32) with
    | error e => rfl
    | ok value =>
      rw [Except.ok_bind, Except.ok_bind]
      cases access (rsp.write (off + 4 * i) (bytesLE 4 value)) with
      | error e => rfl
      | ok rsp' =>
        rw [Except.ok_bind, Except.ok_bind, ih, show i + 1 + m = i + (m + 1) by omega]

lemma strtolAt_ff {cells : Buffer UInt8} {off size : Nat} (hff : cells off = 0xff)
    (hsize : off < size) : strtolAt 64 ⟨cells, size⟩ off = .ok 0 := by
  have hminus : ¬(0xff : UInt8) = 0x2d := by decide
  have hplus : ¬(0xff : UInt8) = 0x2b := by decide
  have hbase : ∀ rest : List UInt8, ¬strcaseeq ((0xff :: rest).take 2) [0x30, 0x78] := by
    intro rest h
    rw [strcaseeq, List.take_succ_cons, List.map_cons] at h
    exact absurd (List.cons.inj h).1 (by decide)
  have hnumber : ∀ rest : List UInt8, strtol 64 16 (0xff :: rest) = 0 := by
    intro rest
    rw [strtol, List.dropWhile_cons_of_neg (by decide)]
    simp only [List.head?_cons, Option.some.injEq, hminus, hplus, or_self, if_false, hbase,
      false_and, and_false]
    rw [List.takeWhile_cons_of_neg (by decide)]
    rfl
  have hends : ∀ rest : List UInt8, strtolEnds (0xff :: rest) := by
    intro rest
    rw [strtolEnds, List.dropWhile_cons_of_neg (by decide)]
    simp only [List.head?_cons, Option.some.injEq, hminus, hplus, or_self, if_false, hbase]
    rw [List.dropWhile_cons_of_neg (by decide)]
    exact List.cons_ne_nil _ _
  obtain ⟨n, hn⟩ := Nat.exists_eq_add_of_lt hsize
  have hload : cells.load off (size - off) = 0xff :: cells.load (off + 1) n := by
    rw [show size - off = n + 1 by omega, load_succ, hff]
  rw [strtolAt, cstr_eq_takeWhile, hload, if_pos (hends _), List.takeWhile_cons_of_pos (by decide),
    hnumber]
  rfl

lemma fieldsBytes_full (n : Nat) :
    fieldsBytes (List.replicate n fullField) = List.replicate (4 * n) 0xff := by
  induction n with
  | zero => rfl
  | succ n ih =>
    rw [fieldsBytes] at ih
    rw [List.replicate_succ, fieldsBytes, List.flatMap_cons, ih,
      show 4 * (n + 1) = 4 + 4 * n by omega, List.replicate_add]
    rfl

/-- `n` times this value. -/
def fullText (n : Nat) : Block UInt8 :=
  ⟨Buffer.fill (fun _ => 0) 0 (fieldsText (List.replicate n fullField)), 9 * n⟩

lemma hexFields_full (n : Nat) : HexFields (List.replicate n fullField) := by
  intro f hf
  rw [List.eq_of_mem_replicate hf]
  exact hexField_full

lemma fullText_load {m n : Nat} (h : m ≤ n) :
    (fullText n).cells.load 0 (9 * m) = fieldsText (List.replicate m fullField) := by
  have hlen : ∀ k, (fieldsText (List.replicate k fullField)).length = 9 * k := by
    intro k
    rw [length_fieldsText (hexFields_full k), List.length_replicate]
  obtain ⟨d, rfl⟩ := Nat.exists_eq_add_of_le h
  have hall : (fullText (m + d)).cells.load 0 (9 * (m + d)) =
      fieldsText (List.replicate (m + d) fullField) :=
    load_fill_of_length (fun _ => 0) 0 (hlen (m + d))
  have happend : fieldsText (List.replicate (m + d) fullField) =
      fieldsText (List.replicate m fullField) ++ fieldsText (List.replicate d fullField) := by
    rw [List.replicate_add, fieldsText, List.flatMap_append]
    rfl
  have htake := load_take (fullText (m + d)).cells 0 (show 9 * m ≤ 9 * (m + d) by omega)
  rw [hall, happend, List.take_left' (hlen m)] at htake
  exact htake.symm

/-- The last text is looked for among the bytes that are written already. -/
lemma hexStrstoInt_full {m : Nat} (hm : 9 * m = 2 ^ 32 + 5) :
    ¬(hexStrstoInt 64 0 (m + 1) 0 (fullText (m + 1))).Succeeds fun rsp =>
      rsp.cells.load 0 (4 * (m + 1)) = fieldsBytes (List.replicate (m + 1) fullField) := by
  have hlen : (List.replicate m fullField).length = m := List.length_replicate
  have hfirst := @hexStrstoInt_fields 0 (9 * (m + 1)) 0 (fullText (m + 1)).cells _
    (hexFields_full m)
    (by rw [hlen]; omega) (by rw [hlen]; exact fullText_load (Nat.le_succ m)) (by rw [hlen]; omega)
  rw [hlen, fieldsBytes_full] at hfirst
  have hff : (fullText (m + 1)).cells.fill (0 + 4 * 0) (List.replicate (4 * m) 0xff)
      (0 + 9 * (0 + m) % 2 ^ 32) = 0xff := by
    have hat : 0 + 9 * (0 + m) % 2 ^ 32 = 0 + 4 * 0 + 5 := by omega
    have hlong : 5 < (List.replicate (4 * m) (0xff : UInt8)).length := by
      rw [List.length_replicate]
      omega
    rw [hat, fill_inside _ hlong, List.getElem_replicate]
  have hroom : 0 + 4 * (0 + m) + (bytesLE 4 0).length ≤ 9 * (m + 1) := by
    rw [length_bytesLE]
    omega
  rw [hexStrstoInt_add, show fullText (m + 1) = ⟨(fullText (m + 1)).cells, 9 * (m + 1)⟩ from rfl,
    hfirst, Except.ok_bind, hexStrstoInt, strtolAt_ff hff (by omega), Except.ok_bind,
    Block.write_eq (Block.holds_of_le hroom)]
  intro h
  have hload := Except.succeeds_ok _ |>.mp h
  have hzero : (0 : UInt8) ∈ List.replicate (4 * (m + 1)) (0xff : UInt8) := by
    rw [← fieldsBytes_full, ← hload, show 4 * (m + 1) = 0 + 4 * (0 + m) + 4 by omega, load_add,
      List.mem_append]
    apply Or.inr
    rw [Nat.zero_add (0 + 4 * (0 + m)), load_fill_of_length _ _ (length_bytesLE 4 0)]
    exact List.mem_cons_self
  exact absurd (List.eq_of_mem_replicate hzero) (by decide)

theorem hexStrstoInt_wraps :
    ¬(hexStrstoInt 64 0 477218590 0 (fullText 477218590)).Succeeds fun rsp =>
      rsp.cells.load 0 (4 * 477218590) = fieldsBytes (List.replicate 477218590 fullField) :=
  @hexStrstoInt_full 477218589 (by decide)

end EngPc
