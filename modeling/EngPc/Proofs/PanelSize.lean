import EngPc.Lib.Decimal
import EngPc.Model.PanelSize
import Mathlib.Algebra.Ring.Nat

/-!
# The panel size

`parse_panelsize` counts in eight bits up to a number that has more: from 256 bytes on it never ends,
and with a newline in front neither. Where it ends it does what PQTune.lean says. Of the width it
leaves out the last digit.
-/

namespace EngPc
open Buffer CString

lemma multTimes_ten (n : Nat) : multTimes 10 n = UInt32.ofNat (10 ^ n) := by
  induction n with
  | zero => rfl
  | succ n ih =>
    rw [multTimes, ih, pow_succ, UInt32.ofNat_mul]
    rfl

/-- Digit `j` with its weight. -/
def panelDigit (data : Buffer UInt8) (off top j : Nat) : UInt32 :=
  (UInt32.ofNat (data (off + j)).toNat - 48) * UInt32.ofNat (10 ^ (top - j))

lemma panelDigits_eq (data : Buffer UInt8) (off n top : Nat) :
    panelDigits data off n top =
      (List.range' 0 n).foldl (fun v j => v + panelDigit data off top j) 0 := by
  rw [panelDigits, List.range_eq_range']
  rfl

lemma foldl_add_start (f : Nat → UInt32) (l : List Nat) (a : UInt32) :
    l.foldl (fun v j => v + f j) a = a + l.foldl (fun v j => v + f j) 0 := by
  induction l generalizing a with
  | nil => exact (UInt32.add_zero a).symm
  | cons j l ih => rw [List.foldl_cons, List.foldl_cons, ih, ih (0 + f j), UInt32.zero_add,
      UInt32.add_assoc]

section Rounds

variable {cells : Buffer UInt8} {off size n b top fuel count : Nat} {j i next : UInt8}
  {pixel hPixel vPixel : UInt32}

lemma toNat_add_one (h : j.toNat < 255) : (j + 1).toNat = j.toNat + 1 := by
  rw [UInt8.toNat_add]
  have hone : (1 : UInt8).toNat = 1 := rfl
  omega

lemma digitLoop_spec {bound weight : Int} (hbound : bound = b ∨ b = 0 ∧ bound ≤ 0)
    (hweight : b = 0 ∨ weight = top) (hj : j.toNat + n = b) (hb : b ≤ 255) (hsize : off + b ≤ size)
    (hfuel : n < fuel) (htop : b ≤ top + 1) :
    digitLoop ⟨cells, size⟩ off bound weight fuel j pixel =
      .ok ((List.range' j.toNat n).foldl (fun v j => v + panelDigit cells off top j) pixel) := by
  induction n generalizing fuel j pixel with
  | zero =>
    obtain ⟨fuel, rfl⟩ := Nat.exists_eq_add_of_lt hfuel
    rw [digitLoop, if_neg (by omega)]
    rfl
  | succ n ih =>
    obtain ⟨fuel, rfl⟩ : ∃ m, fuel = m + 1 := ⟨fuel - 1, by omega⟩
    have hnext := toNat_add_one (show j.toNat < 255 by omega)
    have htimes : (weight - j.toNat).toNat = top - j.toNat := by omega
    have hread : panelByte ⟨cells, size⟩ (off + j.toNat) = .ok (cells (off + j.toNat)) := by
      rw [panelByte, Block.get_mk (by omega)]
      rfl
    rw [digitLoop, if_pos (by omega), hread, Except.ok_bind]
    dsimp only
    rw [ih (by omega) (by omega), hnext, htimes, multTimes_ten, List.range'_succ, List.foldl_cons,
      panelDigit, UInt32.ofNat_uInt8ToNat]

lemma digitLoop_digits {bound weight : Int} (hbound : bound = b ∨ b = 0 ∧ bound ≤ 0)
    (hweight : b = 0 ∨ weight = top) (hb : b ≤ 255) (hsize : off + b ≤ size) (hfuel : b < fuel)
    (htop : b ≤ top + 1) :
    digitLoop ⟨cells, size⟩ off bound weight fuel 0 pixel =
      .ok (pixel + panelDigits cells off b top) := by
  have hzero : (0 : UInt8).toNat = 0 := rfl
  rw [digitLoop_spec hbound hweight (by omega) hb hsize hfuel htop, foldl_add_start,
    panelDigits_eq, hzero]

lemma panelByte_mk (hi : i.toNat < size) : panelByte ⟨cells, size⟩ i.toNat = .ok (cells i.toNat) := by
  rw [panelByte, Block.get_mk hi]
  rfl

lemma panelRound_x (hi : i.toNat < count) (hfuel : 255 < fuel) (hx : cells i.toNat = 0x78) :
    panelRound ⟨cells, count⟩ fuel i next hPixel vPixel =
      .ok (i + 1, hPixel + panelDigits cells 0 (i.toNat - 1) (i.toNat - 1), vPixel) := by
  have hlt := i.toNat_lt
  have hdigits : digitLoop ⟨cells, count⟩ 0 ((i.toNat : Int) - 1) ((i.toNat : Int) - 1) fuel 0 hPixel =
      .ok (hPixel + panelDigits cells 0 (i.toNat - 1) (i.toNat - 1)) :=
    digitLoop_digits (by omega) (by omega) (by omega) (by omega) (by omega) (by omega)
  rw [panelRound, panelByte_mk hi, Except.ok_bind, if_pos hx, hdigits]
  rfl

lemma panelRound_newline (hi : i.toNat < count) (hpos : i.toNat ≠ 0) (hnext : next.toNat ≤ i.toNat)
    (hfuel : 255 < fuel) (hnl : cells i.toNat = 0x0a) :
    panelRound ⟨cells, count⟩ fuel i next hPixel vPixel =
      .ok (next, hPixel,
        vPixel + panelDigits cells next.toNat (i.toNat - next.toNat) (i.toNat - 1 - next.toNat)) := by
  have hlt := i.toNat_lt
  have hlast : (i - 1).toNat = i.toNat - 1 := by
    rw [UInt8.toNat_sub]
    have hone : (1 : UInt8).toNat = 1 := rfl
    omega
  have hdigits : digitLoop ⟨cells, count⟩ next.toNat (((i - 1).toNat : Int) - next.toNat + 1)
      (((i - 1).toNat : Int) - next.toNat) fuel 0 vPixel =
      .ok (vPixel + panelDigits cells next.toNat (i.toNat - next.toNat)
        (i.toNat - 1 - next.toNat)) := by
    rw [hlast]
    exact digitLoop_digits (by omega) (by omega) (by omega) (by omega) (by omega) (by omega)
  have hx : ¬cells i.toNat = 0x78 := by
    rw [hnl]
    decide
  rw [panelRound, panelByte_mk hi, Except.ok_bind, if_neg hx, if_pos hnl]
  dsimp only
  rw [hdigits]
  rfl

lemma panelRound_other (hi : i.toNat < count) (hx : cells i.toNat ≠ 0x78)
    (hnl : cells i.toNat ≠ 0x0a) :
    panelRound ⟨cells, count⟩ fuel i next hPixel vPixel = .ok (next, hPixel, vPixel) := by
  rw [panelRound, panelByte_mk hi, Except.ok_bind, if_neg hx, if_neg hnl]
  rfl

/-- Below 256 bytes, and without a newline in front, the loops do what `panelLoop` says. -/
lemma panelRun_refines (hi : i.toNat + n = count) (hcount : count ≤ 255)
    (hnext : next.toNat ≤ i.toNat) (hfirst : i = 0 → 0 < n → cells 0 ≠ 0x0a)
    (hfuel : n + 256 ≤ fuel) :
    ∃ pixels, panelLoop cells n i.toNat next.toNat hPixel vPixel = some pixels ∧
      panelRun ⟨cells, count⟩ count fuel i next hPixel vPixel = .ok pixels := by
  induction n generalizing fuel i next hPixel vPixel with
  | zero =>
    obtain ⟨fuel, rfl⟩ : ∃ m, fuel = m + 1 := ⟨fuel - 1, by omega⟩
    refine ⟨(hPixel, vPixel), rfl, ?_⟩
    rw [panelRun, if_neg (by omega)]
  | succ n ih =>
    obtain ⟨fuel, rfl⟩ : ∃ m, fuel = m + 1 := ⟨fuel - 1, by omega⟩
    have hsucc := toNat_add_one (show i.toNat < 255 by omega)
    have hne : i + 1 = 0 → 0 < n → cells 0 ≠ 0x0a := by
      intro h
      rw [h] at hsucc
      cases hsucc
    rw [panelRun, if_pos (by omega), panelLoop]
    dsimp only
    by_cases hx : cells i.toNat = 0x78
    · have hnl : ¬cells i.toNat = 0x0a := by
        rw [hx]
        decide
      rw [panelRound_x (by omega) (by omega) hx, Except.ok_bind, if_pos hx, if_pos hx, if_neg hnl,
        show (i.toNat + 1) % 256 = (i + 1).toNat by omega, ← hsucc]
      exact ih (by omega) le_rfl hne (by omega)
    · rw [if_neg hx, if_neg hx]
      by_cases hnl : cells i.toNat = 0x0a
      · have hpos : i.toNat ≠ 0 := by
          intro hzero
          rw [hzero] at hnl
          exact hfirst (UInt8.toNat_inj.mp hzero) (Nat.succ_pos n) hnl
        rw [panelRound_newline (by omega) hpos hnext (by omega) hnl, Except.ok_bind, if_pos hnl,
          if_neg hpos, ← hsucc]
        exact ih (by omega) (by omega) hne (by omega)
      · rw [panelRound_other (by omega) hx hnl, Except.ok_bind, if_neg hnl, ← hsucc]
        exact ih (by omega) (by omega) hne (by omega)

lemma digitLoop_never {data : Block UInt8} {bound weight : Int} (h : 256 ≤ bound) (r : UInt32) :
    digitLoop data off bound weight fuel j pixel ≠ .ok r := by
  induction fuel generalizing j pixel with
  | zero => exact fun heq => nomatch heq
  | succ fuel ih =>
    have hj := j.toNat_lt
    rw [digitLoop, if_pos (by omega)]
    cases panelByte data (off + j.toNat) with
    | error e => exact fun heq => nomatch heq
    | ok c => exact ih

lemma panelRun_never {data : Block UInt8} (h : 256 ≤ count) (pixels : UInt32 × UInt32) :
    panelRun data count fuel i next hPixel vPixel ≠ .ok pixels := by
  induction fuel generalizing i next hPixel vPixel with
  | zero => exact fun heq => nomatch heq
  | succ fuel ih =>
    have hi := i.toNat_lt
    rw [panelRun, if_pos (by omega)]
    cases panelRound data fuel i next hPixel vPixel with
    | error e => exact fun heq => nomatch heq
    | ok r => exact ih

lemma panelRun_newline {data : Block UInt8} (hcount : 0 < count) (h : data.cells 0 = 0x0a)
    (pixels : UInt32 × UInt32) : panelRun data count fuel 0 0 hPixel vPixel ≠ .ok pixels := by
  have hzero : (0 : UInt8).toNat = 0 := rfl
  cases fuel with
  | zero => exact fun heq => nomatch heq
  | succ fuel =>
    rw [panelRun, if_pos (by omega), panelRound]
    cases hread : panelByte data (0 : UInt8).toNat with
    | error e => exact fun heq => nomatch heq
    | ok c =>
      have hc : c = 0x0a := by
        rw [panelByte, Block.get] at hread
        split_ifs at hread with hsize
        · exact (Except.ok.inj hread).symm.trans h
        · cases hread
      have hnever := @digitLoop_never 0 fuel 0 vPixel data (((0 : UInt8) - 1).toNat - 0 + 1)
        (((0 : UInt8) - 1).toNat - 0) (by decide)
      rw [Except.ok_bind, hc, if_neg (by decide), if_pos rfl]
      dsimp only
      cases hloop : digitLoop data (0 : UInt8).toNat (((0 : UInt8) - 1).toNat - (0 : UInt8).toNat + 1)
          (((0 : UInt8) - 1).toNat - (0 : UInt8).toNat) fuel 0 vPixel with
      | error e => exact fun heq => nomatch heq
      | ok r => exact absurd hloop (hnever r)

end Rounds

lemma parsePanelsize_ends {cells : Buffer UInt8} {count : Nat} (hcount : count ≤ 255)
    (hfirst : count = 0 ∨ cells 0 ≠ 0x0a) :
    ∃ pixels, parsePanelsize cells count = some pixels ∧ PanelEnds ⟨cells, count⟩ count pixels := by
  have hzero : (0 : UInt8).toNat = 0 := rfl
  have hrun : ∀ fuel, count + 256 ≤ fuel → ∃ pixels, panelLoop cells count 0 0 0 0 = some pixels ∧
      panelRun ⟨cells, count⟩ count fuel 0 0 0 0 = .ok pixels := by
    intro fuel hfuel
    exact panelRun_refines (show (0 : UInt8).toNat + count = count by omega) hcount le_rfl
      (fun _ hpos => hfirst.resolve_left (by omega)) hfuel
  obtain ⟨pixels, hloop, -⟩ := hrun _ le_rfl
  refine ⟨pixels, (if_neg (by omega)).trans hloop, count + 256, fun fuel hfuel => ?_⟩
  obtain ⟨r, hloop', hok⟩ := hrun fuel hfuel
  rw [hok, Option.some.inj (hloop'.symm.trans hloop)]

/-- The loops end with what PQTune.lean says, or not at all. -/
theorem panelEnds_iff (cells : Buffer UInt8) (count : Nat) (pixels : UInt32 × UInt32) :
    PanelEnds ⟨cells, count⟩ count pixels ↔
      (count ≤ 255 ∧ (count = 0 ∨ cells 0 ≠ 0x0a)) ∧ parsePanelsize cells count = some pixels := by
  by_cases hends : count ≤ 255 ∧ (count = 0 ∨ cells 0 ≠ 0x0a)
  · obtain ⟨r, hparse, enough, hrun⟩ := parsePanelsize_ends hends.1 hends.2
    rw [and_iff_right hends, hparse, Option.some.injEq]
    constructor
    · rintro ⟨enough', hok⟩
      have h := hrun (max enough enough') (le_max_left _ _)
      rw [hok _ (le_max_right _ _)] at h
      exact (Except.ok.inj h).symm
    · rintro rfl
      exact ⟨enough, hrun⟩
  · refine iff_of_false ?_ (fun h => hends h.1)
    rintro ⟨enough, hok⟩
    by_cases hcount : count ≤ 255
    · have hfirst : ¬(count = 0 ∨ cells 0 ≠ 0x0a) := fun h => hends ⟨hcount, h⟩
      rw [not_or, not_not] at hfirst
      exact panelRun_newline (Nat.pos_of_ne_zero hfirst.1) hfirst.2 pixels (hok enough le_rfl)
    · exact panelRun_never (by omega) pixels (hok enough le_rfl)

/-- What the digits of a text sum up to. -/
def digitSum (s : List UInt8) : Nat := s.foldl (fun n c => n * 10 + digit c) 0

lemma digitSum_decimal (n : Nat) : digitSum (decimal n) = n := by
  have hvalue := digitsValue_decimal n
  rwa [digitsValue, takeWhile_decimal] at hvalue

lemma panelDigits_digitSum {data : Buffer UInt8} {off n top e : Nat} (htop : top + 1 = n + e)
    (hdigits : ∀ j < n, ∃ d < 10, data (off + j) = decDigit d) :
    panelDigits data off n top = UInt32.ofNat (digitSum (data.load off n) * 10 ^ e) := by
  induction n generalizing e with
  | zero => rw [load_zero, digitSum, List.foldl_nil, Nat.zero_mul]; rfl
  | succ n ih =>
    obtain ⟨d, hd, hc⟩ := hdigits n (Nat.lt_succ_self n)
    have hval : UInt32.ofNat (data (off + n)).toNat - 48 = UInt32.ofNat d := by
      rw [hc]
      exact (by decide : ∀ d < 10, UInt32.ofNat (decDigit d).toNat - 48 = UInt32.ofNat d) d hd
    have hfront := ih (show top + 1 = n + (e + 1) by omega) (fun j hj => hdigits j (by omega))
    have hsum : digitSum (data.load off (n + 1)) = digitSum (data.load off n) * 10 + d := by
      rw [load_snoc, digitSum, List.foldl_append, List.foldl_cons, List.foldl_nil, hc,
        digit_decDigit hd]
      rfl
    rw [panelDigits] at hfront
    rw [panelDigits, List.range_succ, List.foldl_append, hfront, List.foldl_cons, List.foldl_nil,
      hval, hsum, show top - n = e by omega, ← UInt32.ofNat_mul, ← UInt32.ofNat_add]
    congr 1
    ring

section Text

variable {data : Buffer UInt8} {m n i next H V : Nat} {hPixel vPixel : UInt32}

lemma panelLoop_skip (h : ∀ k < m, data (i + k) ≠ 0x78 ∧ data (i + k) ≠ 0x0a) :
    panelLoop data (m + n) i next hPixel vPixel = panelLoop data n (i + m) next hPixel vPixel := by
  induction m generalizing i with
  | zero => rw [Nat.zero_add, Nat.add_zero]
  | succ m ih =>
    obtain ⟨hx, hnl⟩ := h 0 (Nat.succ_pos m)
    rw [Nat.add_zero] at hx hnl
    have hrest : ∀ k < m, data (i + 1 + k) ≠ 0x78 ∧ data (i + 1 + k) ≠ 0x0a := by
      intro k hk
      rw [Nat.add_assoc, Nat.add_comm 1 k]
      exact h (k + 1) (by omega)
    rw [show m + 1 + n = m + n + 1 by omega, panelLoop, if_neg hx, if_neg hx, if_neg hnl, ih hrest,
      show i + 1 + m = i + (m + 1) by omega]

lemma digit_at {v : Nat} (h : data.load i (decimal v).length = decimal v) {j : Nat}
    (hj : j < (decimal v).length) : ∃ d < 10, data (i + j) = decDigit d := by
  have hlen : j < (data.load i (decimal v).length).length := by rwa [length_load]
  have hmem := List.getElem_mem hlen
  rw [getElem_load, h] at hmem
  exact mem_decimal hmem

lemma digit_no_mark {v : Nat} (h : data.load i (decimal v).length = decimal v) :
    ∀ k < (decimal v).length, data (i + k) ≠ 0x78 ∧ data (i + k) ≠ 0x0a := by
  intro k hk
  obtain ⟨d, hd, hc⟩ := digit_at h hk
  rw [hc]
  exact (by decide : ∀ d < 10, decDigit d ≠ 0x78 ∧ decDigit d ≠ 0x0a) d hd

lemma digitSum_front (h : data.load 0 (decimal H).length = decimal H) :
    digitSum (data.load 0 ((decimal H).length - 1)) = H / 10 := by
  have htake := load_take data 0 (Nat.sub_le (decimal H).length 1)
  rw [h] at htake
  rw [← htake, decimal_eq H]
  split_ifs with hH
  · rw [Nat.div_eq_of_lt hH]
    rfl
  · rw [List.length_append, List.length_singleton, Nat.add_sub_cancel, List.take_left' rfl,
      digitSum_decimal]

lemma panelLoop_text (hH : data.load 0 (decimal H).length = decimal H)
    (hx : data (decimal H).length = 0x78)
    (hV : data.load ((decimal H).length + 1) (decimal V).length = decimal V)
    (hnl : data ((decimal H).length + 1 + (decimal V).length) = 0x0a)
    (hlen : (decimal H).length + 1 ≤ 255) :
    panelLoop data ((decimal H).length + (1 + ((decimal V).length + 1))) 0 0 0 0 =
      some (UInt32.ofNat (H / 10 * 10), UInt32.ofNat V) := by
  have hposH := List.length_pos_of_ne_nil (decimal_ne_nil H)
  have hposV := List.length_pos_of_ne_nil (decimal_ne_nil V)
  have hnl' : ¬data (decimal H).length = 0x0a := by
    rw [hx]
    decide
  have hx' : ¬data ((decimal H).length + 1 + (decimal V).length) = 0x78 := by
    rw [hnl]
    decide
  have hfront := panelDigits_digitSum (show (decimal H).length - 1 + 1 = (decimal H).length - 1 + 1
    from rfl) (fun j hj => digit_at hH (show j < (decimal H).length by omega))
  have hback := panelDigits_digitSum (show (decimal V).length - 1 + 1 = (decimal V).length + 0 by
    omega) (fun j hj => digit_at hV hj)
  rw [digitSum_front hH, pow_one] at hfront
  rw [hV, digitSum_decimal, pow_zero, Nat.mul_one] at hback
  rw [panelLoop_skip (digit_no_mark hH), Nat.zero_add, Nat.add_comm 1, panelLoop, if_pos hx,
    if_pos hx, if_neg hnl', hfront, UInt32.zero_add, Nat.mod_eq_of_lt (by omega),
    panelLoop_skip (digit_no_mark hV), panelLoop, if_neg hx', if_neg hx', if_pos hnl,
    if_neg (by omega)]
  rw [panelLoop, UInt32.zero_add, show (decimal H).length + 1 + (decimal V).length -
    ((decimal H).length + 1) = (decimal V).length by omega, show (decimal H).length + 1 +
    (decimal V).length - 1 - ((decimal H).length + 1) = (decimal V).length - 1 by omega, hback]

end Text

/-- `HxV` and a newline. -/
def panelText (H V : Nat) : List UInt8 := decimal H ++ 0x78 :: (decimal V ++ [0x0a])

def panelData (H V : Nat) : Buffer UInt8 := Buffer.fill (fun _ => 0) 0 (panelText H V)

section PanelData

variable (H V : Nat)

lemma length_panelText :
    (panelText H V).length = (decimal H).length + (1 + ((decimal V).length + 1)) := by
  rw [panelText, List.length_append, List.length_cons, List.length_append, List.length_singleton]
  omega

lemma panelData_width : (panelData H V).load 0 (decimal H).length = decimal H := by
  have hlen := length_panelText H V
  rw [panelData, load_fill_slice _ _ (by omega), List.drop_zero, panelText, List.take_left' rfl]

/-- The rest of the text: the `x`, the height and the newline. -/
lemma panelData_rest :
    (panelData H V).load (decimal H).length 1 = [0x78] ∧
      (panelData H V).load ((decimal H).length + 1) (decimal V).length = decimal V ∧
      (panelData H V).load ((decimal H).length + 1 + (decimal V).length) 1 = [0x0a] := by
  have hlen := length_panelText H V
  have hparts : panelText H V = (decimal H ++ [0x78]) ++ (decimal V ++ [0x0a]) := by
    rw [panelText, List.append_assoc]
    rfl
  have hparts' : panelText H V = (decimal H ++ [0x78] ++ decimal V) ++ [0x0a] := by
    rw [hparts, List.append_assoc (decimal H ++ [0x78])]
  have hfront : (decimal H ++ [0x78]).length = (decimal H).length + 1 := List.length_append
  have hfront' : (decimal H ++ [0x78] ++ decimal V).length =
      (decimal H).length + 1 + (decimal V).length := by
    rw [List.length_append, hfront]
  refine ⟨?_, ?_, ?_⟩
  · rw [panelData, load_fill_slice _ _ (by omega), panelText, List.drop_left' rfl]
    rfl
  · rw [panelData, load_fill_slice _ _ (by omega), hparts, List.drop_left' hfront,
      List.take_left' rfl]
  · rw [panelData, load_fill_slice _ _ (by omega), hparts', List.drop_left' hfront']
    rfl

lemma parsePanelsize_text (h : (panelText H V).length ≤ 255) :
    parsePanelsize (panelData H V) (panelText H V).length =
      some (UInt32.ofNat (H / 10 * 10), UInt32.ofNat V) := by
  have hlen := length_panelText H V
  obtain ⟨hx, hV, hnl⟩ := panelData_rest H V
  rw [parsePanelsize, if_neg (by omega), hlen]
  exact panelLoop_text (panelData_width H V) (List.cons.inj hx).1 hV (List.cons.inj hnl).1 (by omega)

end PanelData

/-- The height of the panel is always right, and the width where its last digit is 0; on other data the
function comes to its end if these are at most 255 bytes and no newline stands in front. -/
theorem parse_panelsize_iff {H V : Nat} (hH : 1 ≤ H ∧ H ≤ 65535) (hV : 1 ≤ V ∧ V ≤ 65535)
    (data : Buffer UInt8) (count : Nat) :
    (PanelEnds ⟨panelData H V, (panelText H V).length⟩ (panelText H V).length
      (UInt32.ofNat H, UInt32.ofNat V) ↔ 10 ∣ H) ∧
    ((∃ pixels, PanelEnds ⟨data, count⟩ count pixels) ↔
      count ≤ 255 ∧ (count = 0 ∨ data 0 ≠ 0x0a)) := by
  constructor
  · have hlenH := length_decimal (show H < 10 ^ (4 + 1) by omega)
    have hlenV := length_decimal (show V < 10 ^ (4 + 1) by omega)
    have hlen : (panelText H V).length ≤ 255 := by
      rw [length_panelText]
      omega
    have hfirst : panelData H V 0 ≠ 0x0a :=
      (digit_no_mark (panelData_width H V) 0 (List.length_pos_of_ne_nil (decimal_ne_nil H))).2
    rw [panelEnds_iff, parsePanelsize_text H V hlen, and_iff_right ⟨hlen, .inr hfirst⟩,
      Option.some.injEq, Prod.mk.injEq, and_iff_left rfl, ← UInt32.toNat_inj, UInt32.toNat_ofNat',
      UInt32.toNat_ofNat']
    omega
  · constructor
    · rintro ⟨pixels, hends⟩
      exact ((panelEnds_iff data count pixels).mp hends).1
    · rintro ⟨hcount, hfirst⟩
      obtain ⟨pixels, -, hends⟩ := parsePanelsize_ends hcount hfirst
      exact ⟨pixels, hends⟩

/-- The panel of 1080 times 2160, and no data. -/
theorem parse_panelsize_1080 :
    (PanelEnds ⟨panelData 1080 2160, (panelText 1080 2160).length⟩ (panelText 1080 2160).length
      (UInt32.ofNat 1080, UInt32.ofNat 2160) ↔ 10 ∣ 1080) ∧
    ((∃ pixels, PanelEnds ⟨fun _ => 0, 0⟩ 0 pixels) ↔
      0 ≤ 255 ∧ (0 = 0 ∨ (fun _ => 0 : Buffer UInt8) 0 ≠ 0x0a)) :=
  parse_panelsize_iff ⟨by decide, by decide⟩ ⟨by decide, by decide⟩ (fun _ => 0) 0

/-- The width 1125 becomes 1120, and one newline is enough not to come to an end. -/
theorem parse_panelsize_fails :
    ¬PanelEnds ⟨panelData 1125 2, 7⟩ 7 (1125, 2) ∧
      ¬∃ pixels, PanelEnds ⟨Buffer.fill (fun _ => 0) 0 [0x0a], 1⟩ 1 pixels := by
  refine ⟨fun h => ?_, fun ⟨pixels, h⟩ => ?_⟩
  · have hparse := ((panelEnds_iff _ _ _).mp h).2
    revert hparse
    decide
  · obtain ⟨⟨-, hfirst⟩, -⟩ := (panelEnds_iff _ _ _).mp h
    revert hfirst
    decide

end EngPc
