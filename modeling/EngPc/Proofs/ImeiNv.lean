import EngPc.Model.BtWifiMac

/-!
# IMEIs in NV and as texts

In NV an IMEI is a half byte that says what follows, and a half byte for each digit, the lower half
first. Each conversion gives every cell of its result, and the two are inverse to each other.
-/

namespace EngPc
open Buffer

def highHalf (b : UInt8) : UInt8 := (b &&& 0xF0) >>> 4

def lowHalf (b : UInt8) : UInt8 := b &&& 0x0F

/-- The text of an IMEI: each character is a digit. -/
def ImeiText (sz : Buffer UInt8) : Prop :=
  ∀ k < maxImeiStrLength, 0x30 ≤ sz k ∧ sz k ≤ 0x39

/-- An IMEI in NV: the first half byte is 0xA, the others are digits. -/
structure ImeiBytes (nv : Buffer UInt8) : Prop where
  mark : lowHalf (nv 0) = 0x0A
  low : ∀ i, 0 < i → i < maxImeiLength → lowHalf (nv i) ≤ 9
  high : ∀ i < maxImeiLength, highHalf (nv i) ≤ 9

/-- Byte `i` in NV. -/
def imeiByte (sz : Buffer UInt8) (i : Nat) : UInt8 :=
  make1Byte2Bytes (sz (2 * i) - 0x30) (if i = 0 then 0x0A else sz (2 * i - 1) - 0x30)

/-- Character `k` of the text. -/
def imeiChar (nv : Buffer UInt8) (k : Nat) : UInt8 :=
  (if k % 2 = 0 then highHalf (nv (k / 2)) else lowHalf (nv (k / 2 + 1))) + 0x30

lemma imeiChar_even (nv : Buffer UInt8) (i : Nat) :
    imeiChar nv (2 * i) = highHalf (nv i) + 0x30 := by
  rw [imeiChar, if_pos (by omega), show 2 * i / 2 = i by omega]

lemma imeiChar_odd (nv : Buffer UInt8) (i : Nat) :
    imeiChar nv (2 * i + 1) = lowHalf (nv (i + 1)) + 0x30 := by
  rw [imeiChar, if_neg (by omega), show (2 * i + 1) / 2 = i by omega]

section Conversions

variable {sz nv b : Buffer UInt8} {n i : Nat}

lemma imeiStr2NvLoop_spec (hi : 0 < i) (hn : i + n ≤ maxImeiLength) :
    imeiStr2NvLoop ⟨sz, maxImeiStrLength⟩ n i ⟨b, maxImeiLength⟩ =
      .ok ⟨fun k => if i ≤ k ∧ k < i + n then imeiByte sz k else b k, maxImeiLength⟩ := by
  induction n generalizing i b with
  | zero =>
    have hnone : ∀ k, ¬(i ≤ k ∧ k < i + 0) := by omega
    simp only [hnone, if_false]
    rfl
  | succ n ih =>
    have h₁ : 2 * i - 0 < maxImeiStrLength := by
      unfold maxImeiLength at hn
      unfold maxImeiStrLength
      omega
    have h₂ : 2 * i - 1 < maxImeiStrLength := by omega
    rw [imeiStr2NvLoop, Block.get_mk h₁, Except.ok_bind]
    dsimp only
    rw [Block.get_mk h₂, Except.ok_bind, Block.set_mk (show i < maxImeiLength by omega),
      Except.ok_bind, ih (by omega) (by omega)]
    congr 2
    funext k
    by_cases hk : k = i
    · subst hk
      rw [if_neg (by omega), if_pos (by omega), store_same, imeiByte, if_neg (by omega)]
      rfl
    · rw [store_ne _ _ hk]
      exact if_congr (by omega) rfl rfl

lemma imeiConvStr2NV_spec (sz nv : Buffer UInt8) :
    imeiConvStr2NV ⟨sz, maxImeiStrLength⟩ ⟨nv, maxImeiLength⟩ =
      .ok ⟨fun k => if k < maxImeiLength then imeiByte sz k else nv k, maxImeiLength⟩ := by
  have h₁ : 0 < maxImeiStrLength := by decide
  have h₂ : 0 < maxImeiLength := by decide
  rw [imeiConvStr2NV, Block.get_mk h₁, Except.ok_bind]
  dsimp only
  rw [Block.set_mk h₂, Except.ok_bind, imeiStr2NvLoop_spec Nat.one_pos (by decide)]
  congr 2
  funext k
  by_cases hk : k = 0
  · subst hk
    rw [if_neg (by omega), if_pos h₂, store_same, imeiByte, if_pos rfl]
  · rw [store_ne _ _ hk]
    exact if_congr (by omega) rfl rfl

lemma imeiNv2StrLoop_spec (hn : i + n < maxImeiLength) :
    imeiNv2StrLoop ⟨nv, maxImeiLength⟩ n i ⟨b, maxImeiStrLength⟩ =
      .ok ⟨fun k => if 2 * i ≤ k ∧ k < 2 * (i + n) then imeiChar nv k else b k,
        maxImeiStrLength⟩ := by
  induction n generalizing i b with
  | zero =>
    have hnone : ∀ k, ¬(2 * i ≤ k ∧ k < 2 * (i + 0)) := by omega
    simp only [hnone, if_false]
    rfl
  | succ n ih =>
    have h₁ : 2 * i + 0 < maxImeiStrLength := by
      unfold maxImeiLength at hn
      unfold maxImeiStrLength
      omega
    have h₂ : 2 * i + 1 < maxImeiStrLength := by
      unfold maxImeiLength at hn
      unfold maxImeiStrLength
      omega
    rw [imeiNv2StrLoop, Block.get_mk (show i < maxImeiLength by omega), Except.ok_bind,
      Block.set_mk h₁, Except.ok_bind, Block.get_mk (show i + 1 < maxImeiLength by omega),
      Except.ok_bind, Block.set_mk h₂, Except.ok_bind, ih (by omega)]
    congr 2
    funext k
    by_cases hodd : k = 2 * i + 1
    · subst hodd
      rw [if_neg (by omega), if_pos (by omega), store_same, imeiChar_odd]
      rfl
    · rw [store_ne _ _ hodd]
      by_cases heven : k = 2 * i
      · subst heven
        rw [if_neg (by omega), if_pos (by omega), imeiChar_even]
        exact store_same _ _ _
      · have hcell := store_ne b ((nv i &&& 0xF0) >>> 4 + 0x30) (show k ≠ 2 * i + 0 from heven)
        exact if_congr (by omega) rfl hcell

lemma imeiConvNV2Str_spec (nv sz : Buffer UInt8) :
    imeiConvNV2Str ⟨nv, maxImeiLength⟩ ⟨sz, maxImeiStrLength⟩ =
      .ok ⟨fun k => if k < maxImeiStrLength then imeiChar nv k else sz k, maxImeiStrLength⟩ := by
  have h₁ : 7 < maxImeiLength := by decide
  have h₂ : 14 < maxImeiStrLength := by decide
  rw [imeiConvNV2Str, imeiNv2StrLoop_spec (by decide), Except.ok_bind, Block.get_mk h₁,
    Except.ok_bind, Block.set_mk h₂]
  congr 2
  funext k
  by_cases hk : k = 14
  · subst hk
    rw [store_same, if_pos h₂]
    exact (imeiChar_even nv 7).symm
  · rw [store_ne _ _ hk]
    have hlen : 2 * (0 + (maxImeiLength - 1)) = 14 := rfl
    have hstr : maxImeiStrLength = 15 := rfl
    exact if_congr (by omega) rfl rfl

end Conversions

lemma halves_make {high low : UInt8} (hhigh : high < 16) (hlow : low < 16) :
    highHalf (make1Byte2Bytes high low) = high ∧ lowHalf (make1Byte2Bytes high low) = low := by
  have hall : ∀ h < 16, ∀ l < 16,
      highHalf (make1Byte2Bytes (UInt8.ofNat h) (UInt8.ofNat l)) = UInt8.ofNat h ∧
        lowHalf (make1Byte2Bytes (UInt8.ofNat h) (UInt8.ofNat l)) = UInt8.ofNat l := by decide
  have h := hall high.toNat hhigh low.toNat hlow
  rwa [UInt8.ofNat_toNat, UInt8.ofNat_toNat] at h

lemma make_halves (b : UInt8) : make1Byte2Bytes (highHalf b) (lowHalf b) = b := by
  have hall : ∀ n < 256, make1Byte2Bytes (highHalf (UInt8.ofNat n)) (lowHalf (UInt8.ofNat n)) =
      UInt8.ofNat n := by decide +kernel
  have h := hall b.toNat b.toNat_lt
  rwa [UInt8.ofNat_toNat] at h

lemma digit_sub_lt {c : UInt8} (h : 0x30 ≤ c ∧ c ≤ 0x39) : c - 0x30 < 16 := by
  obtain ⟨hle, hge⟩ := h
  rw [UInt8.le_iff_toNat_le] at hle hge
  rw [UInt8.lt_iff_toNat_lt, UInt8.toNat_sub_of_le _ _ (UInt8.le_iff_toNat_le.mpr hle)]
  have h₁ : (0x30 : UInt8).toNat = 48 := rfl
  have h₂ : (0x39 : UInt8).toNat = 57 := rfl
  have h₃ : (16 : UInt8).toNat = 16 := rfl
  omega

lemma imeiChar_imeiByte {sz nv : Buffer UInt8} (h : ImeiText sz)
    (hnv : ∀ i < maxImeiLength, nv i = imeiByte sz i) {k : Nat} (hk : k < maxImeiStrLength) :
    imeiChar nv k = sz k := by
  have hdigit := digit_sub_lt (h k hk)
  have hback : sz k - 0x30 + 0x30 = sz k := UInt8.sub_add_cancel _ _
  have hlen : maxImeiStrLength = 15 := rfl
  have hlen' : maxImeiLength = 8 := rfl
  obtain ⟨i, rfl | rfl⟩ := Nat.even_or_odd' k
  · have hlow : (if i = 0 then 0x0A else sz (2 * i - 1) - 0x30) < 16 := by
      split_ifs
      · decide
      · exact digit_sub_lt (h _ (by omega))
    rw [imeiChar_even, hnv i (by omega), imeiByte, (halves_make hdigit hlow).1, hback]
  · have hhigh := digit_sub_lt (h (2 * (i + 1)) (by omega))
    have hbyte : imeiByte sz (i + 1) =
        make1Byte2Bytes (sz (2 * (i + 1)) - 0x30) (sz (2 * i + 1) - 0x30) := by
      rw [imeiByte, if_neg (by omega), show 2 * (i + 1) - 1 = 2 * i + 1 by omega]
    rw [imeiChar_odd, hnv (i + 1) (by omega), hbyte, (halves_make hhigh hdigit).2, hback]

lemma imeiByte_imeiChar {nv sz : Buffer UInt8} (h : ImeiBytes nv)
    (hsz : ∀ k < maxImeiStrLength, sz k = imeiChar nv k) {i : Nat} (hi : i < maxImeiLength) :
    imeiByte sz i = nv i := by
  have hlen : maxImeiStrLength = 15 := rfl
  have hlen' : maxImeiLength = 8 := rfl
  have hlow : (if i = 0 then 0x0A else sz (2 * i - 1) - 0x30) = lowHalf (nv i) := by
    cases i with
    | zero => exact h.mark.symm
    | succ i =>
      rw [if_neg (by omega), show 2 * (i + 1) - 1 = 2 * i + 1 by omega, hsz _ (by omega),
        imeiChar_odd, UInt8.add_sub_cancel]
  rw [imeiByte, hlow, hsz _ (by omega), imeiChar_even, UInt8.add_sub_cancel, make_halves]

/-- Each conversion takes back what the other one has made, and neither accesses a byte outside of the
two buffers. -/
theorem imei_packing :
    (∀ sz nv sz' : Buffer UInt8, ImeiText sz → ∃ nv' sz'',
      imeiConvStr2NV ⟨sz, maxImeiStrLength⟩ ⟨nv, maxImeiLength⟩ = .ok ⟨nv', maxImeiLength⟩ ∧
      imeiConvNV2Str ⟨nv', maxImeiLength⟩ ⟨sz', maxImeiStrLength⟩ = .ok ⟨sz'', maxImeiStrLength⟩ ∧
      sz''.load 0 maxImeiStrLength = sz.load 0 maxImeiStrLength) ∧
    (∀ nv sz nv' : Buffer UInt8, ImeiBytes nv → ∃ sz' nv'',
      imeiConvNV2Str ⟨nv, maxImeiLength⟩ ⟨sz, maxImeiStrLength⟩ = .ok ⟨sz', maxImeiStrLength⟩ ∧
      imeiConvStr2NV ⟨sz', maxImeiStrLength⟩ ⟨nv', maxImeiLength⟩ = .ok ⟨nv'', maxImeiLength⟩ ∧
      nv''.load 0 maxImeiLength = nv.load 0 maxImeiLength) ∧
    ∀ sz nv : Buffer UInt8,
      (∃ nv', imeiConvStr2NV ⟨sz, maxImeiStrLength⟩ ⟨nv, maxImeiLength⟩ = .ok ⟨nv', maxImeiLength⟩ ∧
        ∀ k, maxImeiLength ≤ k → nv' k = nv k) ∧
      ∃ sz', imeiConvNV2Str ⟨nv, maxImeiLength⟩ ⟨sz, maxImeiStrLength⟩ = .ok ⟨sz', maxImeiStrLength⟩ ∧
        ∀ k, maxImeiStrLength ≤ k → sz' k = sz k := by
  refine ⟨fun sz nv sz' h => ?_, fun nv sz nv' h => ?_, fun sz nv => ⟨?_, ?_⟩⟩
  · refine ⟨_, _, imeiConvStr2NV_spec sz nv, imeiConvNV2Str_spec _ sz', load_congr fun k hk => ?_⟩
    rw [Nat.zero_add]
    exact (if_pos hk).trans (imeiChar_imeiByte h (fun i hi => if_pos hi) hk)
  · refine ⟨_, _, imeiConvNV2Str_spec nv sz, imeiConvStr2NV_spec _ nv', load_congr fun i hi => ?_⟩
    rw [Nat.zero_add]
    exact (if_pos hi).trans (imeiByte_imeiChar h (fun k hk => if_pos hk) hi)
  · exact ⟨_, imeiConvStr2NV_spec sz nv, fun k hk => if_neg (not_lt.mpr hk)⟩
  · exact ⟨_, imeiConvNV2Str_spec nv sz, fun k hk => if_neg (not_lt.mpr hk)⟩

/-- The IMEI 490154203237518. -/
def imeiText : Buffer UInt8 := fill (fun _ => 0) 0
  [0x34, 0x39, 0x30, 0x31, 0x35, 0x34, 0x32, 0x30, 0x33, 0x32, 0x33, 0x37, 0x35, 0x31, 0x38]

theorem imei_packing_text : ∃ nv sz,
    imeiConvStr2NV ⟨imeiText, maxImeiStrLength⟩ ⟨fun _ => 0, maxImeiLength⟩ =
      .ok ⟨nv, maxImeiLength⟩ ∧
    imeiConvNV2Str ⟨nv, maxImeiLength⟩ ⟨fun _ => 0, maxImeiStrLength⟩ =
      .ok ⟨sz, maxImeiStrLength⟩ ∧
    sz.load 0 maxImeiStrLength = imeiText.load 0 maxImeiStrLength :=
  imei_packing.1 imeiText (fun _ => 0) (fun _ => 0) (by unfold ImeiText; decide)

end EngPc
