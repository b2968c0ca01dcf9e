import EngPc.Model.HsvRegs

/-!
# The 3D table and its register words

A word holds three fields of ten bits. What is written is read back up to the bits that a field has,
and what is read is written back unless the two bits above the fields are used.
-/

namespace EngPc

lemma toNat_field (v : UInt16) : (v.toUInt32 &&& 0x3ff).toNat = v.toNat % 1024 := by
  rw [UInt32.toNat_and, UInt16.toNat_toUInt32]
  exact Nat.and_two_pow_sub_one_eq_mod v.toNat 10

lemma toNat_fieldR (r : UInt16) : (fieldR r).toNat = r.toNat % 1024 * 2 ^ 20 := by
  have hlt := Nat.mod_lt r.toNat (show 0 < 1024 by decide)
  have hshift : (20 : UInt32).toNat % 32 = 20 := rfl
  rw [fieldR, UInt32.toNat_shiftLeft, toNat_field, Nat.shiftLeft_eq, hshift]
  exact Nat.mod_eq_of_lt (by omega)

lemma toNat_fieldG (g : UInt16) : (fieldG g).toNat = g.toNat % 1024 * 2 ^ 10 := by
  have hlt := Nat.mod_lt g.toNat (show 0 < 1024 by decide)
  have hshift : (10 : UInt32).toNat % 32 = 10 := rfl
  rw [fieldG, UInt32.toNat_shiftLeft, toNat_field, Nat.shiftLeft_eq, hshift]
  exact Nat.mod_eq_of_lt (by omega)

lemma toNat_fieldB (b : UInt16) : (fieldB b).toNat = b.toNat % 1024 := toNat_field b

lemma fields_disjoint (r g b : UInt16) :
    fieldR r &&& fieldG g = 0 ∧ fieldR r &&& fieldB b = 0 ∧ fieldG g &&& fieldB b = 0 := by
  have hdisjoint : ∀ (x y i : Nat), y < 2 ^ i → x * 2 ^ i &&& y = 0 := by
    intro x y i hy
    apply Nat.eq_of_testBit_eq
    intro k
    rw [Nat.testBit_and, Nat.testBit_mul_two_pow, Nat.zero_testBit]
    by_cases hk : i ≤ k
    · rw [Nat.testBit_lt_two_pow (hy.trans_le (Nat.pow_le_pow_right (by decide) hk)), Bool.and_false]
    · simp [hk]
  have hg := Nat.mod_lt g.toNat (show 0 < 1024 by decide)
  have hb := Nat.mod_lt b.toNat (show 0 < 1024 by decide)
  refine ⟨?_, ?_, ?_⟩ <;> apply UInt32.toNat_inj.mp
  · rw [UInt32.toNat_and, toNat_fieldR, toNat_fieldG]
    exact hdisjoint _ _ 20 (by omega)
  · rw [UInt32.toNat_and, toNat_fieldR, toNat_fieldB]
    exact hdisjoint _ _ 20 (by omega)
  · rw [UInt32.toNat_and, toNat_fieldG, toNat_fieldB]
    exact hdisjoint _ _ 10 (by omega)

lemma toNat_word (t : Lut3d) (cnt : Fin 729) :
    (t.word cnt).toNat =
      (t.r.get cnt).toNat % 1024 * 2 ^ 20 + (t.g.get cnt).toNat % 1024 * 2 ^ 10 +
        (t.b.get cnt).toNat % 1024 := by
  have hg := Nat.mod_lt (t.g.get cnt).toNat (show 0 < 1024 by decide)
  have hb := Nat.mod_lt (t.b.get cnt).toNat (show 0 < 1024 by decide)
  have hlow : (t.g.get cnt).toNat % 1024 * 2 ^ 10 ||| (t.b.get cnt).toNat % 1024 =
      (t.g.get cnt).toNat % 1024 * 2 ^ 10 + (t.b.get cnt).toNat % 1024 := by
    rw [← Nat.shiftLeft_eq, Nat.shiftLeft_add_eq_or_of_lt (by omega)]
  have hhigh : (t.r.get cnt).toNat % 1024 * 2 ^ 20 |||
      ((t.g.get cnt).toNat % 1024 * 2 ^ 10 + (t.b.get cnt).toNat % 1024) =
      (t.r.get cnt).toNat % 1024 * 2 ^ 20 +
        ((t.g.get cnt).toNat % 1024 * 2 ^ 10 + (t.b.get cnt).toNat % 1024) := by
    rw [← Nat.shiftLeft_eq _ 20, Nat.shiftLeft_add_eq_or_of_lt (by omega)]
  rw [Lut3d.word, UInt32.toNat_or, UInt32.toNat_or, UInt32.toNat_or, toNat_fieldR, toNat_fieldG,
    toNat_fieldB, UInt32.toNat_zero, Nat.zero_or, Nat.or_assoc, hlow, hhigh, Nat.add_assoc]

lemma toNat_extract (v : UInt32) (shift : UInt32) (h : shift.toNat < 32) :
    ((v >>> shift) &&& 0x3ff).toUInt16.toNat = v.toNat / 2 ^ shift.toNat % 1024 := by
  have hmod : ((v >>> shift) &&& 0x3ff).toNat = v.toNat / 2 ^ shift.toNat % 1024 := by
    rw [UInt32.toNat_and, UInt32.toNat_shiftRight, Nat.mod_eq_of_lt h, Nat.shiftRight_eq_div_pow]
    exact Nat.and_two_pow_sub_one_eq_mod _ 10
  have hlt := Nat.mod_lt (v.toNat / 2 ^ shift.toNat) (show 0 < 1024 by decide)
  rw [UInt32.toNat_toUInt16, hmod]
  exact Nat.mod_eq_of_lt (by omega)

section Fields

variable (value : Lut3dCfg) (cnt : Fin 729)

lemma get_map (f : UInt32 → UInt16) : (value.map f).get cnt = f (value.get cnt) :=
  Vector.getElem_map f cnt.isLt

lemma ofWords_r : ((Lut3d.ofWords value).r.get cnt).toNat = (value.get cnt).toNat / 2 ^ 20 % 1024 := by
  rw [Lut3d.ofWords, get_map]
  exact toNat_extract _ 20 (by decide)

lemma ofWords_g : ((Lut3d.ofWords value).g.get cnt).toNat = (value.get cnt).toNat / 2 ^ 10 % 1024 := by
  rw [Lut3d.ofWords, get_map]
  exact toNat_extract _ 10 (by decide)

lemma ofWords_b : ((Lut3d.ofWords value).b.get cnt).toNat = (value.get cnt).toNat % 1024 := by
  have h := toNat_extract (value.get cnt) 0 (by decide)
  have hzero : (0 : UInt32).toNat = 0 := rfl
  rw [UInt32.shiftRight_zero, hzero, Nat.pow_zero, Nat.div_one] at h
  rw [Lut3d.ofWords, get_map]
  exact h

lemma word_ofWords (h : value.get cnt >>> 30 = 0) : (Lut3d.ofWords value).word cnt = value.get cnt := by
  have htop : (value.get cnt).toNat / 2 ^ 30 = 0 := by
    have hzero := congrArg UInt32.toNat h
    have hshift : (30 : UInt32).toNat % 32 = 30 := rfl
    rwa [UInt32.toNat_shiftRight, hshift, Nat.shiftRight_eq_div_pow, UInt32.toNat_zero] at hzero
  apply UInt32.toNat_inj.mp
  rw [toNat_word, ofWords_r, ofWords_g, ofWords_b]
  omega

end Fields

lemma ofWords_word (t : Lut3d) (cnt : Fin 729) :
    let back := Lut3d.ofWords (.ofFn t.word)
    (back.r.get cnt).toNat = (t.r.get cnt).toNat % 1024 ∧
      (back.g.get cnt).toNat = (t.g.get cnt).toNat % 1024 ∧
      (back.b.get cnt).toNat = (t.b.get cnt).toNat % 1024 := by
  have hg := Nat.mod_lt (t.g.get cnt).toNat (show 0 < 1024 by decide)
  have hb := Nat.mod_lt (t.b.get cnt).toNat (show 0 < 1024 by decide)
  have hword : (Vector.ofFn t.word).get cnt = t.word cnt := Vector.getElem_ofFn cnt.isLt
  dsimp only
  rw [ofWords_r, ofWords_g, ofWords_b, hword, toNat_word]
  omega

lemma hsvUpdateReg_enabled (s : HsvRegs) {hsv : HsvLut} (h : hsv.enable ≠ 0) :
    hsvUpdateReg none s hsv = ⟨0, none, ⟨.ofFn hsv.lut3d.word, .ofFn hsv.lut3d.word⟩⟩ := by
  rw [hsvUpdateReg]
  exact if_pos h

lemma hsvParseReg_after (s : HsvRegs) {hsv : HsvLut} (ctx : HsvLut) (h : hsv.enable ≠ 0) :
    hsvParseReg none (hsvUpdateReg none s hsv).regs ctx =
      (0, { ctx with lut3d := .ofWords (.ofFn hsv.lut3d.word) },
        ⟨.ofFn hsv.lut3d.word, .ofFn hsv.lut3d.word⟩) := by
  rw [hsvUpdateReg_enabled s h, hsvParseReg]

/-- A table is read back up to ten bits a field, and words of thirty bits are kept. -/
theorem lut3d_regs_round_trip (s : HsvRegs) (hsv ctx : HsvLut) (h : hsv.enable ≠ 0) :
    (let written := hsvUpdateReg none s hsv
      let read := hsvParseReg none written.regs ctx
      written.ret = 0 ∧ written.disable = none ∧ read.1 = 0 ∧
        ∀ cnt : Fin 729,
          (read.2.1.lut3d.r.get cnt).toNat = (hsv.lut3d.r.get cnt).toNat % 1024 ∧
          (read.2.1.lut3d.g.get cnt).toNat = (hsv.lut3d.g.get cnt).toNat % 1024 ∧
          (read.2.1.lut3d.b.get cnt).toNat = (hsv.lut3d.b.get cnt).toNat % 1024) ∧
      (∀ (t : Lut3d) (cnt : Fin 729),
        fieldR (t.r.get cnt) &&& fieldG (t.g.get cnt) = 0 ∧
          fieldR (t.r.get cnt) &&& fieldB (t.b.get cnt) = 0 ∧
          fieldG (t.g.get cnt) &&& fieldB (t.b.get cnt) = 0) ∧
      ((∀ cnt : Fin 729, s.store.get cnt >>> 30 = 0) →
        let read := hsvParseReg none s hsv
        let written := hsvUpdateReg none read.2.2 read.2.1
        read.1 = 0 ∧ written.ret = 0 ∧ written.regs.store = s.store) := by
  refine ⟨?_, fun t cnt => fields_disjoint _ _ _, ?_⟩
  · intro written read
    have hwritten : written = _ := hsvUpdateReg_enabled s h
    have hread : read = _ := hsvParseReg_after s ctx h
    rw [hread, hwritten]
    refine ⟨rfl, rfl, rfl, fun cnt => ?_⟩
    exact ofWords_word hsv.lut3d cnt
  · intro hstore read written
    have hwritten := hsvUpdateReg_enabled read.2.2 (show read.2.1.enable ≠ 0 from h)
    refine ⟨rfl, congrArg HsvUpdated.ret hwritten, ?_⟩
    calc written.regs.store
        = .ofFn (Lut3d.ofWords s.store).word := congrArg (fun u => u.regs.store) hwritten
      _ = s.store := by
        apply Vector.ext
        intro i hi
        rw [Vector.getElem_ofFn]
        exact word_ofWords s.store ⟨i, hi⟩ (hstore ⟨i, hi⟩)

/-- Twelve bits in one field and nothing in the others. -/
theorem lut3d_regs_round_trip_wide :
    let hsv : HsvLut := ⟨1, ⟨.replicate 729 0xfff, .replicate 729 0, .replicate 729 0⟩⟩
    let s : HsvRegs := ⟨.replicate 729 0x3fffffff, .replicate 729 0⟩
    (∀ cnt : Fin 729,
      ((hsvParseReg none (hsvUpdateReg none s hsv).regs hsv).2.1.lut3d.r.get cnt).toNat =
        (hsv.lut3d.r.get cnt).toNat % 1024) ∧
      (hsvUpdateReg none (hsvParseReg none s hsv).2.2 (hsvParseReg none s hsv).2.1).regs.store =
        s.store := by
  intro hsv s
  have hall := lut3d_regs_round_trip s hsv hsv (by decide)
  have hstore : ∀ cnt : Fin 729, s.store.get cnt >>> 30 = 0 := by
    intro cnt
    have hword : s.store.get cnt = 0x3fffffff := Vector.getElem_replicate cnt.isLt
    rw [hword]
    rfl
  exact ⟨fun cnt => (hall.1.2.2.2 cnt).1, (hall.2.2 hstore).2.2⟩

end EngPc
