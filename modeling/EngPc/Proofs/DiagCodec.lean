import EngPc.Lib.Stuffing
import EngPc.Model.ProtolDiag
import Mathlib.Tactic.NormNum

/-!
# Escaping of diag frames

The loops of `decode`, `encode` and `translate_packet` compute the stuffing code with escape
0x7d and mask 0x20, in place and for frames of every length. What holds of the code as a code
comes from the library; this file only follows the moving index and the moving bound.
-/

namespace EngPc
open Buffer CString

def diagStuffing : Stuffing UInt8 where
  special := isEscape
  decSpecial := inferInstance
  esc := 0x7d
  mask c := c ^^^ 0x20
  esc_special := .inl rfl
  mask_mask c := by rw [UInt8.xor_assoc, UInt8.xor_self, UInt8.xor_zero]
  mask_not_special c h := by
    rcases h with rfl | rfl <;> decide

/-- `0x7E.e.0x7E` -/
def flagged (e : List UInt8) : List UInt8 := 0x7e :: e ++ [0x7e]

@[simp] lemma length_flagged (e : List UInt8) : (flagged e).length = e.length + 2 := by
  simp [flagged]

/-- One escape taken out: the block behind it has moved down by one cell. -/
lemma load_unescaped (buff : Buffer UInt8) (i len : Nat) (v : UInt8) (hi : i + 2 < len) :
    (shiftDown (len - (i + 1)) (i + 1) (buff.store i v)).load 0 (i + 1) = buff.load 0 i ++ [v] ∧
    (shiftDown (len - (i + 1)) (i + 1) (buff.store i v)).load (i + 1) (len - 1 - 1 - (i + 1)) =
      buff.load (i + 2) (len - 1 - (i + 2)) ∧
    shiftDown (len - (i + 1)) (i + 1) (buff.store i v) (len - 1 - 1) = buff (len - 1) ∧
    ∀ k, len ≤ k → shiftDown (len - (i + 1)) (i + 1) (buff.store i v) k = buff k := by
  rw [shiftDown_eq_copy]
  refine ⟨?_, ?_, ?_, ?_⟩
  · rw [load_copy_outside _ (by omega), load_store_snoc]
  · rw [load_copy_inside _ (by omega) (by omega), load_store_outside _ _ (by omega)]
    congr 1 <;> omega
  · rw [copy_inside _ (by omega) (by omega), store_ne _ _ (by omega)]
    congr 1
    omega
  · intro k hk
    rw [copy_outside _ (by omega), store_ne _ _ (by omega)]

lemma decodeLoop_spec (fuel i len : Nat) (buff : Buffer UInt8) (hi : i + 1 ≤ len)
    (hf : len ≤ i + fuel) :
    ∃ n b, decodeLoop fuel i len buff = some (n, b) ∧
      b.load 0 n = buff.load 0 i ++ diagStuffing.unstuff (buff.load i (len - 1 - i)) ++
        [buff (len - 1)] ∧
      ∀ k, len ≤ k → b k = buff k := by
  induction fuel generalizing i len buff with
  | zero => omega
  | succ fuel ih =>
    rw [decodeLoop]
    by_cases hlt : i + 2 < len
    · rw [if_pos hlt]
      have hsplit : buff.load i (len - 1 - i) =
          buff i :: buff (i + 1) :: buff.load (i + 2) (len - 1 - (i + 2)) := by
        rw [show len - 1 - i = (len - 1 - (i + 2)) + 1 + 1 by omega, load_succ, load_succ]
      by_cases hs : isEscape (buff i)
      · rw [if_pos hs]
        obtain ⟨hpre, hrest, hlast, hout⟩ :=
          load_unescaped buff i len (buff (i + 1) ^^^ 0x20) hlt
        obtain ⟨n, b, he, hl, hk⟩ := ih (i + 1) (len - 1)
          (shiftDown (len - (i + 1)) (i + 1) (buff.store i (buff (i + 1) ^^^ 0x20)))
          (by omega) (by omega)
        refine ⟨n, b, he, ?_, ?_⟩
        · rw [hl, hpre, hrest, hlast, hsplit, diagStuffing.unstuff_special hs]
          simp only [List.append_assoc, List.cons_append, List.nil_append, diagStuffing]
        · intro k hlen
          rw [hk k (by omega), hout k hlen]
      · rw [if_neg hs]
        obtain ⟨n, b, he, hl, hk⟩ := ih (i + 1) len buff (by omega) (by omega)
        refine ⟨n, b, he, ?_, hk⟩
        have hnext : buff (i + 1) :: buff.load (i + 2) (len - 1 - (i + 2)) =
            buff.load (i + 1) (len - 1 - (i + 1)) := by
          rw [show len - 1 - (i + 1) = (len - 1 - (i + 2)) + 1 by omega, load_succ]
        rw [hl, hsplit, hnext, diagStuffing.unstuff_plain hs, load_snoc]
        simp
    · rw [if_neg hlt]
      refine ⟨len, buff, rfl, ?_, fun _ _ => rfl⟩
      have hjoin : buff.load 0 i ++ buff.load i (len - 1 - i) =
          buff.load 0 (i + (len - 1 - i)) := by
        rw [load_add, Nat.zero_add]
      have hshort : (buff.load i (len - 1 - i)).length ≤ 1 := by
        rw [length_load]
        omega
      rw [diagStuffing.unstuff_short hshort, hjoin]
      have hsnoc := load_snoc buff 0 (len - 1)
      rw [show i + (len - 1 - i) = len - 1 by omega, show len - 1 + 1 = len by omega] at *
      rw [hsnoc, Nat.zero_add]

/-- `decode` on a frame of two bytes or more: the inner bytes are unstuffed, the two outer
ones stay, and nothing is written behind the frame. -/
lemma decode_spec (o : CProtolDiag) (buff : Buffer UInt8) (len : Nat) (h : 2 ≤ len) :
    (o.decode buff len).buff.load 0 (o.decode buff len).len =
      buff 0 :: diagStuffing.unstuff (buff.load 1 (len - 2)) ++ [buff (len - 1)] ∧
    ∀ k, len ≤ k → (o.decode buff len).buff k = buff k := by
  obtain ⟨n, b, he, hl, hk⟩ := decodeLoop_spec len 1 len buff (by omega) (by omega)
  unfold CProtolDiag.decode
  rw [he]
  simp only [Option.getD_some]
  refine ⟨?_, hk⟩
  rw [hl, show len - 1 - 1 = len - 2 by omega]
  rfl

/-- One byte escaped: the block behind it has moved up by one cell. -/
lemma load_escaped (buff : Buffer UInt8) (i len : Nat) (e v : UInt8) (hi : i + 1 < len) :
    ((shiftUp (i + 1) (len - (i + 1)) (buff.store i e)).store (i + 1) v).load 0 (i + 2) =
      buff.load 0 i ++ [e, v] ∧
    ((shiftUp (i + 1) (len - (i + 1)) (buff.store i e)).store (i + 1) v).load (i + 2)
      (len + 1 - 1 - (i + 2)) = buff.load (i + 1) (len - 1 - (i + 1)) ∧
    (shiftUp (i + 1) (len - (i + 1)) (buff.store i e)).store (i + 1) v (len + 1 - 1) =
      buff (len - 1) ∧
    ∀ k, len + 1 ≤ k →
      (shiftUp (i + 1) (len - (i + 1)) (buff.store i e)).store (i + 1) v k = buff k := by
  rw [shiftUp_eq_copy]
  refine ⟨?_, ?_, ?_, ?_⟩
  · rw [load_store_snoc, load_copy_outside _ (by omega), load_store_snoc, List.append_assoc]
    rfl
  · rw [load_store_outside _ _ (by omega), load_copy_inside _ (by omega) (by omega),
      load_store_outside _ _ (by omega)]
    congr 1 <;> omega
  · rw [store_ne _ _ (by omega), copy_inside _ (by omega) (by omega), store_ne _ _ (by omega)]
    congr 1
    omega
  · intro k hk
    rw [store_ne _ _ (by omega), copy_outside _ (by omega), store_ne _ _ (by omega)]

lemma encodeLoop_plain (fuel i len : Nat) (buff : Buffer UInt8) (hi : i + 1 < len)
    (hs : ¬isEscape (buff i)) :
    encodeLoop (fuel + 1) i len buff = encodeLoop fuel (i + 1) len buff := by
  rw [encodeLoop, if_pos hi, if_neg hs]

lemma encodeLoop_spec (fuel i len : Nat) (buff : Buffer UInt8) (hi : i + 1 ≤ len)
    (hf : 2 * (len - 1 - i) + 1 ≤ fuel) :
    ∃ n b, encodeLoop fuel i len buff = some (n, b) ∧
      b.load 0 n = buff.load 0 i ++ diagStuffing.stuff (buff.load i (len - 1 - i)) ++
        [buff (len - 1)] ∧
      len ≤ n ∧ ∀ k, n ≤ k → b k = buff k := by
  obtain ⟨d, rfl⟩ : ∃ d, len = i + 1 + d := Nat.exists_eq_add_of_le hi
  induction d generalizing fuel i buff with
  | zero =>
    obtain ⟨fuel, rfl⟩ : ∃ f, fuel = f + 1 := ⟨fuel - 1, by omega⟩
    rw [encodeLoop, if_neg (by omega)]
    refine ⟨i + 1 + 0, buff, rfl, ?_, le_refl _, fun _ _ => rfl⟩
    simp [load_snoc]
  | succ d ih =>
    have hsplit : buff.load i (i + 1 + (d + 1) - 1 - i) =
        buff i :: buff.load (i + 1) (i + 1 + (d + 1) - 1 - (i + 1)) := by
      rw [show i + 1 + (d + 1) - 1 - i = (i + 1 + (d + 1) - 1 - (i + 1)) + 1 by omega, load_succ]
    by_cases hs : isEscape (buff i)
    · obtain ⟨fuel, rfl⟩ : ∃ f, fuel = f + 2 := ⟨fuel - 2, by omega⟩
      obtain ⟨hpre, hrest, hlast, hout⟩ :=
        load_escaped buff i (i + 1 + (d + 1)) 0x7d (buff i ^^^ 0x20) (by omega)
      have hmask : ¬isEscape (buff i ^^^ 0x20) := diagStuffing.mask_not_special _ hs
      rw [encodeLoop, if_pos (by omega), if_pos hs]
      rw [encodeLoop_plain _ _ _ _ (by omega) (by rw [store_same]; exact hmask)]
      obtain ⟨n, b, he, hl, hn, hk⟩ := ih fuel (i + 2)
        ((shiftUp (i + 1) (i + 1 + (d + 1) - (i + 1)) (buff.store i 0x7d)).store (i + 1)
          (buff i ^^^ 0x20)) (by omega) (by omega)
      rw [show i + 2 + 1 + d = i + 1 + (d + 1) + 1 by omega] at he hl hn
      refine ⟨n, b, he, ?_, by omega, ?_⟩
      · rw [hl, hpre, hrest, hlast, hsplit, diagStuffing.stuff_special hs]
        simp only [List.append_assoc, List.cons_append, List.nil_append, diagStuffing]
      · intro k hnk
        rw [hk k hnk, hout k (by omega)]
    · obtain ⟨fuel, rfl⟩ : ∃ f, fuel = f + 1 := ⟨fuel - 1, by omega⟩
      rw [encodeLoop_plain _ _ _ _ (by omega) hs]
      obtain ⟨n, b, he, hl, hn, hk⟩ := ih fuel (i + 1) buff (by omega) (by omega)
      rw [show i + 1 + 1 + d = i + 1 + (d + 1) by omega] at he hl hn
      refine ⟨n, b, he, ?_, hn, hk⟩
      rw [hl, hsplit, diagStuffing.stuff_plain hs, load_snoc]
      simp

/-- `encode` outside the AT mode on a frame of two bytes or more. -/
lemma encode_spec (o : CProtolDiag) (ho : ¬o.atReply) (buff : Buffer UInt8) (len : Nat)
    (h : 2 ≤ len) :
    ∃ n : Nat, (o.encode buff len).2 = n ∧
      (o.encode buff len).1.load 0 n =
        buff 0 :: diagStuffing.stuff (buff.load 1 (len - 2)) ++ [buff (len - 1)] ∧
      ∀ k, n ≤ k → (o.encode buff len).1 k = buff k := by
  obtain ⟨n, b, he, hl, hn, hk⟩ := encodeLoop_spec (2 * len + 1) 1 len buff (by omega) (by omega)
  unfold CProtolDiag.encode
  rw [if_neg ho]
  simp only [Int.toNat_natCast, he, Option.getD_some]
  refine ⟨n, by omega, ?_, hk⟩
  rw [hl, show len - 1 - 1 = len - 2 by omega]
  rfl

lemma translateLoop_escape (src dest : Buffer UInt8) (n i t : Nat) (h : isEscape (src i)) :
    translateLoop src (n + 1) i dest t =
      translateLoop src n (i + 1) ((dest.store t 0x7d).store (t + 1) (src i ^^^ 0x20)) (t + 2) := by
  rw [translateLoop]
  rcases h with h | h <;> rw [h] <;> rfl

lemma translateLoop_plain (src dest : Buffer UInt8) (n i t : Nat) (h : ¬isEscape (src i)) :
    translateLoop src (n + 1) i dest t =
      translateLoop src n (i + 1) (dest.store t (src i)) (t + 1) := by
  rw [translateLoop, if_neg (fun he => h (.inr he)), if_neg (fun he => h (.inl he))]

lemma translateLoop_spec (src dest : Buffer UInt8) (n i t : Nat) :
    (translateLoop src n i dest t).1.load 0 (translateLoop src n i dest t).2 =
      dest.load 0 t ++ diagStuffing.stuff (src.load i n) ∧
    t ≤ (translateLoop src n i dest t).2 ∧
    ∀ k, (translateLoop src n i dest t).2 ≤ k → (translateLoop src n i dest t).1 k = dest k := by
  induction n generalizing i dest t with
  | zero => exact ⟨by simp [translateLoop], le_refl _, fun _ _ => rfl⟩
  | succ n ih =>
    rw [load_succ]
    by_cases hs : isEscape (src i)
    · rw [translateLoop_escape _ _ _ _ _ hs, diagStuffing.stuff_special hs]
      obtain ⟨hl, ht, hk⟩ :=
        ih ((dest.store t 0x7d).store (t + 1) (src i ^^^ 0x20)) (i + 1) (t + 2)
      refine ⟨?_, by omega, ?_⟩
      · rw [hl, load_store_snoc, load_store_snoc]
        simp only [List.append_assoc, List.cons_append, List.nil_append, diagStuffing]
      · intro k hlen
        rw [hk k hlen, store_ne _ _ (by omega), store_ne _ _ (by omega)]
    · rw [translateLoop_plain _ _ _ _ _ hs, diagStuffing.stuff_plain hs]
      obtain ⟨hl, ht, hk⟩ := ih (dest.store t (src i)) (i + 1) (t + 1)
      refine ⟨?_, by omega, ?_⟩
      · rw [hl, load_store_snoc]
        simp only [List.append_assoc, List.cons_append, List.nil_append]
      · intro k hlen
        rw [hk k hlen, store_ne _ _ (by omega)]

lemma translate_spec (dest src : Buffer UInt8) (size : Nat) :
    (translate dest src size).1.load 0 (translate dest src size).2 =
      flagged (diagStuffing.stuff (src.load 0 size)) ∧
    ∀ k, (translate dest src size).2 ≤ k → (translate dest src size).1 k = dest k := by
  obtain ⟨hl, ht, hk⟩ := translateLoop_spec src (dest.store 0 0x7e) size 0 1
  unfold translate
  dsimp only
  refine ⟨?_, ?_⟩
  · rw [load_store_snoc, hl]
    simp [flagged, load_succ]
  · intro k hlen
    rw [store_ne _ _ (by omega), hk k (by omega), store_ne _ _ (by omega)]

/-- The inner bytes of a frame whose escapes are complete, read byte by byte. -/
lemma wellStuffed_of_escapes {e : List UInt8} (hflag : 0x7e ∉ e)
    (hesc : ∀ i : Nat, e[i]? = some 0x7d → e[i + 1]? = some 0x5d ∨ e[i + 1]? = some 0x5e) :
    diagStuffing.WellStuffed e := by
  induction h : e.length using Nat.strong_induction_on generalizing e with
  | _ n ih =>
    subst h
    cases e with
    | nil => exact .nil
    | cons a e =>
      have htail : ∀ i : Nat, e[i]? = some 0x7d → e[i + 1]? = some 0x5d ∨ e[i + 1]? = some 0x5e :=
        fun i hi => by simpa using hesc (i + 1) (by simpa using hi)
      by_cases ha : a = 0x7d
      · subst ha
        have h0 := hesc 0 (by simp)
        cases e with
        | nil => simp at h0
        | cons b e =>
          have hrest : diagStuffing.WellStuffed e := by
            refine ih e.length (by rw [List.length_cons, List.length_cons]; omega) ?_ ?_ rfl
            · exact fun hm => hflag (by simp [hm])
            · exact fun i hi => by simpa using htail (i + 1) (by simpa using hi)
          simp only [zero_add, List.getElem?_cons_succ, List.getElem?_cons_zero,
            Option.some.injEq] at h0
          rcases h0 with rfl | rfl
          · exact Stuffing.WellStuffed.escaped (S := diagStuffing) (a := 0x7d) (.inl rfl) hrest
          · exact Stuffing.WellStuffed.escaped (S := diagStuffing) (a := 0x7e) (.inr rfl) hrest
      · have hplain : ¬diagStuffing.special a := by
          rintro (h | h)
          · exact ha h
          · exact hflag (by simp [h])
        refine .plain hplain (ih e.length (by simp) ?_ htail rfl)
        exact fun hm => hflag (by simp [hm])

/-- The flags of a flagged word without inner flags are its two ends. -/
lemma flagged_flag_iff {e : List UInt8} (he : 0x7e ∉ e) (i : Nat) :
    (flagged e)[i]? = some 0x7e ↔ i = 0 ∨ i = e.length + 1 := by
  unfold flagged
  cases i with
  | zero => simp
  | succ i =>
    simp only [List.cons_append, List.getElem?_cons_succ]
    by_cases hlt : i < e.length
    · rw [List.getElem?_append_left hlt, List.getElem?_eq_getElem hlt]
      have hne : e[i] ≠ 0x7e := fun h => he (h ▸ List.getElem_mem hlt)
      simp [hne]
      omega
    · by_cases heq : i = e.length
      · subst heq
        simp
      · rw [List.getElem?_append_right (by omega), List.getElem?_eq_none (by simp; omega)]
        simp
        omega

lemma load_flagged {b : Buffer UInt8} {e : List UInt8} (h : b.load 0 (e.length + 2) = flagged e) :
    b 0 = 0x7e ∧ b.load 1 e.length = e ∧ b (e.length + 1) = 0x7e := by
  rw [load_succ, Nat.zero_add, load_snoc] at h
  have hcons : b 0 = 0x7e ∧ b.load 1 e.length ++ [b (1 + e.length)] = e ++ [0x7e] := by
    simpa [flagged] using h
  obtain ⟨hhead, htail⟩ := hcons
  obtain ⟨hinner, hlast⟩ := List.append_inj htail (by simp)
  refine ⟨hhead, hinner, ?_⟩
  rw [Nat.add_comm]
  simpa using hlast

lemma decode_flagged (o : CProtolDiag) {buff : Buffer UInt8} {e : List UInt8}
    (h : buff.load 0 (e.length + 2) = flagged e) :
    (o.decode buff (e.length + 2)).len = (diagStuffing.unstuff e).length + 2 ∧
    (o.decode buff (e.length + 2)).buff.load 0 (o.decode buff (e.length + 2)).len =
      flagged (diagStuffing.unstuff e) := by
  obtain ⟨hhead, hinner, hlast⟩ := load_flagged h
  obtain ⟨hl, -⟩ := decode_spec o buff (e.length + 2) (by omega)
  have hframe : (o.decode buff (e.length + 2)).buff.load 0 (o.decode buff (e.length + 2)).len =
      flagged (diagStuffing.unstuff e) := by
    rw [hl, show e.length + 2 - 2 = e.length by omega,
      show e.length + 2 - 1 = e.length + 1 by omega, hhead, hinner, hlast]
    rfl
  exact ⟨by simpa using congrArg List.length hframe, hframe⟩

lemma encode_flagged (o : CProtolDiag) (ho : ¬o.atReply) {buff : Buffer UInt8} {e : List UInt8}
    (h : buff.load 0 (e.length + 2) = flagged e) :
    (o.encode buff (e.length + 2 : Nat)).2 = ((diagStuffing.stuff e).length + 2 : Nat) ∧
    (o.encode buff (e.length + 2 : Nat)).1.load 0 ((diagStuffing.stuff e).length + 2) =
      flagged (diagStuffing.stuff e) := by
  obtain ⟨hhead, hinner, hlast⟩ := load_flagged h
  obtain ⟨n, hn, hl, -⟩ := encode_spec o ho buff (e.length + 2) (by omega)
  rw [show e.length + 2 - 2 = e.length by omega,
    show e.length + 2 - 1 = e.length + 1 by omega, hhead, hinner, hlast] at hl
  have hlen : n = (diagStuffing.stuff e).length + 2 := by simpa using congrArg List.length hl
  subst hlen
  exact ⟨hn, hl⟩

/-- The three encoders give one frame, whose only flags are its ends and from which `decode`
gives the payload back; and `encode` gives back every well-escaped frame that was decoded. -/
theorem diag_escaping_round_trip :
    (∀ (p : List UInt8) (src dest dest' buff buff' : Buffer UInt8) (o o' : CProtolDiag),
      ¬o.atReply → src.load 0 p.length = p → buff.load 0 (p.length + 2) = flagged p →
      let t := CProtolDiag.translatePacket dest src p.length
      let c := CpCtl.translatePacket dest' src p.length
      let e := o.encode buff (p.length + 2 : Nat)
      let frame := t.1.load 0 t.2
      c.1.load 0 c.2 = frame ∧ e.2 = frame.length ∧ e.1.load 0 frame.length = frame ∧
      (∀ i : Nat, frame[i]? = some 0x7e ↔ i = 0 ∨ i + 1 = frame.length) ∧
      (buff'.load 0 frame.length = frame →
        (o'.decode buff' frame.length).len = p.length + 2 ∧
        (o'.decode buff' frame.length).buff.load 0 (p.length + 2) = flagged p)) ∧
    (∀ (e : List UInt8) (buff : Buffer UInt8) (o o' : CProtolDiag), ¬o.atReply →
      buff.load 0 (e.length + 2) = flagged e → 0x7e ∉ e →
      (∀ i : Nat, e[i]? = some 0x7d → e[i + 1]? = some 0x5d ∨ e[i + 1]? = some 0x5e) →
      let d := o'.decode buff (e.length + 2)
      (o.encode d.buff d.len).2 = (e.length + 2 : Nat) ∧
      (o.encode d.buff d.len).1.load 0 (e.length + 2) = flagged e) := by
  constructor
  · intro p src dest dest' buff buff' o o' ho hsrc hbuff t c e frame
    have hframe : frame = flagged (diagStuffing.stuff p) := by
      have h := (translate_spec dest src p.length).1
      rw [hsrc] at h
      exact h
    have hc : c.1.load 0 c.2 = flagged (diagStuffing.stuff p) := by
      have h := (translate_spec dest' src p.length).1
      rw [hsrc] at h
      exact h
    obtain ⟨hlen, hload⟩ := encode_flagged o ho hbuff
    have hflen : frame.length = (diagStuffing.stuff p).length + 2 := by
      rw [hframe, length_flagged]
    refine ⟨hc.trans hframe.symm, ?_, ?_, ?_, ?_⟩
    · rw [hflen]
      exact hlen
    · rw [hflen, hframe]
      exact hload
    · intro i
      have hno : 0x7e ∉ diagStuffing.stuff p :=
        diagStuffing.not_mem_stuff (f := 0x7e) (.inr rfl) (by decide) p
      rw [hflen, hframe, flagged_flag_iff hno]
      omega
    · intro hbuff'
      rw [hframe, length_flagged] at hbuff'
      obtain ⟨hdlen, hdload⟩ := decode_flagged o' hbuff'
      rw [diagStuffing.unstuff_stuff] at hdlen hdload
      rw [hdlen] at hdload
      rw [hflen]
      exact ⟨hdlen, hdload⟩
  · intro e buff o o' ho hbuff hflag hesc d
    have hwell := wellStuffed_of_escapes hflag hesc
    obtain ⟨hdlen, hdload⟩ := decode_flagged o' hbuff
    have hd : d.buff.load 0 ((diagStuffing.unstuff e).length + 2) =
        flagged (diagStuffing.unstuff e) := by
      rw [← hdlen]
      exact hdload
    obtain ⟨hlen, hload⟩ := encode_flagged o ho hd
    rw [diagStuffing.stuff_unstuff hwell] at hlen hload
    rw [show d.len = (diagStuffing.unstuff e).length + 2 from hdlen]
    exact ⟨hlen, hload⟩

/-- A payload made of escapes only, through both directions. -/
theorem diag_escaping_round_trip_escapes :
    let m : Buffer UInt8 := fun _ => 0
    let o := CProtolDiag.init .diag 1
    (o.encode (m.fill 0 (flagged [0x7d, 0x7e])) 4).2 = 6 ∧
    (o.encode (o.decode (m.fill 0 (flagged [0x7d, 0x5e])) 4).buff
      (o.decode (m.fill 0 (flagged [0x7d, 0x5e])) 4).len).1.load 0 4 = flagged [0x7d, 0x5e] := by
  intro m o
  have ho : ¬o.atReply := by decide
  have hforth := diag_escaping_round_trip.1 [0x7d, 0x7e] (m.fill 0 [0x7d, 0x7e]) m m
    (m.fill 0 (flagged [0x7d, 0x7e])) m o o ho (by decide) (by decide)
  have hback := diag_escaping_round_trip.2 [0x7d, 0x5e] (m.fill 0 (flagged [0x7d, 0x5e])) o o ho
    (by decide) (by decide) (by
      intro i hi
      rcases i with _ | _ | i
      · exact .inr rfl
      · simp at hi
      · simp at hi)
  have hlen : (o.encode (m.fill 0 (flagged [0x7d, 0x7e])) 4).2 =
      ((flagged (diagStuffing.stuff [0x7d, 0x7e])).length : Int) := hforth.2.1
  refine ⟨?_, hback.2⟩
  rw [hlen]
  decide

end EngPc
