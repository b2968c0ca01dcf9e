import EngPc.Lib.ReflectedCrc
import EngPc.Model.BtWifiMac
import EngPc.Proofs.RequestLength

/-!
# What the CRC of a request detects

The loop over the table is the CRC with the polynomial 0x8005, reflected. The data of a request and
the received CRC behind it make the register end at 0, whatever the length; a burst of at most 16
inverted bits does not.
-/

namespace EngPc
open Buffer LittleEndian ReflectedCrc

def crc16Bit (crc : UInt16) : UInt16 := if crc &&& 1 = 1 then (crc >>> 1) ^^^ 0xa001 else crc >>> 1

/-- The CRC without a table: each byte goes into the low half, and is shifted out. -/
def crc16Bitwise (crc : UInt16) (buffer : List UInt8) : UInt16 :=
  buffer.foldl (fun crc b => crc16Bit^[8] (crc ^^^ b.toUInt16)) crc

lemma and_one_eq_one_iff (c : UInt16) : c &&& 1 = 1 ↔ c.toBitVec.getLsbD 0 = true := by
  rw [← UInt16.toBitVec_inj]
  have hand : (c &&& 1).toBitVec = BitVec.setWidth 16 (BitVec.ofBool (c.toBitVec.getLsbD 0)) := by
    rw [UInt16.toBitVec_and]
    exact BitVec.and_one_eq_setWidth_ofBool_getLsbD
  rw [hand]
  cases c.toBitVec.getLsbD 0
  · decide
  · decide

lemma toBitVec_crc16Bit (c : UInt16) :
    (crc16Bit c).toBitVec = ReflectedCrc.shift 0xa001#16 c.toBitVec := by
  unfold crc16Bit ReflectedCrc.shift
  by_cases hlow : c &&& 1 = 1
  · rw [if_pos hlow, if_pos ((and_one_eq_one_iff c).mp hlow)]
    rfl
  · rw [if_neg hlow, if_neg (mt (and_one_eq_one_iff c).mpr hlow)]
    rfl

lemma toBitVec_iterate_crc16Bit (n : Nat) (c : UInt16) :
    (crc16Bit^[n] c).toBitVec = (ReflectedCrc.shift 0xa001#16)^[n] c.toBitVec := by
  induction n generalizing c with
  | zero => rfl
  | succ n ih => rw [Function.iterate_succ_apply, ih, toBitVec_crc16Bit, Function.iterate_succ_apply]

lemma crc16Table_eq_map :
    crc16Table = (List.range 256).map fun i => crc16Bit^[8] (UInt16.ofNat i) := by
  decide +kernel

lemma crc16Table_eq (i : Fin 256) :
    crc16Table.getD i 0 = crc16Bit^[8] (UInt16.ofNat i) := by
  rw [crc16Table_eq_map, List.getD_eq_getElem?_getD, List.getElem?_map, List.getElem?_range i.isLt]
  rfl

lemma toNat_lowByte (x : UInt16) : (x &&& 0xff).toNat = x.toNat % 256 := by
  rw [UInt16.toNat_and]
  exact Nat.and_two_pow_sub_one_eq_mod _ 8

lemma crc16Step_eq (crc : UInt16) (b : UInt8) :
    crc16Step crc b = crc16Bit^[8] (crc ^^^ b.toUInt16) := by
  have hentry := crc16Table_eq ⟨((crc ^^^ b.toUInt16) &&& 0xff).toNat, by
    rw [toNat_lowByte]
    omega⟩
  rw [UInt16.ofNat_toNat] at hentry
  have hlow : ∀ i < 8, ((crc ^^^ b.toUInt16) &&& 0xff).toBitVec.getLsbD i =
      (crc ^^^ b.toUInt16).toBitVec.getLsbD i := by
    intro i hi
    rw [← BitVec.testBit_toNat, ← BitVec.testBit_toNat, UInt16.toNat_toBitVec, toNat_lowByte,
      UInt16.toNat_toBitVec, show 256 = 2 ^ 8 by rfl, Nat.testBit_mod_two_pow]
    simp [hi]
  have hnone : ((crc ^^^ b.toUInt16) &&& 0xff).toBitVec >>> 8 = 0#16 := by
    apply BitVec.eq_of_toNat_eq
    rw [BitVec.toNat_ushiftRight, UInt16.toNat_toBitVec, toNat_lowByte, Nat.shiftRight_eq_div_pow]
    exact Nat.div_eq_of_lt (Nat.mod_lt _ (by decide))
  have hhigh : (crc ^^^ b.toUInt16).toBitVec >>> 8 = crc.toBitVec >>> 8 := by
    have hb : b.toUInt16.toBitVec >>> 8 = 0#16 := by
      apply BitVec.eq_of_toNat_eq
      rw [BitVec.toNat_ushiftRight, Nat.shiftRight_eq_div_pow]
      exact Nat.div_eq_of_lt b.toNat_lt
    rw [UInt16.toBitVec_xor, BitVec.ushiftRight_xor_distrib, hb, BitVec.xor_zero]
  apply UInt16.toBitVec_inj.mp
  rw [crc16Step, hentry, UInt16.toBitVec_xor, toBitVec_iterate_crc16Bit, toBitVec_iterate_crc16Bit,
    iterate_shift_table 0xa001#16 hlow hnone, hhigh]
  rfl

lemma crc16_eq_crc16Bitwise (crc : UInt16) (buffer : List UInt8) :
    crc16 crc buffer = crc16Bitwise crc buffer := by
  rw [crc16, crc16Bitwise]
  congr
  funext crc b
  exact crc16Step_eq crc b

/-- Bit `i` of the memory, the least significant bit of each byte first. -/
def frameBit (buf : Buffer UInt8) (i : Nat) : Bool := (buf (i / 8)).toBitVec.getLsbD (i % 8)

def byteBits (b : UInt8) : List Bool := (List.range 8).map b.toBitVec.getLsbD

lemma ofBits_byteBits (b : UInt8) : (ofBits (byteBits b) : BitVec 16) = b.toBitVec.setWidth 16 := by
  have hall : ∀ v : BitVec 8, (ofBits ((List.range 8).map v.getLsbD) : BitVec 16) =
      v.setWidth 16 := by decide +kernel
  exact hall b.toBitVec

lemma length_byteBits (b : UInt8) : (byteBits b).length = 8 := by
  simp [byteBits]

lemma map_frameBit (buf : Buffer UInt8) (off n : Nat) :
    (List.range' (8 * off) (8 * n)).map (frameBit buf) = (buf.load off n).flatMap byteBits := by
  induction n generalizing off with
  | zero => rfl
  | succ n ih =>
    have hbyte : (List.range' (8 * off) 8).map (frameBit buf) = byteBits (buf off) := by
      rw [byteBits, List.range_eq_range', List.range'_eq_map_range, List.range'_eq_map_range,
        List.map_map, List.map_map]
      apply List.map_congr_left
      intro i hi
      have hlt := List.mem_range.mp hi
      have hdiv : (8 * off + i) / 8 = off := by omega
      have hmod : (8 * off + i) % 8 = i := by omega
      simp [frameBit, hdiv, hmod]
    rw [show 8 * (n + 1) = 8 + 8 * n by omega, ← List.range'_append_1, List.map_append, hbyte,
      show 8 * off + 8 = 8 * (off + 1) by omega, ih, load_succ, List.flatMap_cons]

lemma toBitVec_crc16 (crc : UInt16) (buffer : List UInt8) :
    (crc16 crc buffer).toBitVec = feed 0xa001#16 crc.toBitVec (buffer.flatMap byteBits) := by
  induction buffer generalizing crc with
  | nil => rfl
  | cons b l ih =>
    have hbyte : (crc16Step crc b).toBitVec = feed 0xa001#16 crc.toBitVec (byteBits b) := by
      rw [crc16Step_eq, toBitVec_iterate_crc16Bit, feed_eq_iterate _ _ (by simp [length_byteBits]),
        ofBits_byteBits, length_byteBits]
      rfl
    rw [List.flatMap_cons, feed_append, ← hbyte, ← ih]
    rfl

lemma ofBits_two_bytes (a b : UInt8) :
    (ofBits (byteBits a ++ byteBits b) : BitVec 16) = b.toBitVec ++ a.toBitVec := by
  rw [ofBits_append, ofBits_byteBits, ofBits_byteBits, length_byteBits]
  apply BitVec.eq_of_getLsbD_eq
  intro i hi
  rw [BitVec.getLsbD_xor, BitVec.getLsbD_shiftLeft, BitVec.getLsbD_setWidth,
    BitVec.getLsbD_setWidth, BitVec.getLsbD_append]
  by_cases hlow : i < 8
  · simp [hlow, hi]
  · have hlt : i - 8 < 16 := by omega
    simp [hlow, hi, hlt, BitVec.getLsbD_of_ge a.toBitVec i (by omega)]

lemma toNat_ofBits_two_bytes (a b : UInt8) :
    (ofBits (byteBits a ++ byteBits b) : BitVec 16).toNat = natLE [a, b] := by
  rw [ofBits_two_bytes, BitVec.toNat_append, ← Nat.shiftLeft_add_eq_or_of_lt a.toBitVec.isLt,
    Nat.shiftLeft_eq]
  simp [natLE]
  omega

lemma crcMatches_iff {buf : Buffer UInt8} (hlen : msgHeadLen + 2 ≤ msgLen buf) :
    CrcMatches buf ↔ feed 0xa001#16 0#16 ((List.range' (8 * (1 + msgHeadLen))
      (8 * (msgLen buf - msgHeadLen))).map (frameBit buf)) = 0#16 := by
  obtain ⟨n, hn⟩ : ∃ n, msgLen buf = msgHeadLen + 2 + n := ⟨_, (Nat.add_sub_of_le hlen).symm⟩
  have hcrc : msgHeadLen + 2 + n - 1 = 1 + msgHeadLen + n := by omega
  have hdata : msgHeadLen + 2 + n - (msgHeadLen + 2) = n := by omega
  have hall : msgHeadLen + 2 + n - msgHeadLen = n + 2 := by omega
  have hrecv : buf.load (1 + msgHeadLen + n) 2 =
      [buf (1 + msgHeadLen + n), buf (1 + msgHeadLen + n + 1)] := rfl
  rw [CrcMatches, hn, hcrc, hdata, hall, map_frameBit, load_add, List.flatMap_append, feed_append,
    hrecv, ← toNat_ofBits_two_bytes, eq_comm, ← UInt16.toNat_toBitVec, BitVec.toNat_inj,
    toBitVec_crc16]
  simp only [List.flatMap_cons, List.flatMap_nil, List.append_nil]
  rw [feed_eq_zero_iff (by decide) (by simp [length_byteBits])]
  rfl

/-- `buf'` is the frame with some bits inverted, all of them within 16 consecutive ones of the data
and the CRC behind it. -/
structure Burst (buf buf' : Block UInt8) : Prop where
  size_eq : buf'.size = buf.size
  window : ∃ s, ∀ i, frameBit buf'.cells i ≠ frameBit buf.cells i → s ≤ i ∧ i < s + 16
  inside : ∀ i, frameBit buf'.cells i ≠ frameBit buf.cells i →
    8 * (1 + msgHeadLen) ≤ i ∧ i < 8 * (1 + msgLen buf.cells)
  inverted : ∃ i, frameBit buf'.cells i ≠ frameBit buf.cells i

lemma byte_ext {buf buf' : Buffer UInt8} {j : Nat}
    (h : ∀ i < 8, frameBit buf (8 * j + i) = frameBit buf' (8 * j + i)) : buf j = buf' j := by
  apply UInt8.toBitVec_inj.mp
  apply BitVec.eq_of_getLsbD_eq
  intro i hi
  have hbit := h i hi
  have hdiv : (8 * j + i) / 8 = j := by omega
  have hmod : (8 * j + i) % 8 = i := by omega
  rwa [frameBit, frameBit, hdiv, hmod] at hbit

lemma Burst.header_eq {buf buf' : Block UInt8} (h : Burst buf buf') {j : Nat}
    (hj : j < 1 + msgHeadLen) : buf'.cells j = buf.cells j := by
  apply byte_ext
  intro i hi
  by_contra hne
  have hin := (h.inside _ hne).1
  omega

lemma Burst.msgLen_eq {buf buf' : Block UInt8} (h : Burst buf buf') :
    msgLen buf'.cells = msgLen buf.cells := by
  have hhead : msgHeadLen = 8 := rfl
  rw [msgLen, msgLen, load_congr fun i hi => h.header_eq (by omega)]

/-- A frame with a burst fails the check that the frame itself passes. -/
lemma Burst.not_crcMatches {buf buf' : Block UInt8} (h : Burst buf buf')
    (hlen : msgHeadLen + 2 ≤ msgLen buf.cells) (hcrc : CrcMatches buf.cells) :
    ¬CrcMatches buf'.cells := by
  have hhead : msgHeadLen = 8 := rfl
  let e := fun i => frameBit buf'.cells i ^^ frameBit buf.cells i
  have he : ∀ i, e i = true ↔ frameBit buf'.cells i ≠ frameBit buf.cells i := by
    intro i
    exact bne_iff_ne
  obtain ⟨s, hwindow⟩ := h.window
  obtain ⟨i, hi⟩ := h.inverted
  have hin := h.inside i hi
  have htop : (0xa001#16).getLsbD 15 = true := by decide
  have herror := feed_burst_ne_zero htop (e := e)
    (fun i hi => hwindow i ((he i).mp hi)) (8 * (msgLen buf.cells - msgHeadLen))
    (8 * (1 + msgHeadLen)) ⟨i, hin.1, by omega, (he i).mpr hi⟩
  rw [crcMatches_iff hlen] at hcrc
  rw [crcMatches_iff (h.msgLen_eq ▸ hlen), h.msgLen_eq]
  intro hcrc'
  have hsum := feed_xor 0xa001#16 (frameBit buf'.cells) (frameBit buf.cells) (List.range'
    (8 * (1 + msgHeadLen)) (8 * (msgLen buf.cells - msgHeadLen))) 0#16 0#16
  rw [hcrc, hcrc', BitVec.xor_zero] at hsum
  exact herror hsum

/-- The request is rejected by both handlers. -/
structure CrcRejected (q : PhsFrame) : Prop where
  check : crcCheck q.buf = .ok false
  btwifi : btwifiCheckValid q.buf = .ok 0
  phschk : ∃ buf, directPhschk q.toPhsCall = .ok ⟨buf, q.rsp, 0, none⟩

/-- The table computes the CRC with the polynomial 0xa001, and a burst in a request that is accepted
is always found. -/
theorem crc16_detects_bursts :
    (∀ crc buffer, crc16 crc buffer = crc16Bitwise crc buffer) ∧
      ∀ q q' : PhsFrame, crcCheck q.buf = .ok true → Burst q.buf q'.buf → CrcRejected q' := by
  refine ⟨crc16_eq_crc16Bitwise, ?_⟩
  intro q q' hok hburst
  have hin : LenInside q.buf := by
    by_contra hout
    obtain ⟨e, he⟩ := crcCheck_outside q.len_int hout
    rw [he] at hok
    cases hok
  have hin' : LenInside q'.buf := by
    rw [LenInside, hburst.msgLen_eq, hburst.size_eq]
    exact hin
  rw [crcCheck_inside hin] at hok
  have hcrc : CrcMatches q.buf.cells := of_decide_eq_true (Except.ok.inj hok)
  have hcrc' := hburst.not_crcMatches hin.1 hcrc
  have hcheck : crcCheck q'.buf = .ok false := by
    rw [crcCheck_inside hin', decide_eq_false hcrc']
  refine ⟨hcheck, ?_, directPhschk_crc_error hin' hcrc'⟩
  rw [btwifiCheckValid, hcheck]
  rfl

lemma onesRsp_size : (⟨fun _ => 1, maxChnlBuff⟩ : Block UInt8).size = maxChnlBuff := rfl

lemma nothing_le_onesRsp :
    ([] : List UInt8).length ≤ (⟨fun _ => 1, maxChnlBuff⟩ : Block UInt8).size := Nat.zero_le _

/-- The frame with these bytes. -/
def phsFrameOf (bytes : List UInt8) (h : bytes.length < 2 ^ 31) : PhsFrame where
  buf := .ofList 0 bytes
  rsp := ⟨fun _ => 1, maxChnlBuff⟩
  rsplen := onesRsp_size
  heap := fun _ => 0
  readRet := 0
  readBytes := []
  read_le := nothing_le_onesRsp
  writeRet := 0
  len_int := h

def phsOneByte : PhsFrame :=
  phsFrameOf [0x7e, 0, 0, 0, 0, 11, 0, 0x5f, 0x80, 0x01, 0xc1, 0xc0, 0x7e] (by decide)

/-- Three bits are inverted, the last of the data and the first two of the CRC. -/
def phsOneByteBurst : PhsFrame :=
  phsFrameOf [0x7e, 0, 0, 0, 0, 11, 0, 0x5f, 0x80, 0x81, 0xc2, 0xc0, 0x7e] (by decide)

theorem crc16_detects_bursts_one_byte : CrcRejected phsOneByteBurst := by
  have hbits : ∀ i < 104, frameBit phsOneByteBurst.buf.cells i ≠ frameBit phsOneByte.buf.cells i →
      79 ≤ i ∧ i < 82 := by decide +kernel
  have hrest : ∀ i, 104 ≤ i →
      frameBit phsOneByteBurst.buf.cells i = frameBit phsOneByte.buf.cells i := by
    intro i hi
    have hout : ∀ l : List UInt8, l.length = 13 → Buffer.fill (fun _ => 0) 0 l (i / 8) = 0 :=
      fun l hl => fill_outside _ (.inr (by omega))
    simp only [frameBit, phsOneByteBurst, phsOneByte, phsFrameOf, Block.ofList]
    rw [hout _ rfl, hout _ rfl]
  have hall : ∀ i, frameBit phsOneByteBurst.buf.cells i ≠ frameBit phsOneByte.buf.cells i →
      79 ≤ i ∧ i < 82 := by
    intro i hne
    by_cases hi : i < 104
    · exact hbits i hi hne
    · exact absurd (hrest i (not_lt.mp hi)) hne
  have hlen : msgLen phsOneByte.buf.cells = 11 := by decide +kernel
  have hhead : msgHeadLen = 8 := rfl
  have hok : crcCheck phsOneByte.buf = .ok true := by
    rw [crcCheck_inside (by decide +kernel)]
    exact congrArg Except.ok (by decide +kernel)
  apply crc16_detects_bursts.2 phsOneByte phsOneByteBurst hok
  constructor
  · rfl
  · exact ⟨79, fun i hne => ⟨(hall i hne).1, by have := (hall i hne).2; omega⟩⟩
  · intro i hne
    have hin := hall i hne
    rw [hlen]
    omega
  · exact ⟨79, by decide +kernel⟩

end EngPc
