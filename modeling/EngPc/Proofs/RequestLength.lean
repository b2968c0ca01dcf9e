import EngPc.Proofs.PhaseCheck

/-!
# The length field of a request

Both handlers take the CRC from the place that the length field gives, and its data up to there.
Nothing compares the field with the length of the frame.
-/

namespace EngPc
open Buffer LittleEndian

/-- A frame that is given to `direct_phschk` with its length, an `int`. The block is the frame. -/
structure PhsFrame extends PhsCall where
  len_int : buf.size < 2 ^ 31

/-- A length field without room for header and CRC, or of another length. -/
def BadLen (buf : Block UInt8) : Prop :=
  msgLen buf.cells < msgHeadLen + 2 ∨ msgLen buf.cells + 2 ≠ buf.size

instance (buf : Block UInt8) : Decidable (BadLen buf) := inferInstanceAs (Decidable (_ ∨ _))

/-- `btwifi_checkCRC` stays in the frame and fails where the length field is bad. -/
def BtLengthChecked (buf : Block UInt8) : Prop :=
  ∃ ok, crcCheck buf = .ok ok ∧ (BadLen buf → ok = false)

/-- `direct_phschk` stays in the frame; where the length field is bad it stores and sends nothing. -/
def PhsLengthChecked (c : PhsCall) : Prop :=
  ∃ out, directPhschk c = .ok out ∧ (BadLen c.buf → out.stored = none ∧ out.rspLen = 0)

/-- The field leaves room for header and CRC and stays in the frame, and it is right or the CRC does
not match there. -/
structure BtLengthFine (buf : Block UInt8) : Prop where
  inside : LenInside buf
  field : msgLen buf.cells + 2 = buf.size ∨ ¬CrcMatches buf.cells

/-- As before; and an error of a write, which goes into the frame, has room there. -/
structure PhsLengthFine (c : PhsCall) : Prop extends BtLengthFine c.buf where
  room : CrcMatches c.buf.cells → c.IsWrite → ¬(c.HasCommand ∧ c.writeRet = 0) →
    1 + (msgHeadLen + 2 * 2) ≤ c.buf.size

lemma btLengthChecked_iff {buf : Block UInt8} (hint : buf.size < 2 ^ 31) :
    BtLengthChecked buf ↔ BtLengthFine buf := by
  constructor
  · rintro ⟨ok, hok, hbad⟩
    have hin : LenInside buf := by
      by_contra hout
      obtain ⟨e, he⟩ := crcCheck_outside hint hout
      rw [he] at hok
      cases hok
    rw [crcCheck_inside hin] at hok
    cases hok
    refine ⟨hin, ?_⟩
    by_cases hlen : msgLen buf.cells + 2 = buf.size
    · exact .inl hlen
    · exact .inr (of_decide_eq_false (hbad (.inr hlen)))
  · rintro ⟨hin, hfield⟩
    refine ⟨_, crcCheck_inside hin, ?_⟩
    rintro (hshort | hlen)
    · exact absurd hin.1 (not_le.mpr hshort)
    · exact decide_eq_false (hfield.resolve_left hlen)

section Phs

variable {c : PhsCall}

lemma rspLen_ne_zero {out : PhsOut} {body : List UInt8} (h : out.reply = 0x7e :: body ++ [0x7e]) :
    out.rspLen ≠ 0 := by
  intro hzero
  rw [PhsOut.reply, hzero, load_zero] at h
  cases h

/-- With a CRC that matches every exit has a reply, if there is room for it. -/
lemma directPhschk_replies (hin : LenInside c.buf) (hcrc : CrcMatches c.buf.cells)
    (hroom : c.IsWrite → ¬(c.HasCommand ∧ c.writeRet = 0) →
      1 + (msgHeadLen + 2 * 2) ≤ c.buf.size) :
    ∃ out, directPhschk c = .ok out ∧ out.rspLen ≠ 0 := by
  rw [directPhschk_matches hin hcrc]
  by_cases hwrite : c.IsWrite
  · rw [if_pos hwrite]
    by_cases herr : c.error = .errNone
    · obtain ⟨out, head, hok, -, -, hreply⟩ := PhsCall.write_ack hin herr
      exact ⟨out, hok, rspLen_ne_zero hreply⟩
    · obtain ⟨out, head, hok, -, -, hreply⟩ := PhsCall.write_nack hin herr
        (hroom hwrite fun h => herr (PhsCall.error_eq_none_iff.mpr h))
      exact ⟨out, hok, rspLen_ne_zero hreply⟩
  · rw [if_neg hwrite]
    by_cases hret : c.readRet ≠ 0
    · obtain ⟨out, head, hok, -, -, hreply⟩ := PhsCall.read_nack hin hret
      exact ⟨out, hok, rspLen_ne_zero hreply⟩
    · obtain ⟨out, head, data, hok, -, -, hreply⟩ := PhsCall.read_ack hin hret
      exact ⟨out, hok, rspLen_ne_zero hreply⟩

lemma phsLengthChecked_iff (hint : c.buf.size < 2 ^ 31) : PhsLengthChecked c ↔ PhsLengthFine c := by
  constructor
  · rintro ⟨out, hok, hbad⟩
    have hin : LenInside c.buf := by
      by_contra hout
      obtain ⟨e, he⟩ := directPhschk_outside hint hout
      rw [he] at hok
      cases hok
    have hroom : CrcMatches c.buf.cells → c.IsWrite → ¬(c.HasCommand ∧ c.writeRet = 0) →
        1 + (msgHeadLen + 2 * 2) ≤ c.buf.size := by
      intro hcrc hwrite herr
      by_contra hno
      obtain ⟨e, he⟩ := PhsCall.write_nack_error hin
        (fun h => herr (PhsCall.error_eq_none_iff.mp h)) hno
      rw [directPhschk_matches hin hcrc, if_pos hwrite, he] at hok
      cases hok
    refine ⟨⟨hin, ?_⟩, hroom⟩
    by_cases hlen : msgLen c.buf.cells + 2 = c.buf.size
    · exact .inl hlen
    · right
      intro hcrc
      obtain ⟨out', hok', hne⟩ := directPhschk_replies hin hcrc (hroom hcrc)
      rw [hok] at hok'
      cases hok'
      exact hne (hbad (.inr hlen)).2
  · rintro ⟨⟨hin, hfield⟩, hroom⟩
    by_cases hcrc : CrcMatches c.buf.cells
    · obtain ⟨out, hok, -⟩ := directPhschk_replies hin hcrc (hroom hcrc)
      refine ⟨out, hok, ?_⟩
      rintro (hshort | hlen)
      · exact absurd hin.1 (not_le.mpr hshort)
      · exact absurd hcrc (hfield.resolve_left hlen)
    · obtain ⟨buf, hok⟩ := directPhschk_crc_error hin hcrc
      exact ⟨_, hok, fun _ => ⟨rfl, rfl⟩⟩

end Phs

/-- The exact conditions for the two handlers to be safe from the length field. -/
theorem request_length_checked_iff (q : PhsFrame) :
    (BtLengthChecked q.buf ↔ BtLengthFine q.buf) ∧
      (PhsLengthChecked q.toPhsCall ↔ PhsLengthFine q.toPhsCall) :=
  ⟨btLengthChecked_iff q.len_int, phsLengthChecked_iff q.len_int⟩

/-- A frame of 12 bytes whose length field is 0. -/
def phsNoLength : PhsFrame where
  buf := ⟨Buffer.fill (fun _ => 0) 0 [0x7e, 0, 0, 0, 0, 0, 0, 0x5f, 0x80, 0, 0, 0x7e], 12⟩
  rsp := ⟨fun _ => 1, maxChnlBuff⟩
  rsplen := rfl
  heap := fun _ => 0
  readRet := 0
  readBytes := []
  read_le := Nat.zero_le _
  writeRet := 0
  len_int := by decide

/-- Both handlers look for its CRC in front of the frame. -/
theorem request_length_trusted :
    ¬BtLengthChecked phsNoLength.buf ∧ ¬PhsLengthChecked phsNoLength.toPhsCall := by
  have hout : ¬LenInside phsNoLength.buf := by decide
  constructor
  · rw [btLengthChecked_iff phsNoLength.len_int]
    exact fun h => hout h.inside
  · rw [phsLengthChecked_iff phsNoLength.len_int]
    exact fun h => hout h.inside

end EngPc
