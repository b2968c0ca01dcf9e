import EngPc.Model.PhaseCheck
import EngPc.Proofs.Miscdata

/-!
# Replies to phase-check requests

A request with a wrong CRC has no reply at all, and the two errors of a write are reported with a
CRC of 0. The other replies are as they should be.
-/

namespace EngPc
open Buffer LittleEndian

/-- The received CRC is the right one, by the length field. -/
def CrcMatches (buf : Buffer UInt8) : Prop :=
  natLE (buf.load (msgLen buf - 1) 2) =
    (crc16 0 (buf.load (1 + msgHeadLen) (msgLen buf - (msgHeadLen + 2)))).toNat

instance (buf : Buffer UInt8) : Decidable (CrcMatches buf) := inferInstanceAs (Decidable (_ = _))

lemma msgLen_lt (buf : Buffer UInt8) : msgLen buf < 65536 := by
  have h := natLE_lt (buf.load 5 2)
  rwa [length_load] at h

lemma crcDataLen_eq {len : Nat} (h : msgHeadLen + 2 ≤ len) (h' : len < 65536) :
    crcDataLen len = len - (msgHeadLen + 2) := by
  have hhead : msgHeadLen = 8 := rfl
  rw [crcDataLen]
  omega

lemma le_crcDataLen {len : Nat} (h : len < msgHeadLen + 2) : 2 ^ 31 ≤ crcDataLen len := by
  have hhead : msgHeadLen = 8 := rfl
  rw [crcDataLen]
  omega

/-- A length field that leaves room for header and CRC, and that the block can meet. -/
def LenInside (buf : Block UInt8) : Prop :=
  msgHeadLen + 2 ≤ msgLen buf.cells ∧ msgLen buf.cells + 1 ≤ buf.size

instance (buf : Block UInt8) : Decidable (LenInside buf) := inferInstanceAs (Decidable (_ ∧ _))

lemma crcCheck_eq {buf : Block UInt8} (h : buf.Holds 5 2) :
    crcCheck buf = ptrAt ((msgLen buf.cells : Int) - 2 + 1) 2 >>= fun p => buf.read p 2 >>=
      fun recvCrc => buf.read (1 + msgHeadLen) (crcDataLen (msgLen buf.cells)) >>= fun data =>
        .ok (decide (natLE recvCrc = (crc16 0 data).toNat)) := by
  rw [crcCheck, Block.read_eq h, Except.ok_bind]
  rfl

lemma crcCheck_inside {buf : Block UInt8} (h : LenInside buf) :
    crcCheck buf = .ok (decide (CrcMatches buf.cells)) := by
  obtain ⟨hlen, hsize⟩ := h
  have hhead : msgHeadLen = 8 := rfl
  have hptr : ((msgLen buf.cells : Int) - 2 + 1) = (msgLen buf.cells - 1 : Nat) := by omega
  have hdata := crcDataLen_eq hlen (msgLen_lt buf.cells)
  rw [crcCheck_eq (Block.holds_of_le (by omega)), hptr, ptrAt_nat, Except.ok_bind,
    Block.read_eq (Block.holds_of_le (by omega)), Except.ok_bind, hdata,
    Block.read_eq (Block.holds_of_le (by omega)), Except.ok_bind]
  rfl

lemma crcCheck_outside {buf : Block UInt8} (hint : buf.size < 2 ^ 31) (h : ¬LenInside buf) :
    ∃ e, crcCheck buf = .error e := by
  have hhead : msgHeadLen = 8 := rfl
  rw [LenInside] at h
  by_cases hfield : buf.Holds 5 2
  · rw [crcCheck_eq hfield]
    by_cases hzero : msgLen buf.cells = 0
    · rw [hzero]
      exact ⟨_, rfl⟩
    · have hptr : ((msgLen buf.cells : Int) - 2 + 1) = (msgLen buf.cells - 1 : Nat) := by omega
      rw [hptr, ptrAt_nat, Except.ok_bind]
      by_cases hrecv : buf.Holds (msgLen buf.cells - 1) 2
      · have hshort : msgLen buf.cells < msgHeadLen + 2 := by
          rw [Block.Holds] at hrecv
          omega
        have hdata : ¬buf.Holds (1 + msgHeadLen) (crcDataLen (msgLen buf.cells)) := by
          have hle := le_crcDataLen hshort
          rw [Block.Holds]
          omega
        rw [Block.read_eq hrecv, Except.ok_bind, Block.read_error hdata]
        exact ⟨_, rfl⟩
      · rw [Block.read_error hrecv]
        exact ⟨_, rfl⟩
  · rw [crcCheck, Block.read_error hfield]
    exact ⟨_, rfl⟩

structure ReplyHead (head : List UInt8) (len : Nat) : Prop where
  length_eq : head.length = msgHeadLen
  len_eq : natLE ((head.drop 4).take 2) = len

/-- A reply frame: its `len` counts the bytes between the flags, and it ends with the CRC of the
bytes between header and CRC. -/
structure ReplyFrame (reply head data crc : List UInt8) : Prop where
  reply_eq : reply = 0x7e :: (head ++ data ++ crc) ++ [0x7e]
  head : ReplyHead head (msgHeadLen + data.length + 2)
  crc_length : crc.length = 2
  crc_eq : natLE crc = (crc16 0 data).toNat

def WholeReply (reply : List UInt8) : Prop :=
  ∃ head data crc, ReplyFrame reply head data crc

lemma wholeReply_iff {head data crc : List UInt8}
    (hhead : ReplyHead head (msgHeadLen + data.length + 2)) (hcrc : crc.length = 2) :
    WholeReply (0x7e :: (head ++ data ++ crc) ++ [0x7e]) ↔
      natLE crc = (crc16 0 data).toNat := by
  constructor
  · rintro ⟨head', data', crc', hreply, hhead', hcrc', heq⟩
    have hbody := (List.cons_inj_right _).mp (List.append_cancel_right hreply)
    obtain ⟨hfront, rfl⟩ := List.append_inj' hbody (hcrc.trans hcrc'.symm)
    obtain ⟨-, rfl⟩ := List.append_inj hfront (hhead.length_eq.trans hhead'.length_eq.symm)
    exact heq
  · exact fun h => ⟨head, data, crc, rfl, hhead, hcrc, h⟩

lemma phsReply_eq {b rsp : Block UInt8} {off n : Nat} (h : b.Holds off n) (hrsp : n + 2 ≤ rsp.size) :
    ∃ rsp' : Block UInt8, PhsCall.reply b rsp off n = .ok (rsp', n + 2) ∧
      rsp'.cells.load 0 (n + 2) = 0x7e :: b.cells.load off n ++ [0x7e] := by
  obtain ⟨rsp', hok, hload⟩ := miscTranslatePacket_eq rsp (b.cells.load off n)
    (by rwa [length_load])
  rw [length_load] at hok hload
  refine ⟨rsp', ?_, hload⟩
  rw [PhsCall.reply, Block.read_eq h, Except.ok_bind, hok]

lemma load_head {b : Buffer UInt8} {off len : Nat} (h : b.load (off + 4) 2 = bytesLE 2 len)
    (hlen : len < 65536) : ReplyHead (b.load off msgHeadLen) len := by
  refine ⟨length_load _ _ _, ?_⟩
  rw [load_drop _ _ (by decide), load_take _ _ (by decide), h, natLE_bytesLE_of_lt hlen]

lemma setReply_eq {b : Block UInt8} {fields : List UInt8} (len : Nat) (subtype : UInt8)
    (h : 1 + msgHeadLen + fields.length ≤ b.size) (hlen : len < 65536) :
    ∃ b' : Block UInt8, PhsCall.setReply b len subtype fields = .ok b' ∧ b'.size = b.size ∧
      ReplyHead (b'.cells.load 1 msgHeadLen) len ∧
      b'.cells.load 1 (msgHeadLen + fields.length) = b'.cells.load 1 msgHeadLen ++ fields := by
  have hhead : msgHeadLen = 8 := rfl
  obtain ⟨b₁, h₁, hc₁, hs₁⟩ := Block.write_ok (show b.Holds 8 [subtype].length from
    Block.holds_of_le (by rw [List.length_singleton]; omega))
  obtain ⟨b₂, h₂, hc₂, hs₂⟩ := Block.write_ok (show b₁.Holds (1 + msgHeadLen) fields.length from
    Block.holds_of_le (by omega))
  obtain ⟨b₃, h₃, hc₃, hs₃⟩ := Block.write_ok (show b₂.Holds 5 (bytesLE 2 len).length from
    Block.holds_of_le (by rw [length_bytesLE]; omega))
  have hfield : b₃.cells.load 5 2 = bytesLE 2 len := by
    rw [hc₃]
    exact load_fill_of_length _ _ (length_bytesLE 2 len)
  have hfields : b₃.cells.load (1 + msgHeadLen) fields.length = fields := by
    have hload : b₃.cells.load (1 + msgHeadLen) fields.length =
        b₂.cells.load (1 + msgHeadLen) fields.length := by
      rw [hc₃]
      apply load_congr
      intro i hi
      exact fill_outside _ (by rw [length_bytesLE]; omega)
    rw [hload, hc₂, load_fill]
  refine ⟨b₃, ?_, by omega, load_head hfield hlen, ?_⟩
  · rw [PhsCall.setReply, h₁, Except.ok_bind, h₂, Except.ok_bind, h₃]
  · rw [load_add, hfields]

def PhsOut.reply (o : PhsOut) : List UInt8 := o.rsp.cells.load 0 o.rspLen

/-- A short reply, made in the request: `data` and a CRC behind its header. -/
lemma shortReply_eq {b rsp : Block UInt8} (subtype : UInt8) (data crc : List UInt8)
    (stored : Option (List UInt8)) (hcrc : crc.length = 2) (hdata : data.length ≤ 2)
    (h : 1 + (msgHeadLen + data.length + 2) ≤ b.size) (hrsp : rsp.size = maxChnlBuff) :
    ∃ out head,
      (PhsCall.setReply b (msgHeadLen + data.length + 2) subtype (data ++ crc) >>= fun buf =>
        PhsCall.reply buf rsp 1 (msgHeadLen + data.length + 2) >>= fun r =>
          .ok (⟨buf, r.1, r.2, stored⟩ : PhsOut)) = .ok out ∧
      out.stored = stored ∧ ReplyHead head (msgHeadLen + data.length + 2) ∧
      out.reply = 0x7e :: (head ++ data ++ crc) ++ [0x7e] := by
  have hhead : msgHeadLen = 8 := rfl
  have hmax : maxChnlBuff = 65536 := rfl
  have hfields : (data ++ crc).length = data.length + 2 := by rw [List.length_append, hcrc]
  obtain ⟨b', hset, hsize, hhead', hload⟩ := setReply_eq (msgHeadLen + data.length + 2) subtype
    (show 1 + msgHeadLen + (data ++ crc).length ≤ b.size by omega) (by omega)
  obtain ⟨rsp', hreply, hrsp'⟩ := @phsReply_eq b' rsp _ _
    (show b'.Holds 1 (msgHeadLen + data.length + 2) from Block.holds_of_le (by omega)) (by omega)
  refine ⟨⟨b', rsp', msgHeadLen + data.length + 2 + 2, stored⟩, _, ?_, rfl, hhead', ?_⟩
  · rw [hset, Except.ok_bind, hreply, Except.ok_bind]
  · rw [PhsOut.reply, hrsp', show msgHeadLen + data.length + 2 =
      msgHeadLen + (data ++ crc).length by omega, hload, List.append_assoc]

namespace PhsCall

variable {c : PhsCall}

/-- The error of a write, and the data that the store is given. -/
def error (c : PhsCall) : ErrImei :=
  if c.HasCommand then if c.writeRet = 0 then .errNone else .saveErr else .cmdErr

def given (c : PhsCall) : Option (List UInt8) :=
  if c.HasCommand then
    some (c.buf.cells.load (1 + msgHeadLen) (msgLen c.buf.cells - (msgHeadLen + 2)))
  else none

lemma store_eq (hin : LenInside c.buf) : c.store = .ok (c.given, c.error) := by
  have hhead : msgHeadLen = 8 := rfl
  obtain ⟨hlen, hsize⟩ := hin
  rw [store, given, error]
  split
  · rw [crcDataLen_eq hlen (msgLen_lt c.buf.cells), Block.read_eq (Block.holds_of_le (by omega))]
    rfl
  · rfl

lemma error_eq_none_iff : c.error = .errNone ↔ c.HasCommand ∧ c.writeRet = 0 := by
  rw [error]
  split
  · rename_i hcmd
    split
    · rename_i hret
      exact iff_of_true rfl ⟨hcmd, hret⟩
    · rename_i hret
      exact iff_of_false (by decide) fun h => hret h.2
  · rename_i hcmd
    exact iff_of_false (by decide) fun h => hcmd h.1

lemma write_ack (hin : LenInside c.buf) (herr : c.error = .errNone) :
    ∃ out head, c.write = .ok out ∧ out.stored = c.given ∧
      ReplyHead head (msgHeadLen + ([] : List UInt8).length + 2) ∧
      out.reply = 0x7e :: (head ++ [] ++ bytesLE 2 0) ++ [0x7e] := by
  have hhead : msgHeadLen = 8 := rfl
  obtain ⟨hlen, hsize⟩ := hin
  obtain ⟨out, head, hok, hreply⟩ := shortReply_eq (b := c.buf) msgAck [] (bytesLE 2 0) c.given
    (length_bytesLE 2 0) (Nat.zero_le 2) (by rw [List.length_nil]; omega) c.rsplen
  refine ⟨out, head, ?_, hreply⟩
  rw [write, store_eq ⟨hlen, hsize⟩, Except.ok_bind, if_pos herr]
  exact hok

lemma write_nack (hin : LenInside c.buf) (herr : c.error ≠ .errNone)
    (hroom : 1 + (msgHeadLen + 2 * 2) ≤ c.buf.size) :
    ∃ out head, c.write = .ok out ∧ out.stored = c.given ∧
      ReplyHead head (msgHeadLen + (bytesLE 2 c.error.code).length + 2) ∧
      out.reply = 0x7e :: (head ++ bytesLE 2 c.error.code ++ bytesLE 2 0) ++ [0x7e] := by
  obtain ⟨out, head, hok, hreply⟩ := shortReply_eq (b := c.buf) msgNack
    (bytesLE 2 c.error.code) (bytesLE 2 0) c.given (length_bytesLE 2 0)
    (le_of_eq (length_bytesLE 2 _)) hroom c.rsplen
  refine ⟨out, head, ?_, hreply⟩
  rw [write, store_eq hin, Except.ok_bind, if_neg herr]
  exact hok

lemma write_nack_error (hin : LenInside c.buf) (herr : c.error ≠ .errNone)
    (hroom : ¬1 + (msgHeadLen + 2 * 2) ≤ c.buf.size) : ∃ e, c.write = .error e := by
  have hhead : msgHeadLen = 8 := rfl
  have hfields : (bytesLE 2 c.error.code ++ bytesLE 2 0).length = 4 := by
    rw [List.length_append, length_bytesLE, length_bytesLE]
  rw [write, store_eq hin, Except.ok_bind]
  simp only [if_neg herr, setReply]
  obtain ⟨hlen, hsize⟩ := hin
  obtain ⟨b₁, h₁, -, hs₁⟩ := Block.write_ok (show c.buf.Holds 8 [msgNack].length from
    Block.holds_of_le (by rw [List.length_singleton]; omega))
  have hover : ¬b₁.Holds (1 + msgHeadLen) (bytesLE 2 c.error.code ++ bytesLE 2 0).length := by
    rw [Block.Holds, hfields]
    omega
  rw [h₁, Except.ok_bind, Block.write_error hover]
  exact ⟨_, rfl⟩

lemma nvdata_eq (hin : LenInside c.buf) :
    ∃ nv₁ nv₂ : Block UInt8, c.buf.read 1 msgHeadLen = .ok (c.buf.cells.load 1 msgHeadLen) ∧
      Block.write ⟨c.heap, c.rsp.size + msgHeadLen + 2⟩ 0 (c.buf.cells.load 1 msgHeadLen) =
        .ok nv₁ ∧
      nv₁.write msgHeadLen c.readBytes = .ok nv₂ ∧ nv₂.size = c.rsp.size + msgHeadLen + 2 := by
  have hload : (c.buf.cells.load 1 msgHeadLen).length = msgHeadLen := length_load _ _ _
  have hbytes := c.read_le
  obtain ⟨hlen, hsize⟩ := hin
  obtain ⟨nv₁, h₁, -, hs₁⟩ := Block.write_ok (show
    Block.Holds ⟨c.heap, c.rsp.size + msgHeadLen + 2⟩ 0 (c.buf.cells.load 1 msgHeadLen).length from
    Block.holds_of_le (by dsimp only; omega))
  dsimp only at hs₁
  obtain ⟨nv₂, h₂, -, hs₂⟩ := Block.write_ok (show nv₁.Holds msgHeadLen c.readBytes.length from
    Block.holds_of_le (by omega))
  exact ⟨nv₁, nv₂, Block.read_eq (Block.holds_of_le (by omega)), h₁, h₂, hs₂.trans hs₁⟩

lemma read_nack (hin : LenInside c.buf) (hret : c.readRet ≠ 0) :
    ∃ out head, c.read = .ok out ∧ out.stored = none ∧
      ReplyHead head (msgHeadLen + ([] : List UInt8).length + 2) ∧
      out.reply = 0x7e :: (head ++ [] ++ bytesLE 2 0) ++ [0x7e] := by
  have hhead : msgHeadLen = 8 := rfl
  obtain ⟨nv₁, nv₂, h₀, h₁, h₂, -⟩ := nvdata_eq hin
  obtain ⟨hlen, hsize⟩ := hin
  obtain ⟨out, head, hok, hreply⟩ := shortReply_eq (b := c.buf) msgNack [] (bytesLE 2 0) none
    (length_bytesLE 2 0) (Nat.zero_le 2) (by rw [List.length_nil]; omega) c.rsplen
  refine ⟨out, head, ?_, hreply⟩
  rw [read, h₀, Except.ok_bind, h₁, Except.ok_bind, h₂, Except.ok_bind, if_pos hret]
  exact hok

lemma snLen_le (magic : Nat) : snLen magic ≤ sp15Len := by
  rw [snLen]
  split
  · decide
  · split
    · exact le_refl _
    · exact Nat.zero_le _

/-- The record behind its header, with its `len` and its CRC. -/
lemma ackRecord_eq {nv rsp : Block UInt8} {n : Nat} (hnv : nv.size = maxChnlBuff + msgHeadLen + 2)
    (hrsp : rsp.size = maxChnlBuff) (hn : n ≤ sp15Len) :
    ∃ nv₁ nv₂ nv₃ rsp' head data, nv.write 4 (bytesLE 2 (msgHeadLen + n + 2)) = .ok nv₁ ∧
      nv₁.read msgHeadLen n = .ok data ∧ data.length = n ∧
      nv₁.write (msgHeadLen + n) (bytesLE 2 (crc16 0 data).toNat) = .ok nv₂ ∧
      nv₂.write 7 [msgAck] = .ok nv₃ ∧
      reply nv₃ rsp 0 (msgHeadLen + n + 2) = .ok (rsp', msgHeadLen + n + 2 + 2) ∧
      ReplyHead head (msgHeadLen + n + 2) ∧
      rsp'.cells.load 0 (msgHeadLen + n + 2 + 2) =
        0x7e :: (head ++ data ++ bytesLE 2 (crc16 0 data).toNat) ++ [0x7e] := by
  have hhead : msgHeadLen = 8 := rfl
  have hmax : maxChnlBuff = 65536 := rfl
  have hsp : sp15Len = 492 := rfl
  obtain ⟨nv₁, h₁, hc₁, hs₁⟩ := Block.write_ok (show
    nv.Holds 4 (bytesLE 2 (msgHeadLen + n + 2)).length from
    Block.holds_of_le (by rw [length_bytesLE]; omega))
  obtain ⟨data, hdata⟩ : ∃ data, nv₁.cells.load msgHeadLen n = data := ⟨_, rfl⟩
  have hdlen : data.length = n := by rw [← hdata, length_load]
  obtain ⟨nv₂, h₂, hc₂, hs₂⟩ := Block.write_ok (show
    nv₁.Holds (msgHeadLen + n) (bytesLE 2 (crc16 0 data).toNat).length from
    Block.holds_of_le (by rw [length_bytesLE]; omega))
  obtain ⟨nv₃, h₃, hc₃, hs₃⟩ := Block.write_ok (show nv₂.Holds 7 [msgAck].length from
    Block.holds_of_le (by rw [List.length_singleton]; omega))
  have hfield : nv₃.cells.load (0 + 4) 2 = bytesLE 2 (msgHeadLen + n + 2) := by
    rw [hc₃, load_fill_before _ _ _ _ _ (by omega), hc₂, load_fill_before _ _ _ _ _ (by omega), hc₁]
    exact load_fill_of_length _ _ (length_bytesLE 2 _)
  have hkept : nv₃.cells.load msgHeadLen n = data := by
    rw [← hdata]
    apply load_congr
    intro i hi
    rw [hc₃, fill_outside _ (by rw [List.length_singleton]; omega), hc₂,
      fill_outside _ (by omega)]
  have hcrc : nv₃.cells.load (msgHeadLen + n) 2 = bytesLE 2 (crc16 0 data).toNat := by
    have hlast : nv₂.cells.load (msgHeadLen + n) 2 = bytesLE 2 (crc16 0 data).toNat := by
      rw [hc₂]
      exact load_fill_of_length _ _ (length_bytesLE 2 _)
    rw [← hlast]
    apply load_congr
    intro i hi
    rw [hc₃, fill_outside _ (by rw [List.length_singleton]; omega)]
  obtain ⟨rsp', hreply, hload⟩ := @phsReply_eq nv₃ rsp _ _
    (show nv₃.Holds 0 (msgHeadLen + n + 2) from Block.holds_of_le (by omega)) (by omega)
  have hread : nv₁.read msgHeadLen n = .ok data := by
    rw [Block.read_eq (Block.holds_of_le (by omega)), hdata]
  refine ⟨nv₁, nv₂, nv₃, rsp', nv₃.cells.load 0 msgHeadLen, data, h₁, hread, hdlen, h₂, h₃, hreply,
    load_head hfield (by omega), ?_⟩
  rw [hload, load_add, load_add, Nat.zero_add, Nat.zero_add, hkept, hcrc]

lemma read_ack (hin : LenInside c.buf) (hret : ¬c.readRet ≠ 0) :
    ∃ out head data, c.read = .ok out ∧ out.stored = none ∧
      ReplyHead head (msgHeadLen + data.length + 2) ∧
      out.reply = 0x7e :: (head ++ data ++ bytesLE 2 (crc16 0 data).toNat) ++ [0x7e] := by
  have hmax : maxChnlBuff = 65536 := rfl
  have hrsplen := c.rsplen
  obtain ⟨nv₁, nv₂, h₀, h₁, h₂, hs₂⟩ := nvdata_eq hin
  have hmagic : nv₂.Holds msgHeadLen 4 := Block.holds_of_le (by omega)
  obtain ⟨nv₃, nv₄, nv₅, rsp', head, data, h₃, hdata, hdlen, h₄, h₅, hreply, hh, hrsp⟩ :=
    ackRecord_eq (n := snLen (natLE (nv₂.cells.load msgHeadLen 4))) (hrsplen ▸ hs₂) hrsplen
      (snLen_le _)
  rw [← hdlen] at h₃ hdata h₄ hreply hh hrsp
  refine ⟨⟨c.buf, rsp', msgHeadLen + data.length + 2 + 2, none⟩, head, data, ?_, rfl, hh, hrsp⟩
  rw [read, h₀, Except.ok_bind, h₁, Except.ok_bind, h₂, Except.ok_bind, if_neg hret,
    Block.read_eq hmagic, Except.ok_bind]
  simp only [← hdlen]
  rw [h₃, Except.ok_bind, hdata, Except.ok_bind, h₄, Except.ok_bind, h₅, Except.ok_bind, hreply]
  rfl

end PhsCall

/-- A request in the buffer of a channel, of `len` bytes, with which its length field agrees. -/
structure PhsRequest extends PhsCall where
  len : Nat
  bufsize : buf.size = maxChnlBuff
  len_le : len ≤ maxChnlBuff
  agrees : msgLen buf.cells + 2 = len

/-- What is asked of a call: a reply frame, and to a wrong CRC one that carries `IMEI_CRC_ERR`. -/
structure PhsAnswered (q : PhsRequest) (out : PhsOut) : Prop where
  frame : WholeReply out.reply
  crcErr : ¬CrcMatches q.buf.cells →
    ∃ head crc, ReplyFrame out.reply head (bytesLE 2 ErrImei.crcErr.code) crc

/-- When it is so: a request of a header and a CRC at least, with the right CRC, that reads, or
whose write has a command and is taken by the store. -/
structure PhsFine (q : PhsRequest) : Prop where
  whole : msgHeadLen + 2 ≤ msgLen q.buf.cells
  crc : CrcMatches q.buf.cells
  write : q.IsWrite → q.HasCommand ∧ q.writeRet = 0

section Requests

variable {q : PhsRequest}

lemma PhsRequest.inside (h : msgHeadLen + 2 ≤ msgLen q.buf.cells) : LenInside q.buf := by
  have hsize := q.bufsize
  have hle := q.len_le
  have hagrees := q.agrees
  exact ⟨h, by omega⟩

lemma directPhschk_matches {c : PhsCall} (hin : LenInside c.buf) (hcrc : CrcMatches c.buf.cells) :
    directPhschk c = if c.IsWrite then c.write else c.read := by
  rw [directPhschk, crcCheck_inside hin, Except.ok_bind, if_neg (by simp [hcrc])]

lemma directPhschk_crc_error {c : PhsCall} (hin : LenInside c.buf)
    (hcrc : ¬CrcMatches c.buf.cells) :
    ∃ buf, directPhschk c = .ok ⟨buf, c.rsp, 0, none⟩ := by
  have hhead : msgHeadLen = 8 := rfl
  obtain ⟨hlen, hsize⟩ := hin
  obtain ⟨b₁, h₁, -, hs₁⟩ := Block.write_ok (show
    c.buf.Holds 5 (bytesLE 2 (msgHeadLen + 2 * 2)).length from
    Block.holds_of_le (by rw [length_bytesLE]; omega))
  obtain ⟨b₂, h₂, -, -⟩ := Block.write_ok (show
    b₁.Holds (1 + msgHeadLen) (bytesLE 2 ErrImei.crcErr.code).length from
    Block.holds_of_le (by rw [length_bytesLE]; omega))
  refine ⟨b₂, ?_⟩
  rw [directPhschk, crcCheck_inside ⟨hlen, hsize⟩, Except.ok_bind, if_pos (by simp [hcrc]), h₁,
    Except.ok_bind, h₂]
  rfl

lemma directPhschk_outside {c : PhsCall} (hint : c.buf.size < 2 ^ 31) (h : ¬LenInside c.buf) :
    ∃ e, directPhschk c = .error e := by
  obtain ⟨e, he⟩ := crcCheck_outside hint h
  rw [directPhschk, he]
  exact ⟨e, rfl⟩

lemma nack_crc_ne : ∀ {e : ErrImei}, e ≠ .errNone →
    natLE (bytesLE 2 0) ≠ (crc16 0 (bytesLE 2 e.code)).toNat
  | .errNone, h => absurd rfl h
  | .crcErr, _ => by decide
  | .cmdErr, _ => by decide
  | .saveErr, _ => by decide
  | .readErr, _ => by decide

lemma phsAnswered_of_fine (h : PhsFine q) :
    ∃ out, directPhschk q.toPhsCall = .ok out ∧ PhsAnswered q out := by
  have hin := PhsRequest.inside h.whole
  have hframe : ∀ {out : PhsOut} {head data crc : List UInt8},
      ReplyHead head (msgHeadLen + data.length + 2) → crc.length = 2 →
      natLE crc = (crc16 0 data).toNat → out.reply = 0x7e :: (head ++ data ++ crc) ++ [0x7e] →
      PhsAnswered q out := by
    intro out head data crc hhead hlen hcrc hreply
    exact ⟨⟨head, data, crc, hreply, hhead, hlen, hcrc⟩, fun hbad => absurd h.crc hbad⟩
  rw [directPhschk_matches hin h.crc]
  by_cases hwrite : q.IsWrite
  · rw [if_pos hwrite]
    obtain ⟨out, head, hok, -, hhead, hreply⟩ :=
      PhsCall.write_ack hin (PhsCall.error_eq_none_iff.mpr (h.write hwrite))
    exact ⟨out, hok, hframe hhead (length_bytesLE 2 0) (by decide) hreply⟩
  · rw [if_neg hwrite]
    by_cases hret : q.readRet ≠ 0
    · obtain ⟨out, head, hok, -, hhead, hreply⟩ := PhsCall.read_nack hin hret
      exact ⟨out, hok, hframe hhead (length_bytesLE 2 0) (by decide) hreply⟩
    · obtain ⟨out, head, data, hok, -, hhead, hreply⟩ := PhsCall.read_ack hin hret
      refine ⟨out, hok, hframe hhead (length_bytesLE 2 _) ?_ hreply⟩
      exact natLE_bytesLE_of_lt (crc16 0 data).toNat_lt

lemma phsFine_of_answered {out : PhsOut} (hok : directPhschk q.toPhsCall = .ok out)
    (h : PhsAnswered q out) : PhsFine q := by
  have hhead : msgHeadLen = 8 := rfl
  have hmax : maxChnlBuff = 65536 := rfl
  have hsize := q.bufsize
  have hwhole : msgHeadLen + 2 ≤ msgLen q.buf.cells := by
    by_contra hshort
    obtain ⟨e, he⟩ := directPhschk_outside (c := q.toPhsCall) (by omega) fun hin => hshort hin.1
    rw [he] at hok
    cases hok
  have hin := PhsRequest.inside hwhole
  have hcrc : CrcMatches q.buf.cells := by
    by_contra hbad
    obtain ⟨buf, he⟩ := directPhschk_crc_error hin hbad
    rw [he] at hok
    cases hok
    obtain ⟨head, data, crc, hreply, -⟩ := h.frame
    cases hreply
  refine ⟨hwhole, hcrc, fun hwrite => ?_⟩
  rw [directPhschk_matches hin hcrc, if_pos hwrite] at hok
  rw [← PhsCall.error_eq_none_iff]
  by_contra herr
  obtain ⟨out', head, hok', -, hhead', hreply⟩ := PhsCall.write_nack hin herr (by omega)
  rw [hok] at hok'
  cases hok'
  have hframe := h.frame
  rw [hreply, wholeReply_iff hhead' (length_bytesLE 2 0)] at hframe
  exact nack_crc_ne herr hframe

/-- The exact condition for a request to be answered as it should be. -/
theorem phs_answered_iff (q : PhsRequest) :
    (∃ out, directPhschk q.toPhsCall = .ok out ∧ PhsAnswered q out) ↔ PhsFine q :=
  ⟨fun ⟨_, hok, h⟩ => phsFine_of_answered hok h, phsAnswered_of_fine⟩

end Requests

/-- A request of a header and a CRC only, whose CRC is 1 instead of 0. -/
def phsWrongCrc : PhsRequest where
  buf := ⟨Buffer.fill (fun _ => 0) 0 [0x7e, 0, 0, 0, 0, 10, 0, 0x5f, 0x80, 1, 0, 0x7e], maxChnlBuff⟩
  rsp := ⟨fun _ => 0, maxChnlBuff⟩
  rsplen := rfl
  heap := fun _ => 0
  readRet := 0
  readBytes := []
  read_le := Nat.zero_le _
  writeRet := 0
  len := 12
  bufsize := rfl
  len_le := by decide
  agrees := by decide

theorem phs_wrong_crc_unanswered :
    ¬∃ out, directPhschk phsWrongCrc.toPhsCall = .ok out ∧ PhsAnswered phsWrongCrc out := by
  rw [phs_answered_iff]
  exact fun h => absurd h.crc (by decide)

end EngPc
