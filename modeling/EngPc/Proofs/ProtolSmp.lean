import EngPc.Lib.OnesComplement
import EngPc.Lib.PacketStream
import EngPc.Model.ProtolSmp

/-!
# SMP packets and their receiver

The receiver reads one packet after the other off what goes to the destination port. It gets back
what was read at the source, and every packet stays inside the buffer, exactly when no payload is
longer than the buffer less the twenty header bytes.
-/

namespace EngPc
open Buffer LittleEndian

/-- The 16-bit word at `i`. -/
def word (l : List UInt8) (i : Nat) : Nat := natLE ((l.drop i).take 2)

structure SmpMessage where
  sn : Nat
  type : UInt8
  subtype : UInt8
  payload : List UInt8
  deriving DecidableEq, Repr

/-- The receiver of the packets: LEN counts what follows the flags, the sum of LEN, CHANNEL/TYPE,
RESERVED and the checksum is all ones, and the message length counts its header too. -/
def smpNext (l : List UInt8) : Option (SmpMessage × List UInt8) :=
  if l.take 4 = [0x7e, 0x7e, 0x7e, 0x7e] ∧ 4 + word l 4 ≤ l.length ∧
      OnesComplement.sum 65536 [word l 4, word l 6, word l 8, word l 10] = 65535 then
    some (⟨natLE ((l.drop 12).take 4), l.getD 18 0, l.getD 19 0,
      (l.drop 20).take (word l 16 - 8)⟩, l.drop (4 + word l 4))
  else none

lemma smpChecksum_eq {pktLen : Nat} (h : pktLen < 65536) :
    (smpChecksum pktLen).toNat % 65536 =
      OnesComplement.complement 65536 (OnesComplement.sum 65536 [pktLen, 0, 0x5a5a]) := by
  have hn : (UInt32.ofNat pktLen + 0x5a5a : UInt32).toNat = pktLen + 0x5a5a := by
    rw [UInt32.toNat_add, UInt32.toNat_ofNat']
    have h5 : (0x5a5a : UInt32).toNat = 0x5a5a := rfl
    omega
  have hfold : ((UInt32.ofNat pktLen + 0x5a5a : UInt32) &&& (0xffff : UInt32)) +
      ((UInt32.ofNat pktLen + 0x5a5a : UInt32) >>> (16 : UInt32)) =
        UInt32.ofNat ((pktLen + 0x5a5a) % 65536 + (pktLen + 0x5a5a) / 65536) := by
    apply UInt32.toNat_inj.mp
    rw [UInt32.toNat_add, UInt32.toNat_and, UInt32.toNat_shiftRight, hn, UInt32.toNat_ofNat']
    have hmask : (0xffff : UInt32).toNat = 2 ^ 16 - 1 := by decide
    have hbits : (16 : UInt32).toNat % 32 = 16 := by decide
    rw [hmask, hbits, Nat.and_two_pow_sub_one_eq_mod, Nat.shiftRight_eq_div_pow]
  have hsum : OnesComplement.sum 65536 [pktLen, 0, 0x5a5a] =
      (pktLen + 0x5a5a) % 65536 + (pktLen + 0x5a5a) / 65536 := by
    have hfirst : OnesComplement.add 65536 0 pktLen = pktLen := by
      rw [OnesComplement.add_of_lt (by omega), Nat.zero_add]
    have hsecond : OnesComplement.add 65536 pktLen 0 = pktLen := OnesComplement.add_of_lt h
    rw [OnesComplement.sum, List.foldl_cons, List.foldl_cons, List.foldl_cons, List.foldl_nil, hfirst,
      hsecond]
    rfl
  unfold smpChecksum OnesComplement.complement
  dsimp only
  rw [hfold, hsum, UInt32.toNat_not, UInt32.toNat_ofNat']
  have hsize : UInt32.size = 4294967296 := rfl
  omega

lemma smpHeader_sum {pktLen : Nat} (h : pktLen < 65536) :
    OnesComplement.sum 65536 [pktLen, 0, 0x5a5a, (smpChecksum pktLen).toNat % 65536] = 65535 := by
  rw [smpChecksum_eq h]
  apply OnesComplement.sum_append_complement (by omega) [pktLen, 0, 0x5a5a]
  intro w hw
  simp only [List.mem_cons, List.not_mem_nil, or_false] at hw
  omega

section Packet

variable (sn : UInt32) (len : Nat) (type : UInt8) (rest : List UInt8)

lemma length_addHeaders : (agDsplogAddHeaders sn len type).length = 20 := by
  simp [agDsplogAddHeaders, msgHeadLen]

lemma word_len :
    word (agDsplogAddHeaders sn len type ++ rest) 4 = (len + 16) % 65536 := by
  have hfield : word (agDsplogAddHeaders sn len type ++ rest) 4 = natLE (bytesLE 2 (len + 8 + 8)) :=
    rfl
  have hpow : 256 ^ 2 = 65536 := rfl
  rw [hfield, natLE_bytesLE, hpow, Nat.add_assoc]

lemma word_checksum :
    word (agDsplogAddHeaders sn len type ++ rest) 10 =
      (smpChecksum (len + 16)).toNat % 65536 := by
  have hfield : word (agDsplogAddHeaders sn len type ++ rest) 10 =
      natLE (bytesLE 2 (smpChecksum (len + 8 + 8)).toNat) := rfl
  have hpow : 256 ^ 2 = 65536 := rfl
  rw [hfield, natLE_bytesLE, hpow, Nat.add_assoc]

lemma word_msgLen (h : len + 8 < 65536) :
    word (agDsplogAddHeaders sn len type ++ rest) 16 = len + 8 := by
  have hfield : word (agDsplogAddHeaders sn len type ++ rest) 16 =
      natLE (bytesLE 2 (UInt16.ofNat (len + 8)).toNat) := rfl
  have hlen : (UInt16.ofNat (len + 8)).toNat = len + 8 := by
    rw [UInt16.toNat_ofNat']
    omega
  rw [hfield, hlen, natLE_bytesLE_of_lt (by omega)]

lemma field_sn :
    natLE (((agDsplogAddHeaders sn len type ++ rest).drop 12).take 4) = sn.toNat := by
  have hfield : ((agDsplogAddHeaders sn len type ++ rest).drop 12).take 4 =
      bytesLE 4 sn.toNat := rfl
  have hsn : sn.toNat < 256 ^ 4 := by
    have hlt := sn.toNat_lt
    omega
  rw [hfield, natLE_bytesLE_of_lt hsn]

lemma word_zero : word (agDsplogAddHeaders sn len type ++ rest) 6 = 0 := rfl

lemma word_reserved : word (agDsplogAddHeaders sn len type ++ rest) 8 = 0x5a5a := by
  have hfield : word (agDsplogAddHeaders sn len type ++ rest) 8 = natLE [0x5a, 0x5a] := rfl
  rw [hfield]
  decide

lemma field_flags : (agDsplogAddHeaders sn len type ++ rest).take 4 = [0x7e, 0x7e, 0x7e, 0x7e] := rfl

lemma field_type : (agDsplogAddHeaders sn len type ++ rest).getD 18 0 = 0x9d := rfl

lemma field_subtype : (agDsplogAddHeaders sn len type ++ rest).getD 19 0 = 0x40 ||| type := rfl

end Packet

lemma smpNext_packet (sn : UInt32) (type : UInt8) (payload rest : List UInt8)
    (h : payload.length + 16 < 65536) :
    smpNext (agDsplogAddHeaders sn payload.length type ++ payload ++ rest) =
      some (⟨sn.toNat, 0x9d, 0x40 ||| type, payload⟩, rest) := by
  have hlen := length_addHeaders sn payload.length type
  have hfits : 4 + (payload.length + 16) ≤
      (agDsplogAddHeaders sn payload.length type ++ (payload ++ rest)).length := by
    rw [List.length_append, List.length_append, hlen]
    omega
  unfold smpNext
  rw [List.append_assoc, word_len, Nat.mod_eq_of_lt h, word_checksum, word_msgLen _ _ _ _ (by omega),
    field_sn, word_zero, word_reserved, field_type, field_subtype, field_flags,
    if_pos ⟨rfl, hfits, smpHeader_sum h⟩]
  have hdrop : (agDsplogAddHeaders sn payload.length type ++ (payload ++ rest)).drop 20 =
      payload ++ rest := by
    rw [← hlen, List.drop_left]
  have hrest : (agDsplogAddHeaders sn payload.length type ++ (payload ++ rest)).drop
      (4 + (payload.length + 16)) = rest := by
    rw [show 4 + (payload.length + 16) = 20 + payload.length by omega, ← List.drop_drop, hdrop,
      List.drop_left]
  rw [hdrop, hrest, show payload.length + 8 - 8 = payload.length by omega, List.take_left]

/-- LEN has no room for the longest read: it says 0, and the checksum counts the carry. -/
lemma smpNext_wrapped (sn : UInt32) (type : UInt8) (rest : List UInt8) :
    smpNext (agDsplogAddHeaders sn 65520 type ++ rest) = none := by
  have hlen : (65520 + 16) % 65536 = 0 := by decide
  have hsum : OnesComplement.sum 65536 [0, 0, 0x5a5a, (smpChecksum (65520 + 16)).toNat % 65536] ≠
      65535 := by decide
  unfold smpNext
  rw [word_len, word_checksum, word_zero, word_reserved, hlen, if_neg fun h => hsum h.2.2]

lemma encode_packet (o : CProtolSmp) {type : UInt8} (h : o.dataType.audioDsp = some type)
    (buff : Buffer UInt8) (nlen : Nat) :
    (o.encode buff nlen).obj = { o with sn := o.sn + 1 } ∧ (o.encode buff nlen).len = nlen + 20 ∧
      (o.encode buff nlen).buff.load 0 (nlen + 20) =
        agDsplogAddHeaders o.sn nlen type ++ buff.load 0 nlen := by
  have hlen := length_addHeaders o.sn nlen type
  unfold CProtolSmp.encode
  dsimp only
  rw [h]
  refine ⟨rfl, rfl, ?_⟩
  dsimp only
  have hhead := load_fill_of_length (buff.copy 20 0 nlen) 0 hlen
  have hpayload : ((buff.copy 20 0 nlen).fill 0 (agDsplogAddHeaders o.sn nlen type)).load 20 nlen =
      buff.load 0 nlen := by
    apply load_congr
    intro i hi
    rw [fill_outside _ (.inr (by omega)), copy_inside _ (by omega) (by omega)]
    congr 1
    omega
  rw [Nat.add_comm nlen 20, load_add, Nat.zero_add, hhead, hpayload]

/-- An audio DSP channel that processes what it reads. -/
structure CProtolSmp.Channel (o : CProtolSmp) (type : UInt8) : Prop where
  kind : o.dataType.audioDsp = some type
  ap : o.apProcess = 1
  frame : o.frameType = .complete

lemma agdspStep_eq (dstType : PortType) {o : CProtolSmp} {type : UInt8} (ho : o.Channel type)
    (r : Received) :
    agdspStep dstType o r = ({ o with retType := .encodeToDest, sn := o.sn + 1 },
      [(.dst, agDsplogAddHeaders o.sn r.bytes.length type ++ r.bytes)]) := by
  have hcopy : (Buffer.fill (fun _ => 0) 0 (r.buff.load 0 r.len)).load 0 r.len = r.bytes :=
    load_fill_of_length _ _ (length_load _ _ _)
  have hlen : r.bytes.length = r.len := length_load _ _ _
  obtain ⟨hobj, hsize, hload⟩ := encode_packet { o with retType := .encodeToDest } ho.kind
    (Buffer.fill (fun _ => 0) 0 (r.buff.load 0 r.len)) r.len
  unfold agdspStep CDataAgdsp.process
  rw [if_pos ⟨.inl ho.frame, ho.ap⟩]
  dsimp only
  rw [hobj, hsize, hload, hcopy, hlen]

def smpMessages (type : UInt8) : UInt32 → List Received → List SmpMessage
  | _, [] => []
  | sn, r :: rs => ⟨sn.toNat, 0x9d, 0x40 ||| type, r.bytes⟩ :: smpMessages type (sn + 1) rs

variable {o : CProtolSmp} {type : UInt8}

lemma agdspPackets_cons (dstType : PortType) (ho : o.Channel type) (r : Received)
    (rs : List Received) :
    agdspPackets dstType o (r :: rs) = (agDsplogAddHeaders o.sn r.bytes.length type ++ r.bytes) ::
      agdspPackets dstType { o with retType := .encodeToDest, sn := o.sn + 1 } rs := by
  rw [agdspPackets, agdspStep_eq dstType ho]
  rfl

lemma CProtolSmp.Channel.next (ho : o.Channel type) :
    { o with retType := .encodeToDest, sn := o.sn + 1 : CProtolSmp }.Channel type :=
  ⟨ho.kind, ho.ap, ho.frame⟩

lemma agdspPackets_length (dstType : PortType) (ho : o.Channel type) (rs : List Received) :
    (agdspPackets dstType o rs).map List.length = rs.map fun r => r.len + 20 := by
  induction rs generalizing o with
  | nil => rfl
  | cons r rs ih =>
    have hlen : r.bytes.length = r.len := length_load _ _ _
    rw [agdspPackets_cons dstType ho, List.map_cons, List.map_cons, ih ho.next, List.length_append,
      length_addHeaders, hlen, Nat.add_comm]

lemma agdspPackets_read (dstType : PortType) (ho : o.Channel type) (rs : List Received)
    (h : ∀ r ∈ rs, r.len + 16 < 65536) :
    List.Forall₂ (PacketStream.Reads smpNext) (agdspPackets dstType o rs)
      (smpMessages type o.sn rs) := by
  induction rs generalizing o with
  | nil => exact List.Forall₂.nil
  | cons r rs ih =>
    rw [List.forall_mem_cons] at h
    have hlen : r.bytes.length = r.len := length_load _ _ _
    rw [agdspPackets_cons dstType ho, smpMessages]
    refine List.Forall₂.cons ⟨?_, fun rest => ?_⟩ (ih ho.next h.2)
    · exact List.cons_ne_nil _ _
    · exact smpNext_packet o.sn type r.bytes rest (by rw [hlen]; exact h.1)

/-- Every packet is inside the buffer, and the receiver gets the payloads in order, under sequence
numbers that count on. -/
structure SmpDelivered (dstType : PortType) (o : CProtolSmp) (type : UInt8) (rs : List Received) :
    Prop where
  inside : ∀ p ∈ agdspPackets dstType o rs, p.length ≤ maxChnlBuff
  received : PacketStream.read smpNext (agdspPackets dstType o rs).flatten =
    some (smpMessages type o.sn rs)

lemma agdspPackets_inside (dstType : PortType) (ho : o.Channel type) (rs : List Received) :
    (∀ p ∈ agdspPackets dstType o rs, p.length ≤ maxChnlBuff) ↔
      ∀ r ∈ rs, r.len + 20 ≤ maxChnlBuff := by
  have hlengths := agdspPackets_length dstType ho rs
  have hmap : (∀ n ∈ (agdspPackets dstType o rs).map List.length, n ≤ maxChnlBuff) ↔
      ∀ n ∈ rs.map fun r => r.len + 20, n ≤ maxChnlBuff := by
    rw [hlengths]
  rwa [List.forall_mem_map, List.forall_mem_map] at hmap

lemma agdspPackets_delivered (dstType : PortType) (ho : o.Channel type) (rs : List Received)
    (h : ∀ r ∈ rs, r.len + 20 ≤ maxChnlBuff) : SmpDelivered dstType o type rs := by
  refine ⟨(agdspPackets_inside dstType ho rs).mpr h, ?_⟩
  apply PacketStream.read_flatten
  apply agdspPackets_read dstType ho
  intro r hr
  have hle := h r hr
  have hmax : maxChnlBuff = 65536 := rfl
  omega

/-- The packets are delivered exactly when the longest payload is the buffer less the headers. -/
theorem smp_delivered_iff (dstType : PortType) (ho : o.Channel type) (rs : List Received) :
    SmpDelivered dstType o type rs ↔ ∀ r ∈ rs, r.len + 20 ≤ maxChnlBuff := by
  constructor
  · intro h
    exact (agdspPackets_inside dstType ho rs).mp h.inside
  · exact agdspPackets_delivered dstType ho rs

theorem smp_delivered_short :
    SmpDelivered .chr (.init .agdspPcm 1) 1 [⟨fun _ => 1, 2⟩, ⟨fun _ => 2, 1⟩] :=
  (smp_delivered_iff .chr ⟨rfl, rfl, rfl⟩ [⟨fun _ => 1, 2⟩, ⟨fun _ => 2, 1⟩]).mpr (by decide)

/-- The longest read makes a packet of four bytes too many, and the receiver refuses it. -/
theorem smp_longest_read :
    ∃ p, agdspPackets .chr (.init .agdspLog 1) [⟨fun _ => 0, maxPortBuffRD⟩] = [p] ∧
      p.length = maxChnlBuff + 4 ∧ smpNext p = none := by
  have ho : (CProtolSmp.init .agdspLog 1).Channel 0 := ⟨rfl, rfl, rfl⟩
  have hlen : (Received.bytes ⟨fun _ => 0, maxPortBuffRD⟩).length = 65520 := length_load _ _ _
  refine ⟨_, agdspPackets_cons .chr ho ⟨fun _ => 0, maxPortBuffRD⟩ [], ?_, ?_⟩
  · rw [List.length_append, length_addHeaders, hlen]
    rfl
  · rw [hlen]
    exact smpNext_wrapped _ _ _

end EngPc
