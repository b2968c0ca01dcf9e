import EngPc.Model.HostMessages
import EngPc.Proofs.DiagCodec

/-!
# Messages that nobody asked for, as the host decodes them

The handlers escape a message and `write_to_host_diag` escapes it again, so one decoding gives the
escaped message. That is the message itself exactly if it has nothing to escape.
-/

namespace EngPc
open Buffer LittleEndian

/-- The bytes of a message arrive in `buff`, and one `decode` gives the frame `0x7E.m.0x7E`. -/
def DecodesTo (bytes m : List UInt8) : Prop :=
  ∀ (o : CProtolDiag) (buff : Buffer UInt8), buff.load 0 bytes.length = bytes →
    (o.decode buff bytes.length).buff.load 0 (o.decode buff bytes.length).len = flagged m

lemma writeToHostDiag_eq (buff : Buffer UInt8) (e : List UInt8)
    (h : buff.load 0 (e.length + 2) = flagged e) :
    writeToHostDiag buff (e.length + 2) = flagged (diagStuffing.stuff e) := by
  obtain ⟨-, hinner, -⟩ := load_flagged h
  unfold writeToHostDiag CProtolDiag.translatePacket
  dsimp only
  rw [(translate_spec _ _ _).1, load_offset, Nat.add_sub_cancel, hinner]

lemma sendRsp_eq (head : MsgHead) (data : List UInt8)
    (hlen : head.len.toNat = msgHeadLen + data.length) :
    sendRsp head data =
      flagged (diagStuffing.stuff (diagStuffing.stuff (head.bytes ++ data))) := by
  have htmp : (fill (fill (fun _ => 0) 0 head.bytes) msgHeadLen data).load 0 head.len.toNat =
      head.bytes ++ data := by
    have hhead : (fill (fun _ => (0 : UInt8)) 0 head.bytes).load 0 msgHeadLen = head.bytes := by
      rw [← head.length_bytes, load_fill]
    rw [hlen, load_fill_append, hhead]
  have hrsp := (translate_spec (fun _ => 0)
    (fill (fill (fun _ => 0) 0 head.bytes) msgHeadLen data) head.len.toNat).1
  rw [htmp] at hrsp
  have hsize : (translate (fun _ => 0) (fill (fill (fun _ => 0) 0 head.bytes) msgHeadLen data)
      head.len.toNat).2 = (diagStuffing.stuff (head.bytes ++ data)).length + 2 := by
    have hlength := congrArg List.length hrsp
    rwa [length_load, length_flagged] at hlength
  unfold sendRsp CpCtl.translatePacket
  dsimp only
  rw [hsize] at hrsp ⊢
  exact writeToHostDiag_eq _ _ hrsp

lemma decodesTo_iff (m : List UInt8) :
    DecodesTo (flagged (diagStuffing.stuff (diagStuffing.stuff m))) m ↔
      ∀ b ∈ m, ¬isEscape b := by
  have hdecode : ∀ (o : CProtolDiag) (buff : Buffer UInt8),
      buff.load 0 (flagged (diagStuffing.stuff (diagStuffing.stuff m))).length =
        flagged (diagStuffing.stuff (diagStuffing.stuff m)) →
      (o.decode buff (flagged (diagStuffing.stuff (diagStuffing.stuff m))).length).buff.load 0
        (o.decode buff (flagged (diagStuffing.stuff (diagStuffing.stuff m))).length).len =
        flagged (diagStuffing.stuff m) := by
    intro o buff hbuff
    rw [length_flagged] at hbuff ⊢
    rw [(decode_flagged o hbuff).2, diagStuffing.unstuff_stuff]
  constructor
  · intro h
    have hone := h (.init .diag 1) (fill (fun _ => 0) 0 _) (load_fill _ _ _)
    rw [hdecode _ _ (load_fill _ _ _)] at hone
    apply (diagStuffing.stuff_eq_self_iff m).mp
    unfold flagged at hone
    simpa using hone
  · intro h o buff hbuff
    rw [hdecode o buff hbuff, (diagStuffing.stuff_eq_self_iff m).mpr h]

inductive HostMessage
  | timeSync (ts : ModemTimestamp)
  | cpEvent (ev : CpEventNotify)

def HostMessage.sent : HostMessage → List UInt8
  | .timeSync ts => timeSyncRspHandle ts
  | .cpEvent ev => cpEventNotifyRspHandle ev

def HostMessage.struct : HostMessage → List UInt8
  | .timeSync ts => ts.bytes
  | .cpEvent ev => ev.bytes

/-- The header with the length of the message, and the payload. -/
def HostMessage.plain : HostMessage → List UInt8
  | .timeSync ts => (MsgHead.mk 0 24 0x05 0x11).bytes ++ ((ToolsDiagApCnf.mk 0 12).bytes ++ ts.bytes)
  | .cpEvent ev => (MsgHead.mk 0 10 0x33 0xff).bytes ++ ev.bytes

lemma HostMessage.sent_eq (m : HostMessage) :
    m.sent = flagged (diagStuffing.stuff (diagStuffing.stuff m.plain)) := by
  cases m with
  | timeSync ts =>
    apply sendRsp_eq timeSyncHead
    simp [timeSyncHead, msgHeadLen, ToolsDiagApCnf.bytes, ModemTimestamp.bytes]
  | cpEvent ev =>
    apply sendRsp_eq cpEventHead
    simp [cpEventHead, msgHeadLen, CpEventNotify.bytes]

lemma plain_of_all {l : List UInt8} (h : (l.all fun b => ¬isEscape b) = true) :
    ∀ b ∈ l, ¬isEscape b := by
  intro b hb
  exact of_decide_eq_true (List.all_eq_true.mp h b hb)

lemma HostMessage.plain_escapes (m : HostMessage) :
    (∀ b ∈ m.plain, ¬isEscape b) ↔ ∀ b ∈ m.struct, ¬isEscape b := by
  cases m with
  | timeSync ts =>
    have hhead : ∀ b ∈ (MsgHead.mk 0 24 0x05 0x11).bytes ++ (ToolsDiagApCnf.mk 0 12).bytes,
        ¬isEscape b := plain_of_all (by decide)
    rw [HostMessage.plain, ← List.append_assoc, List.forall_mem_append]
    exact and_iff_right hhead
  | cpEvent ev =>
    have hhead : ∀ b ∈ (MsgHead.mk 0 10 0x33 0xff).bytes, ¬isEscape b :=
      plain_of_all (by decide)
    rw [HostMessage.plain, List.forall_mem_append]
    exact and_iff_right hhead

/-- One decoding gives the message exactly if no byte of the structure is 0x7D or 0x7E. -/
theorem host_message_decodes_iff (m : HostMessage) :
    DecodesTo m.sent m.plain ↔ ∀ b ∈ m.struct, b ≠ 0x7d ∧ b ≠ 0x7e := by
  rw [m.sent_eq, decodesTo_iff, m.plain_escapes]
  simp [isEscape]

/-- 0x7E in the microseconds: the host gets `7D 5E` there. -/
theorem time_stamp_escaped_twice : ¬DecodesTo (HostMessage.timeSync ⟨0x5f000000, 0x7e, 1⟩).sent
    (HostMessage.timeSync ⟨0x5f000000, 0x7e, 1⟩).plain := by
  intro h
  have hone := h (.init .diag 1) (fill (fun _ => 0) 0 _) (load_fill _ _ _)
  revert hone
  decide

end EngPc
