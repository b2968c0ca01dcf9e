import EngPc.Lib.FlagFrame
import EngPc.Proofs.FrameStream
import EngPc.Proofs.HostWrites
import EngPc.Proofs.InvalidInput

/-!
# The router of packets

To the host and to the CP a diag channel is a router of packets: what the modules make of a request
says which packets go back and whether the request goes on. The loop of `trans` works on frames in
buffers; in each round the writes to the two ports are the frames of the packets that the router
sends, whatever other channels have done to the manager since the last request.
-/

namespace EngPc
open Buffer CString Machine

variable {φ : Type} {cbs : List (EngCallback φ)} {n : Nat}

/-- What the modules make of a request. -/
inductive Outcome
  | unhandled
  | silent
  | answered (packet : List UInt8) (forCp : Bool)
  deriving DecidableEq, Repr

def ackPacket : List UInt8 := [0, 0, 0, 0, 8, 0, 0xd5, 0]

def okPacket : List UInt8 := [0, 0, 0, 0, 14, 0, 0x9c, 0] ++ ofString "\r\nOK\r\n"

/-- The packets for the host. Around everything that the loop sends for an answered AT command stand
an acknowledgement and the OK message, also around the request that goes on. -/
def Outcome.toHost (isAT toLoop : Bool) : Outcome → List (List UInt8)
  | .answered packet forCp =>
    if isAT then
      [ackPacket, packet, okPacket] ++ if forCp && !toLoop then [ackPacket, okPacket] else []
    else [packet]
  | _ => []

/-- The packets for the CP. -/
def Outcome.toCp (request : List UInt8) (toLoop : Bool) : Outcome → List (List UInt8)
  | .unhandled | .answered _ true => if toLoop then [] else [request]
  | _ => []

/-- The packets for one of the two ports. -/
def Outcome.sent (o : Outcome) (isAT toLoop : Bool) (request : List UInt8) :
    PortEnd → List (List UInt8)
  | .src => o.toHost isAT toLoop
  | .dst => o.toCp request toLoop

/-- A packet between two flags. -/
def diagFrame (p : List UInt8) : List UInt8 := diagStuffing.frame 0x7e p

def nextDiagFrame : List UInt8 → Option (List UInt8 × List UInt8) := diagStuffing.nextFrame 0x7e

lemma diagFrame_eq (p : List UInt8) : diagFrame p = flagged (diagStuffing.stuff p) := rfl

lemma emptyDiag_eq : emptyDiag = diagFrame ackPacket := by decide

lemma okRsp_eq : okRsp = diagFrame okPacket := by decide

lemma read_diagFrames (ps : List (List UInt8)) :
    PacketStream.read nextDiagFrame (ps.map diagFrame).flatten = some ps :=
  diagStuffing.read_frames (.inr rfl) (by decide) ps

lemma flag_notMem_stuff (p : List UInt8) : 0x7e ∉ diagStuffing.stuff p :=
  diagStuffing.not_mem_stuff (f := 0x7e) (.inr rfl) (by decide) p

/-- A handler of an AT command may answer with a text and return 0. -/
def Served.answerLen (isAT : Bool) (s : Served) : Int :=
  if isAT = true ∧ s.rlen = 0 then (rspText s.rsp).length else s.rlen

/-- The outcome of what the manager leaves. The text of an AT command gets a header; any other
answer is the handler's own frame. -/
def Served.outcome (isAT : Bool) (s : Served) : Outcome :=
  if 0 < s.answerLen isAT then
    .answered (if isAT then replyInner (rspText s.rsp) else s.rsp.load 1 (s.rlen.toNat - 2))
      s.cpProcess
  else if s.answerLen isAT = engDiagNoResponse then .silent
  else .unhandled

def Outcome.ret : Outcome → DymicRet
  | .unhandled => .noDeal
  | .silent => .noResponseToPc
  | .answered _ true => .alsoNeedToCp
  | .answered _ false => .dealSuccess

lemma outcome_retlen (o : CProtolDiag) (s : Served) :
    (CDataDiag.finish o s).retlen = s.answerLen o.nDiagAT := by
  rw [(finish_encoder o s).2.2.1]
  unfold CProtolDiag.process Served.answerLen
  by_cases hAT : o.nDiagAT = true ∧ s.rlen = 0
  · rw [if_pos hAT]
    by_cases hlen : 0 < (rspText s.rsp).length
    · rw [if_pos ⟨hAT.1, hAT.2, hlen⟩]
    · rw [if_neg (fun h => hlen h.2.2), hAT.2]
      omega
  · rw [if_neg hAT, if_neg (fun h => hAT ⟨h.1, h.2.1⟩)]

lemma finish_ret_outcome (o : CProtolDiag) (s : Served) :
    (CDataDiag.finish o s).ret = (s.outcome o.nDiagAT).ret := by
  rw [finish_ret, outcome_retlen]
  unfold Served.outcome CTrans.process
  by_cases hpos : 0 < s.answerLen o.nDiagAT
  · rw [if_pos hpos, if_pos hpos]
    cases s.cpProcess <;> rfl
  · rw [if_neg hpos, if_neg hpos]
    by_cases hno : s.answerLen o.nDiagAT = engDiagNoResponse
    · rw [if_pos hno, if_pos hno, if_neg (by simp)]
      rfl
    · rw [if_neg hno, if_neg hno, if_neg (by simp)]
      rfl

/-- What goes to one of the two ports. -/
def portWrites (e : PortEnd) (l : List (PortEnd × List UInt8)) : List (List UInt8) :=
  l.filterMap fun w => if w.1 = e then some w.2 else none

lemma portWrites_append (e : PortEnd) (l l' : List (PortEnd × List UInt8)) :
    portWrites e (l ++ l') = portWrites e l ++ portWrites e l' := List.filterMap_append

lemma writeOut_plain {o : CProtolDiag} (ho : ¬o.atReply) (port : PortEnd) (buff : Buffer UInt8)
    (len : Nat) : CDataDiag.writeOut o port buff len = [(port, buff.load 0 len)] := by
  unfold CDataDiag.writeOut CDataDiag.preWrite CDataDiag.postWrite
  rw [if_neg ho, if_neg (fun h => ho h.1)]
  rfl

lemma writeOut_at {o : CProtolDiag} (ho : o.atReply) (port : PortEnd) {buff : Buffer UInt8}
    (hflag : buff 0 = 0x7e) (len : Nat) :
    CDataDiag.writeOut o port buff len =
      [(.src, emptyDiag), (port, buff.load 0 len), (.src, okRsp)] := by
  unfold CDataDiag.writeOut CDataDiag.preWrite CDataDiag.postWrite
  rw [if_pos ho, if_pos ⟨ho, flagged_text_ne hflag⟩]
  rfl

/-- The frame that `encode` makes of the packet of an answer. -/
lemma encoded_answer {o : CProtolDiag} {s : Served} {packet : List UInt8} {forCp : Bool}
    (h : s.outcome o.nDiagAT = .answered packet forCp)
    (hframed : o.nDiagAT = false → 0 < s.rlen →
      ∃ p, s.rlen = (p.length + 2 : Nat) ∧ s.rsp.load 0 (p.length + 2) = flagged p) :
    (CDataDiag.finish o s).encoded.1.load 0 (CDataDiag.finish o s).encoded.2.toNat =
      diagFrame packet := by
  have hanswers : (CDataDiag.finish o s).Answers := by
    unfold Processed.Answers
    rw [finish_ret_outcome, h]
    cases forCp
    · exact .inl rfl
    · exact .inr rfl
  obtain ⟨hrsp, hobj, -, -⟩ := finish_encoder o s
  unfold Served.outcome at h
  split_ifs at h with hpos hAT
  · obtain ⟨rfl, -⟩ := Outcome.answered.inj h
    obtain ⟨hlen, hload, -⟩ := encoded_text hAT hanswers
    rw [hlen, Int.toNat_natCast]
    exact hload
  · obtain ⟨rfl, -⟩ := Outcome.answered.inj h
    have hfalse : o.nDiagAT = false := by simpa using hAT
    have hlen : s.answerLen o.nDiagAT = s.rlen := if_neg (fun hand => hAT hand.1)
    rw [hlen] at hpos
    obtain ⟨p, hrlen, hp⟩ := hframed hfalse hpos
    have hnot : ¬(CDataDiag.finish o s).encoder.atReply := by
      rintro ⟨-, hdiag⟩
      exact hAT (hobj.symm.trans hdiag)
    have hretlen : (CDataDiag.finish o s).retlen = (p.length + 2 : Nat) := by
      rw [outcome_retlen, hlen, hrlen]
    obtain ⟨hsize, hload⟩ := encode_flagged (CDataDiag.finish o s).encoder hnot hp
    have hencoded : (CDataDiag.finish o s).encoded =
        (CDataDiag.finish o s).encoder.encode s.rsp (p.length + 2 : Nat) := by
      unfold Processed.encoded
      rw [hrsp, hretlen]
    rw [hencoded, hsize, Int.toNat_natCast, hload, hrlen, Int.toNat_natCast, Nat.add_sub_cancel,
      (load_flagged hp).2.1]
    rfl

lemma answer_ports {o : CProtolDiag} {s : Served} {packet : List UInt8} {forCp : Bool}
    (h : s.outcome o.nDiagAT = .answered packet forCp)
    (hframed : o.nDiagAT = false → 0 < s.rlen →
      ∃ p, s.rlen = (p.length + 2 : Nat) ∧ s.rsp.load 0 (p.length + 2) = flagged p) :
    let p := CDataDiag.finish o s
    CDataDiag.answer p.encoder p.ret p.rsp p.retlen =
      if o.nDiagAT then [(.src, emptyDiag), (.src, diagFrame packet), (.src, okRsp)]
      else [(.src, diagFrame packet)] := by
  intro p
  have hret : p.ret = (Outcome.answered packet forCp).ret := by
    rw [← h]
    exact finish_ret_outcome o s
  have hport : p.ret ≠ .encodeToDest := by
    rw [hret]
    cases forCp <;> simp [Outcome.ret]
  have hload : p.encoded.1.load 0 p.encoded.2.toNat = diagFrame packet := encoded_answer h hframed
  have hanswer : CDataDiag.answer p.encoder p.ret p.rsp p.retlen =
      CDataDiag.writeOut p.encoder .src p.encoded.1 p.encoded.2.toNat := by
    unfold CDataDiag.answer
    rw [if_neg hport]
    rfl
  have hobj : p.encoder.nDiagAT = o.nDiagAT := (finish_encoder o s).2.1
  rw [hanswer]
  by_cases hAT : o.nDiagAT = true
  · have ho : p.encoder.atReply := by
      refine ⟨?_, hobj.trans hAT⟩
      rw [show p.encoder.retType = p.ret from rfl, hret]
      cases forCp
      · exact .inl rfl
      · exact .inr rfl
    have hpos : 0 < p.encoded.2.toNat := by
      by_contra hzero
      rw [Nat.eq_zero_of_not_pos hzero] at hload
      cases hload
    have hflag : p.encoded.1 0 = 0x7e := by
      rw [show p.encoded.2.toNat = (p.encoded.2.toNat - 1) + 1 by omega, load_succ] at hload
      exact (List.cons.inj hload).1
    rw [writeOut_at ho .src hflag, hload, if_pos hAT]
  · have ho : ¬p.encoder.atReply := fun hat => hAT (hobj.symm.trans hat.2)
    rw [writeOut_plain ho, hload, if_neg hAT]

/-- A round of the channel: the request that it reads and what the manager leaves. -/
structure Exchange (φ : Type) where
  round : Round φ
  packet : List UInt8
  served : Served

def Exchange.isAT (x : Exchange φ) : Bool := x.round.read.frame.obj.nDiagAT

def Exchange.outcome (x : Exchange φ) : Outcome := x.served.outcome x.isAT

/-- The packets that the router sends through one of the two ports. -/
def Exchange.sent (x : Exchange φ) : PortEnd → List (List UInt8) :=
  x.outcome.sent x.isAT (x.round.dstType = .loop) x.packet

/-- The modules serve the request: nothing fails, a handler that answers a binary command leaves a
frame, and the escaped frame of every answer has room in the buffer. -/
structure Exchange.Serves (cbs : List (EngCallback φ)) (n : Nat) (dataType : DataType)
    (x : Exchange φ) : Prop where
  served_eq : mgrProcess cbs x.round.funcs (dispatchAt cbs x.round.funcs n) dataType x.round.mgr
    x.round.read.frame.buff (fun _ => 0) x.round.read.frame.len = .ok x.served
  framed : x.isAT = false → 0 < x.served.rlen →
    ∃ p, x.served.rlen = (p.length + 2 : Nat) ∧ x.served.rsp.load 0 (p.length + 2) = flagged p
  fits : ∀ p forCp, x.outcome = .answered p forCp → (diagFrame p).length ≤ maxChnlBuff

lemma checkframe_flagged {r : Received} {e : List UInt8} (hread : r.bytes = flagged e) :
    checkframe 1 r.buff r.len = ⟨.complete, r.buff, r.len⟩ := by
  have hlen : r.len = (flagged e).length := by
    rw [← hread]
    exact (length_load _ _ _).symm
  apply checkframe_ends
  · rw [hlen, length_flagged]
    omega
  · rw [show r.buff.load 0 r.len = flagged e from hread]
    exact flagEnds_flagged e

/-- A round whose read is a frame: the step gets the bytes as they are. -/
lemma transRound_frame (cbs : List (EngCallback φ)) (n : Nat) {t : TransState}
    (ht : t.DiagChannel) {q : Round φ} {e : List UInt8} (hread : q.read.bytes = flagged e) :
    transRound cbs n t q = (transStep cbs q.funcs (dispatchAt cbs q.funcs n) q.dstType q.mgr
      (t.afterRead q) q.read).map fun r => (r.1.2, r.2) := by
  unfold transRound
  rw [ht.ap, checkframe_flagged hread]
  dsimp only
  cases transStep cbs q.funcs (dispatchAt cbs q.funcs n) q.dstType q.mgr (t.afterRead q) q.read <;>
    rfl

lemma forward_frame (o : CProtolDiag) (dstType : PortType) {bk : Buffer UInt8} {len : Nat}
    {p : List UInt8} (h : bk.load 0 len = diagFrame p) :
    CDataDiag.forward o dstType bk len =
      if dstType = .loop then []
      else if o.atReply then [(.src, emptyDiag), (.dst, diagFrame p), (.src, okRsp)]
      else [(.dst, diagFrame p)] := by
  unfold CDataDiag.forward
  split_ifs with hloop ho
  · rfl
  · have hflag : bk 0 = 0x7e := by
      cases len with
      | zero => cases h
      | succ len =>
        rw [load_succ] at h
        exact (List.cons.inj h).1
    rw [writeOut_at ho .dst hflag, h]
  · rw [writeOut_plain ho, h]

/-- The writes for a request are the frames of the packets that the router sends. -/
lemma finish_writes (o : CProtolDiag) (s : Served) (dstType : PortType) {bk : Buffer UInt8}
    {len : Nat} {request : List UInt8} (hcopy : bk.load 0 len = diagFrame request)
    (hframed : o.nDiagAT = false → 0 < s.rlen →
      ∃ p, s.rlen = (p.length + 2 : Nat) ∧ s.rsp.load 0 (p.length + 2) = flagged p) (e : PortEnd) :
    let p := CDataDiag.finish o s
    portWrites e (CDataDiag.writes p.encoder dstType p.ret p.rsp p.retlen bk len) =
      ((s.outcome o.nDiagAT).sent o.nDiagAT (dstType = .loop) request e).map diagFrame := by
  intro p
  have hret : p.ret = (s.outcome o.nDiagAT).ret := finish_ret_outcome o s
  have hforward := forward_frame p.encoder dstType hcopy
  have hobj : p.encoder.nDiagAT = o.nDiagAT := (finish_encoder o s).2.1
  have htype : p.encoder.retType = p.ret := rfl
  cases hout : s.outcome o.nDiagAT with
  | unhandled =>
    rw [hout] at hret
    have ho : ¬p.encoder.atReply := by
      rintro ⟨h | h, -⟩
      · rw [htype, hret] at h
        cases h
      · rw [htype, hret] at h
        cases h
    rw [hret]
    simp only [Outcome.ret, CDataDiag.writes, hforward, if_neg ho]
    by_cases hloop : dstType = .loop
    · cases e <;> simp [hloop, portWrites, Outcome.sent, Outcome.toHost, Outcome.toCp]
    · cases e <;> simp [hloop, portWrites, Outcome.sent, Outcome.toHost, Outcome.toCp]
  | silent =>
    rw [hret, hout]
    cases e <;> rfl
  | answered packet forCp =>
    have hanswer := answer_ports hout hframed
    have ho : p.encoder.atReply ↔ o.nDiagAT = true := by
      rw [← hobj]
      refine ⟨And.right, fun h => ⟨?_, h⟩⟩
      rw [htype, hret, hout]
      cases forCp
      · exact .inl rfl
      · exact .inr rfl
    have hwrites : CDataDiag.writes p.encoder dstType p.ret p.rsp p.retlen bk len =
        CDataDiag.answer p.encoder p.ret p.rsp p.retlen ++
          if forCp then CDataDiag.forward p.encoder dstType bk len else [] := by
      rw [hret, hout]
      cases forCp
      · exact (List.append_nil _).symm
      · rfl
    rw [hwrites, hanswer, hforward, portWrites_append]
    cases hAT : o.nDiagAT <;> cases forCp <;> by_cases hloop : dstType = .loop <;> cases e <;>
      simp [hAT, ho, hloop, portWrites, Outcome.sent, Outcome.toHost, Outcome.toCp, emptyDiag_eq,
        okRsp_eq]

lemma Exchange.Serves.round {dataType : DataType} {x : Exchange φ} (h : x.Serves cbs n dataType)
    (hread : x.round.read.bytes = diagFrame x.packet) {t : TransState} (ht : t.DiagChannel)
    (hkind : t.obj.dataType = dataType) :
    ∃ t' out, transRound cbs n t x.round = .ok (t', out) ∧ t'.DiagChannel ∧
      t'.obj.dataType = dataType ∧ out.calls = x.served.calls ∧
      ∀ e, portWrites e out.writes = (x.sent e).map diagFrame := by
  have hafter := ht.afterRead x.round
  have hobj : (t.afterRead x.round).obj.dataType = dataType := by
    unfold TransState.afterRead CProtolDiag.judge
    rw [if_neg (not_not_intro ht.ap)]
    exact hkind
  have hserved : mgrProcess cbs x.round.funcs (dispatchAt cbs x.round.funcs n)
      (t.afterRead x.round).obj.dataType x.round.mgr
      ((t.afterRead x.round).obj.decode x.round.read.buff x.round.read.len).buff (fun _ => 0)
      ((t.afterRead x.round).obj.decode x.round.read.buff x.round.read.len).len =
        .ok x.served := by
    rw [hobj]
    exact h.served_eq
  have hround : transRound cbs n t x.round =
      .ok ((transOf x.round.dstType (t.afterRead x.round) x.round.read x.served).1.2,
        (transOf x.round.dstType (t.afterRead x.round) x.round.read x.served).2) := by
    rw [transRound_frame cbs n ht hread, hafter.transStep_eq hserved]
    rfl
  refine ⟨_, _, hround, ht.round hround, ?_, transOf_calls _ _ _ _, fun e => ?_⟩
  · exact (finish_ctrans _ x.served).1.trans hobj
  · exact finish_writes ((t.afterRead x.round).obj.decode x.round.read.buff x.round.read.len).obj
      x.served x.round.dstType
      ((load_fill_of_length _ _ (length_load _ _ _)).trans hread) h.framed e

lemma Exchange.Serves.sent_fits {dataType : DataType} {x : Exchange φ}
    (h : x.Serves cbs n dataType) (hfit : (diagFrame x.packet).length ≤ maxChnlBuff) (e : PortEnd) :
    ∀ p ∈ x.sent e, (diagFrame p).length ≤ maxChnlBuff := by
  have hack : (diagFrame ackPacket).length ≤ maxChnlBuff := by decide
  have hok : (diagFrame okPacket).length ≤ maxChnlBuff := by decide
  intro p hp
  unfold Exchange.sent at hp
  cases hout : x.outcome with
  | unhandled => cases e <;> simp_all [Outcome.sent, Outcome.toHost, Outcome.toCp]
  | silent => cases e <;> simp_all [Outcome.sent, Outcome.toHost, Outcome.toCp]
  | answered packet forCp =>
    have hpacket := h.fits packet forCp hout
    rw [hout] at hp
    cases e with
    | src =>
      simp only [Outcome.sent, Outcome.toHost] at hp
      split_ifs at hp <;> simp at hp <;> grind
    | dst => cases forCp <;> simp_all [Outcome.sent, Outcome.toCp]

/-- The bytes that a run writes to one of the ports. -/
def streamTo (e : PortEnd) (os : List TransOut) : List UInt8 :=
  (os.flatMap fun out => portWrites e out.writes).flatten

lemma received_frames (p : CPort) (hopen : p.bEnableRD = true ∧ p.fdOpen = true ∧ p.portType ≠ .loop)
    (buff : Buffer UInt8) (noise : List UInt8) (hnoise : 0x7e ∉ noise) (ps : List (List UInt8))
    (hfit : ∀ q ∈ ps, (diagFrame q).length ≤ maxChnlBuff) (groups : List (List (List UInt8)))
    (happart : HeldApart noise (ps.map diagFrame) groups)
    (hlone : ∀ g ∈ groups, g.head? ≠ some [0x7e])
    (hgrant : p.grants 1 buff (groups.flatten.map .data)) :
    (p.received 1 buff (groups.flatten.map .data)).map Received.bytes = ps.map diagFrame := by
  have hes : ps.map diagFrame = (ps.map diagStuffing.stuff).map flagged := by
    rw [List.map_map]
    rfl
  have hreqs : requests p.portType maxChnlBuff (rdStart p.portType maxChnlBuff buff)
      groups.flatten = (ps.map diagStuffing.stuff).map flagged := requests_heldApart noise hnoise
    (ps.map diagStuffing.stuff)
    (by
      intro e he
      obtain ⟨q, -, rfl⟩ := List.mem_map.mp he
      exact flag_notMem_stuff q)
    (by
      intro e he
      obtain ⟨q, hq, rfl⟩ := List.mem_map.mp he
      exact hfit q hq)
    groups (granted_ne_nil _ _ _ _ _ hgrant) (by rw [← hes]; exact happart) hlone buff
  unfold CPort.received
  rw [if_pos hopen, hes]
  exact hreqs

end EngPc
