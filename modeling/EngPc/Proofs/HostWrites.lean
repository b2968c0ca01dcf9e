import EngPc.Proofs.AtReply
import EngPc.Proofs.Router

/-!
# What the host is sent for an AT command

`pre_write` and `post_write` are called around every write of the loop of `trans`, also the one that
forwards the request, and `post_write` looks at a text that has its header already. So the host
gets the acknowledgement, the response and the OK message once exactly if the request is not
forwarded, and the OK message in every case.
-/

namespace EngPc
open Buffer CString

variable {φ : Type} {cbs : List (EngCallback φ)} {F : Funcs φ} {dispatch : Dispatch}
  {m : MgrState} {t : TransState} {r : Received} {p : Processed}

def hostWrites (l : List (PortEnd × List UInt8)) : List (List UInt8) :=
  l.filterMap fun w => if w.1 = .src then some w.2 else none

def Processed.reply (p : Processed) : List UInt8 := p.encoded.1.load 0 p.encoded.2.toNat

/-- What the host is to get: the acknowledgement, the response, and the OK message unless the text
says so itself. -/
def Processed.hostExpected (p : Processed) : List (List UInt8) :=
  [emptyDiag, p.reply] ++ if strcaseeq (rspText p.rsp) (ofString "\r\nOK") then [] else [okRsp]

/-- `process` on a diag channel ends in `CDataDiag::process`. -/
lemma handle_finish (ht : t.DiagChannel) (hp : CDataDiag.handle cbs F dispatch m t r = .ok p) :
    ∃ s, p = CDataDiag.finish (t.obj.decode r.buff r.len).obj s := by
  rw [ht.handle_eq] at hp
  cases hs : mgrProcess cbs F dispatch t.obj.dataType m (t.obj.decode r.buff r.len).buff
      (fun _ => 0) (t.obj.decode r.buff r.len).len with
  | error e =>
    rw [hs] at hp
    cases hp
  | ok s =>
    rw [hs] at hp
    exact ⟨s, (Except.ok.inj hp).symm⟩

lemma flagged_text_ne {buff : Buffer UInt8} (h : buff 0 = 0x7e) :
    ¬strcaseeq (rspText buff) (ofString "\r\nOK") := by
  intro heq
  have hcons : ∃ l, rspText buff = 0x7e :: l := by
    unfold rspText
    rw [show maxChnlBuff = 65535 + 1 from rfl, cstr, if_neg (by rw [h]; decide), h]
    exact ⟨_, rfl⟩
  obtain ⟨l, hl⟩ := hcons
  rw [hl] at heq
  have hhead := congrArg List.head? heq
  revert hhead
  simp [ofString, toLower]

lemma answer_writes (ht : t.DiagChannel) (hp : CDataDiag.handle cbs F dispatch m t r = .ok p)
    (hAT : p.obj.nDiagAT = true) (hret : p.Answers) :
    hostWrites (CDataDiag.answer p.encoder p.ret p.rsp p.retlen) = [emptyDiag, p.reply, okRsp] := by
  have ho : p.encoder.atReply := hret.atReply hAT
  obtain ⟨s, rfl⟩ := handle_finish ht hp
  have hobj := (finish_encoder (t.obj.decode r.buff r.len).obj s).2.1
  obtain ⟨-, hload, -⟩ := encoded_text (hobj.symm.trans hAT) hret
  have hflag : (CDataDiag.finish (t.obj.decode r.buff r.len).obj s).encoded.1 0 = 0x7e := by
    have hhead := congrArg List.head? hload
    rw [show ∀ n k, n + 2 + k = n + k + 1 + 1 by omega, load_succ] at hhead
    simpa [flagged] using hhead
  have hne : (CDataDiag.finish (t.obj.decode r.buff r.len).obj s).ret ≠ .encodeToDest := by
    rcases hret with h | h <;> rw [h] <;> decide
  unfold CDataDiag.answer CDataDiag.writeOut CDataDiag.preWrite CDataDiag.postWrite
  dsimp only
  rw [if_pos ho, if_neg hne, if_pos ⟨ho, flagged_text_ne hflag⟩]
  rfl

lemma forward_writes (ho : p.encoder.atReply) (dstType : PortType) (bk : Buffer UInt8) (n : Nat) :
    hostWrites (CDataDiag.forward p.encoder dstType bk n) =
      if dstType = .loop then []
      else emptyDiag :: hostWrites (CDataDiag.postWrite p.encoder bk) := by
  unfold CDataDiag.forward
  split_ifs
  · rfl
  · unfold CDataDiag.writeOut CDataDiag.preWrite
    rw [if_pos ho]
    rfl

/-- Only a result that is for the CP as well has the request forwarded. -/
lemma transEnd_writes (hret : p.Answers) (dstType : PortType) (bk : Buffer UInt8) (n : Nat) :
    hostWrites (transEnd dstType bk n p).2.writes =
      hostWrites (CDataDiag.answer p.encoder p.ret p.rsp p.retlen) ++
        if p.ret = .dealSuccess then [] else hostWrites (CDataDiag.forward p.encoder dstType bk n) := by
  have hwrites : (transEnd dstType bk n p).2.writes =
      CDataDiag.writes p.encoder dstType p.ret p.rsp p.retlen bk n := rfl
  rw [hwrites]
  rcases hret with h | h
  · rw [h, if_pos rfl, List.append_nil]
    rfl
  · rw [h, if_neg (by decide)]
    exact List.filterMap_append

/-- The host sees what it is to see exactly if the text is not the OK message and the request is
not forwarded. -/
theorem host_sees_iff (dstType : PortType) (ht : t.DiagChannel)
    (hp : CDataDiag.handle cbs F dispatch m t r = .ok p) (hAT : p.obj.nDiagAT = true)
    (hret : p.Answers) :
    ∃ st out, transStep cbs F dispatch dstType m t r = .ok (st, out) ∧
      (hostWrites out.writes = p.hostExpected ↔
        ¬strcaseeq (rspText p.rsp) (ofString "\r\nOK") ∧
          (p.ret = .dealSuccess ∨ dstType = .loop)) := by
  refine ⟨_, _, by unfold transStep; rw [hp], ?_⟩
  rw [transEnd_writes hret, answer_writes ht hp hAT hret, forward_writes (hret.atReply hAT)]
  unfold Processed.hostExpected
  constructor
  · intro h
    have hlen := congrArg List.length h
    by_cases hok : strcaseeq (rspText p.rsp) (ofString "\r\nOK")
    · rw [if_pos hok] at hlen
      simp at hlen
    · rw [if_neg hok] at hlen
      refine ⟨hok, ?_⟩
      by_contra hnot
      rw [not_or] at hnot
      rw [if_neg hnot.1, if_neg hnot.2] at hlen
      simp at hlen
  · rintro ⟨hok, hforward⟩
    rw [if_neg hok]
    rcases hforward with h | h
    · rw [if_pos h]
      rfl
    · rw [if_pos h, ite_self]
      rfl

section Example

/-- One module whose command is also for the CP, or not. -/
def oneModule (alsoNeedToCp : Bool) : List (EngCallback Unit) :=
  [⟨0xffffffff, 0xff, 0xff, ofString "AT+N", alsoNeedToCp, none, some (), none, none⟩]

def sampleHandled (alsoNeedToCp : Bool) (text : List UInt8) : Except Fault Processed :=
  CDataDiag.handle (oneModule alsoNeedToCp) (answerWith text)
    (dispatchAt (oneModule alsoNeedToCp) (answerWith text) 0) .init (.init .diag 1)
    (diagAt (ofString "AT+N"))

def sampleStep (alsoNeedToCp : Bool) (text : List UInt8) (dstType : PortType) :
    Except Fault ((MgrState × TransState) × TransOut) :=
  transStep (oneModule alsoNeedToCp) (answerWith text)
    (dispatchAt (oneModule alsoNeedToCp) (answerWith text) 0) dstType .init (.init .diag 1)
    (diagAt (ofString "AT+N"))

end Example

theorem host_sees_plain_answer :
    ∃ p st out, sampleHandled false (ofString "x") = .ok p ∧
      sampleStep false (ofString "x") .gser = .ok (st, out) ∧
      hostWrites out.writes = p.hostExpected := by
  obtain ⟨st, out, hstep, hiff⟩ := host_sees_iff (m := .init) (r := diagAt (ofString "AT+N"))
    .gser (diagChannel_init .diag (.inl rfl)) (p := _)
    (rfl : sampleHandled false (ofString "x") = .ok _) rfl (by decide)
  exact ⟨_, st, out, rfl, hstep, hiff.mpr ⟨by decide, .inl rfl⟩⟩

/-- The host gets the OK message behind a text that is the OK message, and two acknowledgements for
a request that is also forwarded. -/
theorem host_sees_too_much :
    (∃ st out, sampleStep false (ofString "\r\nok") .gser = .ok (st, out) ∧
      hostWrites out.writes = [emptyDiag, flagged ([0, 0, 0, 0, 12, 0, 0x9c, 0x00] ++
        ofString "\r\nok"), okRsp]) ∧
    ∃ st out, sampleStep true (ofString "x") .gser = .ok (st, out) ∧
      hostWrites out.writes = [emptyDiag, flagged ([0, 0, 0, 0, 9, 0, 0x9c, 0x00] ++ ofString "x"),
        okRsp, emptyDiag, okRsp] :=
  ⟨⟨_, _, rfl, by decide⟩, _, _, rfl, by decide⟩

end EngPc
