import EngPc.Model.MsgHead
import EngPc.Proofs.DiagCodec
import EngPc.Proofs.Session

/-!
# Responses on their way to the host

What `encode` makes of the response that `CDataDiag::process` has left: for a diag-AT request the
text, less its PENDING mark, gets a header; then the inner bytes are escaped in place. From this come
the room a response needs, the frame that the host decodes, and what the host is sent in all.
-/

namespace EngPc
open Buffer CString

def escapes (l : List UInt8) : Nat := l.countP fun c => isEscape c

lemma length_diag_stuff (l : List UInt8) :
    (diagStuffing.stuff l).length = l.length + escapes l := diagStuffing.length_stuff l

lemma escapes_load_pos {b : Buffer UInt8} {off n : Nat} (h : isEscape (b off)) (hn : 0 < n) :
    0 < escapes (b.load off n) := by
  obtain ⟨n, rfl⟩ : ∃ m, n = m + 1 := ⟨n - 1, by omega⟩
  rw [load_succ, escapes, List.countP_cons_of_pos (by simpa using h)]
  omega

lemma encodeLoop_room (buff : Buffer UInt8) (len : Nat) :
    ∃ b, encodeLoop (2 * len + 1) 1 len buff = some (len + escapes (buff.load 1 (len - 2)), b) ∧
      (2 ≤ len → b.load 0 (len + escapes (buff.load 1 (len - 2))) =
        buff 0 :: diagStuffing.stuff (buff.load 1 (len - 2)) ++ [buff (len - 1)]) ∧
      ∀ k, len + escapes (buff.load 1 (len - 2)) ≤ k → b k = buff k := by
  by_cases h : 2 ≤ len
  · obtain ⟨n, b, he, hl, -, hk⟩ := encodeLoop_spec (2 * len + 1) 1 len buff (by omega) (by omega)
    have hinner : len - 1 - 1 = len - 2 := by omega
    rw [hinner] at hl
    have hn : n = len + escapes (buff.load 1 (len - 2)) := by
      have hlength := congrArg List.length hl
      simp only [length_load, List.length_append, List.length_cons, List.length_nil,
        length_diag_stuff] at hlength
      omega
    subst hn
    refine ⟨b, he, fun _ => hl, hk⟩
  · have hinner : len - 2 = 0 := by omega
    rw [hinner, load_zero, encodeLoop, if_neg (by omega)]
    exact ⟨buff, rfl, fun h2 => absurd h2 h, fun _ _ => rfl⟩

/-- What `encode` escapes: the response, or the frame of its text. -/
def CProtolDiag.reframed (o : CProtolDiag) (buff : Buffer UInt8) (len : Int) : Buffer UInt8 × Int :=
  if o.atReply then o.atFrame buff else (buff, len)

lemma encode_room {o : CProtolDiag} {buff b : Buffer UInt8} {len : Int} {l : Nat}
    (h : o.reframed buff len = (b, (l : Int))) :
    (o.encode buff len).2 = (l + escapes (b.load 1 (l - 2)) : Nat) ∧
    (2 ≤ l → (o.encode buff len).1.load 0 (l + escapes (b.load 1 (l - 2))) =
      b 0 :: diagStuffing.stuff (b.load 1 (l - 2)) ++ [b (l - 1)]) ∧
    ∀ k, l + escapes (b.load 1 (l - 2)) ≤ k → (o.encode buff len).1 k = b k := by
  obtain ⟨c, he, hload, hk⟩ := encodeLoop_room b l
  have hencode : o.encode buff len = (c, ((l + escapes (b.load 1 (l - 2)) : Nat) : Int)) := by
    unfold CProtolDiag.reframed at h
    unfold CProtolDiag.encode
    rw [h]
    simp only [Int.toNat_natCast, he, Option.getD_some]
    congr 1
    omega
  rw [hencode]
  exact ⟨rfl, hload, hk⟩

def CProtolDiag.nPendingLen (o : CProtolDiag) : Nat := if o.bPending then pendingMark.length else 0

lemma length_atHead (len : Int) : (atHead len).length = msgHeadLen := rfl

lemma atFrame_spec (o : CProtolDiag) (buff : Buffer UInt8) (m : Nat)
    (hm : (rspText buff).length = m + o.nPendingLen) :
    (o.atFrame buff).2 = (m + 10 : Nat) ∧
    (o.atFrame buff).1.load 0 (m + 10) =
      flagged (atHead (m + 8 : Nat) ++ (rspText buff).take m) ∧
    ∀ k, m + 10 ≤ k → (o.atFrame buff).1 k = buff k := by
  have hcopied : buff.load 0 m = (rspText buff).take m := by
    have htext := load_cstr buff 0 maxChnlBuff
    rw [← load_take buff 0 (show m ≤ (rspText buff).length by omega)]
    exact congrArg (List.take m) htext
  have hlen : (((rspText buff).length : Int) + msgHeadLen - o.nPendingLen) = (m + 8 : Nat) := by
    simp only [msgHeadLen]
    omega
  have hpos : (((m + 8 : Nat) : Int) + 1).toNat = m + 9 := by omega
  have hframe : o.atFrame buff =
      ((((buff.copy 9 0 m).fill 1 (atHead (m + 8 : Nat))).store 0 0x7e).store (m + 9) 0x7e,
        ((m + 8 : Nat) : Int) + 2) := by
    unfold CProtolDiag.atFrame
    dsimp only
    rw [show (if o.bPending then pendingMark.length else 0) = o.nPendingLen from rfl,
      show (cstr buff 0 maxChnlBuff).length = (rspText buff).length from rfl, hlen, hpos]
    congr 5
    omega
  rw [hframe]
  refine ⟨by push_cast; ring, ?_, ?_⟩
  · have hhead : (((buff.copy 9 0 m).fill 1 (atHead (m + 8 : Nat))).store 0 0x7e).load 1 8 =
        atHead (m + 8 : Nat) := by
      rw [load_store_outside _ _ (by omega)]
      exact load_fill _ 1 (atHead (m + 8 : Nat))
    have hbody : (((buff.copy 9 0 m).fill 1 (atHead (m + 8 : Nat))).store 0 0x7e).load 9 m =
        (rspText buff).take m := by
      rw [load_store_outside _ _ (by omega), ← hcopied, ← load_copy buff 9 0 m]
      apply load_congr
      intro i _
      apply fill_outside
      right
      rw [length_atHead, msgHeadLen]
      omega
    rw [show m + 10 = m + 9 + 1 by omega, load_store_snoc, show m + 9 = 1 + (8 + m) by omega,
      load_add, load_add, show 0 + 1 = 1 from rfl, show 1 + 8 = 9 from rfl, hhead, hbody]
    simp [flagged, load_succ]
  · intro k hk
    dsimp only
    rw [store_ne _ _ (by omega), store_ne _ _ (by omega), fill_outside _ (by
      right
      rw [length_atHead, msgHeadLen]
      omega), copy_outside _ (by omega)]

/-- The frame of a text of which `m` bytes are kept, and the room it takes once escaped. -/
lemma encode_text {o : CProtolDiag} (ho : o.atReply) (buff : Buffer UInt8) (len : Int) (m : Nat)
    (hm : (rspText buff).length = m + o.nPendingLen) :
    let inner := atHead (m + 8 : Nat) ++ (rspText buff).take m
    (o.encode buff len).2 = (inner.length + 2 + escapes inner : Nat) ∧
    (o.encode buff len).1.load 0 (inner.length + 2 + escapes inner) =
      flagged (diagStuffing.stuff inner) ∧
    ∀ k, inner.length + 2 + escapes inner ≤ k → (o.encode buff len).1 k = buff k := by
  intro inner
  obtain ⟨hlen, hframe, hk⟩ := atFrame_spec o buff m hm
  have hinner : m + 10 = inner.length + 2 := by
    simp only [inner, List.length_append, length_atHead, msgHeadLen, List.length_take]
    omega
  rw [hinner] at hlen hframe hk
  obtain ⟨hhead, hbody, hlast⟩ := load_flagged hframe
  have hre : o.reframed buff len = ((o.atFrame buff).1, ((inner.length + 2 : Nat) : Int)) := by
    unfold CProtolDiag.reframed
    rw [if_pos ho]
    exact Prod.ext rfl hlen
  obtain ⟨hsize, hload, hout⟩ := encode_room hre
  rw [Nat.add_sub_cancel, hbody] at hsize hload hout
  refine ⟨hsize, ?_, ?_⟩
  · rw [hload (by omega), hhead, show inner.length + 2 - 1 = inner.length + 1 by omega, hlast]
    rfl
  · intro k hle
    rw [hout k hle]
    exact hk k (by omega)

/-- The object that `trans` calls `encode` on. -/
def Processed.encoder (p : Processed) : CProtolDiag := { p.obj with retType := p.ret }

/-- The text less the PENDING mark that ends it, unless it tells of an error. -/
def keptText (text : List UInt8) : List UInt8 :=
  if pendingMark <:+ text ∧ ¬strcasestr text (ofString "ERROR") then
    text.take (text.length - pendingMark.length)
  else text

lemma marked_iff (text : List UInt8) :
    marked text ↔ pendingMark <:+ text ∧ ¬strcasestr text (ofString "ERROR") := by
  have hsuffix : text.drop (text.length - pendingMark.length) = pendingMark ↔
      pendingMark <:+ text := by
    rw [List.suffix_iff_eq_drop]
    exact eq_comm
  constructor
  · rintro ⟨herror, -, hdrop⟩
    exact ⟨hsuffix.mp hdrop, herror⟩
  · rintro ⟨hmark, herror⟩
    refine ⟨herror, ?_, hsuffix.mpr hmark⟩
    unfold strcasestr
    exact List.IsInfix.map toLower hmark.isInfix

lemma finish_encoder (o : CProtolDiag) (s : Served) :
    (CDataDiag.finish o s).rsp = s.rsp ∧ (CDataDiag.finish o s).obj.nDiagAT = o.nDiagAT ∧
    (CDataDiag.finish o s).retlen = o.process (rspText s.rsp) s.rlen ∧
    ((CDataDiag.finish o s).obj.bPending = true ↔ o.checkPending (rspText s.rsp)) := by
  unfold CDataDiag.finish
  split_ifs with h
  · exact ⟨rfl, rfl, rfl, by simp [h]⟩
  · exact ⟨rfl, rfl, rfl, by simp [h]⟩

/-- The length that `encode` takes off the text, and what it leaves of it. -/
lemma finish_kept {o : CProtolDiag} (hAT : o.nDiagAT = true) (s : Served) :
    (rspText s.rsp).length =
      (keptText (rspText s.rsp)).length + (CDataDiag.finish o s).encoder.nPendingLen ∧
    (rspText s.rsp).take (keptText (rspText s.rsp)).length = keptText (rspText s.rsp) := by
  have hpending : (CDataDiag.finish o s).encoder.bPending = true ↔ marked (rspText s.rsp) := by
    rw [show (CDataDiag.finish o s).encoder.bPending = (CDataDiag.finish o s).obj.bPending from rfl,
      (finish_encoder o s).2.2.2, checkPending_iff]
    exact and_iff_right hAT
  unfold CProtolDiag.nPendingLen keptText
  by_cases hmark : marked (rspText s.rsp)
  · have hlen := ((marked_iff _).mp hmark).1.length_le
    rw [if_pos (hpending.mpr hmark), if_pos ((marked_iff _).mp hmark)]
    refine ⟨?_, ?_⟩
    · rw [List.length_take]
      omega
    · rw [List.length_take, Nat.min_eq_left (by omega)]
  · rw [if_neg (fun h => hmark (hpending.mp h)), if_neg (fun h => hmark ((marked_iff _).mpr h))]
    exact ⟨rfl, List.take_length⟩

def Processed.Answers (p : Processed) : Prop := p.ret = .dealSuccess ∨ p.ret = .alsoNeedToCp

instance (p : Processed) : Decidable p.Answers := inferInstanceAs (Decidable (_ ∨ _))

/-- `encode` on the response, as `trans` calls it. -/
def Processed.encoded (p : Processed) : Buffer UInt8 × Int := p.encoder.encode p.rsp p.retlen

lemma Processed.Answers.atReply {p : Processed} (hret : p.Answers) (hAT : p.obj.nDiagAT = true) :
    p.encoder.atReply := ⟨hret, hAT⟩

lemma finish_ret (o : CProtolDiag) (s : Served) :
    (CDataDiag.finish o s).ret =
      if CTrans.process (CDataDiag.finish o s).retlen = .dealSuccess ∧ s.cpProcess = true then
        .alsoNeedToCp
      else CTrans.process (CDataDiag.finish o s).retlen := by
  unfold CDataDiag.finish
  dsimp only
  by_cases h : o.checkPending (rspText s.rsp)
  · rw [if_pos h]
  · rw [if_neg h]

lemma answers_retlen {o : CProtolDiag} {s : Served} (h : (CDataDiag.finish o s).Answers) :
    0 < (CDataDiag.finish o s).retlen := by
  by_contra hle
  have hno : CTrans.process (CDataDiag.finish o s).retlen ≠ .dealSuccess ∧
      CTrans.process (CDataDiag.finish o s).retlen ≠ .alsoNeedToCp := by
    unfold CTrans.process
    rw [if_neg hle]
    split_ifs <;> simp
  unfold Processed.Answers at h
  rw [finish_ret, if_neg (fun hand => hno.1 hand.1)] at h
  exact h.elim hno.1 hno.2

/-- The bytes that a diag-AT request's text is sent as, before escaping. -/
def replyInner (text : List UInt8) : List UInt8 :=
  atHead ((keptText text).length + 8 : Nat) ++ keptText text

lemma encoded_text {o : CProtolDiag} {s : Served} (hAT : o.nDiagAT = true)
    (hret : (CDataDiag.finish o s).Answers) :
    let inner := replyInner (rspText s.rsp)
    let e := (CDataDiag.finish o s).encoded
    e.2 = (inner.length + 2 + escapes inner : Nat) ∧
    e.1.load 0 (inner.length + 2 + escapes inner) = flagged (diagStuffing.stuff inner) ∧
    ∀ k, inner.length + 2 + escapes inner ≤ k → e.1 k = s.rsp k := by
  obtain ⟨hrsp, hobj, -, -⟩ := finish_encoder o s
  obtain ⟨hlen, htake⟩ := finish_kept hAT s
  have ho := hret.atReply (hobj.trans hAT)
  have htext := encode_text ho (CDataDiag.finish o s).rsp (CDataDiag.finish o s).retlen
    (keptText (rspText s.rsp)).length (by rw [hrsp]; exact hlen)
  rw [hrsp, htake] at htext
  intro inner e
  have hencoded : e = (CDataDiag.finish o s).encoder.encode s.rsp (CDataDiag.finish o s).retlen := by
    simp only [e, Processed.encoded, hrsp]
  rw [hencoded]
  exact htext

/-- The size of an encoded response: of the frame of the text, or of the handler's own frame. -/
def replySize (o : CProtolDiag) (s : Served) : Nat :=
  if o.nDiagAT = true then
    (replyInner (rspText s.rsp)).length + 2 + escapes (replyInner (rspText s.rsp))
  else s.rlen.toNat + escapes (s.rsp.load 1 (s.rlen.toNat - 2))

/-- `encode` returns at most the size of `m_chnl_buff_rsp` and changes nothing behind it, whatever
stands there. -/
def StaysInBuffer (rsp : Buffer UInt8) (e : Buffer UInt8 × Int) : Prop :=
  e.2 ≤ maxChnlBuff ∧ ∀ k, maxChnlBuff ≤ k → e.1 k = rsp k

lemma encoded_size {o : CProtolDiag} {s : Served} (hret : (CDataDiag.finish o s).Answers) :
    (CDataDiag.finish o s).encoded.2 = (replySize o s : Nat) ∧
    ∀ k, replySize o s ≤ k → (CDataDiag.finish o s).encoded.1 k = s.rsp k := by
  unfold replySize
  split_ifs with hAT
  · obtain ⟨hsize, -, hk⟩ := encoded_text hAT hret
    exact ⟨hsize, hk⟩
  · obtain ⟨hrsp, hobj, hretlen, -⟩ := finish_encoder o s
    have hprocess : o.process (rspText s.rsp) s.rlen = s.rlen := by
      unfold CProtolDiag.process
      rw [if_neg (fun hand => hAT hand.1)]
    have hpos := answers_retlen hret
    rw [hprocess] at hretlen
    have hnot : ¬(CDataDiag.finish o s).encoder.atReply := by
      rintro ⟨-, hdiag⟩
      exact hAT (hobj.symm.trans hdiag)
    have hre : (CDataDiag.finish o s).encoder.reframed (CDataDiag.finish o s).rsp
        (CDataDiag.finish o s).retlen = (s.rsp, ((s.rlen.toNat : Nat) : Int)) := by
      unfold CProtolDiag.reframed
      rw [if_neg hnot, hrsp]
      congr 1
      omega
    obtain ⟨hsize, -, hk⟩ := encode_room hre
    exact ⟨hsize, hk⟩

/-- A response stays in the buffer exactly if it fits there with a header and flags where it is a
text, and with one byte more for each byte that is escaped. -/
theorem response_fits_iff (o : CProtolDiag) (s : Served)
    (hret : (CDataDiag.finish o s).Answers) :
    StaysInBuffer s.rsp (CDataDiag.finish o s).encoded ↔ replySize o s ≤ maxChnlBuff := by
  obtain ⟨hsize, hk⟩ := encoded_size hret
  unfold StaysInBuffer
  rw [hsize]
  constructor
  · rintro ⟨hle, -⟩
    exact_mod_cast hle
  · intro hle
    exact ⟨by exact_mod_cast hle, fun k hmax => hk k (by omega)⟩

def servedWith (rsp : Buffer UInt8) (n : Int) : Served := { Served.start .init rsp rsp with rlen := n }

lemma replySize_binary {o : CProtolDiag} (ho : o.nDiagAT = false) (rsp : Buffer UInt8) (n : Nat) :
    replySize o (servedWith rsp n) = n + escapes (rsp.load 1 (n - 2)) := by
  unfold replySize
  rw [if_neg (by rw [ho]; decide)]
  rfl

theorem response_fits_small :
    StaysInBuffer (fill (fun _ => 0) 0 [0x7e, 0x7d, 0x7e])
      (CDataDiag.finish (.init .diag 1) (servedWith (fill (fun _ => 0) 0 [0x7e, 0x7d, 0x7e]) 3)).encoded :=
  (response_fits_iff (.init .diag 1) (servedWith (fill (fun _ => 0) 0 [0x7e, 0x7d, 0x7e]) 3)
    (by decide)).mpr (by decide)

/-- A frame as long as the buffer with one byte to escape. -/
def longResponse : Buffer UInt8 := fun k => if k = 0 ∨ k = 65535 then 0x7e else if k = 1 then 0x7d else 0

theorem response_overruns :
    (CDataDiag.finish (.init .diag 1) (servedWith longResponse maxChnlBuff)).Answers ∧
    ¬StaysInBuffer longResponse
      (CDataDiag.finish (.init .diag 1) (servedWith longResponse maxChnlBuff)).encoded := by
  have hret : (CDataDiag.finish (.init .diag 1) (servedWith longResponse maxChnlBuff)).Answers := by
    decide
  refine ⟨hret, ?_⟩
  rintro ⟨hle, -⟩
  rw [(encoded_size hret).1] at hle
  have hsize : replySize (.init .diag 1) (servedWith longResponse maxChnlBuff) =
      maxChnlBuff + escapes (longResponse.load 1 (maxChnlBuff - 2)) :=
    replySize_binary rfl longResponse maxChnlBuff
  have hcount := escapes_load_pos (n := maxChnlBuff - 2)
    (show isEscape (longResponse 1) by decide) (by decide)
  rw [hsize] at hle
  exact Nat.not_le.mpr (Nat.lt_add_of_pos_right hcount) (Int.ofNat_le.mp hle)

lemma atHead_eq {n : Nat} (h : n < 65536) :
    atHead n = (MsgHead.mk 0 (UInt16.ofNat n) 0x9c 0x00).bytes := by
  have hlen : (UInt16.ofNat n).toNat = n := by
    rw [UInt16.toNat_ofNat']
    exact Nat.mod_eq_of_lt h
  have hlow : UInt8.ofNat (n % 256) = UInt8.ofNat n := by
    apply UInt8.toNat_inj.mp
    simp
  have hhigh : n / 256 % 256 = n / 256 := Nat.mod_eq_of_lt (by omega)
  simp only [atHead, MsgHead.bytes, hlen, LittleEndian.bytesLE, Int.toNat_natCast, hlow, hhigh]
  rfl

lemma length_keptText_le (text : List UInt8) : (keptText text).length ≤ text.length := by
  unfold keptText
  split_ifs
  · rw [List.length_take]
    omega
  · exact le_refl _

/-- Decoding what `encode` makes of a text gives a header with the length, and the text less its
PENDING mark; the mark is never longer than the text that it is taken off. -/
theorem at_reply_decodes (o : CProtolDiag) (s : Served) (text : List UInt8) (h0 : 0 ∉ text)
    (hrsp : s.rsp.load 0 (text.length + 1) = text ++ [0]) (hAT : o.nDiagAT = true)
    (hfit : 8 + text.length ≤ 65535) (hret : (CDataDiag.finish o s).Answers) :
    (CDataDiag.finish o s).encoder.nPendingLen ≤ text.length ∧
    ∃ n : Nat, (CDataDiag.finish o s).encoded.2 = n ∧
      ∀ (receiver : CProtolDiag) (buff : Buffer UInt8),
        buff.load 0 n = (CDataDiag.finish o s).encoded.1.load 0 n →
        (receiver.decode buff n).buff.load 0 (receiver.decode buff n).len =
          flagged ((MsgHead.mk 0 (UInt16.ofNat (8 + (keptText text).length)) 0x9c 0x00).bytes ++
            keptText text) := by
  have htext : rspText s.rsp = text := cstr_eq hrsp h0 (by rw [maxChnlBuff]; omega)
  obtain ⟨hlen, -⟩ := finish_kept hAT s
  obtain ⟨hsize, hload, -⟩ := encoded_text hAT hret
  have hkept := length_keptText_le text
  rw [htext] at hlen hsize hload
  have hstuffed : (replyInner text).length + 2 + escapes (replyInner text) =
      (diagStuffing.stuff (replyInner text)).length + 2 := by
    rw [length_diag_stuff]
    omega
  rw [hstuffed] at hsize hload
  refine ⟨by omega, _, hsize, ?_⟩
  intro receiver buff hbuff
  rw [hload] at hbuff
  rw [(decode_flagged receiver hbuff).2, diagStuffing.unstuff_stuff, replyInner,
    Nat.add_comm _ 8, atHead_eq (by omega)]

/-- The text of a command that stays open, behind a request of type 0x68. -/
theorem at_reply_decodes_pending :
    let o : CProtolDiag := { CProtolDiag.init .diag 1 with nDiagAT := true }
    let rsp : Buffer UInt8 := fill (fun _ => 0) 0 (ofString "~\r\nPENDING\r\n")
    ∃ n : Nat, (CDataDiag.finish o (servedWith rsp 0)).encoded.2 = n ∧
      ∀ (receiver : CProtolDiag) (buff : Buffer UInt8),
        buff.load 0 n = (CDataDiag.finish o (servedWith rsp 0)).encoded.1.load 0 n →
        (receiver.decode buff n).buff.load 0 (receiver.decode buff n).len =
          flagged ([0, 0, 0, 0, 9, 0, 0x9c, 0x00] ++ ofString "~") := by
  intro o rsp
  have h := at_reply_decodes o (servedWith rsp 0) (ofString "~\r\nPENDING\r\n") (by decide)
    (by decide) rfl (by decide) (by decide)
  have hbytes : (MsgHead.mk 0 (UInt16.ofNat (8 + (keptText (ofString
      "~\r\nPENDING\r\n")).length)) 0x9c 0x00).bytes ++ keptText (ofString "~\r\nPENDING\r\n") =
      [0, 0, 0, 0, 9, 0, 0x9c, 0x00] ++ ofString "~" := by decide
  rw [hbytes] at h
  exact h.2

end EngPc
