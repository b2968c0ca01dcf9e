import EngPc.Model.MiscdataRw
import EngPc.Proofs.BtWifiStore
import EngPc.Proofs.PhaseCheck
import EngPc.Proofs.Router

/-!
# Requests that are shared with the modem

The handler clears the two bits in the decoded request, or only in its own reply, and then declines
the request; what goes on to the CP is the copy of the bytes that were read.
-/

namespace EngPc
open Buffer CString

/-- A BT or WiFi bit together with another command. -/
structure SharedCommand (subtype : UInt8) : Prop where
  mac : hasBit subtype diagCmdBtbit ∨ hasBit subtype diagCmdWifibit
  other : subtype &&& rmValidCmdMask &&& ~~~(diagCmdBtbit ||| diagCmdWifibit) ≠ 0

lemma SharedCommand.valid {subtype : UInt8} (h : SharedCommand subtype) :
    validCommand subtype = 2 := by
  have hmask : subtype &&& rmValidCmdMask ≠ 0 := by
    intro hzero
    apply h.other
    rw [hzero, UInt8.zero_and]
  have hmac := h.mac
  rw [← @hasBit_mask subtype diagCmdBtbit rfl, ← @hasBit_mask subtype diagCmdWifibit rfl] at hmac
  rw [validCommand, if_neg fun hbad => hmask hbad.2]
  simp only [if_pos hmac, if_pos h.other]

section Handler

variable (io : MacIo) (file : Option RandMacFile) (seed : MacSeed) (f : MacFiles)
  (buf rsp : Buffer UInt8)

lemma btwifiimei_type (cpApProc : Bool) :
    (btwifiimei io file seed f buf rsp cpApProc).buf 7 = buf 7 := by
  have hstore : ∀ v, buf.store 8 v 7 = buf 7 := fun v => store_ne buf v (by decide)
  have hstatus : ∀ f status, (macStatus rsp buf status f).buf 7 = buf 7 := fun f status =>
    hstore status
  have hend : ∀ f ret, (btwifiEnd f buf rsp cpApProc ret).buf 7 = buf 7 := by
    intro f ret
    rw [btwifiEnd]
    split
    · exact hstore (buf 8 &&& ~~~(diagCmdBtbit ||| diagCmdWifibit))
    · exact hstatus f _
  rw [btwifiimei]
  by_cases hread : hasBit (buf 8) diagCmdRead
  · rw [if_pos hread]
    exact hstore 0x01
  · rw [if_neg hread, btwifiWrite]
    dsimp only
    by_cases hcrc : directCrcOk buf ∧ (hasBit (buf 8) diagCmdBtbit ∨ hasBit (buf 8) diagCmdWifibit)
    · rw [if_pos hcrc]
      by_cases hodd :
          hasBit (buf 8) diagCmdWifibit ∧ hasBit (buf (directAt + directWifiaddr)) 0x03
      · rw [if_pos hodd]
        exact hstatus f 0
      · rw [if_neg hodd]
        exact hend _ _
    · rw [if_neg hcrc]
      exact hend f (-1)

/-- A shared request is declined in any case, with one frame to the host at most. -/
lemma btWifiMacHandler_shared (hlen : msgHeadLen + 2 ≤ msgLen buf) (h : SharedCommand (buf 8)) :
    ∃ r, btWifiMacHandler io file seed f ⟨buf, maxChnlBuff⟩ rsp = .ok r ∧
      r.ret = engDiagRetUnsupport ∧ r.buf 7 = buf 7 ∧ r.host.length ≤ 1 := by
  have hin : LenInside ⟨buf, maxChnlBuff⟩ := ⟨hlen, msgLen_lt buf⟩
  have hvalid := h.valid
  rw [btWifiMacHandler, btwifiCheckValid, crcCheck_inside hin, Except.ok_bind]
  by_cases hcrc : CrcMatches buf
  · rw [if_neg (by simp [hcrc]), pure_bind, if_neg (by rw [hvalid]; decide)]
    refine ⟨_, rfl, ?_, btwifiimei_type io file seed f buf rsp _, ?_⟩
    · dsimp only
      rw [hvalid]
      rfl
    · dsimp only
      split
      · exact le_refl 1
      · exact Nat.zero_le 1
  · rw [if_pos (by simp [hcrc]), pure_bind, if_pos rfl]
    exact ⟨_, rfl, rfl, rfl, Nat.zero_le 1⟩

end Handler

section Manager

variable {φ : Type} {ι : MiscdataFunc → φ} {F : Funcs φ} {dispatch : Dispatch} {len : Nat}

lemma diagLoop_skip {l : List (EngCallback φ)} (rest : List (EngCallback φ)) (k : Nat) (s : Served)
    (h : ∀ cb ∈ l, cb.selects F s.req len = none) :
    ∃ m k', diagLoop F dispatch len (l ++ rest) k s =
      diagLoop F dispatch len rest k' { s with mgr := m } := by
  induction l generalizing k s with
  | nil => exact ⟨s.mgr, k, rfl⟩
  | cons cb l ih =>
    obtain ⟨m, k', hskip⟩ := ih (k + 1) (s.setCur k) fun cb hcb => h cb (List.mem_cons_of_mem _ hcb)
    refine ⟨m, k', ?_⟩
    rw [List.cons_append, diagLoop]
    have hnone : cb.selects F (s.setCur k).req len = none := h cb List.mem_cons_self
    simp only [hnone]
    exact hskip

lemma diagLoop_decline {cb : EngCallback φ} (rest : List (EngCallback φ)) (k : Nat) {s : Served}
    {kind : FuncKind} {c : Call} {a : Answer} (hsel : cb.selects F s.req len = some kind)
    (hcall : cb.call F kind (s.setCur k) len = some c)
    (hrun : c.run dispatch (s.setCur k).mgr = .ok a) (hret : a.rlen = engDiagRetUnsupport) :
    diagLoop F dispatch len (cb :: rest) k s =
      diagLoop F dispatch len rest (k + 1)
        ((cb.announce k kind (s.setCur k)).called k kind a) := by
  have hsel' : cb.selects F (s.setCur k).req len = some kind := hsel
  rw [diagLoop]
  simp only [hsel', hcall, hrun, if_pos hret]

lemma productCtrl_selects {buf : Buffer UInt8} (htype : buf 7 = 0x5e) :
    ∀ cb ∈ productCtrlEntries ι, cb.selects F buf len = none := by
  intro cb hcb
  have hne : ¬buf 7 = 0x0d := by
    rw [htype]
    decide
  simp only [productCtrlEntries, List.mem_cons, List.not_mem_nil, or_false] at hcb
  rcases hcb with rfl | rfl | rfl | rfl | rfl | rfl <;>
    simp [EngCallback.selects, EngCallback.cmdMatches, miscdataEntry, hne]

variable {io : MacIo} {file : Option RandMacFile} {seed : MacSeed} {f : MacFiles}

lemma phasecheck_selects (hF : MiscdataLinked ι F io file seed f) {buf : Buffer UInt8}
    (htype : buf 7 = 0x5e) : (phasecheckEntry ι).selects F buf len = none := by
  have hmatch : ¬F.cmdMatch (ι .phasecheckMatch) buf len = 0 := by
    rw [hF.phsMatch, phasecheckMatch, htype]
    decide
  have hne : ¬buf 7 = 0x5f := by
    rw [htype]
    decide
  simp [EngCallback.selects, EngCallback.cmdMatches, phasecheckEntry, miscdataEntry, hne, hmatch]

lemma btWifiMac_selects (hF : MiscdataLinked ι F io file seed f) {buf : Buffer UInt8}
    (htype : buf 7 = 0x5e) : (btWifiMacEntry ι).selects F buf len = some .diag := by
  have hmatch : F.cmdMatch (ι .btWifiMacMatch) buf len = 0 := by
    rw [hF.btMatch, btWifiMacMatch, if_pos htype]
  have hdata : (btWifiMacEntry ι).dataCmdMatches buf := by
    rw [EngCallback.dataCmdMatches, htype]
    exact ⟨fun h => absurd h (by decide), fun h => absurd h (by decide),
      fun h => absurd h (by decide)⟩
  have hnot : ¬(buf 7 = 0x68 ∧ (btWifiMacEntry ι).atCmd ≠ [] ∧
      strcasestr (diagText buf) (btWifiMacEntry ι).atCmd) := fun h => h.2.1 rfl
  have htake : (btWifiMacEntry ι).cmdMatches F buf len = true := decide_eq_true hmatch
  rw [EngCallback.selects, if_neg hnot, if_pos (.inr htake), if_pos hdata]

/-- The whole list: the BT and WiFi entry is called and declines, the others are passed over. -/
lemma diagLoop_shared (hF : MiscdataLinked ι F io file seed f) {pre post : List (EngCallback φ)}
    (hother : ∀ cb ∈ pre ++ post, ∀ buf, buf 7 = 0x5e → cb.selects F buf len = none)
    {m : MgrState} {buf : Buffer UInt8} (htype : buf 7 = 0x5e) (hshared : SharedCommand (buf 8))
    (hlen : msgHeadLen + 2 ≤ msgLen buf) :
    ∃ h s, btWifiMacHandler io file seed f ⟨buf, maxChnlBuff⟩ (fun _ => 0) = .ok h ∧
      diagLoop F dispatch len (pre ++ registerThisModuleExt ι ++ post) 0
        (.start m buf fun _ => 0) = .ok s ∧
      s.rlen = engDiagRetUnsupport ∧ s.req 7 = 0x5e ∧ h.host.length ≤ 1 := by
  obtain ⟨h, hok, hret, htype', hhost⟩ :=
    btWifiMacHandler_shared io file seed f buf (fun _ => 0) hlen hshared
  have hlist : pre ++ registerThisModuleExt ι ++ post =
      (pre ++ productCtrlEntries ι) ++ btWifiMacEntry ι :: (phasecheckEntry ι :: post ++ []) := by
    simp [registerThisModuleExt]
  have hbefore : ∀ cb ∈ pre ++ productCtrlEntries ι, cb.selects F buf len = none := by
    intro cb hcb
    rcases List.mem_append.mp hcb with hcb | hcb
    · exact hother cb (List.mem_append_left _ hcb) buf htype
    · exact productCtrl_selects htype cb hcb
  have hafter : ∀ cb ∈ phasecheckEntry ι :: post, cb.selects F h.buf len = none := by
    intro cb hcb
    rcases List.mem_cons.mp hcb with rfl | hcb
    · exact phasecheck_selects hF (htype'.trans htype)
    · exact hother cb (List.mem_append_right _ hcb) h.buf (htype'.trans htype)
  obtain ⟨m₁, k₁, hskip₁⟩ : ∃ m₁ k₁,
      diagLoop F dispatch len _ 0 _ = diagLoop F dispatch len _ k₁ _ :=
    diagLoop_skip (btWifiMacEntry ι :: (phasecheckEntry ι :: post ++ [])) 0
      (.start m buf fun _ => 0) hbefore
  have hsel : (btWifiMacEntry ι).selects F buf len = some .diag := btWifiMac_selects hF htype
  have hcall : ∀ s : Served, s.req = buf → s.rsp = (fun _ => 0) →
      (btWifiMacEntry ι).call F .diag s len = some (.ret h.ret h.buf h.rsp) := by
    intro s hreq hrsp
    rw [← hF.btDiag buf len (fun _ => 0) maxChnlBuff h hok, ← hreq, ← hrsp]
    rfl
  let s₁ : Served := { Served.start m buf (fun _ => 0) with mgr := m₁ }
  let s₂ : Served := ((btWifiMacEntry ι).announce k₁ .diag (s₁.setCur k₁)).called k₁ .diag
    ⟨(s₁.setCur k₁).mgr, h.buf, h.rsp, h.ret, [], false⟩
  have hdecline :
      diagLoop F dispatch len (btWifiMacEntry ι :: (phasecheckEntry ι :: post ++ [])) k₁ s₁ =
        diagLoop F dispatch len (phasecheckEntry ι :: post ++ []) (k₁ + 1) s₂ :=
    diagLoop_decline _ k₁ hsel (hcall _ rfl rfl) rfl hret
  obtain ⟨m₂, k₂, hskip₂⟩ : ∃ m₂ k₂,
      diagLoop F dispatch len _ _ s₂ = diagLoop F dispatch len [] k₂ _ :=
    diagLoop_skip [] (k₁ + 1) s₂ hafter
  refine ⟨h, { s₂ with mgr := m₂ }, hok, ?_, hret, htype'.trans htype, hhost⟩
  rw [hlist, hskip₁, hdecline, hskip₂, diagLoop]

lemma mgrProcess_shared (hF : MiscdataLinked ι F io file seed f) {pre post : List (EngCallback φ)}
    (hother : ∀ cb ∈ pre ++ post, ∀ buf, buf 7 = 0x5e → cb.selects F buf len = none)
    (m : MgrState) {buf : Buffer UInt8} (htype : buf 7 = 0x5e) (hshared : SharedCommand (buf 8))
    (hlen : msgHeadLen + 2 ≤ msgLen buf) :
    ∃ h s, btWifiMacHandler io file seed f ⟨buf, maxChnlBuff⟩ (fun _ => 0) = .ok h ∧
      mgrProcess (pre ++ registerThisModuleExt ι ++ post) F dispatch .diag m buf (fun _ => 0) len =
        .ok s ∧ s.unanswered ∧ h.host.length ≤ 1 := by
  obtain ⟨h, s, hok, hloop, hrlen, hreq, hhost⟩ := diagLoop_shared hF hother htype hshared hlen
  refine ⟨h, { s with mgr := s.mgr.clearPendingMark }, hok, ?_, .inr hrlen, hhost⟩
  have hdata : ¬s.isData := by
    rintro ⟨-, hbad, -⟩
    rw [hreq] at hbad
    exact absurd hbad (by decide)
  rw [mgrProcess, processDiag, hloop]
  exact if_neg hdata

end Manager

/-- The bytes of a frame without its escapes. -/
def decodedBytes (o : CProtolDiag) (l : List UInt8) : List UInt8 :=
  Received.decoded o ⟨Buffer.fill (fun _ => 0) 0 l, l.length⟩

/-- The BT and WiFi bits of the subtype are cleared, all else is unchanged. -/
def clearShared (request : List UInt8) : List UInt8 :=
  request.modify 8 (· &&& ~~~(diagCmdBtbit ||| diagCmdWifibit))

/-- A request of type 0x5e for AP and CP, with its whole header and CRC. -/
structure SharedRequest (o : CProtolDiag) (r : Received) : Prop where
  type : (o.decode r.buff r.len).buff 7 = 0x5e
  shared : SharedCommand ((o.decode r.buff r.len).buff 8)
  whole : msgHeadLen + 2 ≤ msgLen (o.decode r.buff r.len).buff
  len : msgHeadLen + 2 < (o.decode r.buff r.len).len

/-- One frame reaches the CP, the request without the two bits; and the host gets one frame at
most, from the handler (`host`) or from the loop. -/
structure SharedSplit (o : CProtolDiag) (r : Received) (host : List (List UInt8))
    (writes : List (PortEnd × List UInt8)) : Prop where
  cp : ∃ b, (writes.filter fun w => w.1 = .dst) = [(.dst, b)] ∧
    decodedBytes o b = clearShared (r.decoded o)
  host : host.length + (writes.filter fun w => w.1 = .src).length ≤ 1

lemma decoded_congr (o : CProtolDiag) {r r' : Received} (hlen : 2 ≤ r.len)
    (h : r.bytes = r'.bytes) : r.decoded o = r'.decoded o := by
  have hn : r.len = r'.len := by simpa [Received.bytes] using congrArg List.length h
  have hcell : ∀ i, i < r.len → r.buff i = r'.buff i := by
    intro i hi
    have hget := congrArg (fun l => l[i]?) h
    simpa [Received.bytes, hi, hn ▸ hi] using hget
  have hbody : r.buff.load 1 (r.len - 2) = r'.buff.load 1 (r.len - 2) :=
    load_congr fun i hi => hcell (1 + i) (by omega)
  rw [Received.decoded, Received.decoded, ← hn, (decode_spec o r.buff r.len hlen).1,
    (decode_spec o r'.buff r.len hlen).1, hbody, hcell 0 (by omega), hcell (r.len - 1) (by omega)]

lemma SharedRequest.two_le {o : CProtolDiag} {r : Received} (h : SharedRequest o r) :
    2 ≤ r.len := by
  have hlen := h.len
  match hr : r.len with
  | 0 => simp [hr, CProtolDiag.decode, decodeLoop] at hlen
  | 1 => simp [hr, CProtolDiag.decode, decodeLoop, msgHeadLen] at hlen
  | n + 2 => exact Nat.le_add_left 2 n

/-- A request with one of the two bits is not the request without them. -/
lemma SharedRequest.clearShared_ne {o : CProtolDiag} {r : Received} (h : SharedRequest o r) :
    clearShared (r.decoded o) ≠ r.decoded o := by
  intro heq
  have hlen : 8 < (o.decode r.buff r.len).len := Nat.lt_of_lt_of_le (by decide) h.len.le
  have hget := congrArg (fun l => l[8]?) heq
  have hclear : (o.decode r.buff r.len).buff 8 &&& ~~~(diagCmdBtbit ||| diagCmdWifibit) =
      (o.decode r.buff r.len).buff 8 := by
    simpa [clearShared, Received.decoded, hlen] using hget
  have hnone : ∀ bit, ~~~(diagCmdBtbit ||| diagCmdWifibit) &&& bit = 0 →
      ¬hasBit ((o.decode r.buff r.len).buff 8) bit := by
    intro bit hzero hbit
    rw [hasBit, ← hclear, UInt8.and_assoc, hzero, UInt8.and_zero] at hbit
    exact hbit rfl
  rcases h.shared.mac with hbit | hbit
  · exact hnone diagCmdBtbit rfl hbit
  · exact hnone diagCmdWifibit rfl hbit

/-- No request that is shared with the modem is split: the CP gets it as it was read. -/
theorem shared_request_unsplit {φ : Type} {ι : MiscdataFunc → φ} {F : Funcs φ} {io : MacIo}
    {file : Option RandMacFile} {seed : MacSeed} {f : MacFiles}
    (hF : MiscdataLinked ι F io file seed f) (pre post : List (EngCallback φ))
    (hother : ∀ cb ∈ pre ++ post, ∀ buf len, buf 7 = 0x5e → cb.selects F buf len = none) (n : Nat)
    (dstType : PortType) (m : MgrState) (t : TransState) (ht : t.DiagChannel)
    (hkind : t.obj.dataType = .diag) (r : Received) (hr : SharedRequest t.obj r) :
    let cbs := pre ++ registerThisModuleExt ι ++ post
    ∃ h s out,
      btWifiMacHandler io file seed f ⟨(t.obj.decode r.buff r.len).buff, maxChnlBuff⟩ (fun _ => 0) =
        .ok h ∧
      transStep cbs F (dispatchAt cbs F n) dstType m t r = .ok (s, out) ∧
      h.host.length + (out.writes.filter fun w => w.1 = .src).length ≤ 1 ∧
      ¬SharedSplit t.obj r h.host out.writes := by
  intro cbs
  obtain ⟨h, s, hok, hmgr, hun, hhost⟩ := mgrProcess_shared hF
    (fun cb hcb buf => hother cb hcb buf (t.obj.decode r.buff r.len).len) m hr.type hr.shared
    hr.whole
  rw [← hkind] at hmgr
  have hwrites := transOf_unanswered dstType t r hun
  refine ⟨h, (transOf dstType t r s).1, (transOf dstType t r s).2, hok, ht.transStep_eq hmgr, ?_,
    ?_⟩
  · have hsrc : ((transOf dstType t r s).2.writes.filter fun w => w.1 = .src) = [] := by
      rw [hwrites]
      split
      · rfl
      · rfl
    rw [hsrc]
    exact hhost
  · rintro ⟨⟨b, hb, hdec⟩, -⟩
    rw [hwrites] at hb
    by_cases hloop : dstType = .loop
    · simp [hloop] at hb
    · obtain rfl : r.bytes = b := by simpa [hloop] using hb
      have hsame : decodedBytes t.obj r.bytes = r.decoded t.obj := by
        refine (decoded_congr t.obj hr.two_le ?_).symm
        exact (load_fill (fun _ => 0) 0 r.bytes).symm
      exact hr.clearShared_ne (hdec.symm.trans hsame)

section Example

/-- The functions of the library, as they meet these files. -/
def miscdataFuncs (io : MacIo) (file : Option RandMacFile) (seed : MacSeed) (f : MacFiles) :
    Funcs MiscdataFunc where
  linuxcmd _ buf rsp := .ret 0 buf rsp
  diag g buf _ rsp _ :=
    match g, btWifiMacHandler io file seed f ⟨buf, maxChnlBuff⟩ rsp with
    | .btWifiMacHandler, .ok r => .ret r.ret r.buf r.rsp
    | _, _ => .ret 0 buf rsp
  cmdMatch g buf _ :=
    match g with
    | .btWifiMacMatch => btWifiMacMatch buf
    | .phasecheckMatch => phasecheckMatch buf
    | _ => -1

lemma miscdataFuncs_linked (io : MacIo) (file : Option RandMacFile) (seed : MacSeed)
    (f : MacFiles) : MiscdataLinked id (miscdataFuncs io file seed f) io file seed f where
  btMatch _ _ := rfl
  phsMatch _ _ := rfl
  btDiag buf len rsp rsplen r h := by
    simp only [miscdataFuncs, id, h]

def someSeed : MacSeed := ⟨[1, 2, 3, 4, 5], [6, 7, 8, 9, 10], rfl, rfl⟩

def sharedFrame (subtype : UInt8) : Received :=
  let frame := flagged [0, 0, 0, 0, 10, 0, 0x5e, subtype, 0, 0]
  ⟨Buffer.fill (fun _ => 0) 0 frame, frame.length⟩

end Example

/-- A write of the BT address with the bit 0x01. -/
theorem shared_write_unsplit :
    let cbs := [] ++ registerThisModuleExt id ++ []
    let F := miscdataFuncs .fine none someSeed ⟨none, none, none, none⟩
    let t := TransState.init .diag 1
    let r := sharedFrame 0x05
    ∃ h s out,
      btWifiMacHandler .fine none someSeed ⟨none, none, none, none⟩
        ⟨(t.obj.decode r.buff r.len).buff, maxChnlBuff⟩ (fun _ => 0) = .ok h ∧
      transStep cbs F (dispatchAt cbs F 0) .gser .init t r = .ok (s, out) ∧
      h.host.length + (out.writes.filter fun w => w.1 = .src).length ≤ 1 ∧
      ¬SharedSplit t.obj r h.host out.writes := by
  intro cbs F t r
  exact shared_request_unsplit (miscdataFuncs_linked _ _ _ _) [] [] (by simp) 0 .gser .init t
    (diagChannel_init .diag (.inl rfl)) rfl r
    ⟨by decide, ⟨.inl (by decide), by decide⟩, by decide, by decide⟩

/-- A read of the BT address with the bit 0x01 reaches the CP with the BT bit. -/
theorem shared_read_unsplit :
    let cbs := [] ++ registerThisModuleExt id ++ []
    let F := miscdataFuncs .fine none someSeed ⟨none, none, none, none⟩
    let t := TransState.init .diag 1
    let r := sharedFrame 0x85
    ¬∀ h s out,
      btWifiMacHandler .fine none someSeed ⟨none, none, none, none⟩
        ⟨(t.obj.decode r.buff r.len).buff, maxChnlBuff⟩ (fun _ => 0) = .ok h →
      transStep cbs F (dispatchAt cbs F 0) .gser .init t r = .ok (s, out) →
      SharedSplit t.obj r h.host out.writes := by
  intro cbs F t r hall
  obtain ⟨h, s, out, hok, hstep, -, hnot⟩ := shared_request_unsplit
    (miscdataFuncs_linked .fine none someSeed ⟨none, none, none, none⟩) [] [] (by simp) 0 .gser
    .init t (diagChannel_init .diag (.inl rfl)) rfl r
    ⟨by decide, ⟨.inl (by decide), by decide⟩, by decide, by decide⟩
  exact hnot (hall h s out hok hstep)

end EngPc
