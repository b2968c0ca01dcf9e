import EngPc.Lib.Machine
import EngPc.Proofs.Router

/-!
# PENDING sessions

A session belongs to the module whose AT function has answered with the PENDING mark: data
requests go to that module until it answers without the mark. `sessionAllows` and `sessionOwner`
say this as a monitor over what one channel shows; the manager keeps to it as long as its pointer
`m_lpCurCB` is the owner's whenever the owner answers with the mark again.
-/

namespace EngPc
open CString Machine

variable {φ : Type}

/-- The text ends with the PENDING mark and tells of no error. -/
def marked (text : List UInt8) : Prop :=
  ¬strcasestr text (ofString "ERROR") ∧ strcasestr text pendingMark ∧
    text.drop (text.length - pendingMark.length) = pendingMark

instance (text : List UInt8) : Decidable (marked text) := inferInstanceAs (Decidable (_ ∧ _ ∧ _))

/-- The request after `decode`. -/
def Received.frame (r : Received) : Decoded := (CProtolDiag.init .diag 1).decode r.buff r.len

/-- A diag-AT request that matches no entry. -/
def isDataRequest (cbs : List (EngCallback φ)) (F : Funcs φ) (r : Received) : Prop :=
  r.frame.buff 7 = 0x68 ∧ ∀ cb ∈ cbs, cb.selects F r.frame.buff r.frame.len = none

instance (cbs : List (EngCallback φ)) (F : Funcs φ) (r : Received) :
    Decidable (isDataRequest cbs F r) := inferInstanceAs (Decidable (_ ∧ _))

/-- One request of a channel, with what the modules do while it is processed. -/
abbrev Request (φ : Type) := Funcs φ × Received

/-- A data request is handed to the AT function of the session's owner, and to nothing else. -/
def sessionAllows (cbs : List (EngCallback φ)) (owner : Option Nat) (q : Request φ)
    (out : TransOut) : Prop :=
  isDataRequest cbs q.1 q.2 →
    out.calls.map (fun c => (c.entry, c.kind)) = owner.toList.map fun k => (k, .linuxcmd)

/-- The owner after a request: the module whose AT function has answered with the mark. Any other
request ends the session. -/
def sessionOwner (_ : Option Nat) (q : Request φ) (out : TransOut) : Option Nat :=
  if q.2.frame.buff 7 = 0x68 ∧ marked out.text then
    match out.calls.getLast? with
    | some ⟨k, .linuxcmd, ret⟩ => if ret = engDiagRetUnsupport then none else some k
    | _ => none
  else none

/-- One channel, request after request, with functions that dispatch at most `n` deep. -/
def channelStep (cbs : List (EngCallback φ)) (n : Nat) (dstType : PortType)
    (s : MgrState × TransState) (q : Request φ) :
    Except Fault ((MgrState × TransState) × TransOut) :=
  transStep cbs q.1 (dispatchAt cbs q.1 n) dstType s.1 s.2 q.2

instance (cbs : List (EngCallback φ)) (owner : Option Nat) (q : Request φ) (out : TransOut) :
    Decidable (sessionAllows cbs owner q out) := inferInstanceAs (Decidable (_ → _))

/-- No NULL function is called, and what the channel shows is what the monitor allows. -/
def sessionsIn (cbs : List (EngCallback φ)) (l : List (Request φ)) :
    Except Fault ((MgrState × TransState) × List TransOut) → Prop
  | .error _ => False
  | .ok r => Obeys (sessionAllows cbs) sessionOwner none l r.2

instance (cbs : List (EngCallback φ)) (l : List (Request φ)) :
    (r : Except Fault ((MgrState × TransState) × List TransOut)) → Decidable (sessionsIn cbs l r)
  | .error _ => inferInstanceAs (Decidable False)
  | .ok _ => inferInstanceAs (Decidable (Obeys ..))

def keepsSessions (cbs : List (EngCallback φ)) (n : Nat) (dstType : PortType)
    (s : MgrState × TransState) (l : List (Request φ)) : Prop :=
  sessionsIn cbs l (run (channelStep cbs n dstType) s l)

instance (cbs : List (EngCallback φ)) (n : Nat) (dstType : PortType)
    (s : MgrState × TransState) (l : List (Request φ)) :
    Decidable (keepsSessions cbs n dstType s l) := inferInstanceAs (Decidable (sessionsIn ..))

structure Funcs.Plain (F : Funcs φ) : Prop where
  linuxcmd : ∀ f req rsp, ∃ rlen req' rsp', F.linuxcmd f req rsp = .ret rlen req' rsp'
  diag : ∀ f req len rsp rsplen, ∃ rlen req' rsp', F.diag f req len rsp rsplen = .ret rlen req' rsp'

/-- A search through the list: the kind of the function that has answered, the entry looked at
last, and what the functions have left in the buffers. -/
structure Search where
  answer : Option FuncKind
  last : Option Nat
  req : Buffer UInt8
  rsp : Buffer UInt8

/-- The entry that answers is the first one that matches and does not decline; an entry that
matches and has no function ends the search. -/
def search (F : Funcs φ) (len : Nat) :
    List (EngCallback φ) → Nat → Option Nat → Buffer UInt8 → Buffer UInt8 → Search
  | [], _, last, req, rsp => ⟨none, last, req, rsp⟩
  | cb :: cbs, k, _, req, rsp =>
    match cb.selects F req len with
    | none => search F len cbs (k + 1) (some k) req rsp
    | some kind =>
      match cb.call F kind (.start .init req rsp) len with
      | some (.ret rlen req rsp) =>
        if rlen = engDiagRetUnsupport then search F len cbs (k + 1) (some k) req rsp
        else ⟨some kind, some k, req, rsp⟩
      | _ => ⟨none, some k, req, rsp⟩

lemma Funcs.Plain.call {F : Funcs φ} (hF : F.Plain) {cb : EngCallback φ} {kind : FuncKind}
    {s : Served} {len : Nat} {c : Call} (h : cb.call F kind s len = some c) :
    ∃ rlen req rsp, c = .ret rlen req rsp := by
  cases kind with
  | linuxcmd =>
    obtain ⟨f, -, rfl⟩ := Option.map_eq_some_iff.mp h
    exact hF.linuxcmd f s.req s.rsp
  | diag | setWriteinterface =>
    obtain ⟨f, -, rfl⟩ := Option.map_eq_some_iff.mp h
    exact hF.diag f s.req len s.rsp maxChnlBuff

lemma call_start (cb : EngCallback φ) (F : Funcs φ) (kind : FuncKind) (s : Served) (len : Nat) :
    cb.call F kind s len = cb.call F kind (.start .init s.req s.rsp) len := by
  cases kind <;> rfl

/-- What the loop of `processDiag` has done when it ends, told by the search. -/
structure Searched (l : List (EngCallback φ)) (k : Nat) (s s' : Served) (x : Search) : Prop where
  req_eq : s'.req = x.req
  rsp_eq : s'.rsp = x.rsp
  cur_eq : s'.mgr.lpCurCB = x.last
  pending_eq : s'.mgr.lpPendingCB = s.mgr.lpPendingCB
  bProcess_eq : s'.bProcess = (s.bProcess || x.answer.isSome)
  answer_last : ∀ kind, x.answer = some kind → ∃ i cb ret, l[i]? = some cb ∧
    x.last = some (k + i) ∧ s'.calls.getLast? = some ⟨k + i, kind, ret⟩ ∧
    ret ≠ engDiagRetUnsupport ∧ (kind = .linuxcmd → cb.engLinuxcmdFunc.isSome = true)

lemma announce_eq (cb : EngCallback φ) (k : Nat) (kind : FuncKind) (s : Served) :
    ∃ calls, cb.announce k kind s = { s with calls := calls } := by
  unfold EngCallback.announce
  split_ifs
  · exact ⟨_, rfl⟩
  · exact ⟨s.calls, rfl⟩

lemma Searched.cons {l : List (EngCallback φ)} {k : Nat} {s s₁ s' : Served} {x : Search}
    (hx : Searched l (k + 1) s₁ s' x) (cb : EngCallback φ)
    (hpending : s₁.mgr.lpPendingCB = s.mgr.lpPendingCB) (hb : s₁.bProcess = s.bProcess) :
    Searched (cb :: l) k s s' x := by
  refine ⟨hx.req_eq, hx.rsp_eq, hx.cur_eq, hx.pending_eq.trans hpending,
    by rw [hx.bProcess_eq, hb], ?_⟩
  intro kind hkind
  obtain ⟨i, cb', ret, hi, hlast, hcalls, hret⟩ := hx.answer_last kind hkind
  have hadd : k + 1 + i = k + (i + 1) := by omega
  rw [hadd] at hlast hcalls
  exact ⟨i + 1, cb', ret, by simpa using hi, hlast, hcalls, hret⟩

lemma diagLoop_search {F : Funcs φ} (hF : F.Plain) (dispatch : Dispatch) (len : Nat)
    (l : List (EngCallback φ)) (k : Nat) (s : Served) :
    ∃ s', diagLoop F dispatch len l k s = .ok s' ∧
      Searched l k s s' (search F len l k s.mgr.lpCurCB s.req s.rsp) := by
  induction l generalizing k s with
  | nil => exact ⟨s, rfl, rfl, rfl, rfl, rfl, by simp [search], by simp [search]⟩
  | cons cb l ih =>
    rw [diagLoop, search]
    have hreq : (s.setCur k).req = s.req := rfl
    rw [hreq]
    cases hsel : cb.selects F s.req len with
    | none =>
      obtain ⟨s', hs', hx⟩ := ih (k + 1) (s.setCur k)
      exact ⟨s', hs', hx.cons cb rfl rfl⟩
    | some kind =>
      have hcall : cb.call F kind (s.setCur k) len =
          cb.call F kind (.start .init s.req s.rsp) len := call_start cb F kind (s.setCur k) len
      cases hc : cb.call F kind (s.setCur k) len with
      | none =>
        rw [hc] at hcall
        simp only [hc, ← hcall]
        exact ⟨s.setCur k, rfl, rfl, rfl, rfl, rfl, by simp [Served.setCur], by simp⟩
      | some c =>
        obtain ⟨rlen, req, rsp, rfl⟩ := hF.call hc
        rw [hc] at hcall
        obtain ⟨calls, hann⟩ := announce_eq cb k kind (s.setCur k)
        simp only [hc, ← hcall, Call.run, hann]
        by_cases hun : rlen = engDiagRetUnsupport
        · simp only [if_pos hun]
          obtain ⟨s', hs', hx⟩ := ih (k + 1) (Served.called { s.setCur k with calls := calls } k kind
            ⟨(s.setCur k).mgr, req, rsp, rlen, [], false⟩)
          exact ⟨s', hs', hx.cons cb rfl rfl⟩
        · simp only [if_neg hun]
          refine ⟨_, rfl, rfl, rfl, rfl, rfl, by simp [EngCallback.accept], ?_⟩
          intro kind' hkind
          obtain rfl : kind = kind' := Option.some.inj hkind
          refine ⟨0, cb, rlen, rfl, rfl, by simp [EngCallback.accept, Served.called], hun, ?_⟩
          rintro rfl
          obtain ⟨f, hf, -⟩ := Option.map_eq_some_iff.mp hc
          rw [hf]
          rfl

/-- No entry matches: nothing is called, and the last entry is the one looked at last. -/
lemma diagLoop_unmatched (F : Funcs φ) (dispatch : Dispatch) (len : Nat)
    (l : List (EngCallback φ)) (k : Nat) (s : Served)
    (h : ∀ cb ∈ l, cb.selects F s.req len = none) :
    ∃ m, diagLoop F dispatch len l k s = .ok { s with mgr := m } := by
  induction l generalizing k s with
  | nil => exact ⟨s.mgr, rfl⟩
  | cons cb l ih =>
    have hsel : cb.selects F (s.setCur k).req len = none := h cb List.mem_cons_self
    obtain ⟨m, hm⟩ := ih (k + 1) (s.setCur k) (fun x hx => h x (List.mem_cons_of_mem _ hx))
    refine ⟨m, ?_⟩
    rw [diagLoop]
    simp only [hsel]
    exact hm

/-- Nobody has answered, and the request is data for an open session. -/
def Search.isData (x : Search) : Prop :=
  x.answer = none ∧ x.req 7 = 0x68 ∧ ¬strcasestr (diagText x.req) (ofString "AT")

instance (x : Search) : Decidable x.isData := inferInstanceAs (Decidable (_ ∧ _ ∧ _))

def requestSearch (cbs : List (EngCallback φ)) (s : MgrState × TransState) (q : Request φ) :
    Search :=
  search q.1 q.2.frame.len cbs 0 s.1.lpCurCB q.2.frame.buff fun _ => 0

/-- What the AT function of entry `k` answers to what a search has left. -/
def ownerReply (cbs : List (EngCallback φ)) (F : Funcs φ) (x : Search) (k : Nat) :
    Option (Int × Buffer UInt8) :=
  match cbs[k]? with
  | none => none
  | some cb =>
    match cb.call F .linuxcmd (.start .init x.req x.rsp) 0 with
    | some (.ret rlen _ rsp) => some (rlen, rsp)
    | _ => none

/-- An answer of the owner with the mark: the entry looked at last is the owner. -/
def replyStays (x : Search) (k : Nat) : Option (Int × Buffer UInt8) → Prop
  | none => True
  | some r => marked (rspText r.2) → r.1 ≠ engDiagRetUnsupport ∧ x.last = some k

def ownerStays (cbs : List (EngCallback φ)) (F : Funcs φ) (x : Search) : Option Nat → Prop
  | none => True
  | some k => replyStays x k (ownerReply cbs F x k)

instance (x : Search) (k : Nat) : (r : Option (Int × Buffer UInt8)) → Decidable (replyStays x k r)
  | none => inferInstanceAs (Decidable True)
  | some _ => inferInstanceAs (Decidable (_ → _))

instance (cbs : List (EngCallback φ)) (F : Funcs φ) (x : Search) :
    (owner : Option Nat) → Decidable (ownerStays cbs F x owner)
  | none => inferInstanceAs (Decidable True)
  | some _ => inferInstanceAs (Decidable (replyStays ..))

/-- The requests that a session survives: where a text with the mark is left, it comes from the
AT function that answers the request, or from the owner of the session as an answer to data, and
then the owner is the entry looked at last; data for an open session does not look like a
command. -/
structure SessionSafe (cbs : List (EngCallback φ)) (s : MgrState × TransState)
    (q : Request φ) : Prop where
  text : q.2.frame.buff 7 = 0x68 → marked (rspText (requestSearch cbs s q).rsp) →
    (requestSearch cbs s q).answer = some .linuxcmd ∨
      (requestSearch cbs s q).isData ∧ s.1.lpPendingCB ≠ none
  data : isDataRequest cbs q.1 q.2 → s.1.lpPendingCB ≠ none →
    ¬strcasestr (diagText q.2.frame.buff) (ofString "AT")
  owner : q.2.frame.buff 7 = 0x68 → (requestSearch cbs s q).isData →
    ownerStays cbs q.1 (requestSearch cbs s q) s.1.lpPendingCB

instance (cbs : List (EngCallback φ)) (s : MgrState × TransState) (q : Request φ) :
    Decidable (SessionSafe cbs s q) :=
  decidable_of_iff (_ ∧ _ ∧ _) ⟨fun h => ⟨h.1, h.2.1, h.2.2⟩, fun h => ⟨h.text, h.data, h.owner⟩⟩

/-- The manager's pointer and the owner are the same; the owner has an AT function. -/
structure SessionSim (cbs : List (EngCallback φ)) (s : MgrState × TransState)
    (owner : Option Nat) : Prop where
  pending_eq : s.1.lpPendingCB = owner
  channel : s.2.DiagChannel
  dataType_eq : s.2.obj.dataType = .diag
  owner_func : ∀ k, owner = some k → ∃ cb, cbs[k]? = some cb ∧ cb.engLinuxcmdFunc.isSome = true

lemma checkPending_iff (o : CProtolDiag) (text : List UInt8) :
    o.checkPending text ↔ o.nDiagAT = true ∧ marked text := Iff.rfl

lemma decode_nDiagAT (o : CProtolDiag) (r : Received) :
    (o.decode r.buff r.len).obj.nDiagAT = true ↔ r.frame.buff 7 = 0x68 := by
  simp [CProtolDiag.decode, Received.frame]

lemma transStep_processDiag {cbs : List (EngCallback φ)} {F : Funcs φ} {dispatch : Dispatch}
    (dstType : PortType) {m : MgrState} {t : TransState} (ht : t.DiagChannel)
    (hkind : t.obj.dataType = .diag) (r : Received) {s : Served}
    (h : processDiag cbs F dispatch m r.frame.buff (fun _ => 0) r.frame.len = .ok s) :
    ∃ m' t' out, transStep cbs F dispatch dstType m t r = .ok ((m', t'), out) ∧
      out.calls = s.calls ∧ out.text = rspText s.rsp ∧ t'.DiagChannel ∧ t'.obj.dataType = .diag ∧
      m' = if r.frame.buff 7 = 0x68 ∧ marked (rspText s.rsp) then s.mgr.setPendingMark
        else s.mgr.clearPendingMark := by
  have hprocess : mgrProcess cbs F dispatch t.obj.dataType m (t.obj.decode r.buff r.len).buff
      (fun _ => 0) (t.obj.decode r.buff r.len).len = .ok s := by
    rw [hkind]
    exact h
  have hstep : transStep cbs F dispatch dstType m t r = .ok (transOf dstType t r s) :=
    ht.transStep_eq hprocess
  obtain ⟨hk, -, -⟩ := finish_ctrans (t.obj.decode r.buff r.len).obj s
  refine ⟨_, _, _, hstep, transOf_calls dstType t r s, ?_, ht.step hstep, hk.trans hkind, ?_⟩
  all_goals
    unfold CDataDiag.finish
    simp only [checkPending_iff, decode_nDiagAT]
    split_ifs <;> rfl

/-- The entry whose AT function was called last, when it has answered. -/
lemma sessionOwner_of_last (owner : Option Nat) {q : Request φ} {out : TransOut} {k : Nat}
    {ret : Int} (h68 : q.2.frame.buff 7 = 0x68) (hmark : marked out.text)
    (hlast : out.calls.getLast? = some ⟨k, .linuxcmd, ret⟩) (hret : ret ≠ engDiagRetUnsupport) :
    sessionOwner owner q out = some k := by
  unfold sessionOwner
  rw [if_pos ⟨h68, hmark⟩, hlast]
  exact if_neg hret

lemma sessionOwner_of_unmarked {owner : Option Nat} {q : Request φ} {out : TransOut}
    (h : ¬(q.2.frame.buff 7 = 0x68 ∧ marked out.text)) : sessionOwner owner q out = none := by
  unfold sessionOwner
  exact if_neg h

/-- What the end of `processDiag` does after a search, in an open session or without one. -/
lemma pendingCall_searched {cbs : List (EngCallback φ)} {F : Funcs φ} (hF : F.Plain)
    (dispatch : Dispatch) {s₀ s : Served} {x : Search} (hx : Searched cbs 0 s₀ s x)
    (hb : s₀.bProcess = false)
    (hfunc : ∀ k, s.mgr.lpPendingCB = some k →
      ∃ cb, cbs[k]? = some cb ∧ cb.engLinuxcmdFunc.isSome = true) :
    (¬(x.isData ∧ s.mgr.lpPendingCB ≠ none) ∧ ∃ offered,
      pendingCall cbs F dispatch s =
        .ok { s with mgr := s.mgr.clearPendingMark, offered := offered }) ∨
    ∃ k cb rlen req rsp, x.isData ∧ s.mgr.lpPendingCB = some k ∧ cbs[k]? = some cb ∧
      cb.engLinuxcmdFunc.isSome = true ∧
      cb.call F .linuxcmd (.start .init x.req x.rsp) 0 = some (.ret rlen req rsp) ∧
      pendingCall cbs F dispatch s =
        .ok { s.called k .linuxcmd ⟨s.mgr, req, rsp, rlen, [], false⟩ with offered := true } := by
  have hdata : s.isData ↔ x.isData := by
    unfold Served.isData Search.isData
    rw [hx.bProcess_eq, hx.req_eq, hb]
    cases x.answer <;> simp
  unfold pendingCall
  by_cases hd : s.isData
  · rw [if_pos hd]
    cases hp : s.mgr.lpPendingCB with
    | none =>
      refine .inl ⟨fun h => h.2 rfl, true, ?_⟩
      have hmgr : s.mgr.clearPendingMark = s.mgr := by
        unfold MgrState.clearPendingMark
        rw [← hp]
      rw [hmgr]
    | some k =>
      obtain ⟨cb, hk, hf⟩ := hfunc k hp
      obtain ⟨f, hf'⟩ := Option.isSome_iff_exists.mp hf
      have hcall : cb.call F .linuxcmd s 0 = some (F.linuxcmd f s.req s.rsp) := by
        unfold EngCallback.call
        rw [hf']
        rfl
      obtain ⟨rlen, req, rsp, hret⟩ := hF.linuxcmd f s.req s.rsp
      rw [hret] at hcall
      refine .inr ⟨k, cb, rlen, req, rsp, hdata.mp hd, rfl, hk, hf, ?_, ?_⟩
      · rw [← hcall, ← hx.req_eq, ← hx.rsp_eq]
        exact (call_start cb F .linuxcmd s 0).symm
      · simp only [hk, hcall, Call.run]
  · rw [if_neg hd]
    exact .inl ⟨fun h => hd (hdata.mpr h.1), s.offered, rfl⟩

lemma Searched.of_dataRequest {cbs : List (EngCallback φ)} {q : Request φ} (dispatch : Dispatch)
    {m : MgrState} {s : Served} {x : Search}
    (hloop : diagLoop q.1 dispatch q.2.frame.len cbs 0 (.start m q.2.frame.buff fun _ => 0) = .ok s)
    (hx : Searched cbs 0 (.start m q.2.frame.buff fun _ => 0) s x)
    (hdata : isDataRequest cbs q.1 q.2) :
    s.calls = [] ∧ x.answer = none ∧ x.req = q.2.frame.buff := by
  obtain ⟨m', hm'⟩ := diagLoop_unmatched q.1 dispatch q.2.frame.len cbs 0
    (.start m q.2.frame.buff fun _ => 0) hdata.2
  obtain rfl := Except.ok.inj (hloop.symm.trans hm')
  have hb := hx.bProcess_eq
  refine ⟨rfl, ?_, hx.req_eq.symm⟩
  cases hans : x.answer with
  | none => rfl
  | some kind =>
    rw [hans] at hb
    cases hb

/-- What a request leaves behind keeps to the monitor, if a text with the mark comes from the entry
that was looked at last, and the calls are those allowed. -/
lemma channelStep_ends {cbs : List (EngCallback φ)} {n : Nat} (dstType : PortType)
    {s : MgrState × TransState} {owner : Option Nat} {q : Request φ} {s₂ : Served}
    (hsim : SessionSim cbs s owner)
    (hend : processDiag cbs q.1 (dispatchAt cbs q.1 n) s.1 q.2.frame.buff (fun _ => 0)
      q.2.frame.len = .ok s₂)
    (hcalls : isDataRequest cbs q.1 q.2 →
      s₂.calls.map (fun c => (c.entry, c.kind)) = owner.toList.map fun k => (k, .linuxcmd))
    (hlast : q.2.frame.buff 7 = 0x68 → marked (rspText s₂.rsp) →
      ∃ k cb ret, s₂.calls.getLast? = some ⟨k, .linuxcmd, ret⟩ ∧ ret ≠ engDiagRetUnsupport ∧
        s₂.mgr.lpCurCB = some k ∧ cbs[k]? = some cb ∧ cb.engLinuxcmdFunc.isSome = true) :
    ∃ s' out, channelStep cbs n dstType s q = .ok (s', out) ∧ sessionAllows cbs owner q out ∧
      SessionSim cbs s' (sessionOwner owner q out) := by
  obtain ⟨m', t', out, hstep, hout, htext, ht', hkind', hm'⟩ :=
    transStep_processDiag dstType hsim.channel hsim.dataType_eq q.2 hend
  refine ⟨(m', t'), out, hstep, ?_, ?_⟩
  · intro hq
    rw [hout]
    exact hcalls hq
  rw [← htext] at hm' hlast
  by_cases hmark : q.2.frame.buff 7 = 0x68 ∧ marked out.text
  · obtain ⟨k, cb, ret, hcall, hret, hcur, hcb, hf⟩ := hlast hmark.1 hmark.2
    rw [sessionOwner_of_last owner hmark.1 hmark.2 (by rw [hout]; exact hcall) hret]
    rw [if_pos hmark] at hm'
    refine ⟨?_, ht', hkind', ?_⟩
    · rw [hm']
      exact hcur
    · intro k' hk'
      obtain rfl := Option.some.inj hk'
      exact ⟨cb, hcb, hf⟩
  · rw [sessionOwner_of_unmarked hmark]
    rw [if_neg hmark] at hm'
    refine ⟨?_, ht', hkind', by simp⟩
    rw [hm']
    rfl

lemma channelStep_safe {cbs : List (EngCallback φ)} (n : Nat) (dstType : PortType)
    {s : MgrState × TransState} {owner : Option Nat} {q : Request φ} (hplain : q.1.Plain)
    (hsim : SessionSim cbs s owner) (hsafe : SessionSafe cbs s q) :
    ∃ s' out, channelStep cbs n dstType s q = .ok (s', out) ∧ sessionAllows cbs owner q out ∧
      SessionSim cbs s' (sessionOwner owner q out) := by
  obtain ⟨s₁, hloop, hx⟩ := diagLoop_search hplain (dispatchAt cbs q.1 n) q.2.frame.len cbs 0
    (.start s.1 q.2.frame.buff fun _ => 0)
  have hx : Searched cbs 0 (.start s.1 q.2.frame.buff fun _ => 0) s₁ (requestSearch cbs s q) := hx
  have hsafe_text := hsafe.text
  have hsafe_owner := hsafe.owner
  generalize requestSearch cbs s q = x at hx hsafe_text hsafe_owner
  have hpending : s₁.mgr.lpPendingCB = owner := hx.pending_eq.trans hsim.pending_eq
  have hdata := fun h => Searched.of_dataRequest _ hloop hx h
  have hdiag : ∀ s₂, pendingCall cbs q.1 (dispatchAt cbs q.1 n) s₁ = .ok s₂ →
      processDiag cbs q.1 (dispatchAt cbs q.1 n) s.1 q.2.frame.buff (fun _ => 0) q.2.frame.len =
        .ok s₂ := by
    intro s₂ h
    unfold processDiag
    simp only [hloop, h]
  rcases pendingCall_searched hplain (dispatchAt cbs q.1 n) hx rfl
    (by rw [hpending]; exact hsim.owner_func) with
    ⟨hno, offered, hend⟩ | ⟨k, cb, rlen, req, rsp, hd, hk, hcb, hf, hcall, hend⟩
  · apply channelStep_ends dstType hsim (hdiag _ hend)
    · intro hq
      obtain ⟨hnone, hans, hreq⟩ := hdata hq
      have howner : owner = none := by
        by_contra hopen
        have hpend : s.1.lpPendingCB ≠ none := by
          rw [hsim.pending_eq]
          exact hopen
        refine hno ⟨⟨hans, by rw [hreq]; exact hq.1, ?_⟩, by rw [hpending]; exact hopen⟩
        rw [hreq]
        exact hsafe.data hq hpend
      rw [hnone, howner]
      rfl
    · intro h68 hmark
      have hans : x.answer = some .linuxcmd := by
        rcases hsafe_text h68 (by rw [← hx.rsp_eq]; exact hmark) with h | ⟨hd, hp⟩
        · exact h
        · exact absurd ⟨hd, by rw [hpending, ← hsim.pending_eq]; exact hp⟩ hno
      obtain ⟨i, cb, ret, hi, hlast, hcall, hret, hf⟩ := hx.answer_last _ hans
      rw [Nat.zero_add] at hlast hcall
      exact ⟨i, cb, ret, hcall, hret, hx.cur_eq.trans hlast, hi, hf rfl⟩
  · have howner : owner = some k := hpending.symm.trans hk
    apply channelStep_ends dstType hsim (hdiag _ hend)
    · intro hq
      dsimp only [Served.called]
      rw [(hdata hq).1, howner]
      rfl
    · intro h68 hmark
      have hreply : ownerReply cbs q.1 x k = some (rlen, rsp) := by
        unfold ownerReply
        simp only [hcb, hcall]
      have hstays := hsafe_owner h68 hd
      rw [hsim.pending_eq, howner, ownerStays, hreply, replyStays] at hstays
      obtain ⟨hret, hlast⟩ := hstays hmark
      exact ⟨k, cb, rlen, List.getLast?_concat, hret, hx.cur_eq.trans hlast, hcb, hf⟩

/-- On a channel whose modules dispatch nothing themselves, every run of safe requests keeps the
sessions: of any number and of any length. -/
theorem sessions_kept (cbs : List (EngCallback φ)) (n : Nat) (dstType : PortType)
    (m : MgrState) (hm : m.lpPendingCB = none) (t : TransState) (ht : t.DiagChannel)
    (hkind : t.obj.dataType = .diag) (l : List (Request φ)) (hplain : ∀ q ∈ l, q.1.Plain)
    (hguard : Guarded (channelStep cbs n dstType) (SessionSafe cbs) (m, t) l) :
    keepsSessions cbs n dstType (m, t) l := by
  have hstep : ∀ s owner q, q ∈ l → SessionSim cbs s owner → SessionSafe cbs s q →
      ∃ s' out, channelStep cbs n dstType s q = .ok (s', out) ∧ sessionAllows cbs owner q out ∧
        SessionSim cbs s' (sessionOwner owner q out) :=
    fun s owner q hq hsim hsafe => channelStep_safe n dstType (hplain q hq) hsim hsafe
  have hsim : SessionSim cbs (m, t) none := ⟨hm, ht, hkind, by simp⟩
  obtain ⟨s', os, hrun, hobeys⟩ := run_obeys (SessionSim cbs) l hstep (m, t) none hsim hguard
  unfold keepsSessions
  rw [hrun]
  exact hobeys

section Example

/-- Two modules for the commands AT+N and AT+M, with an AT function or without. -/
def twoModules (n m : Option Unit) : List (EngCallback Unit) :=
  [⟨0xffffffff, 0xff, 0xff, ofString "AT+N", false, none, n, none, none⟩,
    ⟨0xffffffff, 0xff, 0xff, ofString "AT+M", false, none, m, none, none⟩]

/-- Every AT function answers with the text. -/
def answerWith (text : List UInt8) : Funcs Unit where
  linuxcmd _ req rsp := .ret text.length req ((rsp.fill 0 text).store text.length 0)
  diag _ req _ rsp _ := .ret 0 req rsp
  cmdMatch _ _ _ := 1

lemma answerWith_plain (text : List UInt8) : (answerWith text).Plain :=
  ⟨fun _ _ _ => ⟨_, _, _, rfl⟩, fun _ _ _ _ _ => ⟨_, _, _, rfl⟩⟩

/-- A diag-AT request with the text. -/
def diagAt (text : List UInt8) : Received :=
  let f := flagged ([0, 0, 0, 0, UInt8.ofNat (8 + text.length), 0, 0x68, 0] ++ text)
  ⟨Buffer.fill (fun _ => 0) 0 f, f.length⟩

end Example

/-- A session of the last module: opened, kept open by an answer, closed by the next. -/
theorem sessions_kept_last_module :
    keepsSessions (twoModules none (some ())) 0 .gser (.init, .init .diag 1)
      [(answerWith pendingMark, diagAt (ofString "AT+M")),
        (answerWith pendingMark, diagAt (ofString "x")),
        (answerWith (ofString "OK"), diagAt (ofString "y")),
        (answerWith (ofString "OK"), diagAt (ofString "z"))] :=
  sessions_kept (twoModules none (some ())) 0 .gser .init rfl (.init .diag 1)
    (diagChannel_init .diag (.inl rfl)) rfl _ (by simp [answerWith_plain]) (by decide)

/-- A session of the first module: after its second answer with the mark the data goes to the
last entry, which has no AT function. -/
theorem session_of_first_module_lost :
    ¬keepsSessions (twoModules (some ()) none) 0 .gser (.init, .init .diag 1)
      [(answerWith pendingMark, diagAt (ofString "AT+N")),
        (answerWith pendingMark, diagAt (ofString "x")),
        (answerWith pendingMark, diagAt (ofString "y"))] := by
  decide

end EngPc
