import EngPc.Model.DataClass
import EngPc.Proofs.ProtolSmp
import EngPc.Proofs.RouterRun

/-!
# Channels of every kind

What a channel of each class does to the streams of its two ports. A diag channel is the router of
packets, an AT channel answers or forwards each read, one after the other, and an audio DSP channel
puts each read into a packet. A channel that does not process, and a log channel in any case, is a
pipe.
-/

namespace EngPc
open Buffer CString Machine

variable {φ : Type} {cbs : List (EngCallback φ)}

def TransState.loopState (t : TransState) : LoopState CProtolDiag := ⟨t.obj, t.ret, t.retlen⟩

lemma CDataDiag.dataClass_handle (F : Funcs φ) (dispatch : Dispatch) (m : MgrState)
    (t : TransState) (h : t.obj.dataType ≠ .wcnAt) (r : Received) :
    (CDataDiag.dataClass cbs).handle F dispatch m t.loopState r =
      (CDataDiag.handle cbs F dispatch m t r).map fun p =>
        ⟨p.obj, p.mgr, p.ret, p.retlen, p.rsp⟩ := by
  unfold DataClass.handle CDataDiag.handle
  have hctrans : (CDataDiag.dataClass cbs).ctrans t.loopState.obj = t.obj.toCTrans := rfl
  rw [hctrans]
  dsimp only
  by_cases hp : (t.obj.frameType = .complete ∨ t.obj.frameType = .halfContinue) ∧
      t.obj.apProcess = 1
  · rw [if_pos hp, if_pos hp, if_neg h]
    rfl
  · rw [if_neg hp, if_neg hp]
    rfl

lemma CDataDiag.handle_dataType {F : Funcs φ} {dispatch : Dispatch} {m : MgrState}
    {t : TransState} {r : Received} {p : Processed}
    (h : CDataDiag.handle cbs F dispatch m t r = .ok p) :
    p.obj.dataType = t.obj.dataType := by
  unfold CDataDiag.handle CDataDiag.process at h
  split_ifs at h with hp
  · dsimp only at h
    split at h
    next => cases h
    next s _ =>
      obtain rfl := Except.ok.inj h
      exact (finish_ctrans (t.obj.decode r.buff r.len).obj s).1
  · obtain rfl := Except.ok.inj h
    rfl

lemma CDataDiag.dataClass_writes (o : CProtolDiag) (h : o.dataType ≠ .wcnAt) (dstType : PortType)
    (ret : DymicRet) (rsp : Buffer UInt8) (retlen : Int) (bk : Buffer UInt8) (rCnt : Nat) :
    (CDataDiag.dataClass cbs).writes o dstType ret rsp retlen bk rCnt =
      (o, CDataDiag.writes o dstType ret rsp retlen bk rCnt) := by
  have hanswer : (CDataDiag.dataClass cbs).answer o ret rsp retlen =
      (o, CDataDiag.answer o ret rsp retlen) := by
    unfold DataClass.answer
    rw [show ((CDataDiag.dataClass cbs).ctrans o).dataType = o.dataType from rfl, if_neg h]
    rfl
  cases ret with
  | noDeal => rfl
  | noResponseToPc => rfl
  | dealSuccess => exact hanswer
  | encodeToDest => exact hanswer
  | alsoNeedToCp =>
    unfold DataClass.writes
    dsimp only
    rw [hanswer]
    rfl

/-- The loop of `trans` over `CDataDiag`. -/
theorem CDataDiag.dataClass_step (F : Funcs φ) (dispatch : Dispatch) (dstType : PortType)
    (m : MgrState) (t : TransState) (h : t.obj.dataType ≠ .wcnAt) (r : Received) :
    (CDataDiag.dataClass cbs).step F dispatch dstType m t.loopState r =
      (transStep cbs F dispatch dstType m t r).map fun x =>
        ((x.1.1, x.1.2.loopState), x.2.writes) := by
  unfold DataClass.step transStep
  rw [CDataDiag.dataClass_handle F dispatch m t h r]
  cases hp : CDataDiag.handle cbs F dispatch m t r with
  | error e => rfl
  | ok p =>
    have hkind : p.encoder.dataType ≠ .wcnAt := by
      rw [show p.encoder.dataType = p.obj.dataType from rfl, CDataDiag.handle_dataType hp]
      exact h
    have hset : (CDataDiag.dataClass cbs).setRetType p.obj p.ret = p.encoder := rfl
    simp only [Except.map, hset, CDataDiag.dataClass_writes p.encoder hkind]
    rfl

lemma CDataAgdsp.dataClass_answer (o : CProtolSmp) (h : o.dataType ≠ .wcnAt) (rsp : Buffer UInt8)
    (n : Nat) :
    (CDataAgdsp.dataClass (φ := φ)).answer o .encodeToDest rsp n =
      ((o.encode rsp n).obj, [(.dst, (o.encode rsp n).buff.load 0 (o.encode rsp n).len)]) := by
  unfold DataClass.answer
  rw [show ((CDataAgdsp.dataClass (φ := φ)).ctrans o).dataType = o.dataType from rfl, if_neg h]
  rfl

/-- The loop of `trans` over `CDataAgdsp`, on a channel that processes. -/
theorem CDataAgdsp.dataClass_step (F : Funcs φ) (dispatch : Dispatch) (dstType : PortType)
    (m : MgrState) (t : LoopState CProtolSmp) (h : t.obj.dataType ≠ .wcnAt)
    (hp : t.obj.frameType = .complete ∧ t.obj.apProcess = 1) (r : Received) :
    CDataAgdsp.dataClass.step F dispatch dstType m t r =
      .ok ((m, ⟨(agdspStep dstType t.obj r).1, .encodeToDest, r.len⟩),
        (agdspStep dstType t.obj r).2) := by
  have hcond : (t.obj.frameType = .complete ∨ t.obj.frameType = .halfContinue) ∧
      t.obj.apProcess = 1 := ⟨.inl hp.1, hp.2⟩
  have hhandle : CDataAgdsp.dataClass.handle F dispatch m t r =
      .ok ⟨t.obj, m, .encodeToDest, r.len,
        (CDataAgdsp.process r.buff (fun _ => 0) r.len).1⟩ := by
    unfold DataClass.handle
    rw [show (CDataAgdsp.dataClass (φ := φ)).ctrans t.obj = t.obj.toCTrans from rfl]
    dsimp only
    rw [if_pos hcond, if_neg h]
    rfl
  unfold DataClass.step agdspStep
  rw [hhandle, if_pos hcond]
  dsimp only
  rw [show (CDataAgdsp.dataClass (φ := φ)).setRetType t.obj .encodeToDest =
    { t.obj with retType := .encodeToDest } from rfl]
  simp only [DataClass.writes]
  rw [CDataAgdsp.dataClass_answer { t.obj with retType := .encodeToDest } h]
  rfl

section DiagChannels

variable {n : Nat}

/-- On a frame, a round of the class is a round of the loop of `trans` over `CDataDiag`. -/
lemma CDataDiag.dataClass_round {t : TransState} (ht : t.DiagChannel) {q : Round φ}
    {e : List UInt8} (hread : q.read.bytes = flagged e) :
    (CDataDiag.dataClass cbs).round cbs n t.loopState q =
      (transRound cbs n t q).map fun x => (x.1.loopState, x.2.writes) := by
  have hkind : (t.afterRead q).obj.dataType ≠ .wcnAt := by
    rcases (ht.afterRead q).kind with h | h
    · rw [h]
      decide
    · rw [h]
      decide
  have hstep := @CDataDiag.dataClass_step _ cbs q.funcs (dispatchAt cbs q.funcs n) q.dstType q.mgr
    (t.afterRead q) hkind q.read
  rw [transRound_frame cbs n ht hread]
  change ((CDataDiag.dataClass cbs).step q.funcs (dispatchAt cbs q.funcs n) q.dstType q.mgr
    (t.afterRead q).loopState q.read).map _ = _
  rw [hstep]
  cases transStep cbs q.funcs (dispatchAt cbs q.funcs n) q.dstType q.mgr (t.afterRead q) q.read <;>
    rfl

lemma diag_run {dataType : DataType} (xs : List (Exchange φ))
    (h : ∀ x ∈ xs, x.Serves cbs n dataType)
    (hread : ∀ x ∈ xs, x.round.read.bytes = diagFrame x.packet) {t : TransState}
    (ht : t.DiagChannel) (hkind : t.obj.dataType = dataType) :
    ∃ t' ws, run ((CDataDiag.dataClass cbs).round cbs n) t.loopState (xs.map Exchange.round) =
        .ok (TransState.loopState t', ws) ∧
      ∀ e, portWrites e ws.flatten = (xs.flatMap fun x => x.sent e).map diagFrame := by
  induction xs generalizing t with
  | nil => exact ⟨t, [], rfl, fun _ => rfl⟩
  | cons x xs ih =>
    rw [List.forall_mem_cons] at h hread
    obtain ⟨t₁, out, hround, ht₁, hkind₁, -, hwrites⟩ := h.1.round hread.1 ht hkind
    obtain ⟨t', ws, hrun, hrest⟩ := ih h.2 hread.2 ht₁ hkind₁
    have hclass : (CDataDiag.dataClass cbs).round cbs n t.loopState x.round =
        .ok (t₁.loopState, out.writes) := by
      rw [CDataDiag.dataClass_round ht hread.1, hround]
      rfl
    refine ⟨t', out.writes :: ws, run_cons hclass hrun, fun e => ?_⟩
    rw [List.flatten_cons, portWrites_append, List.flatMap_cons, List.map_append, hwrites e, hrest e]

def samplePackets : List (List UInt8) :=
  [[0, 0, 0, 0, 12, 0, 0x68, 0] ++ ofString "AT+N", [0x7e, 0, 0, 0, 8, 0, 0x10, 0x20]]

/-- The first frame comes in two reads. -/
def sampleGroups : List (List (List UInt8)) :=
  [[(diagFrame (samplePackets.getD 0 [])).take 3, (diagFrame (samplePackets.getD 0 [])).drop 3],
    [diagFrame (samplePackets.getD 1 [])]]

/-- One module, for AT+N, which answers with the text x. -/
def sampleServed (r : Received) : Except Fault Served :=
  mgrProcess (oneModule true) (answerWith (ofString "x"))
    (dispatchAt (oneModule true) (answerWith (ofString "x")) 0) .diag .init r.frame.buff
    (fun _ => 0) r.frame.len

def sampleExchange (packet : List UInt8) (r : Received) : Exchange Unit where
  round := ⟨r, .init, answerWith (ofString "x"), .gser⟩
  packet := packet
  served := (sampleServed r).toOption.getD (.start .init r.buff r.buff)

def sampleReads : List Received :=
  (CPort.mk .gser true true).received 1 (fun _ => 0) (sampleGroups.flatten.map .data)

def sampleExchanges : List (Exchange Unit) :=
  (samplePackets.zip sampleReads).map fun x => sampleExchange x.1 x.2

end DiagChannels

/-! ### Pipes -/

section Pipes

variable {σ : Type} {C : DataClass φ σ} {n : Nat}

/-- The class adds nothing to a request that goes on because nobody has handled it. -/
structure DataClass.Plain (C : DataClass φ σ) : Prop where
  ctrans_set : ∀ o ret, C.ctrans (C.setRetType o ret) = { C.ctrans o with retType := ret }
  ctrans_judge : ∀ o buff len, C.ctrans (C.judge o buff len) = C.ctrans o
  pre_noDeal : ∀ o, C.preWrite (C.setRetType o .noDeal) = []
  post_noDeal : ∀ o buff, C.postWrite (C.setRetType o .noDeal) buff = []

lemma not_atReply_noDeal (o : CProtolDiag) :
    ¬CProtolDiag.atReply { o with retType := .noDeal } := by
  rintro ⟨h | h, -⟩
  · cases h
  · cases h

lemma CDataDiag.dataClass_plain : (CDataDiag.dataClass cbs).Plain where
  ctrans_set _ _ := rfl
  ctrans_judge o buff len := by
    show (CProtolDiag.judge o buff len).toCTrans = o.toCTrans
    unfold CProtolDiag.judge
    split_ifs
    · rfl
    · rfl
  pre_noDeal o := by
    show CDataDiag.preWrite ({ o with retType := .noDeal } : CProtolDiag) = []
    unfold CDataDiag.preWrite
    exact if_neg (not_atReply_noDeal o)
  post_noDeal o buff := by
    show CDataDiag.postWrite ({ o with retType := .noDeal } : CProtolDiag) buff = []
    unfold CDataDiag.postWrite
    exact if_neg fun hand => not_atReply_noDeal o hand.1

lemma newTrans_plain {dataType : DataType} {apProcess : Int} {o : TransObject φ}
    (h : CChnlThread.newTrans cbs dataType apProcess = some o) :
    o.dataClass.Plain ∧ o.dataClass.ctrans o.obj = .init dataType apProcess := by
  have hat : (CDataAT.dataClass cbs).Plain :=
    ⟨fun _ _ => rfl, fun _ _ _ => rfl, fun _ => rfl, fun _ _ => rfl⟩
  have hlog : (CDataLog.dataClass cbs).Plain :=
    ⟨fun _ _ => rfl, fun _ _ _ => rfl, fun _ => rfl, fun _ _ => rfl⟩
  have hdsp : (CDataAgdsp.dataClass (φ := φ)).Plain :=
    ⟨fun _ _ => rfl, fun _ _ _ => rfl, fun _ => rfl, fun _ _ => rfl⟩
  cases dataType with
  | diag | wcnDiag =>
    obtain rfl := Option.some.inj h
    exact ⟨CDataDiag.dataClass_plain, rfl⟩
  | «at» | wcnAt =>
    obtain rfl := Option.some.inj h
    exact ⟨hat, rfl⟩
  | log =>
    obtain rfl := Option.some.inj h
    exact ⟨hlog, rfl⟩
  | agdspLog | agdspPcm | agdspMem =>
    obtain rfl := Option.some.inj h
    exact ⟨hdsp, rfl⟩
  | agdspMix | unknown => cases h

/-- A request that nobody has handled goes to the destination port as it was read. -/
lemma step_noDeal (hC : C.Plain) {F : Funcs φ} {dispatch : Dispatch} (dstType : PortType)
    {m : MgrState} {t : LoopState σ} {r : Received} {p : Handled σ}
    (h : C.handle F dispatch m t r = .ok p) (hret : p.ret = .noDeal) :
    C.step F dispatch dstType m t r =
      .ok ((p.mgr, ⟨C.setRetType p.obj .noDeal, .noDeal, p.retlen⟩),
        if dstType = .loop then [] else [(.dst, r.bytes)]) := by
  have hcopy : (Buffer.fill (fun _ => 0) 0 (r.buff.load 0 r.len)).load 0 r.len = r.bytes :=
    load_fill_of_length _ _ (length_load _ _ _)
  unfold DataClass.step
  rw [h]
  dsimp only
  rw [hret]
  simp only [DataClass.writes, DataClass.forward, DataClass.writeOut, hC.pre_noDeal,
    hC.post_noDeal, hcopy, List.nil_append]

lemma pipe_run (hC : C.Plain) (inv : LoopState σ → Prop)
    (hquiet : ∀ F dispatch m t r, inv t → ∃ p, C.handle F dispatch m t r = .ok p ∧
      p.ret = .noDeal ∧ inv ⟨C.setRetType p.obj .noDeal, .noDeal, p.retlen⟩)
    (hjudge : ∀ t buff len, inv t → inv { t with obj := C.judge t.obj buff len })
    (qs : List (Round φ)) {t : LoopState σ} (ht : inv t) :
    ∃ t', run (C.round cbs n) t qs = .ok (t', qs.map fun q =>
      if q.dstType = .loop then [] else [(PortEnd.dst, q.read.bytes)]) := by
  induction qs generalizing t with
  | nil => exact ⟨t, rfl⟩
  | cons q qs ih =>
    obtain ⟨p, hp, hret, hinv⟩ := hquiet q.funcs (dispatchAt cbs q.funcs n) q.mgr
      { t with obj := C.judge t.obj q.read.buff q.read.len } q.read (hjudge t _ _ ht)
    obtain ⟨t', hrun⟩ := ih hinv
    refine ⟨t', run_cons ?_ hrun⟩
    unfold DataClass.round
    rw [step_noDeal hC q.dstType hp hret]
    rfl

lemma CDataLog.dataClass_handle (F : Funcs φ) (dispatch : Dispatch) (m : MgrState)
    (t : LoopState CTrans) (hret : t.ret = .noDeal) (hkind : t.obj.dataType = .log) (r : Received) :
    ∃ p, (CDataLog.dataClass cbs).handle F dispatch m t r = .ok p ∧ p.ret = .noDeal ∧
      DymicRet.noDeal = .noDeal ∧ p.obj.dataType = .log := by
  unfold DataClass.handle
  rw [show (CDataLog.dataClass cbs).ctrans t.obj = t.obj from rfl]
  dsimp only
  split_ifs with hp hwcn
  · rw [hkind] at hwcn
    cases hwcn
  · refine ⟨⟨t.obj, m, .noDeal, 0, fun _ => 0⟩, ?_, rfl, rfl, hkind⟩
    show CDataLog.process cbs F dispatch t.obj m r.buff _ r.len = _
    unfold CDataLog.process
    rw [hkind]
    rfl
  · exact ⟨_, rfl, hret, rfl, hkind⟩

/-- Nothing is processed where the configuration has not asked for it, and nothing of a log. -/
lemma pipe_handles_nothing {dataType : DataType} {apProcess : Int} {o : TransObject φ}
    (ho : CChnlThread.newTrans cbs dataType apProcess = some o)
    (hpipe : apProcess ≠ 1 ∨ dataType = .log) (qs : List (Round φ)) :
    ∃ t', run (o.dataClass.round cbs n) o.start qs = .ok (t', qs.map fun q =>
      if q.dstType = .loop then [] else [(PortEnd.dst, q.read.bytes)]) := by
  obtain ⟨hC, hinit⟩ := newTrans_plain ho
  rcases hpipe with hap | rfl
  · refine pipe_run hC (fun t => t.ret = .noDeal ∧ (o.dataClass.ctrans t.obj).apProcess ≠ 1)
      ?_ ?_ qs ⟨rfl, ?_⟩
    · rintro F dispatch m t r ⟨hret, hno⟩
      refine ⟨⟨t.obj, m, t.ret, t.retlen, fun _ => 0⟩, ?_, hret, rfl, ?_⟩
      · unfold DataClass.handle
        exact if_neg fun hand => hno hand.2
      · rw [hC.ctrans_set]
        exact hno
    · rintro t buff len ⟨hret, hno⟩
      exact ⟨hret, by rw [hC.ctrans_judge]; exact hno⟩
    · show (o.dataClass.ctrans o.obj).apProcess ≠ 1
      rw [hinit]
      exact hap
  · obtain rfl := Option.some.inj ho
    refine pipe_run hC (fun t => t.ret = .noDeal ∧ t.obj.dataType = .log) ?_
      (fun t _ _ ht => ht) qs ⟨rfl, rfl⟩
    rintro F dispatch m t r ⟨hret, hkind⟩
    exact CDataLog.dataClass_handle F dispatch m t hret hkind r

/-- The bytes that a read finds. -/
def RdEvent.bytes? : RdEvent → Option (List UInt8)
  | .data bytes => some bytes
  | _ => none

/-- The read comes back empty, and the loop of `trans` ends. -/
def RdEvent.stops : RdEvent → Bool
  | .notify msg => strcaseeq (msg.takeWhile (· ≠ 0)) msgNotifyExit
  | .failed reopened => !reopened
  | _ => false

/-- Where every read is a frame, the requests are what the reads find before the end. -/
lemma receivedFrom_bytes {apProcess : Int} (hap : apProcess ≠ 1) (t : PortType) (nLen : Nat)
    (es : List RdEvent) {s : RdState} (hs : s.offset = 0) (hgrant : granted apProcess t nLen s es) :
    (receivedFrom apProcess t nLen s es).map Received.bytes =
      (es.takeWhile (!·.stops)).filterMap RdEvent.bytes? := by
  induction es generalizing s with
  | nil => rfl
  | cons e es ih =>
    rw [granted_cons] at hgrant
    obtain ⟨hnow, hrest⟩ := hgrant
    cases e with
    | selectError | selectTimeout | busy => exact ih hs hrest
    | notify msg =>
      unfold rdNext at hrest
      by_cases hexit : strcaseeq (msg.takeWhile (· ≠ 0)) msgNotifyExit
      · have hstep : rdStep apProcess t nLen s (.notify msg) = .inr ⟨s.buff, 0, true⟩ :=
          if_pos hexit
        have hstop : (RdEvent.notify msg).stops = true := decide_eq_true hexit
        rw [receivedFrom, hstep, List.takeWhile_cons, hstop]
        rfl
      · have hstep : rdStep apProcess t nLen s (.notify msg) = .inl s := if_neg hexit
        have hstop : (RdEvent.notify msg).stops = false := decide_eq_false hexit
        rw [hstep] at hrest
        rw [receivedFrom, hstep, List.takeWhile_cons, hstop]
        exact ih hs hrest
    | failed reopened =>
      cases reopened with
      | true => exact ih hs hrest
      | false => simp [receivedFrom, rdStep, RdEvent.stops, hs]
    | data bytes =>
      have hpos : bytes.length ≠ 0 := mt List.length_eq_zero_iff.mp hnow.1
      have hstep : rdStep apProcess t nLen s (.data bytes) =
          .inr ⟨s.buff.fill 0 bytes, bytes.length, true⟩ := by
        simp [rdStep, checkframe, hap, hs]
      unfold rdNext at hrest
      rw [hstep] at hrest
      rw [receivedFrom, hstep]
      simp only [if_neg hpos, if_true, List.map_cons]
      rw [ih rfl hrest]
      simp [RdEvent.stops, RdEvent.bytes?, Received.bytes, load_fill]

/-- A channel that does not process, of any kind, and a log channel in any case is a pipe: its
destination port gets the bytes that the reads of the source port find until the loop ends, in
order, and the source port gets nothing. -/
theorem pipe_streams (cbs : List (EngCallback φ)) (n : Nat) (dataType : DataType) (apProcess : Int)
    (o : TransObject φ) (ho : CChnlThread.newTrans cbs dataType apProcess = some o)
    (hpipe : apProcess ≠ 1 ∨ dataType = .log) (p : CPort)
    (hopen : p.bEnableRD = true ∧ p.fdOpen = true ∧ p.portType ≠ .loop) (buff : Buffer UInt8)
    (events : List RdEvent) (hgrant : p.grants (dataType.checkProcess apProcess) buff events)
    (qs : List (Round φ)) (hdst : ∀ q ∈ qs, q.dstType ≠ .loop)
    (hreads : qs.map (fun q => q.read) =
      p.received (dataType.checkProcess apProcess) buff events) :
    ∃ t ws, run (o.dataClass.round cbs n) o.start qs = .ok (t, ws) ∧
      (portWrites .dst ws.flatten).flatten =
        ((events.takeWhile (!·.stops)).filterMap RdEvent.bytes?).flatten ∧
      portWrites .src ws.flatten = [] := by
  obtain ⟨t, hrun⟩ := pipe_handles_nothing (n := n) ho hpipe qs
  have hcheck : dataType.checkProcess apProcess ≠ 1 := by
    rcases hpipe with hap | rfl
    · unfold DataType.checkProcess
      split
      · exact hap
      · exact hap
      · decide
    · exact (by decide : (0 : Int) ≠ 1)
  have hbytes := receivedFrom_bytes hcheck p.portType maxChnlBuff events
    (s := rdStart p.portType maxChnlBuff buff) rfl hgrant
  unfold CPort.received at hreads
  rw [if_pos hopen] at hreads
  rw [← hreads, List.map_map] at hbytes
  have hwrites : (qs.map fun q =>
      if q.dstType = .loop then [] else [(PortEnd.dst, q.read.bytes)]).flatten =
        qs.map fun q => (PortEnd.dst, q.read.bytes) := by
    clear hreads hbytes hrun
    induction qs with
    | nil => rfl
    | cons q qs ih =>
      rw [List.forall_mem_cons] at hdst
      rw [List.map_cons, List.flatten_cons, if_neg hdst.1, ih hdst.2]
      rfl
  refine ⟨t, _, hrun, ?_, ?_⟩
  · rw [hwrites, ← hbytes]
    simp [portWrites, List.filterMap_map, Function.comp_def]
  · rw [hwrites]
    simp [portWrites]

/-- Two reads, and one after the end. -/
def sampleEvents : List RdEvent :=
  [.data (ofString "AT+N"), .selectTimeout, .data (ofString "AT+Q"), .notify msgNotifyExit,
    .data [1]]

def sampleRequests : List Received :=
  (CPort.mk .gser true true).received 0 (fun _ => 0) sampleEvents

theorem pipe_streams_log :
    ∃ t ws, run ((CDataLog.dataClass (oneModule true)).round (oneModule true) 0)
        (TransObject.start ⟨_, CDataLog.dataClass (oneModule true), .init .log 1⟩)
        (sampleRequests.map fun r => ⟨r, .init, answerWith (ofString "x"), .gser⟩) = .ok (t, ws) ∧
      (portWrites .dst ws.flatten).flatten = ofString "AT+NAT+Q" ∧
      portWrites .src ws.flatten = [] := by
  obtain ⟨t, ws, hrun, hdst, hsrc⟩ := pipe_streams (oneModule true) 0 .log 1 _ rfl (.inr rfl)
    ⟨.gser, true, true⟩ ⟨rfl, rfl, by decide⟩ (fun _ => 0) sampleEvents (by decide)
    (sampleRequests.map fun r => ⟨r, .init, answerWith (ofString "x"), .gser⟩)
    (by decide) (by rw [List.map_map]; exact List.map_id _)
  exact ⟨t, ws, hrun, hdst.trans (by decide), hsrc⟩

end Pipes

/-! ### AT channels -/

section ATChannels

variable {n : Nat}

/-- The outcome of what the manager leaves for an AT request. On the WCN channel as many bytes go out
as the handler says, on the other one the text. -/
def Served.atOutcome (dataType : DataType) (s : Served) : Outcome :=
  if 0 < CProtolAT.process (rspText s.rsp) s.rlen then
    .answered
      (if dataType = .wcnAt then
        s.rsp.load 0 (CProtolAT.process (rspText s.rsp) s.rlen).toNat
      else rspText s.rsp)
      s.cpProcess
  else if CProtolAT.process (rspText s.rsp) s.rlen = engDiagNoResponse then .silent
  else .unhandled

/-- What a round of an AT channel sends through one of the two ports. -/
def Exchange.atSent (dataType : DataType) (x : Exchange φ) : PortEnd → List (List UInt8) :=
  (x.served.atOutcome dataType).sent false (x.round.dstType = .loop) x.round.read.bytes

/-- The modules serve the request. -/
def Exchange.ServesAt (cbs : List (EngCallback φ)) (n : Nat) (dataType : DataType)
    (x : Exchange φ) : Prop :=
  mgrProcess cbs x.round.funcs (dispatchAt cbs x.round.funcs n) dataType x.round.mgr
    x.round.read.buff (fun _ => 0) x.round.read.len = .ok x.served

/-- The channel in the loop. -/
def LoopState.ATChannel (dataType : DataType) (t : LoopState CTrans) : Prop :=
  t.obj.frameType = .complete ∧ t.obj.apProcess = 1 ∧ t.obj.dataType = dataType

/-- What `CDataAT::process` returns. -/
def Served.atRet (s : Served) : DymicRet :=
  if CTrans.process (CProtolAT.process (rspText s.rsp) s.rlen) = .dealSuccess ∧ s.cpProcess = true then
    .alsoNeedToCp
  else CTrans.process (CProtolAT.process (rspText s.rsp) s.rlen)

lemma atRet_outcome (dataType : DataType) (s : Served) :
    s.atRet = (s.atOutcome dataType).ret := by
  unfold Served.atRet Served.atOutcome CTrans.process
  split_ifs with hpos hcp hno hcp <;> simp_all [Outcome.ret]

lemma CDataAT.dataClass_handle {dataType : DataType} (hkind : dataType = .at ∨ dataType = .wcnAt)
    {x : Exchange φ} (h : x.ServesAt cbs n dataType) {t : LoopState CTrans}
    (ht : t.ATChannel dataType) :
    (CDataAT.dataClass cbs).handle x.round.funcs (dispatchAt cbs x.round.funcs n) x.round.mgr t
      x.round.read = .ok ⟨t.obj, x.served.mgr, x.served.atRet,
        CProtolAT.process (rspText x.served.rsp) x.served.rlen, x.served.rsp⟩ := by
  obtain ⟨hframe, hap, htype⟩ := ht
  have hlen : ∀ len, mgrProcess cbs x.round.funcs (dispatchAt cbs x.round.funcs n) dataType
      x.round.mgr x.round.read.buff (fun _ => 0) len = .ok x.served := by
    intro len
    rw [← h]
    rcases hkind with rfl | rfl
    · rfl
    · rfl
  have hprocess : ∀ len, CDataAT.process cbs x.round.funcs (dispatchAt cbs x.round.funcs n) t.obj
      x.round.mgr x.round.read.buff (fun _ => 0) len = .ok ⟨t.obj, x.served.mgr, x.served.atRet,
        CProtolAT.process (rspText x.served.rsp) x.served.rlen, x.served.rsp⟩ := by
    intro len
    unfold CDataAT.process
    rw [htype, hlen len]
    rfl
  unfold DataClass.handle
  rw [show (CDataAT.dataClass cbs).ctrans t.obj = t.obj from rfl]
  dsimp only
  rw [if_pos ⟨.inl hframe, hap⟩]
  split_ifs
  · exact hprocess _
  · exact hprocess _

lemma CDataAT.dataClass_answer (o : CTrans) {ret : DymicRet} (hret : ret ≠ .encodeToDest)
    (rsp : Buffer UInt8) (retlen : Int) :
    (CDataAT.dataClass cbs).answer o ret rsp retlen =
      (o, [(.src, if o.dataType = .wcnAt then rsp.load 0 retlen.toNat else rspText rsp)]) := by
  unfold DataClass.answer
  rw [show ((CDataAT.dataClass cbs).ctrans o).dataType = o.dataType from rfl, if_neg hret]
  split_ifs
  · rfl
  · have htext : rsp.load 0 (rspText rsp).length = rspText rsp := load_cstr _ _ _
    rw [← htext]
    rfl

variable (cbs) in
lemma CDataAT.dataClass_writes (o : CTrans) (s : Served) (dstType : PortType) {bk : Buffer UInt8}
    {len : Nat} {request : List UInt8} (hcopy : bk.load 0 len = request) :
    ∃ ws, (CDataAT.dataClass cbs).writes o dstType s.atRet s.rsp
        (CProtolAT.process (rspText s.rsp) s.rlen) bk len = (o, ws) ∧
      ∀ e, portWrites e ws =
        (s.atOutcome o.dataType).sent false (dstType = .loop) request e := by
  have hforward : (CDataAT.dataClass cbs).forward o dstType bk len =
      if dstType = .loop then [] else [(.dst, request)] := by
    rw [← hcopy]
    rfl
  rw [atRet_outcome o.dataType]
  cases hout : s.atOutcome o.dataType with
  | unhandled =>
    refine ⟨_, rfl, fun e => ?_⟩
    rw [hforward]
    by_cases hloop : dstType = .loop
    · cases e <;> simp [hloop, portWrites, Outcome.sent, Outcome.toHost, Outcome.toCp]
    · cases e <;> simp [hloop, portWrites, Outcome.sent, Outcome.toHost, Outcome.toCp]
  | silent => exact ⟨[], rfl, fun e => by cases e <;> rfl⟩
  | answered packet forCp =>
    have hpacket : (if o.dataType = .wcnAt then
        s.rsp.load 0 (CProtolAT.process (rspText s.rsp) s.rlen).toNat
        else rspText s.rsp) = packet := by
      unfold Served.atOutcome at hout
      split_ifs at hout with hpos hwcn
      · rw [if_pos hwcn]
        exact (Outcome.answered.inj hout).1
      · rw [if_neg hwcn]
        exact (Outcome.answered.inj hout).1
    have hanswer : ∀ ret, ret ≠ .encodeToDest → (CDataAT.dataClass cbs).answer o ret s.rsp
        (CProtolAT.process (rspText s.rsp) s.rlen) = (o, [(.src, packet)]) := by
      intro ret hret
      rw [CDataAT.dataClass_answer o hret, hpacket]
    cases forCp with
    | false =>
      refine ⟨_, hanswer .dealSuccess (by decide), fun e => ?_⟩
      cases e <;> rfl
    | true =>
      have hboth : (CDataAT.dataClass cbs).writes o dstType .alsoNeedToCp s.rsp
          (CProtolAT.process (rspText s.rsp) s.rlen) bk len =
            (o, (.src, packet) :: if dstType = .loop then [] else [(.dst, request)]) := by
        unfold DataClass.writes
        dsimp only
        rw [hanswer .alsoNeedToCp (by decide), hforward]
        rfl
      refine ⟨_, hboth, fun e => ?_⟩
      by_cases hloop : dstType = .loop
      · cases e <;> simp [hloop, portWrites, Outcome.sent, Outcome.toHost, Outcome.toCp]
      · cases e <;> simp [hloop, portWrites, Outcome.sent, Outcome.toHost, Outcome.toCp]

lemma at_round {dataType : DataType} (hkind : dataType = .at ∨ dataType = .wcnAt)
    {x : Exchange φ} (h : x.ServesAt cbs n dataType) {t : LoopState CTrans}
    (ht : t.ATChannel dataType) :
    ∃ t' ws, (CDataAT.dataClass cbs).round cbs n t x.round = .ok (t', ws) ∧
      t'.ATChannel dataType ∧ ∀ e, portWrites e ws = x.atSent dataType e := by
  obtain ⟨ws, hws, hports⟩ := CDataAT.dataClass_writes cbs
    { t.obj with retType := x.served.atRet } x.served x.round.dstType
    (load_fill_of_length (fun _ => 0) 0 (length_load x.round.read.buff 0 x.round.read.len))
  refine ⟨⟨{ t.obj with retType := x.served.atRet }, x.served.atRet,
    CProtolAT.process (rspText x.served.rsp) x.served.rlen⟩, ws, ?_, ht, fun e => ?_⟩
  · unfold DataClass.round DataClass.step
    rw [show (CDataAT.dataClass cbs).judge t.obj x.round.read.buff x.round.read.len = t.obj from rfl,
      CDataAT.dataClass_handle hkind h ht]
    dsimp only
    rw [show (CDataAT.dataClass cbs).setRetType t.obj x.served.atRet =
      { t.obj with retType := x.served.atRet } from rfl, hws]
    rfl
  · rw [hports e]
    unfold Exchange.atSent
    rw [show ({ t.obj with retType := x.served.atRet } : CTrans).dataType = dataType from ht.2.2]
    rfl

lemma at_run {dataType : DataType} (hkind : dataType = .at ∨ dataType = .wcnAt)
    (xs : List (Exchange φ)) (h : ∀ x ∈ xs, x.ServesAt cbs n dataType) {t : LoopState CTrans}
    (ht : t.ATChannel dataType) :
    ∃ t' ws, run ((CDataAT.dataClass cbs).round cbs n) t (xs.map Exchange.round) = .ok (t', ws) ∧
      ∀ e, portWrites e ws.flatten = xs.flatMap fun x => x.atSent dataType e := by
  induction xs generalizing t with
  | nil => exact ⟨t, [], rfl, fun _ => rfl⟩
  | cons x xs ih =>
    rw [List.forall_mem_cons] at h
    obtain ⟨t₁, w, hround, ht₁, hw⟩ := at_round hkind h.1 ht
    obtain ⟨t', ws, hrun, hrest⟩ := ih h.2 ht₁
    refine ⟨t', w :: ws, run_cons hround hrun, fun e => ?_⟩
    rw [List.flatten_cons, portWrites_append, List.flatMap_cons, hw e, hrest e]

/-- An AT channel takes every read for one request and serves them one after the other: the host
gets the answers, the CP gets the requests that nobody has answered or that go on, as they were
read. -/
theorem at_streams (cbs : List (EngCallback φ)) (n : Nat) (dataType : DataType)
    (hkind : dataType = .at ∨ dataType = .wcnAt) (o : TransObject φ)
    (ho : CChnlThread.newTrans cbs dataType 1 = some o) (p : CPort)
    (hopen : p.bEnableRD = true ∧ p.fdOpen = true ∧ p.portType ≠ .loop) (buff : Buffer UInt8)
    (events : List RdEvent) (hgrant : p.grants (dataType.checkProcess 1) buff events)
    (xs : List (Exchange φ)) (hserves : ∀ x ∈ xs, x.ServesAt cbs n dataType)
    (hreads : xs.map (fun x => x.round.read) = p.received (dataType.checkProcess 1) buff events) :
    ∃ t ws, run (o.dataClass.round cbs n) o.start (xs.map Exchange.round) = .ok (t, ws) ∧
      xs.map (fun x => x.round.read.bytes) =
        (events.takeWhile (!·.stops)).filterMap RdEvent.bytes? ∧
      ∀ e, portWrites e ws.flatten = xs.flatMap fun x => x.atSent dataType e := by
  have hcheck : dataType.checkProcess 1 = 0 := by
    rcases hkind with rfl | rfl
    · rfl
    · rfl
  rw [hcheck] at hgrant hreads
  have hbytes := receivedFrom_bytes (by decide) p.portType maxChnlBuff events
    (s := rdStart p.portType maxChnlBuff buff) rfl hgrant
  unfold CPort.received at hreads
  rw [if_pos hopen] at hreads
  rw [← hreads, List.map_map] at hbytes
  have hnew : o = ⟨_, CDataAT.dataClass cbs, .init dataType 1⟩ := by
    rcases hkind with rfl | rfl
    · exact (Option.some.inj ho).symm
    · exact (Option.some.inj ho).symm
  subst hnew
  obtain ⟨t, ws, hrun, hwrites⟩ := at_run (n := n) hkind xs hserves
    (t := ⟨.init dataType 1, .noDeal, 0⟩) ⟨rfl, rfl, rfl⟩
  exact ⟨t, ws, hrun, hbytes, hwrites⟩

/-- One module, for AT+N, which answers with the text x. -/
def sampleAtExchange (r : Received) : Exchange Unit where
  round := ⟨r, .init, answerWith (ofString "x"), .gser⟩
  packet := []
  served := (mgrProcess (oneModule true) (answerWith (ofString "x"))
    (dispatchAt (oneModule true) (answerWith (ofString "x")) 0) .at .init r.buff (fun _ => 0)
    r.len).toOption.getD (.start .init r.buff r.buff)

/-- The answer goes to the host and both requests to the CP. -/
theorem at_streams_two :
    ∃ t ws, run ((CDataAT.dataClass (oneModule true)).round (oneModule true) 0)
        (TransObject.start ⟨_, CDataAT.dataClass (oneModule true), .init .at 1⟩)
        ((sampleRequests.map sampleAtExchange).map Exchange.round) = .ok (t, ws) ∧
      portWrites .src ws.flatten = [ofString "x"] ∧
      portWrites .dst ws.flatten = [ofString "AT+N", ofString "AT+Q"] := by
  have hok : ∀ r ∈ sampleRequests, (mgrProcess (oneModule true) (answerWith (ofString "x"))
      (dispatchAt (oneModule true) (answerWith (ofString "x")) 0) .at .init r.buff (fun _ => 0)
      r.len).isOk = true := by decide
  have hserves : ∀ x ∈ sampleRequests.map sampleAtExchange, x.ServesAt (oneModule true) 0 .at := by
    intro x hx
    obtain ⟨r, hr, rfl⟩ := List.mem_map.mp hx
    have hr := hok r hr
    unfold Exchange.ServesAt sampleAtExchange
    dsimp only
    cases hs : mgrProcess (oneModule true) (answerWith (ofString "x"))
        (dispatchAt (oneModule true) (answerWith (ofString "x")) 0) .at .init r.buff (fun _ => 0)
        r.len with
    | error e =>
      rw [hs] at hr
      cases hr
    | ok s => rfl
  obtain ⟨t, ws, hrun, -, hwrites⟩ := at_streams (oneModule true) 0 .at (.inl rfl) _ rfl
    ⟨.gser, true, true⟩ ⟨rfl, rfl, by decide⟩ (fun _ => 0) sampleEvents (by decide)
    (sampleRequests.map sampleAtExchange) hserves
    (by rw [List.map_map]; exact List.map_id _)
  exact ⟨t, ws, hrun, (hwrites .src).trans (by decide), (hwrites .dst).trans (by decide)⟩

end ATChannels

/-! ### Audio DSP channels -/

section AudioDsp

variable {n : Nat}

variable (cbs n) in
lemma agdsp_run (dstType : PortType) {type : UInt8} (qs : List (Round φ))
    {t : LoopState CProtolSmp} (ho : t.obj.Channel type) :
    ∃ t' ws, run ((CDataAgdsp.dataClass (φ := φ)).round cbs n) t qs = .ok (t', ws) ∧
      ws.flatten = (agdspPackets dstType t.obj (qs.map Round.read)).map fun p => (.dst, p) := by
  induction qs generalizing t with
  | nil => exact ⟨t, [], rfl, rfl⟩
  | cons q qs ih =>
    have hkind : t.obj.dataType ≠ .wcnAt := by
      intro h
      have hdsp := ho.kind
      rw [h] at hdsp
      cases hdsp
    have hround : (CDataAgdsp.dataClass (φ := φ)).round cbs n t q =
        .ok (⟨(agdspStep q.dstType t.obj q.read).1, .encodeToDest, q.read.len⟩,
          (agdspStep q.dstType t.obj q.read).2) := by
      have hstep := CDataAgdsp.dataClass_step q.funcs (dispatchAt cbs q.funcs n) q.dstType q.mgr t
        hkind ⟨ho.frame, ho.ap⟩ q.read
      exact congrArg (Except.map fun x => (x.1.2, x.2)) hstep
    rw [agdspStep_eq q.dstType ho] at hround
    obtain ⟨t', ws, hrun, hws⟩ := ih (t := ⟨_, .encodeToDest, q.read.len⟩) ho.next
    refine ⟨t', _, run_cons hround hrun, ?_⟩
    rw [List.flatten_cons, hws, List.map_cons, agdspPackets_cons dstType ho]
    rfl

/-- An audio DSP channel puts every read into a packet: the destination reads the payloads in order,
under sequence numbers from 0 on, and the source port gets nothing, when the headers have room in
the buffer behind each read. -/
theorem agdsp_streams (cbs : List (EngCallback φ)) (n : Nat) (dataType : DataType) {type : UInt8}
    (hkind : dataType.audioDsp = some type) (o : TransObject φ)
    (ho : CChnlThread.newTrans cbs dataType 1 = some o) (p : CPort)
    (hopen : p.bEnableRD = true ∧ p.fdOpen = true ∧ p.portType ≠ .loop) (buff : Buffer UInt8)
    (events : List RdEvent) (hgrant : p.grants (dataType.checkProcess 1) buff events)
    (qs : List (Round φ)) (hroom : ∀ q ∈ qs, q.read.len + 20 ≤ maxChnlBuff)
    (hreads : qs.map Round.read = p.received (dataType.checkProcess 1) buff events) :
    ∃ t ws, run (o.dataClass.round cbs n) o.start qs = .ok (t, ws) ∧
      (qs.map fun q => q.read.bytes) = (events.takeWhile (!·.stops)).filterMap RdEvent.bytes? ∧
      (∀ w ∈ ws.flatten, w.2.length ≤ maxChnlBuff) ∧
      PacketStream.read smpNext (portWrites .dst ws.flatten).flatten =
        some (smpMessages type 0 (qs.map Round.read)) ∧
      portWrites .src ws.flatten = [] := by
  have hcheck : dataType.checkProcess 1 = 0 := by
    cases dataType with
    | diag | wcnDiag => cases hkind
    | _ => rfl
  rw [hcheck] at hgrant hreads
  have hbytes := receivedFrom_bytes (by decide) p.portType maxChnlBuff events
    (s := rdStart p.portType maxChnlBuff buff) rfl hgrant
  unfold CPort.received at hreads
  rw [if_pos hopen] at hreads
  rw [← hreads, List.map_map] at hbytes
  have hnew : o = ⟨_, CDataAgdsp.dataClass, .init dataType 1⟩ := by
    cases dataType with
    | agdspLog | agdspPcm | agdspMem => exact (Option.some.inj ho).symm
    | _ => cases hkind
  subst hnew
  have hchannel : (CProtolSmp.init dataType 1).Channel type := ⟨hkind, rfl, rfl⟩
  obtain ⟨t, ws, hrun, hws⟩ := agdsp_run cbs n .gser qs
    (t := ⟨.init dataType 1, .noDeal, 0⟩) hchannel
  have hdelivered := agdspPackets_delivered .gser hchannel (qs.map Round.read)
    (List.forall_mem_map.mpr hroom)
  have hdst : portWrites .dst ws.flatten =
      agdspPackets .gser (.init dataType 1) (qs.map Round.read) := by
    rw [hws]
    simp [portWrites, List.filterMap_map]
  refine ⟨t, ws, hrun, hbytes, ?_, ?_, ?_⟩
  · intro w hw
    rw [hws] at hw
    obtain ⟨packet, hpacket, rfl⟩ := List.mem_map.mp hw
    exact hdelivered.inside packet hpacket
  · rw [hdst]
    exact hdelivered.received
  · rw [hws]
    simp [portWrites]

/-- The two texts go out under the numbers 0 and 1. -/
theorem agdsp_streams_two :
    ∃ t ws, run ((CDataAgdsp.dataClass (φ := Unit)).round (oneModule true) 0)
        (TransObject.start ⟨_, CDataAgdsp.dataClass (φ := Unit), .init .agdspPcm 1⟩)
        (sampleRequests.map fun r => ⟨r, .init, answerWith (ofString "x"), .gser⟩) = .ok (t, ws) ∧
      PacketStream.read smpNext (portWrites .dst ws.flatten).flatten =
        some [⟨0, 0x9d, 0x41, ofString "AT+N"⟩, ⟨1, 0x9d, 0x41, ofString "AT+Q"⟩] ∧
      portWrites .src ws.flatten = [] := by
  obtain ⟨t, ws, hrun, -, -, hdst, hsrc⟩ := agdsp_streams (oneModule true) 0 .agdspPcm rfl _ rfl
    ⟨.gser, true, true⟩ ⟨rfl, rfl, by decide⟩ (fun _ => 0) sampleEvents (by decide)
    (sampleRequests.map fun r => ⟨r, .init, answerWith (ofString "x"), .gser⟩) (by decide)
    (by rw [List.map_map]; exact List.map_id _)
  exact ⟨t, ws, hrun, hdst.trans (by decide), hsrc⟩

end AudioDsp

end EngPc
