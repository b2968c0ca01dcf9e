import EngPc.Model.PartitionChannel
import EngPc.Proofs.MiscdataEx
import EngPc.Proofs.RouterRun

/-!
# The partition over the channel

To the host a diag channel with libmiscdata is the partition itself: over a whole run of requests,
in frames that come in any pieces and with other requests between them, each read is answered with
the bytes of the last writes before it.
-/

namespace EngPc
open Buffer CString LittleEndian Machine

lemma load_msgHead (b : Buffer UInt8) (off m : Nat) :
    b.load off (msgHeadLen + m) =
      b.load off 4 ++
        (b.load (off + 4) 2 ++ ([b (off + 6), b (off + 7)] ++ b.load (off + 8) m)) := by
  rw [show msgHeadLen + m = 4 + (2 + (2 + m)) by simp only [msgHeadLen]; omega, load_add, load_add,
    load_add]
  rfl

lemma load_setMsgHead {b : Buffer UInt8} {off m len : Nat} {h : MsgHead} {rest : List UInt8}
    (hb : b.load off (msgHeadLen + m) = h.bytes ++ rest) (hlen : len < 65536) (subtype : Int) :
    (setMsgHead b off subtype len).load off (msgHeadLen + m) =
      (MsgHead.mk h.seqNum (UInt16.ofNat len) h.type (UInt8.ofInt subtype)).bytes ++ rest := by
  have hwidth : (bytesLE 2 len).length = 2 := length_bytesLE 2 len
  have hseq : (setMsgHead b off subtype len).load off 4 = b.load off 4 := by
    rw [setMsgHead, load_fill_before _ _ _ _ _ (by omega), load_store_outside b _ (by omega)]
  have hfield : (setMsgHead b off subtype len).load (off + 4) 2 = bytesLE 2 len :=
    load_fill_of_length _ _ hwidth
  have hbehind : ∀ k, off + 6 ≤ k → k ≠ off + 7 → setMsgHead b off subtype len k = b k := by
    intro k hk hne
    rw [setMsgHead, fill_outside _ (.inr (by omega)), store_ne b _ hne]
  have hsub : setMsgHead b off subtype len (off + 7) = UInt8.ofInt subtype := by
    rw [setMsgHead, fill_outside _ (.inr (by omega)), store_same]
  have hrest : (setMsgHead b off subtype len).load (off + 8) m = b.load (off + 8) m :=
    load_congr fun i _ => hbehind _ (by omega) (by omega)
  rw [load_msgHead, MsgHead.bytes, List.append_assoc, List.append_assoc] at hb
  obtain ⟨hseqNum, hb⟩ := List.append_inj hb (by simp)
  obtain ⟨-, hb⟩ := List.append_inj hb (by simp)
  obtain ⟨htypes, hrest'⟩ := List.append_inj hb (by simp)
  have htype : b (off + 6) = h.type := (List.cons.inj htypes).1
  rw [load_msgHead, hseq, hfield, hbehind (off + 6) le_rfl (by omega), hsub, hrest, hseqNum, hrest',
    htype, MsgHead.bytes, List.append_assoc, List.append_assoc, UInt16.toNat_ofNat_of_lt' hlen]

section Handler

variable {build : MiscBuild} {store b rsp : Buffer UInt8} {a : MiscAsk}

/-- It is about one byte at least, its offset is an `int`, and it ends inside the partition. -/
structure MiscAsk.InRange (build : MiscBuild) (a : MiscAsk) : Prop where
  pos : 0 < a.op.size
  offset : a.offset < 2 ^ 31
  inside : a.offset + a.op.size ≤ build.size

lemma MiscAsk.length_packet (a : MiscAsk) :
    a.packet.length = msgHeadLen + 2 * 4 + a.op.data.length := by
  simp only [MiscAsk.packet, MiscAsk.fields, List.length_append, MsgHead.length_bytes,
    length_bytesLE]

/-- What the decoded frame of a request holds. -/
structure AskFrame (a : MiscAsk) (b : Buffer UInt8) : Prop where
  head : b.load 1 (msgHeadLen + 2 * 4) =
    (MsgHead.mk a.seqNum a.len 0x0d a.op.subtype).bytes ++ a.fields
  offset : b.load (1 + msgHeadLen) 4 = bytesLE 4 a.offset
  size : b.load (1 + msgHeadLen + 4) 4 = bytesLE 4 a.op.size
  data : b.load (1 + (msgHeadLen + 2 * 4)) a.op.data.length = a.op.data
  type : b 7 = 0x0d
  subtype : b 8 = a.op.subtype

lemma askFrame (hb : b.load 0 (a.packet.length + 2) = flagged a.packet) : AskFrame a b := by
  obtain ⟨-, hinner, -⟩ := load_flagged hb
  rw [MiscAsk.length_packet, load_add, MiscAsk.packet] at hinner
  obtain ⟨hhead, hdata⟩ := List.append_inj hinner (by simp [MiscAsk.fields])
  have hsplit := hhead
  rw [load_add] at hsplit
  obtain ⟨htypes, hfields⟩ := List.append_inj hsplit (by simp)
  rw [show 2 * 4 = 4 + 4 from rfl, load_add, MiscAsk.fields] at hfields
  obtain ⟨hoffset, hsize⟩ := List.append_inj hfields (by simp)
  have hcells := load_msgHead b 1 0
  rw [Nat.add_zero, htypes, MsgHead.bytes, List.append_assoc] at hcells
  obtain ⟨-, hcells⟩ := List.append_inj hcells (by simp)
  obtain ⟨-, hcells⟩ := List.append_inj hcells (by simp)
  simp only [load_zero, List.append_nil, List.cons.injEq, and_true] at hcells
  exact ⟨hhead, hoffset, hsize, hdata, hcells.1.symm, hcells.2.symm⟩

/-- A call of the handler for the request. -/
structure AskCall (build : MiscBuild) (a : MiscAsk) (c : MiscExCall) : Prop where
  frame : AskFrame a c.buf.cells
  size : c.buf.size = a.packet.length + 2
  rspSize : c.rsp.size = maxChnlBuff
  room : msgHeadLen + 2 * 4 + a.op.size + 2 ≤ maxChnlBuff
  inRange : c.InRange build
  offset : c.offset = a.offset
  dataLen : c.dataLen = a.op.size

lemma askCall (hframe : AskFrame a b) (hrange : a.InRange build)
    (hroom : msgHeadLen + 2 * 4 + a.op.size + 2 ≤ maxChnlBuff) :
    AskCall build a (exCall b (a.packet.length + 2) rsp) := by
  have hinside := hrange.inside
  have hint := hrange.offset
  have hbuff : maxChnlBuff ≤ 65536 := by decide
  have hfield : ∀ n : Nat, (n : Int) < 2 ^ 31 → intOf (natLE (bytesLE 4 n)) = n := by
    intro n hn
    rw [natLE_bytesLE_of_lt (by norm_num; omega), intOf_eq (by omega) hn]
  have hoffset : (exCall b (a.packet.length + 2) rsp).offset = a.offset := by
    rw [MiscExCall.offset, exCall, hframe.offset, hfield _ (by omega)]
  have hdataLen : (exCall b (a.packet.length + 2) rsp).dataLen = a.op.size := by
    rw [MiscExCall.dataLen, exCall, hframe.size, hfield _ (by omega)]
  refine ⟨hframe, rfl, rfl, hroom, ⟨?_, ?_, ?_⟩, hoffset, hdataLen⟩
  · rw [hoffset]
    omega
  · rw [hdataLen]
    omega
  · rw [hoffset, hdataLen]
    omega

lemma engDiagProductCtrlEx_of_step {c : MiscExCall} {store' : Buffer UInt8} {p : List UInt8}
    (h : miscExStep build store c = .ok (store', flagged p)) :
    ∃ r, engDiagProductCtrlEx build .fine .fine store c = .ok r ∧ r.store = store' ∧
      r.rspLen = p.length + 2 ∧ r.rsp.cells.load 0 (p.length + 2) = flagged p := by
  unfold miscExStep at h
  cases hr : engDiagProductCtrlEx build .fine .fine store c with
  | error e =>
    rw [hr] at h
    cases h
  | ok r =>
    rw [hr, Except.ok_bind] at h
    obtain ⟨hstore, hload⟩ := Prod.mk.inj (Except.ok.inj h)
    have hlen : r.rspLen = p.length + 2 := by
      rw [← length_load r.rsp.cells 0 r.rspLen, hload, length_flagged]
    exact ⟨r, rfl, hstore, hlen, hlen ▸ hload⟩

namespace AskCall

variable {c : MiscExCall} (h : AskCall build a c)
include h

lemma subtype : c.subtype = a.op.subtype := h.frame.subtype

lemma whole : c.Whole := by
  rw [MiscExCall.Whole, h.size, a.length_packet]
  omega

lemma fits : c.Fits := by
  have hroom := h.room
  rw [MiscExCall.Fits, h.dataLen, h.rspSize]
  omega

lemma insideBuff : InsideBuff build c.offset c.dataLen.toNat := by
  obtain ⟨hoff, hlen, hle⟩ := h.inRange
  cases build with
  | nand =>
    have hle' : c.offset + c.dataLen ≤ getFileSize := hle
    exact .inr (.inr ⟨hoff, by omega⟩)
  | block partition => exact .inl MiscBuild.noConfusion

lemma not_misses (hpos : 0 < a.op.size) : ¬build.Misses c.offset := by
  obtain ⟨hoff, hlen, hle⟩ := h.inRange
  have hsize := h.dataLen
  rintro ⟨-, hneg | hend⟩ <;> omega

lemma read {n : Nat} (hop : a.op = .read n) (hpos : 0 < n) :
    miscExStep build store c = .ok (store, flagged (a.reply store)) := by
  have hsize : a.op.size = n := by rw [hop, AskOp.size]
  have hsub : c.subtype = 0x12 := by rw [h.subtype, hop, AskOp.subtype]
  have hlen := h.dataLen
  have hroom := h.room
  have hbuff : maxChnlBuff ≤ 65536 := by decide
  obtain ⟨r, hstep, hserved⟩ := miscExStep_read_served build store h.whole h.fits.accepted hsub
    ⟨h.inRange.2.1, by omega, .inr ⟨h.fits, h.insideBuff⟩⟩
  obtain ⟨hstore, status, hstatus, hreply⟩ := hserved.read ⟨h.whole, h.fits, h.inRange, hsub⟩
  obtain rfl : status = 0 := hstatus (by omega)
  have hhead : c.readHead 0 n =
      (MsgHead.mk a.seqNum (UInt16.ofNat (msgHeadLen + 2 * 4 + n)) 0x0d 0).bytes ++ a.fields := by
    have hload : (c.buf.cells.offset 1).load 0 (msgHeadLen + 2 * 4) =
        (MsgHead.mk a.seqNum a.len 0x0d a.op.subtype).bytes ++ a.fields := by
      rw [load_offset]
      exact h.frame.head
    exact load_setMsgHead hload (lt_of_lt_of_le (by omega) hbuff) 0
  rw [hstep, ← Prod.mk.eta (p := r), hstore, hreply, h.offset, hlen, hsize, Int.toNat_natCast,
    Int.toNat_natCast, MiscExCall.readReply, length_load, hhead, MiscAsk.reply, hop]
  rfl

lemma write {data : List UInt8} (hop : a.op = .write data) (hpos : 0 < data.length) :
    miscExStep build store c = .ok (a.after store, flagged (a.reply store)) := by
  have hsize : a.op.size = data.length := by rw [hop, AskOp.size]
  have hdata : a.op.data = data := by rw [hop, AskOp.data]
  have hsub : c.subtype = 0x13 := by rw [h.subtype, hop, AskOp.subtype]
  have hlen := h.dataLen
  have hroom := h.room
  have hcarries : c.Carries := by
    rw [MiscExCall.Carries, h.size, a.length_packet, hdata, hlen, hsize]
    omega
  have hcdata : c.data = data := by
    rw [MiscExCall.data, hlen, hsize, Int.toNat_natCast, ← hdata]
    exact h.frame.data
  obtain ⟨hnonneg, -, hinside⟩ := h.inRange
  have hlanded : landed build store c.offset.toNat c.data = a.after store := by
    rw [landed_inside, hcdata, h.offset, Int.toNat_natCast, MiscAsk.after, hop]
    rw [hcdata]
    omega
  have hwrite := productCtrlExWrite_landed build store (by omega) hnonneg
    (h.not_misses (by omega)) hcarries h.insideBuff
  rw [hlanded] at hwrite
  have hload : c.buf.cells.load 1 (msgHeadLen + 0) =
      (MsgHead.mk a.seqNum a.len 0x0d a.op.subtype).bytes ++ [] := by
    have hhead := h.frame.head
    rw [load_add] at hhead
    rw [List.append_nil]
    exact (List.append_inj hhead (by simp)).1
  have hset := load_setMsgHead hload (show msgHeadLen < 65536 by decide) 0
  obtain ⟨rsp, hrsp, hreply⟩ := miscTranslatePacket_eq c.rsp
    ((setMsgHead c.buf.cells 1 0 msgHeadLen).load 1 msgHeadLen)
    (by rw [length_load, h.rspSize]; omega)
  rw [miscExStep_write build store h.whole h.fits.accepted hsub, hwrite, Except.ok_bind, hrsp,
    Except.ok_bind, hreply]
  rw [Nat.add_zero, List.append_nil] at hset
  rw [hset, MiscAsk.reply, hop]
  rfl

end AskCall

end Handler

section Manager

variable {φ : Type} {ι : MiscdataFunc → φ} {F : Funcs φ} {dispatch : Dispatch}

/-- Entries that do not match the request are passed over, and counted. -/
lemma diagLoop_pass {l : List (EngCallback φ)} (rest : List (EngCallback φ)) (len k : Nat)
    (s : Served) (h : ∀ cb ∈ l, cb.selects F s.req len = none) :
    ∃ m, diagLoop F dispatch len (l ++ rest) k s =
      diagLoop F dispatch len rest (k + l.length) { s with mgr := m } := by
  induction l generalizing k s with
  | nil => exact ⟨s.mgr, rfl⟩
  | cons cb l ih =>
    obtain ⟨m, hpass⟩ := ih (k + 1) (s.setCur k) fun cb hcb => h cb (List.mem_cons_of_mem _ hcb)
    refine ⟨m, ?_⟩
    rw [List.cons_append, diagLoop]
    have hnone : cb.selects F (s.setCur k).req len = none := h cb List.mem_cons_self
    simp only [hnone]
    rw [hpass, List.length_cons, Nat.add_assoc, Nat.add_comm 1]
    rfl

/-- The entry leaves the requests for the partition to others. -/
def passesAsks (F : Funcs φ) (cb : EngCallback φ) : Prop :=
  ∀ buf len, buf 7 = 0x0d → cb.selects F buf len = none

lemma miscdataEntry_selects (subtype : UInt8) (f : MiscdataFunc) {buf : Buffer UInt8} (len : Nat)
    (htype : buf 7 = 0x0d) :
    (miscdataEntry ι 0x0d subtype f).selects F buf len =
      if buf 8 = subtype then some .diag else none := by
  have hdata : (miscdataEntry ι 0x0d subtype f).dataCmdMatches buf := by
    rw [EngCallback.dataCmdMatches, htype]
    exact ⟨fun h => absurd h (by decide), fun h => absurd h (by decide),
      fun h => absurd h (by decide)⟩
  rw [EngCallback.selects, if_neg fun h => h.2.1 rfl, if_pos hdata]
  simp [EngCallback.cmdMatches, miscdataEntry, htype]

lemma AskOp.subtype_ne (op : AskOp) {subtype : UInt8} (hread : 0x12 ≠ subtype)
    (hwrite : 0x13 ≠ subtype) : op.subtype ≠ subtype := by
  cases op with
  | read n => exact hread
  | write data => exact hwrite

lemma askEntry_split {pre : List (EngCallback φ)} (hpre : ∀ cb ∈ pre, passesAsks F cb)
    (post : List (EngCallback φ)) (op : AskOp) {buf : Buffer UInt8} (len : Nat)
    (htype : buf 7 = 0x0d) (hsub : buf 8 = op.subtype) :
    ∃ front rest, pre ++ registerThisModuleExt ι ++ post =
        front ++ miscdataEntry ι 0x0d op.subtype .miscdataOffsetHandler :: rest ∧
      ∀ cb ∈ front, cb.selects F buf len = none := by
  have hother : ∀ subtype f, op.subtype ≠ subtype →
      (miscdataEntry ι 0x0d subtype f).selects F buf len = none := by
    intro subtype f hne
    rw [miscdataEntry_selects subtype f len htype, hsub, if_neg hne]
  have hfront : ∀ cb ∈ pre ++ (productCtrlEntries ι).take 3, cb.selects F buf len = none := by
    intro cb hcb
    rcases List.mem_append.mp hcb with hcb | hcb
    · exact hpre cb hcb buf len htype
    · simp only [productCtrlEntries, List.take_succ_cons, List.take_zero, List.mem_cons,
        List.not_mem_nil, or_false] at hcb
      rcases hcb with rfl | rfl | rfl
      · exact hother _ _ (op.subtype_ne (by decide) (by decide))
      · exact hother _ _ (op.subtype_ne (by decide) (by decide))
      · exact hother _ _ (op.subtype_ne (by decide) (by decide))
  cases op with
  | read n =>
    refine ⟨pre ++ (productCtrlEntries ι).take 3,
      (productCtrlEntries ι).drop 4 ++ [btWifiMacEntry ι, phasecheckEntry ι] ++ post, ?_, hfront⟩
    simp [registerThisModuleExt, productCtrlEntries, AskOp.subtype]
  | write data =>
    refine ⟨pre ++ (productCtrlEntries ι).take 3 ++
      [miscdataEntry ι 0x0d 0x12 .miscdataOffsetHandler],
      (productCtrlEntries ι).drop 5 ++ [btWifiMacEntry ι, phasecheckEntry ι] ++ post, ?_, ?_⟩
    · simp [registerThisModuleExt, productCtrlEntries, AskOp.subtype]
    · intro cb hcb
      rcases List.mem_append.mp hcb with hcb | hcb
      · exact hfront cb hcb
      · rw [List.mem_singleton.mp hcb]
        exact hother _ _ (show (0x13 : UInt8) ≠ 0x12 by decide)

variable [DecidableEq φ]

/-- The request goes to the handler, whose answer goes to the host alone. -/
lemma mgrProcess_ask {pre : List (EngCallback φ)} (hpre : ∀ cb ∈ pre, passesAsks F cb)
    (post : List (EngCallback φ)) (op : AskOp) {buf : Buffer UInt8} {len : Nat}
    (htype : buf 7 = 0x0d) (hsub : buf 8 = op.subtype) (m : MgrState) {rlen : Int}
    {req rsp : Buffer UInt8} (hcall : F.diag (ι .miscdataOffsetHandler) buf len (fun _ => 0)
      maxChnlBuff = .ret rlen req rsp) (hret : rlen ≠ engDiagRetUnsupport) :
    ∃ s, mgrProcess (pre ++ registerThisModuleExt ι ++ post) F dispatch .diag m buf (fun _ => 0)
        len = .ok s ∧ s.rlen = rlen ∧ s.rsp = rsp ∧ s.cpProcess = false ∧
      handlerCalled ι (pre ++ registerThisModuleExt ι ++ post) s.calls = true := by
  obtain ⟨front, rest, hlist, hfront⟩ :
      ∃ front rest, pre ++ registerThisModuleExt ι ++ post =
          front ++ miscdataEntry ι 0x0d op.subtype .miscdataOffsetHandler :: rest ∧
        ∀ cb ∈ front, cb.selects F buf len = none := askEntry_split hpre post op len htype hsub
  have hsel : (miscdataEntry ι 0x0d op.subtype .miscdataOffsetHandler).selects F buf len =
      some .diag := by
    rw [miscdataEntry_selects _ _ len htype, if_pos hsub]
  obtain ⟨m₁, hpass⟩ : ∃ m₁, diagLoop F dispatch len _ 0 (.start m buf fun _ => 0) = _ :=
    diagLoop_pass (miscdataEntry ι 0x0d op.subtype .miscdataOffsetHandler :: rest) len 0
      (.start m buf fun _ => 0) hfront
  have hcall' : (miscdataEntry ι 0x0d op.subtype .miscdataOffsetHandler).call F .diag
      (({ Served.start m buf (fun _ => 0) with mgr := m₁ }).setCur (0 + front.length)) len =
        some (.ret rlen req rsp) := congrArg some hcall
  refine ⟨⟨⟨some (0 + front.length), none⟩, req, rsp, rlen, false, true,
    [⟨0 + front.length, .diag, rlen⟩], false⟩, ?_, rfl, rfl, rfl, ?_⟩
  · have hsel' : (miscdataEntry ι 0x0d op.subtype .miscdataOffsetHandler).selects F
        (({ Served.start m buf (fun _ => 0) with mgr := m₁ }).setCur (0 + front.length)).req len =
          some .diag := hsel
    rw [mgrProcess, processDiag, hlist, hpass, diagLoop]
    simp only [hsel', hcall', Call.run, if_neg hret]
    rfl
  · rw [handlerCalled, hlist, Nat.zero_add, List.any_cons, List.getElem?_append_right le_rfl,
      Nat.sub_self]
    simp [miscdataEntry]

end Manager

/-- What comes over the channel: a request for the partition, or another one. -/
inductive WireItem (φ : Type)
  | ask (a : MiscAsk) (round : Round φ)
  | other (x : Exchange φ)

namespace WireItem

variable {φ : Type}

def round : WireItem φ → Round φ
  | .ask _ q => q
  | .other x => x.round

def packet : WireItem φ → List UInt8
  | .ask a _ => a.packet
  | .other x => x.packet

def after (store : Buffer UInt8) : WireItem φ → Buffer UInt8
  | .ask a _ => a.after store
  | .other _ => store

/-- The packets that go out through one of the two ports. -/
def sent (store : Buffer UInt8) : WireItem φ → PortEnd → List (List UInt8)
  | .ask a _, .src => [a.reply store]
  | .ask _ _, .dst => []
  | .other x, e => x.sent e

end WireItem

/-- The partition as the host knows it, with the router for all other requests. -/
def partitionStep {φ : Type} (store : Buffer UInt8) (i : WireItem φ) :
    Except Fault (Buffer UInt8 × (PortEnd → List (List UInt8))) :=
  .ok (i.after store, i.sent store)

section Wire

variable {φ : Type} [DecidableEq φ] (build : MiscBuild) (ι : MiscdataFunc → φ)
  (pre post : List (EngCallback φ)) (n : Nat) (store : Buffer UInt8)

/-- An exchange whose modules find the partition as it is. -/
def Exchange.withPartition (x : Exchange φ) : Exchange φ :=
  { x with round := { x.round with funcs := partitionFuncs build ι store x.round.funcs } }

/-- A request for the partition is in range, its answer has room in the buffer, and no module in
front takes it. The modules serve any other request, and not with the handler. -/
def WireItem.Fine : WireItem φ → Prop
  | .ask a q => a.InRange build ∧ (diagFrame (a.reply store)).length ≤ maxChnlBuff ∧
    ∀ cb ∈ pre, passesAsks q.funcs cb
  | .other x => (x.withPartition build ι store).Serves (pre ++ registerThisModuleExt ι ++ post) n
      .diag ∧ handlerCalled ι (pre ++ registerThisModuleExt ι ++ post) x.served.calls = false

variable {build ι pre post n store}

lemma frame_diagFrame {r : Received} {p : List UInt8} (hread : r.bytes = diagFrame p) :
    r.frame.len = p.length + 2 ∧ r.frame.buff.load 0 (p.length + 2) = flagged p := by
  have hlen : r.len = (diagStuffing.stuff p).length + 2 := by
    rw [← length_load r.buff 0 r.len, show r.buff.load 0 r.len = diagFrame p from hread,
      diagFrame_eq, length_flagged]
  have hload : r.buff.load 0 ((diagStuffing.stuff p).length + 2) =
      flagged (diagStuffing.stuff p) := by
    rw [← hlen]
    exact hread
  obtain ⟨hdlen, hdload⟩ := decode_flagged (.init .diag 1) hload
  rw [diagStuffing.unstuff_stuff] at hdlen hdload
  rw [hdlen] at hdload
  unfold Received.frame
  rw [hlen]
  exact ⟨hdlen, hdload⟩

lemma length_le_diagFrame (p : List UInt8) : p.length + 2 ≤ (diagFrame p).length := by
  rw [diagFrame_eq, length_flagged, diagStuffing.length_stuff]
  omega

lemma MiscAsk.room_of_fits {a : MiscAsk} (hfit : (diagFrame a.packet).length ≤ maxChnlBuff)
    (hreply : (diagFrame (a.reply store)).length ≤ maxChnlBuff) :
    msgHeadLen + 2 * 4 + a.op.size + 2 ≤ maxChnlBuff := by
  have hpacket := length_le_diagFrame a.packet
  have hback := length_le_diagFrame (a.reply store)
  rw [a.length_packet] at hpacket
  cases hop : a.op with
  | read m =>
    have hlen : (a.reply store).length = msgHeadLen + 2 * 4 + m := by
      simp only [MiscAsk.reply, MiscAsk.fields, hop, List.length_append, MsgHead.length_bytes,
        length_bytesLE, length_load]
    rw [AskOp.size]
    omega
  | write data =>
    rw [hop, AskOp.data] at hpacket
    rw [AskOp.size]
    omega

variable (store) in
/-- The handler serves the request as it comes in, and answers to the host. -/
lemma handler_serves {a : MiscAsk} (hrange : a.InRange build)
    (hroom : msgHeadLen + 2 * 4 + a.op.size + 2 ≤ maxChnlBuff) {r : Received}
    (hread : r.bytes = diagFrame a.packet) (rsp : Buffer UInt8) :
    ∃ h, engDiagProductCtrlEx build .fine .fine store (exCall r.frame.buff r.frame.len rsp) =
        .ok h ∧
      h.store = a.after store ∧ h.rspLen = (a.reply store).length + 2 ∧
      h.rsp.cells.load 0 ((a.reply store).length + 2) = flagged (a.reply store) := by
  obtain ⟨hlen, hload⟩ := frame_diagFrame hread
  have hcall : AskCall build a (exCall r.frame.buff (a.packet.length + 2) rsp) :=
    askCall (askFrame hload) hrange hroom
  rw [hlen]
  apply engDiagProductCtrlEx_of_step
  have hpos := hrange.pos
  cases hop : a.op with
  | read m =>
    rw [MiscAsk.after, hop]
    rw [hop] at hpos
    exact hcall.read hop hpos
  | write data =>
    rw [hop] at hpos
    exact hcall.write hop hpos

lemma ask_exchange {a : MiscAsk} {q : Round φ}
    (hfine : (WireItem.ask a q).Fine build ι pre post n store)
    (hfit : (diagFrame a.packet).length ≤ maxChnlBuff)
    (hread : q.read.bytes = diagFrame a.packet) :
    ∃ s, let x : Exchange φ :=
        ⟨{ q with funcs := partitionFuncs build ι store q.funcs }, a.packet, s⟩
      x.Serves (pre ++ registerThisModuleExt ι ++ post) n .diag ∧
      x.isAT = false ∧ x.outcome = .answered (a.reply store) false ∧
      handlerCalled ι (pre ++ registerThisModuleExt ι ++ post) s.calls = true := by
  obtain ⟨hrange, hreply, hpre⟩ := hfine
  obtain ⟨hlen, hload⟩ := frame_diagFrame hread
  have hframe := askFrame hload
  obtain ⟨h, hok, -, hrspLen, hrsp⟩ := handler_serves store hrange
    (MiscAsk.room_of_fits hfit hreply) hread fun _ => 0
  have hcall : (partitionFuncs build ι store q.funcs).diag (ι .miscdataOffsetHandler)
      q.read.frame.buff q.read.frame.len (fun _ => 0) maxChnlBuff =
        .ret h.rspLen h.buf h.rsp.cells := by
    simp only [partitionFuncs, if_true, hok]
  have hpre' : ∀ cb ∈ pre, passesAsks (partitionFuncs build ι store q.funcs) cb := hpre
  obtain ⟨s, hs, hrlen, hsrsp, hcp, hcalled⟩ : ∃ s,
      mgrProcess (pre ++ registerThisModuleExt ι ++ post) (partitionFuncs build ι store q.funcs)
        (dispatchAt (pre ++ registerThisModuleExt ι ++ post)
          (partitionFuncs build ι store q.funcs) n) .diag q.mgr q.read.frame.buff (fun _ => 0)
        q.read.frame.len = .ok s ∧ s.rlen = h.rspLen ∧ s.rsp = h.rsp.cells ∧
      s.cpProcess = false ∧
      handlerCalled ι (pre ++ registerThisModuleExt ι ++ post) s.calls = true :=
    mgrProcess_ask hpre' post a.op hframe.type hframe.subtype q.mgr hcall
      (by rw [engDiagRetUnsupport]; omega)
  have hAT : q.read.frame.obj.nDiagAT = false := by
    show decide (q.read.frame.buff 7 = 0x68) = false
    rw [hframe.type]
    rfl
  have hout : s.outcome false = .answered (a.reply store) false := by
    have hanswer : s.answerLen false = h.rspLen := by
      rw [Served.answerLen, if_neg (by simp), hrlen]
    rw [Served.outcome, hanswer, if_pos (by omega), if_neg (by simp), hsrsp, hrlen, hcp, hrspLen,
      Int.toNat_natCast, Nat.add_sub_cancel, (load_flagged hrsp).2.1]
  have houtcome : s.outcome q.read.frame.obj.nDiagAT = .answered (a.reply store) false := by
    rw [hAT, hout]
  refine ⟨s, ⟨hs, fun _ _ => ⟨a.reply store, ?_, ?_⟩, fun p forCp hp => ?_⟩, hAT, houtcome, hcalled⟩
  · exact hrlen.trans (congrArg _ hrspLen)
  · show s.rsp.load 0 _ = _
    rw [hsrsp, hrsp]
  · obtain ⟨rfl, -⟩ := Outcome.answered.inj (houtcome.symm.trans hp)
    exact hreply

lemma partitionRound_ok {s : TransState × Buffer UInt8} {q : Round φ} {e : List UInt8}
    (hread : q.read.bytes = flagged e) (hs : s.1.DiagChannel) {cbs : List (EngCallback φ)}
    {t : TransState} {out : TransOut}
    (h : transRound cbs n s.1 { q with funcs := partitionFuncs build ι s.2 q.funcs } =
      .ok (t, out)) :
    partitionRound build ι cbs n s q = .ok ((t, partitionAfter build ι cbs s.2 q.read.frame.buff
      q.read.frame.len out.calls), out) := by
  unfold partitionRound
  rw [hs.ap, checkframe_flagged hread, h]
  rfl

/-- The channel and the partition, before and after. -/
structure PartitionSim (s : TransState × Buffer UInt8) (store : Buffer UInt8) : Prop where
  channel : s.1.DiagChannel
  kind : s.1.obj.dataType = .diag
  store_eq : s.2 = store

lemma partitionRound_item {i : WireItem φ} (hfine : i.Fine build ι pre post n store)
    (hfit : (diagFrame i.packet).length ≤ maxChnlBuff)
    (hread : i.round.read.bytes = diagFrame i.packet) {s : TransState × Buffer UInt8}
    (hs : PartitionSim s store) :
    ∃ s' out, partitionRound build ι (pre ++ registerThisModuleExt ι ++ post) n s i.round =
        .ok (s', out) ∧ PartitionSim s' (i.after store) ∧
      ∀ e, portWrites e out.writes = (i.sent store e).map diagFrame := by
  obtain ⟨hchannel, hkind, rfl⟩ := hs
  cases i with
  | ask a q =>
    change q.read.bytes = diagFrame a.packet at hread
    obtain ⟨sv, hserves, hAT, hout, hcalled⟩ := ask_exchange hfine hfit hread
    obtain ⟨t, out, hround, ht, htkind, hcalls, hwrites⟩ := hserves.round hread hchannel hkind
    refine ⟨_, out, partitionRound_ok hread hchannel hround, ⟨ht, htkind, ?_⟩, fun e => ?_⟩
    · obtain ⟨h, hok, hstore, -⟩ := handler_serves s.2 hfine.1
        (MiscAsk.room_of_fits hfit hfine.2.1) hread fun _ => 0
      show partitionAfter _ _ _ _ _ _ _ = a.after s.2
      rw [partitionAfter, hcalls, if_pos hcalled]
      simp only [hok]
      exact hstore
    · rw [hwrites e, Exchange.sent, hout, hAT]
      cases e <;> rfl
  | other x =>
    obtain ⟨t, out, hround, ht, htkind, hcalls, hwrites⟩ := hfine.1.round hread hchannel hkind
    refine ⟨_, out, partitionRound_ok hread hchannel hround, ⟨ht, htkind, ?_⟩, hwrites⟩
    have hnot : ¬handlerCalled ι (pre ++ registerThisModuleExt ι ++ post) out.calls = true := by
      rw [hcalls]
      exact Bool.eq_false_iff.mp hfine.2
    show partitionAfter _ _ _ _ _ _ _ = s.2
    rw [partitionAfter, if_neg hnot]

lemma streamTo_of_sent {os : List TransOut} {sent : List (PortEnd → List (List UInt8))}
    (h : List.Forall₂ (fun out f => ∀ e, portWrites e out.writes = (f e).map diagFrame) os sent)
    (e : PortEnd) :
    PacketStream.read nextDiagFrame (streamTo e os) = some (sent.flatMap fun f => f e) := by
  have hwrites : (os.flatMap fun out => portWrites e out.writes) =
      (sent.flatMap fun f => f e).map diagFrame := by
    induction h with
    | nil => rfl
    | cons hout _ ih => rw [List.flatMap_cons, List.flatMap_cons, List.map_append, hout e, ih]
  rw [streamTo, hwrites, read_diagFrames]

end Wire

section Example

def sampleWrite : MiscAsk := ⟨7, 0, 5, .write [0x7e, 2]⟩

def sampleRead : MiscAsk := ⟨9, 0, 5, .read 3⟩

def sampleOther : List UInt8 := [0, 0, 0, 0, 8, 0, 0x10, 0x20]

/-- The reads of three frames, each in two pieces. -/
def wireGroups : List (List (List UInt8)) :=
  [sampleWrite.packet, sampleOther, sampleRead.packet].map fun p =>
    [(diagFrame p).take 3, (diagFrame p).drop 3]

/-- The round of read `k`, without other modules. -/
def wireRound (k : Nat) : Round MiscdataFunc where
  read := ((CPort.mk .gser true true).received 1 (fun _ => 0)
    (wireGroups.flatten.map .data)).getD k ⟨fun _ => 0, 0⟩
  mgr := .init
  funcs := ⟨fun _ req rsp => .ret 0 req rsp, fun _ req _ rsp _ => .ret 0 req rsp, fun _ _ _ => -1⟩
  dstType := .gser

def wireServed : Served :=
  { Served.start ⟨some 7, none⟩ (wireRound 1).read.frame.buff (fun _ => 0) with rlen := 0 }

/-- A write, a request of another type, and a read over what has been written. -/
def wireItems : List (WireItem MiscdataFunc) :=
  [.ask sampleWrite (wireRound 0), .other ⟨wireRound 1, sampleOther, wireServed⟩,
    .ask sampleRead (wireRound 2)]

end Example

lemma wireItems_fine :
    Guarded partitionStep (WireItem.Fine (.block leastPartition) id [] [] 0) (fun _ => 0)
      wireItems := by
  refine ⟨⟨⟨by decide, by decide, by decide⟩, by decide, by simp⟩, ⟨⟨?_, ?_, ?_⟩, rfl⟩,
    ⟨⟨by decide, by decide, by decide⟩, by decide, by simp⟩, trivial⟩
  · rfl
  · intro _ h
    exact absurd h (by decide)
  · intro p forCp h
    have hout : Exchange.outcome ⟨wireRound 1, sampleOther, wireServed⟩ = .unhandled := by decide
    cases hout.symm.trans h

end EngPc
