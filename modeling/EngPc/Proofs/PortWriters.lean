import EngPc.Model.PortWriters
import EngPc.Proofs.PortReopen
import EngPc.Proofs.PortWrite
import EngPc.Proofs.RouterRun

/-!
# Frames of several writers

The mutex of `CPort::write` is held over all rounds of `internal_write`, so what the device takes is
one piece after the other, each from the front of one block, whatever other threads do to the port
meanwhile. Where every write has returned its length the pieces are the blocks, and a host that
reads frames finds each of them, the ones of one writer in the order in which it wrote them.
-/

namespace EngPc
open Function Reach

variable {κ : Type}

/-- The block that has not been written to its end. -/
def WriterStage.pending : WriterStage → List (List UInt8)
  | .idle => []
  | .waiting block | .writing block _ => [block]

/-- What the device has taken of it. -/
def WriterStage.sent : WriterStage → List UInt8
  | .writing block st => block.take st.offset
  | _ => []

/-- The device took a part of the block, and all of it when the write has returned its length. -/
structure WriteDone.Fine (t : PortType) (d : WriteDone κ) : Prop where
  taken_le : d.taken ≤ d.block.length
  whole : t ≠ .loop → d.ret = d.block.length → d.taken = d.block.length

namespace WritersState

def written (s : WritersState κ) : List UInt8 := s.done.flatMap fun d => d.block.take d.taken

def current (s : WritersState κ) : List UInt8 :=
  match s.lock with
  | some w => (s.stage w).sent
  | none => []

variable [DecidableEq κ]

/-- The blocks of a writer that have been written. -/
def blocksOf (s : WritersState κ) (w : κ) : List (List UInt8) :=
  (s.done.filter fun d => d.writer = w).map WriteDone.block

end WritersState

variable [DecidableEq κ]

structure WritersInvariant (t : PortType) (s : WritersState κ) : Prop where
  port_eq : s.port.portType = t
  stream_eq : s.stream = s.written ++ s.current
  holder : ∀ w block st, s.stage w = .writing block st → s.lock = some w
  locked : ∀ w, s.lock = some w → ∃ block st, s.stage w = .writing block st
  progress : ∀ w block st, s.stage w = .writing block st →
    (st.offset + st.nLen : Int) = block.length ∧ 0 < st.nLen
  nonempty : ∀ w block, s.stage w = .waiting block → block ≠ []
  asked_eq : ∀ w, s.asked w = s.blocksOf w ++ (s.stage w).pending
  fine : ∀ d ∈ s.done, d.Fine t

lemma writersInvariant_init (port : PortFd) :
    WritersInvariant port.portType (.init port : WritersState κ) where
  port_eq := rfl
  stream_eq := rfl
  holder _ _ _ h := nomatch h
  locked _ h := nomatch h
  progress _ _ _ h := nomatch h
  nonempty _ _ h := nomatch h
  asked_eq _ := rfl
  fine _ h := nomatch h

namespace WritersState

variable (s : WritersState κ) {v w : κ} (block : List UInt8) (taken : Nat) (ret : Int)
  (stage : WriterStage)

@[simp] lemma go_stage_self : (s.go w stage).stage w = stage := update_self ..

lemma go_stage_ne (h : v ≠ w) : (s.go w stage).stage v = s.stage v := update_of_ne h ..

@[simp] lemma finish_stage_self : (s.finish w block taken ret).stage w = .idle := update_self ..

lemma finish_stage_ne (h : v ≠ w) : (s.finish w block taken ret).stage v = s.stage v :=
  update_of_ne h ..

lemma finish_blocksOf_self :
    (s.finish w block taken ret).blocksOf w = s.blocksOf w ++ [block] := by
  simp [blocksOf, finish]

lemma finish_blocksOf_ne (h : v ≠ w) :
    (s.finish w block taken ret).blocksOf v = s.blocksOf v := by
  simp [blocksOf, finish, h.symm]

lemma finish_written :
    (s.finish w block taken ret).written = s.written ++ block.take taken := by
  simp [written, finish]

end WritersState

section Steps

variable {t : PortType} {s s' : WritersState κ} {w : κ} {block : List UInt8} {st : WrState}
  {e : WrEvent}

/-- The part of the invariant that does not speak of the loop: writers other than `w` are not in
it. -/
structure OutsideInvariant (t : PortType) (s : WritersState κ) (w : κ) : Prop where
  port_eq : s.port.portType = t
  others : ∀ v block st, v ≠ w → s.stage v ≠ .writing block st
  nonempty : ∀ v block, s.stage v = .waiting block → block ≠ []
  asked_eq : ∀ v, s.asked v = s.blocksOf v ++ (s.stage v).pending
  fine : ∀ d ∈ s.done, d.Fine t

lemma OutsideInvariant.finish (h : OutsideInvariant t s w) {taken : Nat} {ret : Int}
    (hstream : s.stream = s.written ++ block.take taken) (hpending : (s.stage w).pending = [block])
    (hfine : WriteDone.Fine t ⟨w, block, taken, ret⟩) :
    WritersInvariant t (s.finish w block taken ret) := by
  have hidle : ∀ v b st, (s.finish w block taken ret).stage v ≠ .writing b st := by
    intro v b st hstage
    by_cases hv : v = w
    · subst hv
      rw [WritersState.finish_stage_self] at hstage
      cases hstage
    · rw [s.finish_stage_ne _ _ _ hv] at hstage
      exact h.others v b st hv hstage
  refine ⟨h.port_eq, ?_, fun v b st hstage => absurd hstage (hidle v b st), nofun,
    fun v b st hstage => absurd hstage (hidle v b st), fun v b hstage => ?_, fun v => ?_,
    fun d hd => ?_⟩
  · rw [s.finish_written]
    exact hstream.trans (List.append_nil _).symm
  · by_cases hv : v = w
    · subst hv
      rw [WritersState.finish_stage_self] at hstage
      cases hstage
    · rw [s.finish_stage_ne _ _ _ hv] at hstage
      exact h.nonempty v b hstage
  · show s.asked v = _
    rw [h.asked_eq v]
    by_cases hv : v = w
    · subst hv
      rw [s.finish_blocksOf_self, s.finish_stage_self, hpending]
      exact (List.append_nil _).symm
    · rw [s.finish_blocksOf_ne _ _ _ hv, s.finish_stage_ne _ _ _ hv]
  · rcases List.mem_append.mp hd with hd | hd
    · exact h.fine d hd
    · rw [List.mem_singleton.mp hd]
      exact hfine

lemma OutsideInvariant.writing (h : OutsideInvariant t s w) (hlock : s.lock = some w)
    (hpending : (s.stage w).pending = [block])
    (hstream : s.stream = s.written ++ block.take st.offset)
    (hprogress : (st.offset + st.nLen : Int) = block.length ∧ 0 < st.nLen) :
    WritersInvariant t (s.go w (.writing block st)) := by
  have hstage : ∀ v b u, (s.go w (.writing block st)).stage v = .writing b u →
      v = w ∧ b = block ∧ u = st := by
    intro v b u hv
    by_cases hvw : v = w
    · subst hvw
      rw [WritersState.go_stage_self] at hv
      cases hv
      exact ⟨rfl, rfl, rfl⟩
    · rw [s.go_stage_ne _ hvw] at hv
      exact absurd hv (h.others v b u hvw)
  refine ⟨h.port_eq, ?_, fun v b u hv => ?_, fun v hv => ?_, fun v b u hv => ?_, fun v b hv => ?_,
    fun v => ?_, h.fine⟩
  · show s.stream = s.written ++ WritersState.current _
    unfold WritersState.current
    rw [show (s.go w (.writing block st)).lock = some w from hlock]
    dsimp only
    rw [WritersState.go_stage_self]
    exact hstream
  · obtain ⟨rfl, -, -⟩ := hstage v b u hv
    exact hlock
  · obtain rfl : w = v := Option.some.inj (hlock.symm.trans hv)
    exact ⟨block, st, WritersState.go_stage_self _ _⟩
  · obtain ⟨-, rfl, rfl⟩ := hstage v b u hv
    exact hprogress
  · by_cases hvw : v = w
    · subst hvw
      rw [WritersState.go_stage_self] at hv
      cases hv
    · rw [s.go_stage_ne _ hvw] at hv
      exact h.nonempty v b hv
  · show s.asked v = s.blocksOf v ++ _
    rw [h.asked_eq v]
    by_cases hvw : v = w
    · subst hvw
      rw [WritersState.go_stage_self, hpending]
      rfl
    · rw [s.go_stage_ne _ hvw]

lemma accepted_eq (st : WrState) (block : List UInt8) (e : WrEvent) :
    st.accepted block e = (block.drop st.offset).take e.taken := by
  cases e <;> simp [WrState.accepted, WrState.call, WrEvent.taken]

lemma reopenLoop_portType (n : Nat) (results : Nat → Int) (port : PortFd) :
    (reopenLoop n results port).2.portType = port.portType := by
  induction n generalizing results port with
  | zero => rfl
  | succ n ih =>
    rw [reopenLoop]
    have hkind := (portOpen_sameKind port (results 0)).1
    split
    next heq =>
      rw [heq] at hkind
      exact hkind
    next heq =>
      rw [heq] at hkind
      exact (ih _ _).trans hkind

lemma WrState.step_portType (st : WrState) (e : WrEvent) :
    (Sum.elim WrState.port Prod.snd (st.step e)).portType = st.port.portType := by
  have hagain : ∀ u : WrState,
      (Sum.elim WrState.port Prod.snd u.again).portType = u.port.portType := by
    intro u
    unfold WrState.again
    split_ifs <;> rfl
  cases e with
  | selectTimeout => rfl
  | wrote count => exact hagain ⟨st.port, st.offset + count, st.nLen - count, false⟩
  | failed results =>
    have hreopen : (portReopen st.port maxPortOpenTimeout.toNat results).port.portType =
        st.port.portType :=
      (reopenLoop_portType _ _ _).trans (portClose_closes st.port).1.1
    rw [WrState.step]
    by_cases hret : (portReopen st.port maxPortOpenTimeout.toNat results).ret = 0
    · rw [if_pos hret]
      exact (hagain _).trans hreopen
    · rw [if_neg hret]
      exact hreopen
  | _ => exact hagain st

lemma WritersInvariant.outside (h : WritersInvariant t s) (hw : ∀ v, s.lock = some v → v = w) :
    OutsideInvariant t s w :=
  ⟨h.port_eq, fun v b st hne hv => hne (hw v (h.holder v b st hv)), h.nonempty, h.asked_eq, h.fine⟩

lemma WritersInvariant.call (h : WritersInvariant t s) (hidle : s.stage w = .idle)
    (hblock : block ≠ []) : WritersInvariant t
      { s.go w (.waiting block) with asked := update s.asked w (s.asked w ++ [block]) } := by
  have hstage : ∀ v b u, (s.go w (.waiting block)).stage v = .writing b u →
      s.stage v = .writing b u := by
    intro v b u hv
    by_cases hvw : v = w
    · subst hvw
      rw [WritersState.go_stage_self] at hv
      cases hv
    · rwa [s.go_stage_ne _ hvw] at hv
  have hlocked : ∀ v, s.lock = some v → v ≠ w := by
    rintro v hv rfl
    obtain ⟨b, u, hbusy⟩ := h.locked v hv
    rw [hidle] at hbusy
    cases hbusy
  refine ⟨h.port_eq, ?_, fun v b u hv => h.holder v b u (hstage v b u hv), fun v hv => ?_,
    fun v b u hv => h.progress v b u (hstage v b u hv), fun v b hv => ?_, fun v => ?_, h.fine⟩
  · refine h.stream_eq.trans (congrArg _ ?_)
    unfold WritersState.current
    cases hl : s.lock with
    | none => rw [show (s.go w (.waiting block)).lock = none from hl]
    | some v =>
      rw [show (s.go w (.waiting block)).lock = some v from hl]
      exact congrArg WriterStage.sent (s.go_stage_ne _ (hlocked v hl)).symm
  · obtain ⟨b, u, hbusy⟩ := h.locked v hv
    exact ⟨b, u, (s.go_stage_ne _ (hlocked v hv)).trans hbusy⟩
  · by_cases hvw : v = w
    · subst hvw
      rw [show (s.go v (.waiting block)).stage v = _ from WritersState.go_stage_self _ _] at hv
      cases hv
      exact hblock
    · rw [show (s.go w (.waiting block)).stage v = _ from s.go_stage_ne _ hvw] at hv
      exact h.nonempty v b hv
  · show update s.asked w _ v = s.blocksOf v ++ ((s.go w (.waiting block)).stage v).pending
    by_cases hvw : v = w
    · subst hvw
      rw [update_self, WritersState.go_stage_self, h.asked_eq v, hidle, WriterStage.pending,
        List.append_nil]
      rfl
    · rw [update_of_ne hvw, s.go_stage_ne _ hvw]
      exact h.asked_eq v

lemma WritersInvariant.enter (h : WritersInvariant t s) (hfree : s.lock = none)
    (hwait : s.stage w = .waiting block) : WritersInvariant t (s.enter w block) := by
  have hout : OutsideInvariant t s w := h.outside fun v hv => nomatch hfree.symm.trans hv
  have hpending : (s.stage w).pending = [block] := by rw [hwait, WriterStage.pending]
  have hpos : 0 < block.length := List.length_pos_iff.mpr (h.nonempty w block hwait)
  have hstream : s.stream = s.written ++ block.take 0 := by
    rw [h.stream_eq, WritersState.current, hfree]
    rfl
  unfold WritersState.enter
  split_ifs with hfd hloop
  · refine hout.finish hstream hpending ⟨Nat.zero_le _, fun _ hret => ?_⟩
    dsimp only at hret
    omega
  · exact hout.finish hstream hpending
      ⟨Nat.zero_le _, fun hne _ => absurd (h.port_eq.symm.trans hloop) hne⟩
  · have hnext : OutsideInvariant t { s with lock := some w } w :=
      ⟨hout.port_eq, hout.others, hout.nonempty, hout.asked_eq, hout.fine⟩
    exact hnext.writing rfl hpending hstream ⟨by simp [wrStart], by simpa [wrStart] using hpos⟩

lemma WritersInvariant.round (h : WritersInvariant t s) (hlock : s.lock = some w)
    (hstage : s.stage w = .writing block st) (hgrants : { st with port := s.port }.grants e) :
    WritersInvariant t (s.round w block { st with port := s.port } e) := by
  obtain ⟨hlen, hpos⟩ := h.progress w block st hstage
  have htaken : (e.taken : Int) ≤ ({ st with port := s.port } : WrState).nLen :=
    WrState.taken_le hpos hgrants
  dsimp only at htaken
  have hpending : (s.stage w).pending = [block] := by rw [hstage, WriterStage.pending]
  have hport := WrState.step_portType { st with port := s.port } e
  have hstream : s.stream ++ { st with port := s.port }.accepted block e =
      s.written ++ block.take (st.offset + e.taken) := by
    rw [h.stream_eq, WritersState.current, hlock]
    dsimp only
    rw [hstage, WriterStage.sent, accepted_eq, List.append_assoc, List.take_add]
  have hout : ∀ port : PortFd, port.portType = t → OutsideInvariant t { s with
      stream := s.stream ++ { st with port := s.port }.accepted block e
      port := port } w := by
    intro port hkind
    have hw := h.outside fun v hv => Option.some.inj (hv.symm.trans hlock)
    exact ⟨hkind, hw.others, hw.nonempty, hw.asked_eq, hw.fine⟩
  unfold WritersState.round
  cases hstep : { st with port := s.port }.step e with
  | inl st' =>
    rw [hstep] at hport
    obtain ⟨hoffset, hnLen, hpos', -⟩ := WrState.step_inl hstep
    dsimp only at hoffset hnLen
    have hprogress' : (st'.offset + st'.nLen : Int) = block.length ∧ 0 < st'.nLen :=
      ⟨by rw [hoffset, hnLen]; push_cast; omega, hpos'⟩
    exact (hout st'.port (hport.trans h.port_eq)).writing hlock hpending
      (by rw [hoffset]; exact hstream) hprogress'
  | inr r =>
    rw [hstep] at hport
    have hcount : ({ st with port := s.port }.accepted block e).length = e.taken := by
      rw [accepted_eq, List.length_take, List.length_drop]
      dsimp only
      omega
    have hfine : WriteDone.Fine t ⟨w, block, st.offset + e.taken, r.1⟩ := by
      refine ⟨by dsimp only; omega, fun _ hret => ?_⟩
      by_cases htimeout : e = .selectTimeout
      · subst htimeout
        cases hstep
        dsimp only at hret
        omega
      · have hall := WrState.step_inr hstep htimeout
        dsimp only at hall hret ⊢
        omega
    dsimp only
    rw [hcount]
    exact (hout r.2 (hport.trans h.port_eq)).finish hstream hpending hfine

lemma writersNext_keeps {ev : WriterEvent κ} (h : WritersInvariant t s)
    (hnext : writersNext s ev = some s') : WritersInvariant t s' := by
  cases ev with
  | call w block =>
    simp only [writersNext] at hnext
    split at hnext
    next hidle =>
      split_ifs at hnext with hblock henable
      · cases hnext
        exact h
      · cases hnext
        exact h.call hidle hblock
    next => cases hnext
  | lock w =>
    simp only [writersNext] at hnext
    split at hnext
    next hfree hwait =>
      cases hnext
      exact h.enter hfree hwait
    next => cases hnext
  | round e =>
    simp only [writersNext] at hnext
    split at hnext
    next w block st heq =>
      split_ifs at hnext with hgrants
      cases hnext
      obtain ⟨v, hlock, hv⟩ := Option.map_eq_some_iff.mp heq
      obtain ⟨rfl, hstage⟩ := Prod.mk.inj hv
      exact h.round hlock hstage hgrants
    next => cases hnext
  | port port =>
    simp only [writersNext] at hnext
    split_ifs at hnext with hkind
    cases hnext
    exact { h with port_eq := hkind.trans h.port_eq }
  | enable enableWR =>
    cases hnext
    exact { h with }

end Steps

lemma diagFrame_injective : Injective diagFrame := by
  intro p q h
  have hp := read_diagFrames [p]
  have hq := read_diagFrames [q]
  simp only [List.map_cons, List.map_nil] at hp hq
  rw [h, hq] at hp
  exact (List.cons.inj (Option.some.inj hp)).1.symm

omit [DecidableEq κ] in
/-- The packets of the frames that have been written, each with its writer. -/
lemma exists_packets {l : List (WriteDone κ)} (h : ∀ d ∈ l, ∃ p, d.block = diagFrame p) :
    ∃ ps : List (κ × List UInt8),
      l.map (fun d => (d.writer, d.block)) = ps.map fun x => (x.1, diagFrame x.2) := by
  induction l with
  | nil => exact ⟨[], rfl⟩
  | cons d l ih =>
    rw [List.forall_mem_cons] at h
    obtain ⟨p, hp⟩ := h.1
    obtain ⟨ps, hps⟩ := ih h.2
    exact ⟨(d.writer, p) :: ps, by rw [List.map_cons, List.map_cons, hps, hp]⟩

lemma WritersState.mem_blocksOf {s : WritersState κ} {d : WriteDone κ} (h : d ∈ s.done) :
    d.block ∈ s.blocksOf d.writer :=
  List.mem_map_of_mem (List.mem_filter.mpr ⟨h, decide_eq_true rfl⟩)

/-- The packets of a writer's frames are the packets that it has written, in its order. -/
lemma WritersState.packets_of {s : WritersState κ} {ps : List (κ × List UInt8)}
    (hps : s.done.map (fun d => (d.writer, d.block)) = ps.map fun x => (x.1, diagFrame x.2))
    (w : κ) :
    s.blocksOf w = ((ps.filter fun x => x.1 = w).map Prod.snd).map diagFrame := by
  have hfilter := congrArg (fun l => (l.filter fun x => x.1 = w).map Prod.snd) hps
  simp only [List.filter_map, List.map_map] at hfilter
  rw [List.map_map]
  exact hfilter

/-- Whatever the writers and the other threads at the port do, the device takes one piece after the
other, each of them the front of one block, and a writer's blocks are written in its order, but for
the one that waits. Where every write has returned its length, a host finds in what the device took
the frames that have been written and nothing else: each writer's packets, in its order, but for the
one that waits. -/
theorem writers_untorn {port : PortFd} (hloop : port.portType ≠ .loop) {s : WritersState κ}
    (h : Reachable writersNext (.init port) s) (hfree : s.lock = none) :
    s.stream = (s.done.flatMap fun d => d.block.take d.taken) ∧
      (∀ w, s.asked w = s.blocksOf w ++ (s.stage w).pending) ∧
      ∀ packets : κ → List (List UInt8), (∀ w, s.asked w = (packets w).map diagFrame) →
        (∀ d ∈ s.done, d.ret = d.block.length) →
        ∃ ps : List (κ × List UInt8),
          PacketStream.read nextDiagFrame s.stream = some (ps.map Prod.snd) ∧
          s.done.map (fun d => (d.writer, d.block)) = ps.map (fun x => (x.1, diagFrame x.2)) ∧
          ∀ w, ∃ waiting, packets w = (ps.filter fun x => x.1 = w).map Prod.snd ++ waiting ∧
            waiting.map diagFrame = (s.stage w).pending := by
  have hinv : WritersInvariant port.portType s :=
    h.invariant (writersInvariant_init port) fun _ _ _ hs hnext => writersNext_keeps hs hnext
  have hstream : s.stream = s.done.flatMap fun d => d.block.take d.taken := by
    rw [hinv.stream_eq, WritersState.current, hfree, List.append_nil]
    rfl
  refine ⟨hstream, hinv.asked_eq, fun packets hasked hret => ?_⟩
  have hframe : ∀ d ∈ s.done, ∃ p, d.block = diagFrame p := by
    intro d hd
    have hmem : d.block ∈ s.asked d.writer := by
      rw [hinv.asked_eq]
      exact List.mem_append_left _ (s.mem_blocksOf hd)
    rw [hasked] at hmem
    obtain ⟨p, -, hp⟩ := List.mem_map.mp hmem
    exact ⟨p, hp.symm⟩
  obtain ⟨ps, hps⟩ := exists_packets hframe
  have hblocks : s.done.map WriteDone.block = (ps.map Prod.snd).map diagFrame := by
    have hsnd := congrArg (List.map Prod.snd) hps
    rw [List.map_map, List.map_map] at hsnd
    rw [List.map_map]
    exact hsnd
  refine ⟨ps, ?_, hps, fun w => ?_⟩
  · have hwhole : s.stream = (s.done.map WriteDone.block).flatten := by
      rw [hstream, List.flatMap_def]
      congr 1
      apply List.map_congr_left
      intro d hd
      rw [(hinv.fine d hd).whole hloop (hret d hd), List.take_length]
    rw [hwhole, hblocks, read_diagFrames]
  · have hsplit := hinv.asked_eq w
    rw [hasked w, WritersState.packets_of hps w] at hsplit
    obtain ⟨written, waiting, hpackets, hwritten, hwaiting⟩ := List.map_eq_append_iff.mp hsplit
    rw [List.map_injective_iff.mpr diagFrame_injective hwritten] at hpackets
    exact ⟨waiting, hpackets, hwaiting⟩

section Example

def writtenPort : PortFd := ⟨.gser, true, 5, 2⟩

def writtenPackets : Bool → List (List UInt8)
  | true => [[0x7e, 1]]
  | false => [[2]]

/-- The second writer comes while the first one is in the loop, and waits. -/
def sampleWriting : List (WriterEvent Bool) :=
  [.call true (diagFrame [0x7e, 1]), .lock true, .round (.wrote 2), .call false (diagFrame [2]),
    .round .busy, .round (.wrote 3), .lock false, .round (.wrote 3)]

def sampleWritten : WritersState Bool :=
  (replay writersNext (.init writtenPort) sampleWriting).getD (.init writtenPort)

end Example

theorem writers_untorn_two :
    sampleWritten.stream = [0x7e, 0x7d, 0x5e, 1, 0x7e, 0x7e, 2, 0x7e] ∧
      ∃ ps : List (Bool × List UInt8),
        PacketStream.read nextDiagFrame sampleWritten.stream = some (ps.map Prod.snd) ∧
        sampleWritten.done.map (fun d => (d.writer, d.block)) =
          ps.map (fun x => (x.1, diagFrame x.2)) ∧
        ∀ w, ∃ waiting, writtenPackets w = (ps.filter fun x => x.1 = w).map Prod.snd ++ waiting ∧
          waiting.map diagFrame = (sampleWritten.stage w).pending := by
  obtain ⟨hstream, -, hread⟩ := writers_untorn (show writtenPort.portType ≠ .loop by decide)
    (s := sampleWritten) (reachable_of_replay (l := sampleWriting) rfl) rfl
  refine ⟨hstream.trans (by decide), hread writtenPackets ?_ (by decide)⟩
  intro w
  cases w <;> rfl

end EngPc
