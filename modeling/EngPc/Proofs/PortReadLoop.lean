import EngPc.Proofs.Reassembly

/-!
# The loop of a read

The loop keeps in its buffer an end of what it has received: `checkframe` drops what stands before a
flag, and the next read is put behind what is left. Every read therefore fits, and what the call
returns is a piece of what it received.
-/

namespace EngPc
open Buffer

/-- What is kept of the bytes that were judged. -/
def Checked.bytes (c : Checked) : List UInt8 := c.buff.load 0 c.nlen

/-- A piece is kept, which is an end of the bytes if the frame is to go on. -/
structure Checked.Keeps (c : Checked) (apProcess : Int) (judged : List UInt8) : Prop where
  piece : c.bytes <:+: judged
  ends : c.type ≠ .complete → c.type ≠ .invalid → c.bytes <:+ judged
  flag : apProcess = 1 → c.type ≠ .invalid → c.bytes.head? = some 0x7e
  pos : 0 < c.nlen

lemma Checked.bytes_eq {c : Checked} {l : List UInt8} (hlen : c.nlen = l.length)
    (hload : c.buff.load 0 l.length = l) : c.bytes = l := by
  rw [Checked.bytes, hlen, hload]

lemma checkframe_keeps (apProcess : Int) (buff : Buffer UInt8) {n : Nat} (hn : 0 < n) :
    (checkframe apProcess buff n).Keeps apProcess (buff.load 0 n) := by
  by_cases hap : apProcess = 1
  swap
  · have hcheck : checkframe apProcess buff n = ⟨.complete, buff, n⟩ := if_pos hap
    rw [hcheck]
    exact ⟨List.infix_refl _, fun h => absurd rfl h, fun h => absurd h hap, hn⟩
  subst hap
  by_cases hends : flagEnds (buff.load 0 n)
  · rw [checkframe_ends buff hn hends]
    exact ⟨List.infix_refl _, fun h => absurd rfl h, fun _ _ => hends.1, hn⟩
  by_cases hflag : 0x7e ∈ buff.load 0 n
  swap
  · rw [checkframe_invalid buff hn hflag]
    exact ⟨List.infix_refl _, fun _ h => absurd rfl h, fun _ h => absurd rfl h, hn⟩
  -- The first flag, and whether a second one stands behind it.
  obtain ⟨u, tail, hload, hu⟩ := List.eq_append_cons_of_mem hflag
  rw [hload] at hends ⊢
  by_cases htail : 0x7e ∈ tail
  · obtain ⟨m, r, rfl, hm⟩ := List.eq_append_cons_of_mem htail
    obtain ⟨htype, hnlen, hbuff⟩ := checkframe_inner buff u m r hload hu hm hends
    have hbytes := Checked.bytes_eq (l := flagged m) (by rw [hnlen, length_flagged])
      (by rw [length_flagged, hbuff])
    refine ⟨?_, fun h => absurd htype h, fun _ _ => by rw [hbytes]; rfl, by omega⟩
    rw [hbytes]
    exact ⟨u, r, by simp [flagged]⟩
  · obtain ⟨htype, hnlen, hbuff⟩ := checkframe_half buff u tail hload hu htail hends
    have hbytes := Checked.bytes_eq (l := 0x7e :: tail) hnlen hbuff
    have hsuffix : 0x7e :: tail <:+ u ++ 0x7e :: tail := List.suffix_append u _
    refine ⟨?_, fun _ _ => ?_, fun _ _ => by rw [hbytes]; rfl, by omega⟩
    · rw [hbytes]
      exact hsuffix.isInfix
    · rw [hbytes]
      exact hsuffix

/-- What a call has met so far: the bytes received, and the last verdict of `checkframe`. -/
structure RdTrace where
  received : List UInt8
  verdict : Option FrameType
  deriving DecidableEq, Repr

def RdTrace.note (apProcess : Int) (s : RdState) (tr : RdTrace) : RdEvent → RdTrace
  | .data bytes =>
    ⟨tr.received ++ bytes,
      some (checkframe apProcess (s.buff.fill s.offset bytes) (s.offset + bytes.length)).type⟩
  | _ => tr

section Call

variable (apProcess : Int) (t : PortType) (nLen : Nat)

/-- The trace of a call, up to its end or to where it waits. -/
def rdTrace : RdState → RdTrace → List RdEvent → RdTrace
  | _, tr, [] => tr
  | s, tr, e :: es =>
    match rdStep apProcess t nLen s e with
    | .inl s' => rdTrace s' (tr.note apProcess s e) es
    | .inr _ => tr.note apProcess s e

/-- The state at the next round after some events, if the call has not ended. -/
def rdReach : RdState → List RdEvent → Option RdState
  | s, [] => some s
  | s, e :: es =>
    match rdStep apProcess t nLen s e with
    | .inl s' => rdReach s' es
    | .inr _ => none

/-- The kernel's side of a call: no `::read` delivers more than it was asked for. -/
def callGranted : RdState → List RdEvent → Prop
  | _, [] => True
  | s, e :: es => s.grants e ∧
    match rdStep apProcess t nLen s e with
    | .inl s' => callGranted s' es
    | .inr _ => True

instance decidableCallGranted :
    (s : RdState) → (es : List RdEvent) → Decidable (callGranted apProcess t nLen s es)
  | _, [] => isTrue trivial
  | s, e :: es =>
    have : Decidable (match rdStep apProcess t nLen s e with
        | .inl s' => callGranted apProcess t nLen s' es
        | .inr _ => True) :=
      match rdStep apProcess t nLen s e with
      | .inl s' => decidableCallGranted s' es
      | .inr _ => isTrue trivial
    inferInstanceAs (Decidable (_ ∧ _))

/-- The invariant of the loop. -/
structure RdInv (s : RdState) (tr : RdTrace) : Prop where
  fits : s.offset + s.rdSize ≤ nLen
  pos : 0 < s.rdSize
  suffix : s.bytes <:+ tr.received
  flag : apProcess = 1 → tr.verdict ≠ none → s.bytes.head? = some 0x7e

/-- What a call may return. -/
structure RdResult.Good (r : RdResult) (tr : RdTrace) : Prop where
  piece : r.bytes <:+: tr.received
  flag : apProcess = 1 → tr.verdict = some .complete ∨ tr.verdict = some .halfContinue →
    r.offset = 0 ∨ r.bytes.head? = some 0x7e

variable {apProcess t nLen}

lemma maxLen_pos (t : PortType) : 0 < t.maxLen := by
  cases t <;> decide

lemma rdInv_start (hn : 0 < nLen) (buff : Buffer UInt8) :
    RdInv apProcess nLen (rdStart t nLen buff) ⟨[], none⟩ where
  fits := by
    rw [rdStart, Nat.zero_add]
    exact Nat.min_le_right _ _
  pos := Nat.lt_min.mpr ⟨maxLen_pos t, hn⟩
  suffix := List.suffix_refl _
  flag := fun _ h => absurd rfl h

variable {s : RdState} {tr : RdTrace}

lemma RdInv.good (h : RdInv apProcess nLen s tr) (fdOpen : Bool) :
    RdResult.Good apProcess ⟨s.buff, s.offset, fdOpen⟩ tr where
  piece := h.suffix.isInfix
  flag := by
    intro hap hverdict
    apply Or.inr
    apply h.flag hap
    intro hnone
    rw [hnone] at hverdict
    exact hverdict.elim (fun h => nomatch h) (fun h => nomatch h)

lemma RdInv.keeps (h : RdInv apProcess nLen s tr) {bytes : List UInt8} (hne : bytes ≠ []) :
    ∃ l, l <:+ tr.received ++ bytes ∧
      (checkframe apProcess (s.buff.fill s.offset bytes) (s.offset + bytes.length)).Keeps
        apProcess l := by
  have hpos : 0 < s.offset + bytes.length :=
    Nat.add_pos_right _ (List.length_pos_iff.mpr hne)
  have hkeeps := checkframe_keeps apProcess (s.buff.fill s.offset bytes) hpos
  rw [load_received] at hkeeps
  obtain ⟨front, hfront⟩ := h.suffix
  exact ⟨s.bytes ++ bytes, ⟨front, by rw [← List.append_assoc, hfront]⟩, hkeeps⟩

lemma rdStep_inv (h : RdInv apProcess nLen s tr) {e : RdEvent} (hgrant : s.grants e)
    {s' : RdState} (hstep : rdStep apProcess t nLen s e = .inl s') :
    RdInv apProcess nLen s' (tr.note apProcess s e) := by
  cases e with
  | selectError | selectTimeout | busy =>
    cases hstep
    exact h
  | notify msg =>
    unfold rdStep at hstep
    dsimp only at hstep
    split at hstep
    · cases hstep
    · cases hstep
      exact h
  | failed reopened =>
    cases reopened with
    | true =>
      cases hstep
      exact h
    | false => cases hstep
  | data bytes =>
    obtain ⟨l, hl, hkeeps⟩ := h.keeps hgrant.1
    unfold rdStep at hstep
    dsimp only at hstep
    split_ifs at hstep with hends hfull
    cases hstep
    rw [not_or] at hends
    refine ⟨?_, ?_, (hkeeps.ends hends.1 hends.2).trans hl, fun hap _ => hkeeps.flag hap hends.2⟩
    · dsimp only
      omega
    · exact Nat.lt_min.mpr ⟨maxLen_pos t, Nat.sub_pos_of_lt (Nat.lt_of_not_le hfull)⟩

lemma rdStep_good (h : RdInv apProcess nLen s tr) {e : RdEvent} (hgrant : s.grants e)
    {r : RdResult} (hstep : rdStep apProcess t nLen s e = .inr r) :
    r.Good apProcess (tr.note apProcess s e) := by
  cases e with
  | selectError | selectTimeout | busy => cases hstep
  | notify msg =>
    unfold rdStep at hstep
    dsimp only at hstep
    split at hstep
    · cases hstep
      exact ⟨List.nil_infix, fun _ _ => .inl rfl⟩
    · cases hstep
  | failed reopened =>
    cases reopened with
    | true => cases hstep
    | false =>
      cases hstep
      exact h.good false
  | data bytes =>
    obtain ⟨l, hl, hkeeps⟩ := h.keeps hgrant.1
    have hgood : RdResult.Good apProcess
        ⟨(checkframe apProcess (s.buff.fill s.offset bytes) (s.offset + bytes.length)).buff,
          (checkframe apProcess (s.buff.fill s.offset bytes) (s.offset + bytes.length)).nlen, true⟩
        (tr.note apProcess s (.data bytes)) := by
      refine ⟨hkeeps.piece.trans hl.isInfix, fun hap hverdict => .inr (hkeeps.flag hap ?_)⟩
      intro hinvalid
      rw [RdTrace.note, hinvalid] at hverdict
      exact hverdict.elim (fun h => nomatch h) (fun h => nomatch h)
    unfold rdStep at hstep
    dsimp only at hstep
    split_ifs at hstep
    · cases hstep
      exact hgood
    · cases hstep
      exact hgood

lemma rdReach_inv (h : RdInv apProcess nLen s tr) {es : List RdEvent}
    (hgrant : callGranted apProcess t nLen s es) {pre : List RdEvent} (hpre : pre <+: es)
    {s' : RdState} (hreach : rdReach apProcess t nLen s pre = some s') :
    ∃ tr', RdInv apProcess nLen s' tr' := by
  induction es generalizing s tr pre with
  | nil =>
    rw [List.prefix_nil] at hpre
    subst hpre
    cases hreach
    exact ⟨tr, h⟩
  | cons e es ih =>
    cases pre with
    | nil =>
      cases hreach
      exact ⟨tr, h⟩
    | cons e' pre =>
      obtain ⟨rfl, htail⟩ := List.cons_prefix_cons.mp hpre
      rw [rdReach] at hreach
      rw [callGranted] at hgrant
      cases hstep : rdStep apProcess t nLen s e' with
      | inr r =>
        rw [hstep] at hreach
        cases hreach
      | inl s₁ =>
        rw [hstep] at hreach hgrant
        exact ih (rdStep_inv h hgrant.1 hstep) hgrant.2 htail hreach

lemma rdLoop_good (h : RdInv apProcess nLen s tr) {es rest : List RdEvent}
    (hgrant : callGranted apProcess t nLen s es) {r : RdResult}
    (hloop : rdLoop apProcess t nLen s es = some (r, rest)) :
    r.Good apProcess (rdTrace apProcess t nLen s tr es) := by
  induction es generalizing s tr with
  | nil => cases hloop
  | cons e es ih =>
    rw [rdLoop] at hloop
    rw [callGranted] at hgrant
    rw [rdTrace]
    cases hstep : rdStep apProcess t nLen s e with
    | inl s₁ =>
      rw [hstep] at hloop hgrant
      exact ih (rdStep_inv h hgrant.1 hstep) hgrant.2 hloop
    | inr r' =>
      rw [hstep] at hloop
      cases hloop
      exact rdStep_good h hgrant.1 hstep

end Call

/-- In a call with room for a byte every `::read` stays inside the buffer and asks for something; a
positive result is the length of a piece of the bytes received, at the start of the buffer, which
begins with a flag if the last verdict of a processed channel was a frame or the half of one. -/
theorem internalRead_bounded (p : CPort) (apProcess : Int) (buff : Buffer UInt8) {nLen : Nat}
    (hn : 0 < nLen) (es : List RdEvent)
    (hgrant : callGranted apProcess p.portType nLen (rdStart p.portType nLen buff) es) :
    (∀ pre s, pre <+: es →
      rdReach apProcess p.portType nLen (rdStart p.portType nLen buff) pre = some s →
      s.offset + s.rdSize ≤ nLen ∧ 0 < s.rdSize) ∧
    ∀ r, p.internalRead apProcess buff nLen es = some r → 0 < r.ret →
      ∃ n : Nat, r.ret = n ∧
        r.buff.load 0 n <:+: (rdTrace apProcess p.portType nLen (rdStart p.portType nLen buff)
          ⟨[], none⟩ es).received ∧
        (apProcess = 1 →
          (rdTrace apProcess p.portType nLen (rdStart p.portType nLen buff)
            ⟨[], none⟩ es).verdict ∈ [some .complete, some .halfContinue] →
          (r.buff.load 0 n).head? = some 0x7e) := by
  have hstart : RdInv apProcess nLen (rdStart p.portType nLen buff) ⟨[], none⟩ :=
    rdInv_start hn buff
  constructor
  · intro pre s hpre hreach
    obtain ⟨tr, hinv⟩ := rdReach_inv hstart hgrant hpre hreach
    exact ⟨hinv.fits, hinv.pos⟩
  · intro r hread hpos
    rw [CPort.internalRead] at hread
    split_ifs at hread with hfd hloop
    · cases hread
      exact absurd hpos (Int.not_lt.mpr (Int.neg_nonpos_of_nonneg Int.one_nonneg))
    · cases hread
      exact absurd hpos (lt_irrefl 0)
    · obtain ⟨⟨r', rest⟩, hr', rfl⟩ := Option.map_eq_some_iff.mp hread
      have hgood := rdLoop_good hstart hgrant hr'
      refine ⟨r'.offset, rfl, hgood.piece, fun hap hverdict => ?_⟩
      have hzero : r'.offset ≠ 0 := by
        intro h
        rw [h] at hpos
        exact lt_irrefl 0 hpos
      exact (hgood.flag hap (by simpa using hverdict)).resolve_left hzero

/-- Within a frame that comes in two reads, after a busy port. -/
theorem internalRead_bounded_two_reads :
    ∃ s, rdReach 1 .gser 8 (rdStart .gser 8 fun _ => 0) [.busy, .data [1, 0x7e, 2]] = some s ∧
      s.offset + s.rdSize ≤ 8 ∧ 0 < s.rdSize :=
  ⟨_, rfl, (internalRead_bounded ⟨.gser, true, true⟩ 1 (fun _ => 0) (by decide)
    [.busy, .data [1, 0x7e, 2], .data [3, 4, 0x7e]] (by decide)).1 [.busy, .data [1, 0x7e, 2]] _
      ⟨[.data [3, 4, 0x7e]], rfl⟩ rfl⟩

end EngPc
