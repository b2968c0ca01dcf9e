import EngPc.Model.PortRead
import EngPc.Proofs.DiagCodec

/-!
# Frames put together from reads

`checkframe` is described on the bytes that it judges, one lemma for each kind of content, and
with it one round of `internal_read`. A frame that arrives in pieces is put together whatever the
pieces are, unless the first of them is the opening flag alone.
-/

namespace EngPc
open Buffer

lemma findFrameFlag_eq_none (buff : Buffer UInt8) (off n : Nat) (h : 0x7e ∉ buff.load off n) :
    findFrameFlag buff off n = none := by
  induction n generalizing off with
  | zero => rfl
  | succ n ih =>
    rw [load_succ, List.mem_cons, not_or] at h
    rw [findFrameFlag, if_neg (fun he => h.1 he.symm), ih (off + 1) h.2]
    rfl

lemma findFrameFlag_eq_some (buff : Buffer UInt8) (off n : Nat) (t m : List UInt8)
    (h : buff.load off n = t ++ 0x7e :: m) (ht : 0x7e ∉ t) :
    findFrameFlag buff off n = some t.length := by
  induction n generalizing off t with
  | zero => simp at h
  | succ n ih =>
    rw [load_succ] at h
    cases t with
    | nil =>
      have hb : buff off = 0x7e := (List.cons.inj h).1
      rw [findFrameFlag, if_pos hb]
      rfl
    | cons a t =>
      obtain ⟨hb, hl⟩ := List.cons.inj h
      have hne : buff off ≠ 0x7e := fun he => ht (by rw [← he, hb]; simp)
      rw [findFrameFlag, if_neg hne, ih (off + 1) t hl (fun hm => ht (by simp [hm]))]
      rfl

/-- Both ends are flags. -/
def flagEnds (l : List UInt8) : Prop := l.head? = some 0x7e ∧ l.getLast? = some 0x7e

lemma flagEnds_iff (buff : Buffer UInt8) {n : Nat} (hn : 0 < n) :
    flagEnds (buff.load 0 n) ↔ buff 0 = 0x7e ∧ buff (n - 1) = 0x7e := by
  obtain ⟨n, rfl⟩ : ∃ k, n = k + 1 := ⟨n - 1, by omega⟩
  have hlast : (buff.load 0 (n + 1)).getLast? = some (buff n) := by
    rw [load_snoc, Nat.zero_add]
    simp
  have hhead : (buff.load 0 (n + 1)).head? = some (buff 0) := rfl
  unfold flagEnds
  rw [hlast, hhead]
  simp

lemma checkframe_ends (buff : Buffer UInt8) {n : Nat} (hn : 0 < n) (h : flagEnds (buff.load 0 n)) :
    checkframe 1 buff n = ⟨.complete, buff, n⟩ := by
  unfold checkframe
  rw [if_neg (by decide), if_pos ((flagEnds_iff buff hn).mp h)]

lemma checkframe_invalid (buff : Buffer UInt8) {n : Nat} (hn : 0 < n)
    (h : 0x7e ∉ buff.load 0 n) : checkframe 1 buff n = ⟨.invalid, buff, n⟩ := by
  have hends : ¬flagEnds (buff.load 0 n) := fun he => h (List.mem_of_mem_head? he.1)
  unfold checkframe
  rw [if_neg (by decide), if_neg (fun he => hends ((flagEnds_iff buff hn).mpr he)),
    findFrameFlag_eq_none buff 0 n h]

lemma checkframe_half (buff : Buffer UInt8) {n : Nat} (t m : List UInt8)
    (h : buff.load 0 n = t ++ 0x7e :: m) (ht : 0x7e ∉ t) (hm : 0x7e ∉ m)
    (hends : ¬flagEnds (t ++ 0x7e :: m)) :
    (checkframe 1 buff n).type = .halfContinue ∧ (checkframe 1 buff n).nlen = m.length + 1 ∧
      (checkframe 1 buff n).buff.load 0 (m.length + 1) = 0x7e :: m := by
  have hlen : n = t.length + (m.length + 1) := by simpa using congrArg List.length h
  have hn : 0 < n := by omega
  rw [← h, flagEnds_iff buff hn] at hends
  have hdrop : buff.load t.length (m.length + 1) = 0x7e :: m := by
    have hd := load_drop buff 0 (m := t.length) (n := n) (by omega)
    rw [h, List.drop_left, Nat.zero_add, show n - t.length = m.length + 1 by omega] at hd
    exact hd.symm
  have htail : buff.load (t.length + 1) (n - t.length - 1) = m := by
    rw [show n - t.length - 1 = m.length by omega]
    exact (List.cons.inj hdrop).2
  have hsecond : findFrameFlag buff (t.length + 1) (n - t.length - 1) = none :=
    findFrameFlag_eq_none _ _ _ (by rw [htail]; exact hm)
  have hcheck : checkframe 1 buff n =
      ⟨.halfContinue, buff.copy 0 t.length (n - t.length), n - t.length⟩ := by
    unfold checkframe
    rw [if_neg (by decide), if_neg hends, findFrameFlag_eq_some buff 0 n t m h ht]
    simp only [hsecond]
  rw [hcheck]
  refine ⟨rfl, by simp only; omega, ?_⟩
  simp only [show n - t.length = m.length + 1 by omega]
  rw [load_copy, hdrop]

/-- Two flags or more, not at both ends: what stands between the first two stays. -/
lemma checkframe_inner (buff : Buffer UInt8) {n : Nat} (t m r : List UInt8)
    (h : buff.load 0 n = t ++ 0x7e :: (m ++ 0x7e :: r)) (ht : 0x7e ∉ t) (hm : 0x7e ∉ m)
    (hends : ¬flagEnds (t ++ 0x7e :: (m ++ 0x7e :: r))) :
    (checkframe 1 buff n).type = .complete ∧ (checkframe 1 buff n).nlen = m.length + 2 ∧
      (checkframe 1 buff n).buff.load 0 (m.length + 2) = flagged m := by
  have hlen : n = t.length + (m.length + (r.length + 1) + 1) := by
    simpa using congrArg List.length h
  have hn : 0 < n := by omega
  rw [← h, flagEnds_iff buff hn] at hends
  have hdrop : buff.load t.length (n - t.length) = 0x7e :: (m ++ 0x7e :: r) := by
    have hd := load_drop buff 0 (m := t.length) (n := n) (by omega)
    rw [h, List.drop_left, Nat.zero_add] at hd
    exact hd.symm
  have htail : buff.load (t.length + 1) (n - t.length - 1) = m ++ 0x7e :: r := by
    rw [show n - t.length = (n - t.length - 1) + 1 by omega] at hdrop
    exact (List.cons.inj hdrop).2
  have hcheck : checkframe 1 buff n =
      ⟨.complete, buff.copy 0 t.length (m.length + 2), m.length + 2⟩ := by
    unfold checkframe
    rw [if_neg (by decide), if_neg hends, findFrameFlag_eq_some buff 0 n t _ h ht]
    simp only [findFrameFlag_eq_some buff _ _ m r htail hm]
  rw [hcheck]
  refine ⟨rfl, rfl, ?_⟩
  have htake := load_take buff t.length (m := m.length + 2) (n := n - t.length) (by omega)
  rw [load_copy, ← htake, hdrop]
  simp [flagged, List.take_append]

def RdState.bytes (s : RdState) : List UInt8 := s.buff.load 0 s.offset

def RdResult.bytes (r : RdResult) : List UInt8 := r.buff.load 0 r.offset

@[simp] lemma RdResult.length_bytes (r : RdResult) : r.bytes.length = r.offset := by
  simp [RdResult.bytes]

@[simp] lemma rdStart_bytes (t : PortType) (nLen : Nat) (buff : Buffer UInt8) :
    (rdStart t nLen buff).bytes = [] := rfl

lemma load_received (s : RdState) (bytes : List UInt8) :
    (s.buff.fill s.offset bytes).load 0 (s.offset + bytes.length) = s.bytes ++ bytes :=
  load_fill_append s.buff s.offset bytes

section Round

variable (t : PortType) (nLen : Nat) (s : RdState) (bytes : List UInt8)

/-- The read ends with the bytes `l`. -/
def endsWith (l : List UInt8) : Prop :=
  ∃ r, rdStep 1 t nLen s (.data bytes) = .inr r ∧ r.bytes = l ∧ r.fdOpen = true

/-- The read goes on, holding the bytes `l`. -/
def goesOnWith (l : List UInt8) : Prop :=
  ∃ s', rdStep 1 t nLen s (.data bytes) = .inl s' ∧ s'.bytes = l

variable {t nLen s bytes}

lemma rdStep_ends (hne : bytes ≠ []) (h : flagEnds (s.bytes ++ bytes)) :
    endsWith t nLen s bytes (s.bytes ++ bytes) := by
  have hpos : 0 < s.offset + bytes.length := by
    have := List.length_pos_iff.mpr hne
    omega
  have hload := load_received s bytes
  have hcheck := checkframe_ends (s.buff.fill s.offset bytes) hpos (by rw [hload]; exact h)
  refine ⟨⟨s.buff.fill s.offset bytes, s.offset + bytes.length, true⟩, ?_, hload, rfl⟩
  simp [rdStep, hcheck]

lemma rdStep_invalid (hne : bytes ≠ []) (h : 0x7e ∉ s.bytes ++ bytes) :
    endsWith t nLen s bytes (s.bytes ++ bytes) := by
  have hpos : 0 < s.offset + bytes.length := by
    have := List.length_pos_iff.mpr hne
    omega
  have hload := load_received s bytes
  have hcheck := checkframe_invalid (s.buff.fill s.offset bytes) hpos (by rw [hload]; exact h)
  refine ⟨⟨s.buff.fill s.offset bytes, s.offset + bytes.length, true⟩, ?_, hload, rfl⟩
  simp [rdStep, hcheck]

lemma rdStep_inner {u m r : List UInt8} (h : s.bytes ++ bytes = u ++ 0x7e :: (m ++ 0x7e :: r))
    (hu : 0x7e ∉ u) (hm : 0x7e ∉ m) (hends : ¬flagEnds (s.bytes ++ bytes)) :
    endsWith t nLen s bytes (flagged m) := by
  have hload := (load_received s bytes).trans h
  rw [h] at hends
  obtain ⟨htype, hnlen, hbuff⟩ :=
    checkframe_inner (s.buff.fill s.offset bytes) u m r hload hu hm hends
  refine ⟨⟨(checkframe 1 (s.buff.fill s.offset bytes) (s.offset + bytes.length)).buff,
    m.length + 2, true⟩, ?_, hbuff, rfl⟩
  simp [rdStep, htype, hnlen]

lemma rdStep_half {u m : List UInt8} (h : s.bytes ++ bytes = u ++ 0x7e :: m) (hu : 0x7e ∉ u)
    (hm : 0x7e ∉ m) (hends : ¬flagEnds (s.bytes ++ bytes)) (hroom : m.length + 1 < nLen) :
    goesOnWith t nLen s bytes (0x7e :: m) := by
  have hload := (load_received s bytes).trans h
  rw [h] at hends
  obtain ⟨htype, hnlen, hbuff⟩ :=
    checkframe_half (s.buff.fill s.offset bytes) u m hload hu hm hends
  refine ⟨⟨(checkframe 1 (s.buff.fill s.offset bytes) (s.offset + bytes.length)).buff,
    m.length + 1, min t.maxLen (nLen - (m.length + 1))⟩, ?_, hbuff⟩
  have hroom' : ¬nLen ≤ m.length + 1 := by omega
  simp [rdStep, htype, hnlen, hroom']

end Round

lemma flagEnds_flagged (e : List UInt8) : flagEnds (flagged e) :=
  ⟨rfl, List.getLast?_concat⟩

/-- A word that begins with its only flag and has more than that does not end with one. -/
lemma not_flagEnds_open {m : List UInt8} (hm : 0x7e ∉ m) (hne : m ≠ []) :
    ¬flagEnds (0x7e :: m) := by
  rintro ⟨-, hlast⟩
  rw [List.getLast?_cons, List.getLast?_eq_some_getLast hne] at hlast
  have hl : m.getLast hne = 0x7e := by simpa using hlast
  exact hm (hl ▸ List.getLast_mem hne)

lemma split_flagged {e l r : List UInt8} (h : l ++ r = flagged e) (hl : l ≠ []) (hr : r ≠ []) :
    ∃ m rest, l = 0x7e :: m ∧ r = rest ++ [0x7e] ∧ e = m ++ rest := by
  obtain ⟨a, m, rfl⟩ := List.exists_cons_of_ne_nil hl
  have hend : r.dropLast ++ [r.getLast hr] = r := List.dropLast_append_getLast hr
  rw [← hend, ← List.append_assoc] at h
  obtain ⟨hfront, hback⟩ := List.append_inj' h rfl
  rw [List.cons_append] at hfront
  obtain ⟨ha, hm⟩ := List.cons.inj hfront
  refine ⟨m, r.dropLast, by rw [ha], ?_, hm.symm⟩
  rw [← hback, hend]

lemma flatten_ne_nil {pieces : List (List UInt8)} (hne : ∀ q ∈ pieces, q ≠ [])
    (h : pieces ≠ []) : pieces.flatten ≠ [] := by
  obtain ⟨q, pieces, rfl⟩ := List.exists_cons_of_ne_nil h
  have hq := hne q (by simp)
  simp [hq]

/-- A read that holds the beginning of a frame, or nothing, takes up the rest of the frame. -/
lemma rdLoop_completes (t : PortType) (nLen : Nat) (e : List UInt8) (hflag : 0x7e ∉ e)
    (hfit : e.length + 2 ≤ nLen) (pieces : List (List UInt8)) (hne : ∀ q ∈ pieces, q ≠ [])
    (hsome : pieces ≠ []) (s : RdState) (hall : s.bytes ++ pieces.flatten = flagged e)
    (hfirst : s.bytes = [] → pieces.head? ≠ some [0x7e]) :
    (∃ r, rdLoop 1 t nLen s (pieces.map .data) = some (r, []) ∧ r.bytes = flagged e ∧
      r.fdOpen = true) ∧
    ∀ k, k < pieces.length → rdLoop 1 t nLen s ((pieces.take k).map .data) = none := by
  induction pieces generalizing s with
  | nil => exact absurd rfl hsome
  | cons q pieces ih =>
    have hq : q ≠ [] := hne q (by simp)
    have hpieces : ∀ x ∈ pieces, x ≠ [] := fun x hx => hne x (by simp [hx])
    rw [List.flatten_cons, ← List.append_assoc] at hall
    by_cases hlast : pieces = []
    · subst hlast
      rw [List.flatten_nil, List.append_nil] at hall
      obtain ⟨r, hr, hb, ho⟩ := @rdStep_ends t nLen s q hq
        (by rw [hall]; exact flagEnds_flagged e)
      refine ⟨⟨r, ?_, by rw [hb, hall], ho⟩, ?_⟩
      · simp [rdLoop, hr]
      · intro k hk
        have hk0 : k = 0 := by simpa using hk
        subst hk0
        rfl
    · obtain ⟨m, rest, hm, -, he⟩ :=
        split_flagged hall (by simp [hq]) (flatten_ne_nil hpieces hlast)
      have hmflag : 0x7e ∉ m := fun h => hflag (by rw [he]; exact List.mem_append_left _ h)
      have hmne : m ≠ [] := by
        intro h
        subst h
        cases hs : s.bytes with
        | nil =>
          rw [hs, List.nil_append] at hm
          exact hfirst hs (by rw [hm]; rfl)
        | cons a l =>
          rw [hs] at hm
          have hnil := (List.cons.inj hm).2
          exact hq (List.append_eq_nil_iff.mp hnil).2
      have hlen : m.length ≤ e.length := by
        rw [he, List.length_append]
        omega
      obtain ⟨s', hs', hb'⟩ := @rdStep_half t nLen s q [] m hm (by simp) hmflag
        (by rw [hm]; exact not_flagEnds_open hmflag hmne) (by omega)
      obtain ⟨hdone, hwait⟩ := ih hpieces hlast s' (by rw [hb', ← hm, hall]) (by simp [hb'])
      refine ⟨?_, ?_⟩
      · simpa [rdLoop, hs'] using hdone
      · intro k hk
        cases k with
        | zero => rfl
        | succ k =>
          have hk' : k < pieces.length := by simpa using hk
          simpa [rdLoop, hs'] using hwait k hk'

lemma granted_ne_nil (a : Int) (t : PortType) (nLen : Nat) (pieces : List (List UInt8))
    (s : RdState) (h : granted a t nLen s (pieces.map .data)) : ∀ q ∈ pieces, q ≠ [] := by
  induction pieces generalizing s with
  | nil => simp
  | cons q pieces ih =>
    rw [List.map_cons, granted_cons] at h
    intro x hx
    rcases List.mem_cons.mp hx with rfl | hx
    · exact h.1.1
    · exact ih _ h.2 x hx

/-- `internal_read` returns exactly `f` when the last piece has arrived and nothing before. -/
def reassembles (p : CPort) (buff : Buffer UInt8) (nLen : Nat) (f : List UInt8)
    (pieces : List (List UInt8)) : Prop :=
  (∃ r, p.internalRead 1 buff nLen (pieces.map .data) = some r ∧ r.ret = f.length ∧
    r.buff.load 0 f.length = f ∧ r.rest = []) ∧
  ∀ k, k < pieces.length → p.internalRead 1 buff nLen ((pieces.take k).map .data) = none

/-- A frame is put together from its reads exactly when the first of them is not the opening
flag alone, which `checkframe` takes for a frame of one byte. -/
theorem reassembles_iff (p : CPort) (hfd : p.fdOpen = true) (hloop : p.portType ≠ .loop)
    (buff : Buffer UInt8) (nLen : Nat) (e : List UInt8) (hflag : 0x7e ∉ e)
    (hfit : (flagged e).length ≤ nLen) (pieces : List (List UInt8))
    (hcut : pieces.flatten = flagged e)
    (hgrant : granted 1 p.portType nLen (rdStart p.portType nLen buff) (pieces.map .data)) :
    reassembles p buff nLen (flagged e) pieces ↔ pieces.head? ≠ some [0x7e] := by
  have hne := granted_ne_nil _ _ _ _ _ hgrant
  have hread : ∀ es, p.internalRead 1 buff nLen es =
      (rdLoop 1 p.portType nLen (rdStart p.portType nLen buff) es).map
        fun r => ⟨r.1.offset, r.1.buff, r.1.fdOpen, r.2⟩ := by
    intro es
    simp [CPort.internalRead, hfd, hloop]
  constructor
  · rintro ⟨-, hwait⟩ hhead
    obtain ⟨pieces, rfl⟩ : ∃ ps, pieces = [0x7e] :: ps := by
      cases pieces with
      | nil => simp at hhead
      | cons q ps => exact ⟨ps, by simpa using hhead⟩
    have hmore : pieces ≠ [] := by
      rintro rfl
      have hlen := congrArg List.length hcut
      rw [length_flagged] at hlen
      simp at hlen
    obtain ⟨r, hr, -, -⟩ := @rdStep_ends p.portType nLen
      (rdStart p.portType nLen buff) [0x7e] (by simp) (by simp [flagEnds])
    have hone := hwait 1 (by simp [List.length_pos_iff.mpr hmore])
    rw [hread] at hone
    simp [rdLoop, hr] at hone
  · intro hhead
    have hsome : pieces ≠ [] := by
      rintro rfl
      simp [flagged] at hcut
    obtain ⟨⟨r, hr, hb, -⟩, hwait⟩ := rdLoop_completes p.portType nLen e hflag (by simpa using hfit)
      pieces hne hsome (rdStart p.portType nLen buff) (by simpa using hcut) (fun _ => hhead)
    have hoff : r.offset = (flagged e).length := by rw [← hb, r.length_bytes]
    refine ⟨⟨⟨r.offset, r.buff, r.fdOpen, []⟩, ?_, by rw [hoff], ?_, rfl⟩, ?_⟩
    · rw [hread, hr]
      rfl
    · rw [← hoff]
      exact hb
    · intro k hk
      rw [hread, hwait k hk]
      rfl

/-- A frame in three pieces on a serial port. -/
theorem reassembles_iff_three_pieces :
    reassembles ⟨.gser, true, true⟩ (fun _ => 0) 8 (flagged [1, 2]) [[0x7e, 1], [2], [0x7e]] :=
  (reassembles_iff ⟨.gser, true, true⟩ rfl (by decide) _ 8 [1, 2] (by decide)
    (by decide) [[0x7e, 1], [2], [0x7e]] rfl (by decide)).mpr (by decide)

/-- The opening flag alone, then the rest of the frame. -/
theorem lone_flag_not_reassembled :
    ¬reassembles ⟨.gser, true, true⟩ (fun _ => 0) 8 (flagged [1]) [[0x7e], [1, 0x7e]] := by
  rintro ⟨-, hwait⟩
  have hone := hwait 1 (by decide)
  have hread : (CPort.internalRead ⟨.gser, true, true⟩ 1 (fun _ => 0) 8
      ([[0x7e]].map RdEvent.data)).isSome = true := by decide
  rw [List.take_succ_cons, List.take_zero] at hone
  rw [hone] at hread
  exact absurd hread (by decide)

end EngPc
