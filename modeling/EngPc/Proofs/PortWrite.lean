import EngPc.Model.PortWrite

/-!
# What a write gives to the device

The device takes a prefix of the buffer whatever happens, but a time-out is answered with 0 also
where a part has been taken. The length of a call is kept off the multiples of 64 only until the
first call is accepted.
-/

namespace EngPc

/-- The bytes that the device takes in a round. -/
def WrEvent.taken : WrEvent → Nat
  | .wrote count => count
  | _ => 0

namespace WrState

variable {s s' : WrState} {e : WrEvent} {r : Int × PortFd}

lemma again_inl (h : s.again = .inl s') : s' = s ∧ 0 < s.nLen := by
  unfold again at h
  split_ifs at h with hpos
  cases h
  exact ⟨rfl, hpos⟩

lemma again_inr (h : s.again = .inr r) : r.1 = s.offset := by
  unfold again at h
  split_ifs at h
  cases h
  rfl

lemma step_inl (h : s.step e = .inl s') :
    s'.offset = s.offset + e.taken ∧ s'.nLen = s.nLen - e.taken ∧ 0 < s'.nLen ∧
      (s'.bsplite = true → s.bsplite = true ∧ e.taken = 0) := by
  cases e with
  | selectTimeout => cases h
  | wrote count =>
    obtain ⟨rfl, hpos⟩ := again_inl h
    exact ⟨rfl, rfl, hpos, fun hsplit => absurd hsplit Bool.false_ne_true⟩
  | failed results =>
    rw [step] at h
    split_ifs at h
    obtain ⟨rfl, hpos⟩ := again_inl h
    exact ⟨rfl, (sub_zero _).symm, hpos, fun hsplit => ⟨hsplit, rfl⟩⟩
  | _ =>
    obtain ⟨rfl, hpos⟩ := again_inl h
    exact ⟨rfl, (sub_zero _).symm, hpos, fun hsplit => ⟨hsplit, rfl⟩⟩

/-- The last round returns what has been taken, unless it is a time-out. -/
lemma step_inr (h : s.step e = .inr r) (htimeout : e ≠ .selectTimeout) :
    r.1 = s.offset + e.taken := by
  cases e with
  | selectTimeout => exact absurd rfl htimeout
  | wrote count => exact again_inr h
  | failed results =>
    rw [step] at h
    split_ifs at h
    · have hret := again_inr h
      exact hret
    · cases h
      rfl
  | _ => exact again_inr h

lemma wrLoop_inl (h : s.step e = .inl s') (es : List WrEvent) :
    wrLoop s (e :: es) =
      { wrLoop s' es with calls := (s.call e).toList ++ (wrLoop s' es).calls } := by
  rw [wrLoop, h]

lemma wrLoop_inr (h : s.step e = .inr r) (es : List WrEvent) :
    wrLoop s (e :: es) = ⟨(s.call e).toList, some r.1, r.2⟩ := by
  rw [wrLoop, h]

lemma along_inl {p : WrState → WrEvent → Prop} (h : s.step e = .inl s') (es : List WrEvent) :
    s.Along p (e :: es) ↔ p s e ∧ s'.Along p es := by
  rw [Along, h]

lemma along_inr {p : WrState → WrEvent → Prop} (h : s.step e = .inr r) (es : List WrEvent) :
    s.Along p (e :: es) ↔ p s e := by
  rw [Along, h]
  exact and_iff_left trivial

lemma accepted_call (s : WrState) (e : WrEvent) (buff : Buffer UInt8) :
    ((s.call e).toList.flatMap fun c => buff.load c.offset c.taken) =
      buff.load s.offset e.taken := by
  cases e <;> simp [call, WrEvent.taken]

lemma len_le (s : WrState) : s.len ≤ s.nLen := by
  unfold len
  split_ifs <;> omega

lemma taken_le (hpos : 0 < s.nLen) (h : s.grants e) : e.taken ≤ s.nLen := by
  cases e with
  | wrote count => exact h.trans s.len_le
  | _ => exact hpos.le

/-- No time-out comes when a part of the buffer has been taken. -/
def Timely (s : WrState) : WrEvent → Prop
  | .selectTimeout => s.offset = 0
  | _ => True

instance (s : WrState) : (e : WrEvent) → Decidable (s.Timely e)
  | .selectTimeout => inferInstanceAs (Decidable (s.offset = 0))
  | .selectError | .notSet | .wrote _ | .busy | .failed _ => isTrue trivial

/-- The device takes what stands at the offset and no more than is left, and the answer counts it
exactly in a timely run. -/
lemma wrLoop_accepted (buff : Buffer UInt8) (es : List WrEvent) (hpos : 0 < s.nLen)
    (hgrants : s.Along grants es) :
    ∃ n : Nat, n ≤ s.nLen ∧ (wrLoop s es).accepted buff = buff.load s.offset n ∧
      ((∀ ret, (wrLoop s es).ret = some ret → ret = s.offset + n) ↔ s.Along Timely es) := by
  induction es generalizing s with
  | nil => exact ⟨0, hpos.le, rfl, iff_of_true (fun ret h => nomatch h) trivial⟩
  | cons e es ih =>
    have htaken := taken_le hpos hgrants.1
    cases h : s.step e with
    | inl s' =>
      rw [along_inl h] at hgrants
      obtain ⟨hoffset, hnLen, hpos', -⟩ := step_inl h
      obtain ⟨n, hn, haccepted, hret⟩ := ih hpos' hgrants.2
      have htimely : s.Timely e := by
        cases e with
        | selectTimeout => cases h
        | _ => trivial
      rw [wrLoop_inl h, along_inl h, and_iff_right htimely, ← hret, hoffset]
      refine ⟨e.taken + n, ?_, ?_, ?_⟩
      · push_cast
        omega
      · rw [WrOut.accepted, List.flatMap_append, accepted_call, Buffer.load_add, ← hoffset,
          ← haccepted]
        rfl
      · push_cast
        simp only [add_assoc]
    | inr r =>
      rw [wrLoop_inr h, along_inr h]
      refine ⟨e.taken, htaken, accepted_call s e buff, ?_⟩
      simp only [Option.some.injEq, forall_eq']
      by_cases htimeout : e = .selectTimeout
      · subst htimeout
        cases h
        simp [Timely, WrEvent.taken, eq_comm]
      · refine iff_of_true (step_inr h htimeout) ?_
        cases e with
        | selectTimeout => exact absurd rfl htimeout
        | _ => trivial

end WrState

/-- The bytes that the device takes are a prefix of the buffer, and the answer is its length. -/
structure WritesRight (buff : Buffer UInt8) (nLen : Nat) (o : WrOut) : Prop where
  accepted_prefix : o.accepted buff <+: buff.load 0 nLen
  ret_eq : ∀ ret, o.ret = some ret → ret = (o.accepted buff).length

/-- **A write is answered with what the device took unless it times out half-way**, on every port
with a descriptor but one of type LOOP, which is never written. -/
theorem internal_write_right_iff (port : PortFd) (hfd : 0 ≤ port.fd) (buff : Buffer UInt8)
    (nLen : Nat) (hnLen : 1 ≤ nLen) (events : List WrEvent)
    (hgrants : (wrStart port nLen).Along WrState.grants events) :
    WritesRight buff nLen (internalWrite port nLen events) ↔
      port.portType ≠ .loop ∧ (wrStart port nLen).Along WrState.Timely events := by
  rw [internalWrite, if_neg hfd.not_gt]
  by_cases hloop : port.portType = .loop
  · rw [if_pos hloop]
    refine iff_of_false (fun h => ?_) fun h => h.1 hloop
    have hret : (nLen : Int) = 0 := h.ret_eq nLen rfl
    omega
  · rw [if_neg hloop, and_iff_right hloop]
    have hpos : 0 < (wrStart port nLen).nLen := Int.natCast_pos.mpr hnLen
    obtain ⟨n, hn, haccepted, hret⟩ := WrState.wrLoop_accepted buff events hpos hgrants
    have hlength : ((wrLoop (wrStart port nLen) events).accepted buff).length = n := by
      rw [haccepted, Buffer.length_load]
    rw [← hret]
    constructor
    · intro h ret heq
      rw [h.ret_eq ret heq, hlength]
      exact (zero_add _).symm
    · intro h
      constructor
      · have hle : n ≤ nLen := Int.ofNat_le.mp hn
        rw [haccepted, show (wrStart port nLen).offset = 0 from rfl, ← Buffer.load_take buff 0 hle]
        exact List.take_prefix _ _
      · intro ret heq
        rw [h ret heq, hlength]
        exact zero_add _

/-- A COM port with an open descriptor. -/
def comPort : PortFd := ⟨.com, true, 3, 1⟩

theorem internal_write_right_short : 0 ≤ comPort.fd ∧
    WritesRight (fun k => UInt8.ofNat k) 3 (internalWrite comPort 3 [.wrote 1, .busy, .wrote 2]) :=
  ⟨by decide, (internal_write_right_iff comPort (by decide) (fun k => UInt8.ofNat k) 3 (by decide)
    [.wrote 1, .busy, .wrote 2] (by decide)).mpr (by decide)⟩

/-- One byte of three is taken, and then the port is not ready for a minute. -/
theorem internal_write_times_out :
    (internalWrite comPort 3 [.wrote 1, .selectTimeout]).accepted (fun k => UInt8.ofNat k) = [0] ∧
      (internalWrite comPort 3 [.wrote 1, .selectTimeout]).ret = some 0 ∧
      ¬WritesRight (fun k => UInt8.ofNat k) 3
        (internalWrite comPort 3 [.wrote 1, .selectTimeout]) :=
  ⟨by decide, by decide, fun h => absurd (h.ret_eq 0 (by decide)) (by decide)⟩

namespace WrState

variable {s s' : WrState} {e : WrEvent}

/-- A call of `::write` that is not the first to be accepted finds no multiple of 64 bytes left. -/
def Uneven (s : WrState) (e : WrEvent) : Prop :=
  (s.call e).isSome = true → s.bsplite = false → ¬(64 : Int) ∣ s.nLen

instance (s : WrState) (e : WrEvent) : Decidable (s.Uneven e) :=
  inferInstanceAs (Decidable (_ → _ → _))

/-- `nLen` is what is left of `total` bytes, and these are split only where they are a multiple of
64. -/
structure Splits (total : Int) (s : WrState) : Prop where
  left : s.nLen = total - s.offset
  pos : 0 < s.nLen
  whole : s.bsplite = true → (64 : Int) ∣ s.nLen

lemma Splits.step {total : Int} (hs : s.Splits total) (h : s.step e = .inl s') :
    s'.Splits total := by
  obtain ⟨hoffset, hnLen, hpos, hsplit⟩ := step_inl h
  refine ⟨?_, hpos, fun hsplit' => ?_⟩
  · rw [hnLen, hs.left, hoffset]
    push_cast
    ring
  · obtain ⟨hsplits, htaken⟩ := hsplit hsplit'
    rw [hnLen, htaken]
    simpa using hs.whole hsplits

end WrState

/-- What a call of `::write` for part of `nLen` bytes is to be. -/
def WrCall.Fine (nLen : Int) (c : WrCall) : Prop :=
  1 ≤ c.len ∧ c.len ≤ nLen - c.offset ∧ ¬(64 : Int) ∣ c.len

instance (nLen : Int) (c : WrCall) : Decidable (c.Fine nLen) :=
  inferInstanceAs (Decidable (_ ∧ _ ∧ _))

namespace WrState

variable {s s' : WrState} {e : WrEvent}

lemma call_fine_iff {total : Int} (hs : s.Splits total) :
    (∀ c ∈ s.call e, c.Fine total) ↔ s.Uneven e := by
  have hfine : ∀ taken, (WrCall.mk s.offset s.len taken).Fine total ↔
      (s.bsplite = false → ¬(64 : Int) ∣ s.nLen) := by
    intro taken
    have hleft := hs.left
    have hpos := hs.pos
    unfold WrCall.Fine len
    cases hsplit : s.bsplite with
    | true =>
      have hwhole := hs.whole hsplit
      simp only [if_true, Bool.true_eq_false, false_imp_iff, iff_true]
      omega
    | false =>
      simp only [Bool.false_eq_true, if_false, forall_const]
      omega
  cases e <;> simp [call, Uneven, hfine]

lemma wrLoop_fine_iff {total : Int} (es : List WrEvent) (hs : s.Splits total) :
    (∀ c ∈ (wrLoop s es).calls, c.Fine total) ↔ s.Along Uneven es := by
  induction es generalizing s with
  | nil => exact iff_of_true (fun c hc => absurd hc List.not_mem_nil) trivial
  | cons e es ih =>
    have hcall := call_fine_iff (e := e) hs
    cases h : s.step e with
    | inl s' =>
      rw [wrLoop_inl h, along_inl h, ← ih (hs.step h), ← hcall]
      simp only [List.mem_append, Option.mem_toList, Option.mem_def, or_imp, forall_and]
    | inr r =>
      rw [wrLoop_inr h, along_inr h, ← hcall]
      simp only [Option.mem_toList, Option.mem_def]

end WrState

/-- **No serial port is written a multiple of 64 bytes at a time unless a call leaves such a
multiple and another one follows.** -/
theorem write_lengths_iff (port : PortFd) (hserial : port.portType.isSerial = true) (nLen : Nat)
    (hnLen : 1 ≤ nLen) (events : List WrEvent) :
    (∀ c ∈ (internalWrite port nLen events).calls, c.Fine nLen) ↔
      port.fd < 0 ∨ (wrStart port nLen).Along WrState.Uneven events := by
  have hloop : port.portType ≠ .loop := by
    intro heq
    rw [heq] at hserial
    cases hserial
  unfold internalWrite
  by_cases hfd : port.fd < 0
  · rw [if_pos hfd]
    exact iff_of_true (fun c hc => absurd hc List.not_mem_nil) (.inl hfd)
  · rw [if_neg hfd, if_neg hloop, or_iff_right hfd]
    apply WrState.wrLoop_fine_iff
    refine ⟨(sub_zero _).symm, Int.natCast_pos.mpr hnLen, fun hsplit => ?_⟩
    have hmod : (nLen : Int) % 64 = 0 := (of_decide_eq_true hsplit).1
    exact Int.dvd_of_emod_eq_zero hmod

theorem write_lengths_short : comPort.portType.isSerial = true ∧
    ∀ c ∈ (internalWrite comPort 128 [.wrote 96, .busy, .wrote 32]).calls, c.Fine 128 :=
  ⟨by decide, (write_lengths_iff comPort (by decide) 128 (by decide)
    [.wrote 96, .busy, .wrote 32]).mpr (by decide)⟩

/-- Of 96 bytes the device takes 32. -/
theorem write_lengths_even :
    (internalWrite comPort 96 [.wrote 32, .wrote 64]).calls = [⟨0, 96, 32⟩, ⟨32, 64, 64⟩] ∧
      ¬∀ c ∈ (internalWrite comPort 96 [.wrote 32, .wrote 64]).calls, c.Fine 96 := by
  decide

end EngPc
