import EngPc.Lib.Reach
import EngPc.Model.DcxCali
import Mathlib.Tactic.Common

/-!
# Switching the AFC mode

A switch to low power saves CTRL5 and the low byte of CTRL10, and a switch to high power puts them
back. The switch to high power saves CTRL5 as well, but nothing reads `lp_amp`. The mode of a
request is tested for the answer only, after the switch.
-/

namespace EngPc

/-- The state, with the registers at the time when each mode was last left. -/
structure Afc where
  dcx : Dcx
  leftHigh : Option DcxRegs
  leftLow : Option DcxRegs
  deriving DecidableEq

namespace Afc

def initial (regs : DcxRegs) : Afc := ⟨Dcx.initial regs, none, none⟩

def follow (s : Afc) (d : Dcx) : Afc where
  dcx := d
  leftHigh := if s.dcx.currentMode = 1 ∧ d.currentMode ≠ 1 then some s.dcx.regs else s.leftHigh
  leftLow := if s.dcx.currentMode = 0 ∧ d.currentMode ≠ 0 then some s.dcx.regs else s.leftLow

def handle (s : Afc) (req : DcxReq) : Option (Afc × DcxCnf) :=
  (dcxHandler s.dcx req).map fun r => (s.follow r.1, r.2)

def next (s : Afc) (req : DcxReq) : Option Afc := (s.handle req).map Prod.fst

/-- What one request is to keep: a mode that is entered again finds its registers as it left them,
and a refused request changes nothing. -/
structure Right (s s' : Afc) (cnf : DcxCnf) : Prop where
  high : s.dcx.currentMode ≠ 1 → s'.dcx.currentMode = 1 → ∀ left ∈ s.leftHigh,
    s'.dcx.regs.ctrl5 = left.ctrl5 ∧ cbankHp s'.dcx.regs.ctrl10 = cbankHp left.ctrl10
  low : s.dcx.currentMode ≠ 0 → s'.dcx.currentMode = 0 → ∀ left ∈ s.leftLow,
    s'.dcx.regs.ctrl5 = left.ctrl5
  refused : cnf.status = 1 →
    s'.dcx.regs = s.dcx.regs ∧ s'.dcx.currentMode = s.dcx.currentMode

/-- Low power, when it is entered again, is to be entered with the CTRL5 that it was left with;
a mode that does not exist is to be asked for in high power only. -/
def Ok (s : Afc) : DcxReq → Prop
  | .setAfcMode mode =>
    (mode = 0 → s.dcx.currentMode = 1 →
      ∀ left ∈ s.leftLow, s.dcx.regs.ctrl5 = left.ctrl5) ∧
    (mode ≠ 0 → mode ≠ 1 → s.dcx.currentMode = 1)
  | _ => True

/-- In low power the variables hold what high power was left with. -/
structure Saved (s : Afc) : Prop where
  mode : s.dcx.currentMode = 0 ∨ s.dcx.currentMode = 1
  saved : s.dcx.currentMode = 0 → ∃ left, s.leftHigh = some left ∧
    s.dcx.hpAmp = left.ctrl5 ∧ s.dcx.hpCbank = cbankHp left.ctrl10

end Afc

lemma cbankHp_cbankHp (x : UInt32) : cbankHp (cbankHp x) = cbankHp x := by
  rw [cbankHp, cbankHp, UInt32.and_assoc, UInt32.and_self]

lemma dcxAmpCali_eq {d d' : Dcx} {ok : OkFlag} {fuel : Nat} {cnf : DcxCnf}
    (h : dcxAmpCali ok fuel d = some (d', cnf)) :
    (∃ regs, d' = { d with regs := regs }) ∧ cnf.status = 0 := by
  rw [dcxAmpCali, Option.bind_eq_bind, Option.bind_eq_some_iff] at h
  obtain ⟨r, -, h⟩ := h
  cases h
  exact ⟨⟨_, rfl⟩, rfl⟩

section SetMode

variable {d : Dcx} {mode : UInt16}

/-- The answer to a request for a mode. -/
def afcModeCnf (mode : UInt16) : DcxCnf := ⟨if mode = 0 ∨ mode = 1 then 0 else 1, 0, none⟩

lemma dcxSetAfcMode_cnf : (dcxSetAfcMode mode d).2 = afcModeCnf mode := by
  unfold dcxSetAfcMode afcModeCnf
  by_cases h0 : mode = 0
  · simp [h0]
  · simp [h0]

lemma dcxSetAfcMode_stay (h : mode = 0 ∧ d.currentMode = 0 ∨ mode ≠ 0 ∧ d.currentMode = 1) :
    (dcxSetAfcMode mode d).1 = d := by
  have heta : ∀ k, d.currentMode = k → { d with currentMode := k } = d := by
    rintro k rfl
    rfl
  unfold dcxSetAfcMode
  obtain ⟨hmode, hd⟩ | ⟨hmode, hd⟩ := h
  · simp [hmode, hd, heta 0 hd]
  · simp [hmode, hd, heta 1 hd]

lemma dcxSetAfcMode_low (hmode : mode = 0) (hd : d.currentMode = 1) :
    (dcxSetAfcMode mode d).1 =
      { d with
        currentMode := 0
        hpCbank := cbankHp d.regs.ctrl10
        hpAmp := d.regs.ctrl5
        regs := { d.regs with ctrl10 := 0, ctrl14 := d.regs.ctrl14 ||| lpCalEn } } := by
  simp [dcxSetAfcMode, hmode, hd]

lemma dcxSetAfcMode_high (hmode : mode ≠ 0) (hd : d.currentMode = 0) :
    (dcxSetAfcMode mode d).1 =
      { d with
        currentMode := 1
        lpCbank := d.regs.ctrl10
        lpAmp := d.regs.ctrl5
        regs :=
          { d.regs with
            ctrl14 := d.regs.ctrl14 &&& ~~~lpCalEn
            ctrl10 := d.hpCbank
            ctrl5 := d.hpAmp } } := by
  simp [dcxSetAfcMode, hmode, hd]

end SetMode

namespace Afc

variable {s s' : Afc} {req : DcxReq} {cnf : DcxCnf}

lemma saved_initial (regs : DcxRegs) : Saved (initial regs) where
  mode := Or.inr rfl
  saved h := absurd h Int.one_ne_zero

lemma follow_of_mode_eq {d : Dcx} (h : d.currentMode = s.dcx.currentMode) :
    s.follow d = { s with dcx := d } := by
  unfold follow
  rw [h]
  simp

lemma handle_eq (h : s.handle req = some (s', cnf)) :
    ∃ d, dcxHandler s.dcx req = some (d, cnf) ∧ s' = s.follow d := by
  obtain ⟨⟨d, cnf'⟩, hd, hr⟩ := Option.map_eq_some_iff.mp h
  cases hr
  exact ⟨d, hd, rfl⟩

/-- A request that leaves all but the registers alone, and is not refused or changes nothing. -/
lemma keep_spec (hs : Saved s) (cnf : DcxCnf) {d : Dcx} (hd : d = { s.dcx with regs := d.regs })
    (h : cnf.status = 1 → d.regs = s.dcx.regs) :
    Saved (s.follow d) ∧ Right s (s.follow d) cnf := by
  have hmode : d.currentMode = s.dcx.currentMode := by rw [hd]
  rw [follow_of_mode_eq hmode, hd]
  constructor
  · exact ⟨hs.mode, hs.saved⟩
  · exact ⟨fun h0 h1 => absurd h1 h0, fun h1 h0 => absurd h0 h1, fun hstatus => ⟨h hstatus, rfl⟩⟩

lemma low_spec (hcur : s.dcx.currentMode = 1) :
    Saved (s.follow (dcxSetAfcMode 0 s.dcx).1) ∧
      (Right s (s.follow (dcxSetAfcMode 0 s.dcx).1) (afcModeCnf 0) ↔ s.Ok (.setAfcMode 0)) := by
  rw [dcxSetAfcMode_low rfl hcur]
  refine ⟨⟨Or.inl rfl, fun _ => ⟨s.dcx.regs, ?_, rfl, rfl⟩⟩, ?_⟩
  · simp [follow, hcur]
  constructor
  · intro h
    refine ⟨fun _ _ => h.low ?_ rfl, fun h0 => absurd rfl h0⟩
    rw [hcur]
    exact Int.one_ne_zero
  · intro h
    refine ⟨fun h1 => absurd hcur h1, fun _ _ => h.1 rfl hcur, fun hstatus => ?_⟩
    exact absurd hstatus (by decide)

lemma high_spec {mode : UInt16} (hs : Saved s) (hmode : mode ≠ 0) (hcur : s.dcx.currentMode = 0) :
    Saved (s.follow (dcxSetAfcMode mode s.dcx).1) ∧
      (Right s (s.follow (dcxSetAfcMode mode s.dcx).1) (afcModeCnf mode) ↔
        s.Ok (.setAfcMode mode)) := by
  obtain ⟨left, hleft, hamp, hcbank⟩ := hs.saved hcur
  rw [dcxSetAfcMode_high hmode hcur]
  refine ⟨⟨Or.inr rfl, fun h => absurd h Int.one_ne_zero⟩, ?_⟩
  constructor
  · intro h
    refine ⟨fun h0 => absurd h0 hmode, fun _ h1 => ?_⟩
    have hstatus : (afcModeCnf mode).status = 1 := by simp [afcModeCnf, hmode, h1]
    exact ((h.refused hstatus).2).symm
  · intro h
    have hone : mode = 1 := by
      by_contra h1
      exact Int.zero_ne_one (hcur.symm.trans (h.2 hmode h1))
    refine ⟨fun _ _ l hl => ?_, fun h0 => absurd hcur h0, fun hstatus => ?_⟩
    · obtain rfl : left = l := Option.some.inj (hleft.symm.trans hl)
      refine ⟨hamp, ?_⟩
      change cbankHp s.dcx.hpCbank = _
      rw [hcbank, cbankHp_cbankHp]
    · rw [hone] at hstatus
      exact absurd hstatus (by decide)

lemma mode_spec (hs : Saved s) (mode : UInt16) :
    Saved (s.follow (dcxSetAfcMode mode s.dcx).1) ∧
      (Right s (s.follow (dcxSetAfcMode mode s.dcx).1) (afcModeCnf mode) ↔
        s.Ok (.setAfcMode mode)) := by
  by_cases hmode : mode = 0
  · cases hs.mode with
    | inl hcur =>
      rw [dcxSetAfcMode_stay (Or.inl ⟨hmode, hcur⟩)]
      have hspec := keep_spec hs (afcModeCnf mode) rfl (fun _ => rfl)
      refine ⟨hspec.1, iff_of_true hspec.2 ⟨fun _ h1 => ?_, fun h0 => absurd hmode h0⟩⟩
      exact absurd (hcur.symm.trans h1) Int.zero_ne_one
    | inr hcur =>
      subst hmode
      exact low_spec hcur
  · cases hs.mode with
    | inl hcur => exact high_spec hs hmode hcur
    | inr hcur =>
      rw [dcxSetAfcMode_stay (Or.inr ⟨hmode, hcur⟩)]
      have hspec := keep_spec hs (afcModeCnf mode) rfl (fun _ => rfl)
      exact ⟨hspec.1, iff_of_true hspec.2 ⟨fun h0 => absurd h0 hmode, fun _ _ => hcur⟩⟩

/-- A request keeps the invariant, and does what it is to do exactly where `Ok` holds. -/
lemma handle_spec (hs : Saved s) (h : s.handle req = some (s', cnf)) :
    Saved s' ∧ (Right s s' cnf ↔ s.Ok req) := by
  obtain ⟨d, hd, rfl⟩ := handle_eq h
  cases req with
  | setAfcMode mode =>
    rw [dcxHandler, Option.some.injEq] at hd
    have hcnf : cnf = afcModeCnf mode := by rw [← dcxSetAfcMode_cnf, hd]
    have hdcx : d = (dcxSetAfcMode mode s.dcx).1 := by rw [hd]
    rw [hcnf, hdcx]
    exact mode_spec hs mode
  | setAfcCdac cdac =>
    cases hd
    have hspec := keep_spec (d := (dcxSetAfcCdac cdac s.dcx).1) hs ⟨0, 0, none⟩ rfl
      (fun h1 => absurd h1 (by decide))
    exact ⟨hspec.1, iff_of_true hspec.2 trivial⟩
  | ampCali ok fuel =>
    obtain ⟨⟨regs, rfl⟩, hstatus⟩ := dcxAmpCali_eq hd
    have hspec := keep_spec (d := { s.dcx with regs := regs }) hs cnf rfl
      (fun h1 => absurd (hstatus.symm.trans h1) (by decide))
    exact ⟨hspec.1, iff_of_true hspec.2 trivial⟩

lemma saved_next (hs : Saved s) (h : s.next req = some s') : Saved s' := by
  obtain ⟨⟨s₁, cnf⟩, hr, rfl⟩ := Option.map_eq_some_iff.mp h
  exact (handle_spec hs hr).1

lemma saved_of_reachable {regs : DcxRegs} (h : Reach.Reachable next (initial regs) s) : Saved s :=
  h.invariant (saved_initial regs) fun _ _ _ => saved_next

end Afc

/-- In any run from high power, a request does what it is to do exactly where low power, if it is
entered again, is entered with the CTRL5 that it was left with, and a mode that does not exist is
asked for in high power. -/
theorem afc_request_right_iff (regs : DcxRegs) {s s' : Afc} {req : DcxReq} {cnf : DcxCnf}
    (h : Reach.Reachable Afc.next (Afc.initial regs) s) (hreq : s.handle req = some (s', cnf)) :
    Afc.Right s s' cnf ↔ s.Ok req :=
  (Afc.handle_spec (Afc.saved_of_reachable h) hreq).2

/-- The first request for low power, a calibration there, and the way back to high power. -/
def backToHigh : List DcxReq :=
  [.setAfcMode 0, .ampCali (fun _ _ => true) 32, .setAfcMode 1]

/-- High power is entered again behind a calibration that has changed CTRL5, and low power with the
CTRL5 that it was left with. -/
theorem afc_request_right_again :
    (∃ s s' cnf, Reach.replay Afc.next (Afc.initial ⟨0, 0, 0x15, 0x33C, 0, 0⟩)
        (backToHigh.take 2) = some s ∧
      s.handle (.setAfcMode 1) = some (s', cnf) ∧ s.leftHigh.map DcxRegs.ctrl5 = some 0x15 ∧
      s.dcx.regs.ctrl5 = 0x1F ∧ s'.dcx.regs.ctrl5 = 0x15 ∧ Afc.Right s s' cnf) ∧
    ∃ s s' cnf, Reach.replay Afc.next (Afc.initial ⟨0, 0, 0x1F, 0x33C, 0, 0⟩) backToHigh = some s ∧
      s.handle (.setAfcMode 0) = some (s', cnf) ∧ s.leftLow.map DcxRegs.ctrl5 = some 0x1F ∧
      Afc.Right s s' cnf := by
  constructor
  · have hrun : Reach.replay Afc.next (Afc.initial ⟨0, 0, 0x15, 0x33C, 0, 0⟩) (backToHigh.take 2) =
        some ⟨⟨⟨0, 24, 0x1F, 0, 0, 0x800⟩, 0, 0x3C, 0, 0x15, 0⟩, some ⟨0, 0, 0x15, 0x33C, 0, 0⟩,
          none⟩ := by decide +kernel
    refine ⟨_, _, _, hrun, rfl, rfl, rfl, rfl, ?_⟩
    apply (@afc_request_right_iff _ _ _ (.setAfcMode 1) _ (Reach.reachable_of_replay hrun) rfl).mpr
    exact ⟨fun h0 => absurd h0 (by decide), fun _ h1 => absurd rfl h1⟩
  · have hrun : Reach.replay Afc.next (Afc.initial ⟨0, 0, 0x1F, 0x33C, 0, 0⟩) backToHigh =
        some ⟨⟨⟨0, 24, 0x1F, 0x3C, 0, 0⟩, 1, 0x3C, 0, 0x1F, 0x1F⟩, some ⟨0, 0, 0x1F, 0x33C, 0, 0⟩,
          some ⟨0, 24, 0x1F, 0, 0, 0x800⟩⟩ := by decide +kernel
    refine ⟨_, _, _, hrun, rfl, rfl, ?_⟩
    apply (@afc_request_right_iff _ _ _ (.setAfcMode 0) _ (Reach.reachable_of_replay hrun) rfl).mpr
    refine ⟨fun _ _ left hleft => ?_, fun h0 => absurd rfl h0⟩
    cases hleft
    rfl

/-- Low power, left with 0x1F in CTRL5, is entered again with the 0 of high power; and a request for
mode 2, which is refused, switches from low to high power. -/
theorem afc_low_not_restored :
    (∃ s s' cnf, Reach.Reachable Afc.next (Afc.initial ⟨0, 0, 0, 0, 0, 0⟩) s ∧
      s.handle (.setAfcMode 0) = some (s', cnf) ∧ s.leftLow.map DcxRegs.ctrl5 = some 0x1F ∧
      s'.dcx.regs.ctrl5 = 0 ∧ ¬Afc.Right s s' cnf) ∧
    ∃ s s' cnf, Reach.Reachable Afc.next (Afc.initial ⟨0, 0, 0, 0, 0, 0⟩) s ∧
      s.handle (.setAfcMode 2) = some (s', cnf) ∧ cnf.status = 1 ∧
      s'.dcx.currentMode ≠ s.dcx.currentMode ∧ ¬Afc.Right s s' cnf := by
  constructor
  · have hrun : Reach.replay Afc.next (Afc.initial ⟨0, 0, 0, 0, 0, 0⟩) backToHigh =
        some ⟨⟨⟨0, 24, 0, 0, 0, 0⟩, 1, 0, 0, 0, 0x1F⟩, some ⟨0, 0, 0, 0, 0, 0⟩,
          some ⟨0, 24, 0x1F, 0, 0, 0x800⟩⟩ := by decide +kernel
    refine ⟨_, _, _, Reach.reachable_of_replay hrun, rfl, rfl, rfl, fun h => ?_⟩
    have hctrl5 := h.low (by decide) rfl _ rfl
    exact absurd hctrl5 (by decide)
  · have hrun : Reach.replay Afc.next (Afc.initial ⟨0, 0, 0, 0, 0, 0⟩) [.setAfcMode 0] =
        some ⟨⟨⟨0, 0, 0, 0, 0, 0x800⟩, 0, 0, 0, 0, 0⟩, some ⟨0, 0, 0, 0, 0, 0⟩, none⟩ := by
      decide +kernel
    refine ⟨_, _, _, Reach.reachable_of_replay hrun, rfl, rfl, by decide, fun h => ?_⟩
    have hmode := (h.refused rfl).2
    exact absurd hmode (by decide)

end EngPc
