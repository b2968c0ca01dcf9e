import EngPc.Model.DcxCali
import Mathlib.Order.Basic
import Mathlib.Tactic.Common

/-!
# The amplitude calibration

Both loops count a field of CTRL5 down, so each stops at the first value that reads OK. After the
coarse loop the value is to be raised by one: `hp_amp_cali` does not see that the maximum plus one
does not fit in the field, and `lp_amp_cali` writes 1 in place of the value plus one.
-/

namespace EngPc

lemma or_and_mask (x y k : UInt32) : (x ||| y) &&& k = x &&& k ||| y &&& k := by
  apply UInt32.toBitVec_inj.mp
  ext i
  simp [Bool.and_or_distrib_right]

lemma and_mask_or (x y : UInt32) : x &&& y ||| y = y := by
  apply UInt32.toBitVec_inj.mp
  ext i
  simp

lemma mask_mono {x y k l : UInt32} (hk : k &&& l = k) (h : x &&& l = y &&& l) :
    x &&& k = y &&& k := by
  rw [← hk, UInt32.and_comm k l, ← UInt32.and_assoc, ← UInt32.and_assoc, h]

lemma mask_right_comm (x y z : UInt32) : x &&& y &&& z = x &&& z &&& y := by
  rw [UInt32.and_assoc, UInt32.and_comm y, UInt32.and_assoc]

lemma amlCtrl_and (x : UInt32) : amlCtrl x &&& ~~~amlCtrl 0xF = 0 := by
  have hall : amlCtrl 0xF = (0xF : UInt32) <<< 4 := by decide
  rw [hall, amlCtrl, UInt32.shiftLeft_and, UInt32.and_assoc, UInt32.and_not_self, UInt32.and_zero]

section Flag

variable (ok : OkFlag) (s : DcxRegs)

lemma readCtrl4_rest :
    readCtrl4 ok s &&& ~~~amlCalOkFlag = s.ctrl4 &&& ~~~amlCalOkFlag := by
  have hflag : ∀ b : Bool, (if b then amlCalOkFlag else 0) &&& ~~~amlCalOkFlag = 0 := by decide
  rw [readCtrl4, or_and_mask, hflag, UInt32.and_assoc, UInt32.and_self, UInt32.or_zero]

lemma okFlag_eq :
    okFlag ok s = if ok (s.ctrl4 &&& ~~~amlCalOkFlag) s.ctrl5 then amlCalOkFlag else 0 := by
  have hflag : ∀ b : Bool, (if b then amlCalOkFlag else 0) &&& amlCalOkFlag =
      if b then amlCalOkFlag else 0 := by decide
  rw [okFlag, readCtrl4, or_and_mask, hflag, UInt32.and_assoc, UInt32.not_and_self,
    UInt32.and_zero, UInt32.zero_or]

/-- The flag as a truth value. -/
def isOk : Bool := ok (s.ctrl4 &&& ~~~amlCalOkFlag) s.ctrl5

lemma okFlag_ne_zero : (okFlag ok s != 0) = isOk ok s := by
  rw [okFlag_eq, isOk]
  cases ok (s.ctrl4 &&& ~~~amlCalOkFlag) s.ctrl5 <;> decide

lemma okFlag_beq_zero : (okFlag ok s == 0) = !isOk ok s := by
  rw [okFlag_eq, isOk]
  cases ok (s.ctrl4 &&& ~~~amlCalOkFlag) s.ctrl5 <;> decide

lemma fineGo_eq : AmpMode.fineGo ok s = !isOk ok s := by
  rw [AmpMode.fineGo, okFlag_eq, isOk]
  cases ok (s.ctrl4 &&& ~~~amlCalOkFlag) s.ctrl5 <;> decide

end Flag

namespace AmpMode

section Fields

variable (m : AmpMode)

def coarseMax : ℕ := (m.coarseMask >>> m.coarseShift).toNat

def fineMax : ℕ := m.fineMask.toNat

/-- CTRL5 with the two fields and no other bit. -/
def content (c f : ℕ) : UInt32 := UInt32.ofNat c <<< m.coarseShift ||| UInt32.ofNat f

def coarseOf (x : UInt32) : UInt32 := (x &&& amlCalCtrl m.coarseMask) >>> m.coarseShift

/-- What the body of the first loop writes to CTRL5. -/
def loopWrite (x : UInt32) : UInt32 :=
  amlCalCtrl (x &&& m.loopKeep ||| (m.coarseOf x - 1) <<< m.coarseShift)

/-- What is written to CTRL5 after an OK reading. -/
def stepWrite (x : UInt32) : UInt32 :=
  amlCalCtrl (x &&& m.stepKeep ||| m.next (m.coarseOf x) <<< m.coarseShift)

def fineWrite (x : UInt32) : UInt32 := x &&& ~~~m.fineMask ||| (x &&& amlCalCtrl m.fineMask) - 1

/-- What the masks and shifts of a mode do to the fields; `nextOf` is the coarse value after the
first loop. -/
structure Laws (nextOf : ℕ → ℕ) : Prop where
  max_le : m.coarseMax ≤ 7
  max_pos : 0 < m.coarseMax
  one_le : 1 ≤ m.fineMax
  fineMax_lt : m.fineMax < 32
  nextOf_le : ∀ c ≤ m.coarseMax, nextOf c ≤ m.coarseMax
  content_max : m.content m.coarseMax m.fineMax = m.fineMask ||| m.coarseMask
  coarse_mask : amlCalCtrl m.coarseMask &&& (m.fineMask ||| m.coarseMask) = amlCalCtrl m.coarseMask
  loop_mask : m.loopKeep &&& 0xFF &&& (m.fineMask ||| m.coarseMask) = m.loopKeep &&& 0xFF
  step_mask : m.stepKeep &&& 0xFF &&& (m.fineMask ||| m.coarseMask) = m.stepKeep &&& 0xFF
  init_fine : amlCalCtrl m.fineMask = m.fineMask
  init_coarse : amlCalCtrl m.coarseMask = m.coarseMask
  coarse_content : ∀ c ≤ m.coarseMax, ∀ f ≤ m.fineMax,
    m.coarseOf (m.content c f) = UInt32.ofNat c
  loop_content : ∀ c < m.coarseMax,
    m.loopWrite (m.content (c + 1) m.fineMax) = m.content c m.fineMax
  step_content : ∀ c ≤ m.coarseMax, c ≠ 0 →
    m.stepWrite (m.content c m.fineMax) = m.content (nextOf c) m.fineMax
  give_up : (if m.content 0 m.fineMax != 0 && m.fineMask != 0 then 1 else 0) = m.content 0 1
  fine_start : ∀ c ≤ m.coarseMax, ∀ f ≤ m.fineMax,
    m.content c f ||| m.fineMask = m.content c m.fineMax
  fine_content : ∀ c ≤ m.coarseMax, ∀ f < m.fineMax,
    m.fineWrite (m.content c (f + 1)) = m.content c f
  fine_frame : ∀ c ≤ m.coarseMax, ∀ f ≤ m.fineMax, m.content c f &&& ~~~m.fineMask = m.content c 0

end Fields

lemma hp_laws : Laws hpMode (fun c => (c + 1) % 8) := by
  constructor <;> decide +kernel

lemma lp_laws : Laws lpMode (fun _ => 1) := by
  constructor <;> decide +kernel

section Goal

variable (m : AmpMode) (ok : OkFlag) (s : DcxRegs)

/-- CTRL5 where the coarse phase reads the flag for a value. At the maximum the bits outside the
two fields are still those from before. -/
def coarseContent (v : ℕ) : UInt32 :=
  if v = m.coarseMax then s.ctrl5 ||| m.fineMask ||| m.coarseMask else m.content v m.fineMax

def coarseOk (v : ℕ) : Bool :=
  ok ((s.ctrl4 ||| amlCtrl m.coarseLevel) &&& ~~~amlCalOkFlag) (m.coarseContent s v)

/-- The first non-zero value, down from the maximum, that reads OK; 0 if there is none. -/
def firstOk : ℕ := Nat.findGreatest (fun v => m.coarseOk ok s v = true) m.coarseMax

def coarseGoal : ℕ := if m.firstOk ok s = 0 then 0 else min (m.firstOk ok s + 1) m.coarseMax

/-- For each coarse value some fine value reads OK in the fine phase. -/
def FineReads : Prop :=
  ∀ c ≤ m.coarseMax, ∃ f ≤ m.fineMax,
    ok ((s.ctrl4 &&& ~~~amlCtrl 0xF ||| amlCtrl m.fineLevel) &&& ~~~amlCalOkFlag)
      (m.content c f) = true

/-- The calibration `cali` ends, with the field at the goal after the coarse phase, nothing but the
fine field changed by the fine phase, and the enable bit clear. -/
def CaliRight (cali : ℕ → Option (DcxRegs × UInt32)) : Prop :=
  ∀ fuel, 32 ≤ fuel → ∃ mid r, m.coarsePhase ok s fuel = some mid ∧ cali fuel = some r ∧
    (m.coarse mid).toNat = m.coarseGoal ok s ∧
    r.1.ctrl5 &&& ~~~m.fineMask = mid.ctrl5 &&& ~~~m.fineMask ∧
    r.1.ctrl3 &&& amlCalEn = 0

end Goal

section Coarse

variable {m : AmpMode} {nextOf : ℕ → ℕ} (ok : OkFlag) (s : DcxRegs)

def setCtrl5 (r : DcxRegs) (x : UInt32) : DcxRegs := { r with ctrl5 := x }

/-- The registers where the coarse phase reads the flag for a value. -/
def coarseStage (m : AmpMode) (ok : OkFlag) (s : DcxRegs) (v : ℕ) : DcxRegs :=
  setCtrl5 (m.ampInit ok s) (m.coarseContent s v)

lemma isOk_coarseStage (v : ℕ) : isOk ok (m.coarseStage ok s v) = m.coarseOk ok s v := by
  rw [isOk, coarseOk, coarseStage, setCtrl5, ampInit, or_and_mask, readCtrl4_rest, or_and_mask]

/-- The coarse field after the first loop has stopped at `v`. -/
def coarseResult (nextOf : ℕ → ℕ) (v : ℕ) : ℕ := if v = 0 then 0 else nextOf v

lemma firstOk_le : m.firstOk ok s ≤ m.coarseMax := Nat.findGreatest_le _

lemma coarseEnd_eq {t : DcxRegs}
    (h : (if okFlag ok s != 0 && m.coarse s != 0 then setCtrl5 s (m.stepWrite s.ctrl5)
      else s) = t) :
    m.coarseEnd ok s =
      if okFlag ok t == 0 && m.coarse t == 0 then
        setCtrl5 t (if t.ctrl5 != 0 && m.fineMask != 0 then 1 else 0)
      else t := by
  subst h
  rfl

namespace Laws

lemma ampInit_eq (laws : m.Laws nextOf) : m.ampInit ok s = m.coarseStage ok s m.coarseMax := by
  rw [coarseStage, coarseContent, if_pos rfl, ← laws.init_fine, ← laws.init_coarse]
  rfl

/-- Two contents of CTRL5 that agree on the two fields are treated alike. -/
lemma write_congr (laws : m.Laws nextOf) {x y : UInt32}
    (h : x &&& (m.fineMask ||| m.coarseMask) = y &&& (m.fineMask ||| m.coarseMask)) :
    m.coarseOf x = m.coarseOf y ∧ m.loopWrite x = m.loopWrite y ∧
      m.stepWrite x = m.stepWrite y := by
  have hkeep : ∀ z k w : UInt32,
      amlCalCtrl (z &&& k ||| w) = z &&& (k &&& 0xFF) ||| w &&& 0xFF := by
    intro z k w
    rw [amlCalCtrl, or_and_mask, UInt32.and_assoc]
  have hcoarse : m.coarseOf x = m.coarseOf y := by
    rw [coarseOf, coarseOf, mask_mono laws.coarse_mask h]
  refine ⟨hcoarse, ?_, ?_⟩
  · rw [loopWrite, loopWrite, hkeep, hkeep, hcoarse, mask_mono laws.loop_mask h]
  · rw [stepWrite, stepWrite, hkeep, hkeep, hcoarse, mask_mono laws.step_mask h]

lemma coarseContent_and (laws : m.Laws nextOf) (v : ℕ) :
    m.coarseContent s v &&& (m.fineMask ||| m.coarseMask) =
      m.content v m.fineMax &&& (m.fineMask ||| m.coarseMask) := by
  rw [coarseContent]
  split_ifs with h
  · rw [h, laws.content_max, UInt32.or_assoc, or_and_mask, UInt32.and_self, and_mask_or]
  · rfl

lemma coarse_coarseStage (laws : m.Laws nextOf) {v : ℕ} (hv : v ≤ m.coarseMax) :
    m.coarse (m.coarseStage ok s v) = UInt32.ofNat v := by
  rw [← laws.coarse_content v hv m.fineMax le_rfl]
  exact (laws.write_congr (laws.coarseContent_and s v)).1

lemma coarseBody_coarseStage (laws : m.Laws nextOf) {v : ℕ} (hv : v < m.coarseMax) :
    m.coarseBody (m.coarseStage ok s (v + 1)) = m.coarseStage ok s v := by
  have hwrite : m.loopWrite (m.coarseContent s (v + 1)) = m.coarseContent s v := by
    rw [(laws.write_congr (laws.coarseContent_and s (v + 1))).2.1, laws.loop_content v hv,
      coarseContent, if_neg hv.ne]
  rw [coarseStage.eq_1 m ok s v, ← hwrite]
  rfl

lemma ofNat_beq_zero (laws : m.Laws nextOf) {v : ℕ} (hv : v ≤ m.coarseMax) :
    (UInt32.ofNat v == 0) = decide (v = 0) := by
  have hall : ∀ v ≤ 7, (UInt32.ofNat v == 0) = decide (v = 0) := by decide
  exact hall v (hv.trans laws.max_le)

lemma coarseGo_coarseStage (laws : m.Laws nextOf) {v : ℕ} (hv : v ≤ m.coarseMax) :
    m.coarseGo ok (m.coarseStage ok s v) = !(m.coarseOk ok s v || decide (v = 0)) := by
  rw [coarseGo, okFlag_ne_zero, okFlag_beq_zero, isOk_coarseStage,
    laws.coarse_coarseStage ok s hv, laws.ofNat_beq_zero hv]
  cases m.coarseOk ok s v <;> simp

lemma coarseLoop (laws : m.Laws nextOf) {fuel : ℕ} (hfuel : m.coarseMax < fuel) :
    Countdown.whileLoop (m.coarseGo ok) m.coarseBody fuel (m.ampInit ok s) =
      some (m.coarseStage ok s (m.firstOk ok s)) := by
  have hgo : ∀ v ≤ m.coarseMax, m.coarseGo ok (m.coarseStage ok s v) = false ↔
      m.coarseOk ok s v = true ∨ v = 0 := by
    intro v hv
    rw [laws.coarseGo_coarseStage ok s hv, Bool.not_eq_false', Bool.or_eq_true, decide_eq_true_eq]
  rw [laws.ampInit_eq, firstOk, ← Countdown.findGreatest_or_zero]
  apply Countdown.whileLoop_countdown _ hgo ⟨0, Nat.zero_le _, Or.inr rfl⟩ hfuel
  intro v hv
  exact laws.coarseBody_coarseStage ok s hv

lemma coarse_setCtrl5 (laws : m.Laws nextOf) (r : DcxRegs) {c f : ℕ} (hc : c ≤ m.coarseMax)
    (hf : f ≤ m.fineMax) : m.coarse (setCtrl5 r (m.content c f)) = UInt32.ofNat c :=
  laws.coarse_content c hc f hf

lemma coarseResult_le (laws : m.Laws nextOf) {v : ℕ} (hv : v ≤ m.coarseMax) :
    coarseResult nextOf v ≤ m.coarseMax := by
  unfold coarseResult
  split_ifs
  · exact Nat.zero_le _
  · exact laws.nextOf_le v hv

/-- The write after an OK reading; without one the field is 0 already. -/
lemma step_firstOk (laws : m.Laws nextOf) :
    (if okFlag ok (m.coarseStage ok s (m.firstOk ok s)) != 0 &&
        m.coarse (m.coarseStage ok s (m.firstOk ok s)) != 0 then
      setCtrl5 (m.ampInit ok s) (m.stepWrite (m.coarseContent s (m.firstOk ok s)))
    else m.coarseStage ok s (m.firstOk ok s)) =
      setCtrl5 (m.ampInit ok s)
        (m.content (coarseResult nextOf (m.firstOk ok s)) m.fineMax) := by
  have hv : m.firstOk ok s ≤ m.coarseMax := firstOk_le ok s
  have hread : m.firstOk ok s ≠ 0 → m.coarseOk ok s (m.firstOk ok s) = true :=
    fun h => Nat.findGreatest_of_ne_zero rfl h
  generalize m.firstOk ok s = v at hv hread
  rw [okFlag_ne_zero, isOk_coarseStage, laws.coarse_coarseStage ok s hv, bne,
    laws.ofNat_beq_zero hv, coarseResult]
  by_cases h0 : v = 0
  · have hcontent : m.coarseContent s v = m.content 0 m.fineMax := by
      rw [coarseContent, h0, if_neg laws.max_pos.ne]
    rw [if_pos h0, decide_eq_true h0, coarseStage, hcontent]
    simp
  · have hstep : m.stepWrite (m.coarseContent s v) = m.content (nextOf v) m.fineMax := by
      rw [(laws.write_congr (laws.coarseContent_and s v)).2.2, laws.step_content v hv h0]
    rw [hread h0, if_neg h0, decide_eq_false h0, hstep]
    rfl

/-- What is written where the field is 0 and reads no OK leaves the field at 0. -/
lemma giveUp (laws : m.Laws nextOf) (r : DcxRegs) {c : ℕ} (hc : c ≤ m.coarseMax) :
    ∃ f ≤ m.fineMax,
      (if okFlag ok (setCtrl5 r (m.content c m.fineMax)) == 0 &&
          m.coarse (setCtrl5 r (m.content c m.fineMax)) == 0 then
        setCtrl5 r (if m.content c m.fineMax != 0 && m.fineMask != 0 then 1 else 0)
      else setCtrl5 r (m.content c m.fineMax)) = setCtrl5 r (m.content c f) := by
  rw [laws.coarse_setCtrl5 r hc le_rfl, laws.ofNat_beq_zero hc]
  by_cases h : (okFlag ok (setCtrl5 r (m.content c m.fineMax)) == 0 && decide (c = 0)) = true
  · have h0 : c = 0 := of_decide_eq_true (Bool.and_eq_true_iff.mp h).2
    rw [if_pos h, h0, laws.give_up]
    exact ⟨1, laws.one_le, rfl⟩
  · rw [if_neg h]
    exact ⟨m.fineMax, le_rfl, rfl⟩

lemma coarsePhase_eq (laws : m.Laws nextOf) {fuel : ℕ} (hfuel : m.coarseMax < fuel) :
    ∃ f ≤ m.fineMax, m.coarsePhase ok s fuel = some
      (setCtrl5 (m.ampInit ok s) (m.content (coarseResult nextOf (m.firstOk ok s)) f)) := by
  have hc := laws.coarseResult_le (firstOk_le (m := m) ok s)
  obtain ⟨f, hf, hgive⟩ := laws.giveUp ok (m.ampInit ok s) hc
  refine ⟨f, hf, ?_⟩
  rw [coarsePhase, laws.coarseLoop ok s hfuel, Option.map_some,
    coarseEnd_eq ok _ (laws.step_firstOk ok s), ← hgive]
  rfl

end Laws

end Coarse

section Fine

variable {m : AmpMode} {nextOf : ℕ → ℕ} {ok : OkFlag} {s : DcxRegs}

namespace Laws

lemma fineStart_ctrl4 (m : AmpMode) (x : UInt32) :
    (m.fineStart ok (setCtrl5 (m.ampInit ok s) x)).ctrl4 &&& ~~~amlCalOkFlag =
      (s.ctrl4 &&& ~~~amlCtrl 0xF ||| amlCtrl m.fineLevel) &&& ~~~amlCalOkFlag := by
  have hinit : (setCtrl5 (m.ampInit ok s) x).ctrl4 &&& ~~~amlCalOkFlag =
      s.ctrl4 &&& ~~~amlCalOkFlag ||| amlCtrl m.coarseLevel &&& ~~~amlCalOkFlag := by
    rw [setCtrl5, ampInit, or_and_mask, readCtrl4_rest]
  have hlevel : amlCtrl m.coarseLevel &&& ~~~amlCalOkFlag &&& ~~~amlCtrl 0xF = 0 := by
    rw [mask_right_comm, amlCtrl_and, UInt32.zero_and]
  rw [fineStart, or_and_mask, mask_right_comm, readCtrl4_rest, hinit, or_and_mask, hlevel,
    UInt32.or_zero, or_and_mask, mask_right_comm s.ctrl4]

lemma isOk_fineStart (m : AmpMode) (x y : UInt32) :
    isOk ok (setCtrl5 (m.fineStart ok (setCtrl5 (m.ampInit ok s) x)) y) =
      ok ((s.ctrl4 &&& ~~~amlCtrl 0xF ||| amlCtrl m.fineLevel) &&& ~~~amlCalOkFlag) y := by
  rw [← fineStart_ctrl4 m x]
  rfl

lemma finePhase_eq (laws : m.Laws nextOf) (hreads : m.FineReads ok s) {c f fuel : ℕ}
    (hc : c ≤ m.coarseMax) (hf : f ≤ m.fineMax) (hfuel : m.fineMax < fuel) :
    ∃ k ≤ m.fineMax, m.finePhase ok (setCtrl5 (m.ampInit ok s) (m.content c f)) fuel =
      some (setCtrl5 (m.fineStart ok (setCtrl5 (m.ampInit ok s) (m.content c f)))
        (m.content c k)) := by
  set r := m.fineStart ok (setCtrl5 (m.ampInit ok s) (m.content c f)) with hr
  have hstart : r = setCtrl5 r (m.content c m.fineMax) := by
    rw [← laws.fine_start c hc f hf]
    rfl
  have hbody : ∀ k < m.fineMax,
      m.fineBody (setCtrl5 r (m.content c (k + 1))) = setCtrl5 r (m.content c k) := by
    intro k hk
    rw [← laws.fine_content c hc k hk]
    rfl
  have hgo : ∀ k ≤ m.fineMax, fineGo ok (setCtrl5 r (m.content c k)) = false ↔
      ok ((s.ctrl4 &&& ~~~amlCtrl 0xF ||| amlCtrl m.fineLevel) &&& ~~~amlCalOkFlag)
        (m.content c k) = true := by
    intro k _
    rw [fineGo_eq, hr, isOk_fineStart, Bool.not_eq_false']
  have hloop := Countdown.whileLoop_countdown hbody hgo (hreads c hc) hfuel
  rw [← hstart] at hloop
  exact ⟨_, Nat.findGreatest_le _, hloop⟩

/-- Both phases end, and only the coarse field may be wrong. -/
theorem ampCali_ends (laws : m.Laws nextOf) (hreads : m.FineReads ok s) {fuel : ℕ}
    (hfuel : 32 ≤ fuel) :
    ∃ mid r, m.coarsePhase ok s fuel = some mid ∧ m.ampCali ok s fuel = some r ∧
      (m.coarse mid).toNat = coarseResult nextOf (m.firstOk ok s) ∧
      r.ctrl5 &&& ~~~m.fineMask = mid.ctrl5 &&& ~~~m.fineMask ∧ r.ctrl3 &&& amlCalEn = 0 := by
  have hmax := laws.max_le
  have hfine := laws.fineMax_lt
  have hc := laws.coarseResult_le (firstOk_le (m := m) ok s)
  obtain ⟨f, hf, hcoarse⟩ := laws.coarsePhase_eq ok s (show m.coarseMax < fuel by omega)
  obtain ⟨k, hk, hphase⟩ := laws.finePhase_eq hreads hc hf (show m.fineMax < fuel by omega)
  have hcali : ∃ r, m.ampCali ok s fuel = some r ∧
      r.ctrl5 = m.content (coarseResult nextOf (m.firstOk ok s)) k ∧
      r.ctrl3 = (s.ctrl3 ||| amlCalEn) &&& ~~~amlCalEn := by
    rw [ampCali, hcoarse, Option.bind_eq_bind, Option.bind_some, hphase]
    exact ⟨_, rfl, rfl, rfl⟩
  obtain ⟨r, hr, hctrl5, hctrl3⟩ := hcali
  refine ⟨_, r, hcoarse, hr, ?_, ?_, ?_⟩
  · rw [laws.coarse_setCtrl5 _ hc hf, UInt32.toNat_ofNat', Nat.mod_eq_of_lt (by omega)]
  · rw [hctrl5, laws.fine_frame _ hc k hk]
    exact (laws.fine_frame _ hc f hf).symm
  · rw [hctrl3, UInt32.and_assoc, UInt32.not_and_self, UInt32.and_zero]

end Laws

end Fine

section Modes

variable {m : AmpMode} {nextOf : ℕ → ℕ} {ok : OkFlag} {s : DcxRegs}

/-- Where `cali` does what `ampCali` does to CTRL5 and CTRL3, it is right when the coarse field ends
at the goal. -/
lemma Laws.caliRight_iff (laws : m.Laws nextOf) (hreads : m.FineReads ok s)
    {cali : ℕ → Option (DcxRegs × UInt32)}
    (hcali : ∀ fuel r, m.ampCali ok s fuel = some r →
      ∃ r', cali fuel = some r' ∧ r'.1.ctrl5 = r.ctrl5 ∧ r'.1.ctrl3 = r.ctrl3) :
    m.CaliRight ok s cali ↔ coarseResult nextOf (m.firstOk ok s) = m.coarseGoal ok s := by
  constructor
  · intro h
    obtain ⟨mid, r, hmid, -, hgoal, -⟩ := h 32 le_rfl
    obtain ⟨mid', _, hmid', -, hresult, -⟩ := laws.ampCali_ends hreads le_rfl
    obtain rfl : mid = mid' := Option.some.inj (hmid.symm.trans hmid')
    exact hresult.symm.trans hgoal
  · intro h fuel hfuel
    obtain ⟨mid, r, hmid, hr, hresult, hframe, hclear⟩ := laws.ampCali_ends hreads hfuel
    obtain ⟨r', hr', hctrl5, hctrl3⟩ := hcali fuel r hr
    refine ⟨mid, r', hmid, hr', hresult.trans h, ?_, ?_⟩
    · rw [hctrl5, hframe]
    · rw [hctrl3, hclear]

/-- The search for high power loses the maximum: one more than it wraps to 0. -/
lemma hp_caliRight_iff (hreads : hpMode.FineReads ok s) :
    hpMode.CaliRight ok s (fun fuel => hpAmpCali ok fuel s) ↔ hpMode.coarseOk ok s 7 = false := by
  have hcali : ∀ fuel r, hpMode.ampCali ok s fuel = some r →
      ∃ r', hpAmpCali ok fuel s = some r' ∧ r'.1.ctrl5 = r.ctrl5 ∧ r'.1.ctrl3 = r.ctrl3 := by
    intro fuel r hr
    rw [hpAmpCali, hr]
    exact ⟨_, rfl, rfl, rfl⟩
  have hmax : hpMode.coarseMax = 7 := by decide
  have hle : hpMode.firstOk ok s ≤ 7 := hmax ▸ firstOk_le ok s
  have hseven : hpMode.firstOk ok s = 7 ↔ hpMode.coarseOk ok s 7 = true := by
    constructor
    · intro h
      exact Nat.findGreatest_of_ne_zero h (by decide)
    · intro h
      rw [firstOk, hmax]
      exact Nat.findGreatest_eq h
  rw [hp_laws.caliRight_iff hreads hcali, coarseResult, coarseGoal, hmax, ← Bool.not_eq_true,
    ← hseven]
  split_ifs with h0 <;> omega

/-- The search for low power goes on with 1 from any value that reads OK. -/
lemma lp_caliRight_iff (hreads : lpMode.FineReads ok s) :
    lpMode.CaliRight ok { s with ctrl10 := 0 } (fun fuel => lpAmpCali ok fuel s) ↔
      ∀ v ≤ 3, 0 < v → lpMode.coarseOk ok s v = false := by
  have hcali : ∀ fuel r, lpMode.ampCali ok { s with ctrl10 := 0 } fuel = some r →
      ∃ r', lpAmpCali ok fuel s = some r' ∧ r'.1.ctrl5 = r.ctrl5 ∧ r'.1.ctrl3 = r.ctrl3 := by
    intro fuel r hr
    rw [lpAmpCali, hr]
    exact ⟨_, rfl, rfl, rfl⟩
  have hmax : lpMode.coarseMax = 3 := by decide
  have hle : lpMode.firstOk ok s ≤ 3 := hmax ▸ firstOk_le ok s
  have hzero : lpMode.firstOk ok s = 0 ↔ ∀ v ≤ 3, 0 < v → lpMode.coarseOk ok s v = false := by
    rw [firstOk, hmax, Nat.findGreatest_eq_zero_iff]
    simp only [Bool.not_eq_true]
    exact forall_congr' fun v => forall_comm
  have hfirst : lpMode.firstOk ok { s with ctrl10 := 0 } = lpMode.firstOk ok s := rfl
  have hreads' : lpMode.FineReads ok { s with ctrl10 := 0 } := hreads
  rw [lp_laws.caliRight_iff hreads' hcali, coarseResult, coarseGoal, hmax, hfirst, ← hzero]
  split_ifs with h0 <;> omega

end Modes

end AmpMode

/-- With a fine value that reads OK for each coarse value, the calibration for high power is right
exactly when the flag does not read OK at coarse value 7, and the one for low power exactly when the
flag reads OK at none of 3, 2 and 1. -/
theorem amp_cali_right_iff (ok : OkFlag) (s : DcxRegs) :
    (hpMode.FineReads ok s →
      (hpMode.CaliRight ok s (fun fuel => hpAmpCali ok fuel s) ↔
        hpMode.coarseOk ok s 7 = false)) ∧
    (lpMode.FineReads ok s →
      (lpMode.CaliRight ok { s with ctrl10 := 0 } (fun fuel => lpAmpCali ok fuel s) ↔
        ∀ v ≤ 3, 0 < v → lpMode.coarseOk ok s v = false)) :=
  ⟨AmpMode.hp_caliRight_iff, AmpMode.lp_caliRight_iff⟩

/-- OK throughout the fine phases, and at 2 in the coarse phase for high power. -/
def okAtTwo : OkFlag := fun ctrl4 ctrl5 =>
  ctrl4 == 0x60 || ctrl4 == 0x10 || ctrl4 == 0x70 && ctrl5 &&& 0xE0 == 0x40

theorem amp_cali_right_at_two :
    hpMode.CaliRight okAtTwo ⟨0, 0, 0, 0, 0, 0⟩
      (fun fuel => hpAmpCali okAtTwo fuel ⟨0, 0, 0, 0, 0, 0⟩) ∧
    lpMode.CaliRight okAtTwo ⟨0, 0, 0, 0, 0, 0⟩
      (fun fuel => lpAmpCali okAtTwo fuel ⟨0, 0, 0, 0, 0, 0⟩) := by
  have hiff := amp_cali_right_iff okAtTwo ⟨0, 0, 0, 0, 0, 0⟩
  have hhp : hpMode.FineReads okAtTwo ⟨0, 0, 0, 0, 0, 0⟩ := fun _ _ => ⟨0, Nat.zero_le _, rfl⟩
  have hlp : lpMode.FineReads okAtTwo ⟨0, 0, 0, 0, 0, 0⟩ := fun _ _ => ⟨0, Nat.zero_le _, rfl⟩
  exact ⟨(hiff.1 hhp).mpr (by decide), (hiff.2 hlp).mpr (by decide)⟩

/-- Where the flag always reads OK, both calibrations are wrong. -/
theorem amp_cali_always_ok :
    hpMode.FineReads (fun _ _ => true) ⟨0, 0, 0, 0, 0, 0⟩ ∧
    lpMode.FineReads (fun _ _ => true) ⟨0, 0, 0, 0, 0, 0⟩ ∧
    ¬hpMode.CaliRight (fun _ _ => true) ⟨0, 0, 0, 0, 0, 0⟩
      (fun fuel => hpAmpCali (fun _ _ => true) fuel ⟨0, 0, 0, 0, 0, 0⟩) ∧
    ¬lpMode.CaliRight (fun _ _ => true) ⟨0, 0, 0, 0, 0, 0⟩
      (fun fuel => lpAmpCali (fun _ _ => true) fuel ⟨0, 0, 0, 0, 0, 0⟩) := by
  have hhp : hpMode.FineReads (fun _ _ => true) ⟨0, 0, 0, 0, 0, 0⟩ :=
    fun _ _ => ⟨0, Nat.zero_le _, rfl⟩
  have hlp : lpMode.FineReads (fun _ _ => true) ⟨0, 0, 0, 0, 0, 0⟩ :=
    fun _ _ => ⟨0, Nat.zero_le _, rfl⟩
  refine ⟨hhp, hlp, ?_, ?_⟩
  · rw [AmpMode.hp_caliRight_iff hhp]
    decide
  · intro h
    have hthree := (AmpMode.lp_caliRight_iff hlp).mp h 3 le_rfl (by decide)
    exact absurd hthree (by decide)

end EngPc
