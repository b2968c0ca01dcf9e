import EngPc.Lib.Reach
import EngPc.Lib.ScratchCopy
import EngPc.Model.SlpLtm

/-!
# CMS and ABC write one register block

An ABC write sets every member of the block. A CMS write sets four members in the copy of its file
and writes the copy, so it puts the other members back to what they were when CMS read or wrote the
block last.
-/

namespace EngPc
open ScratchCopy

/-- A call of one of the four functions, with the error of its opens and the parameters. -/
inductive SlpCall where
  | cmsParseReg (opened : Option Errno) (cms : CmsSlp)
  | cmsUpdateReg (opened : Option Errno) (cms : CmsSlp)
  | abcParseReg (opened : Option Errno) (abc : AbcSlp)
  | abcUpdateReg (opened : Option Errno) (abc : AbcSlp)

/-- The registers, and the block that ABC wrote last. -/
structure SlpRun where
  regs : SlpRegs
  given : Option SlpLtmCfg

namespace SlpRun

/-- Nothing is written yet, and the driver has the given block. -/
def initial (block : SlpLtmCfg) : SlpRun := ⟨⟨block, .zero, .zero⟩, none⟩

/-- One call, with the module enabled. -/
def next (s : SlpRun) : SlpCall → Option SlpRun
  | .cmsParseReg opened cms => some { s with regs := (EngPc.cmsParseReg opened s.regs cms).2.2 }
  | .cmsUpdateReg opened cms =>
    if cms.enable = 0 then none
    else some { s with regs := (EngPc.cmsUpdateReg opened s.regs cms).regs }
  | .abcParseReg opened abc => some { s with regs := (EngPc.abcParseReg opened s.regs abc).2.2 }
  | .abcUpdateReg opened abc =>
    if abc.enable = 0 then none
    else
      let regs := (EngPc.abcUpdateReg opened s.regs abc).regs
      some ⟨regs, if opened = none then some regs.store else s.given⟩

/-- The block outside the brightness and the three clip members. -/
def rest (block : SlpLtmCfg) : SlpLtmCfg :=
  { block with brightness := 0, limitLclip := 0, limitHclip := 0, limitClipStep := 0 }

/-- A CMS write changes the block in the four members only, and leaves the others as ABC wrote them
last. -/
def Right (s s' : SlpRun) : SlpCall → Prop
  | .cmsUpdateReg _ _ => rest s'.regs.store = rest s.regs.store ∧
    ∀ block ∈ s.given, rest s'.regs.store = rest block
  | _ => True

/-- The copy of the CMS file is as the block of the driver, outside the four members. -/
def Ok (s : SlpRun) : SlpCall → Prop
  | .cmsUpdateReg none _ => rest s.regs.cmsCopy = rest s.regs.store
  | _ => True

instance decidableOk : (s : SlpRun) → (c : SlpCall) → Decidable (s.Ok c)
  | s, .cmsUpdateReg none _ => inferInstanceAs (Decidable (rest s.regs.cmsCopy = rest s.regs.store))
  | _, .cmsUpdateReg (some _) _ => isTrue trivial
  | _, .cmsParseReg _ _ => isTrue trivial
  | _, .abcParseReg _ _ => isTrue trivial
  | _, .abcUpdateReg _ _ => isTrue trivial

/-- What a CMS write sets in the block. -/
def cmsPut (cms : CmsSlp) (block : SlpLtmCfg) : SlpLtmCfg :=
  { block with
    brightness := cms.brightness.toUInt8
    limitLclip := cms.ltm.slpLowClip
    limitHclip := cms.ltm.slpHighClip
    limitClipStep := cms.ltm.slpStepClip }

def cmsPart : Part SlpLtmCfg CmsSlp SlpLtmCfg where
  put := cmsPut
  rest := rest
  rest_put _ _ := rfl

def shared (s : SlpRun) : Shared SlpLtmCfg := ⟨s.regs.store, s.regs.cmsCopy, s.given⟩

def op : SlpCall → Op SlpLtmCfg CmsSlp
  | .cmsParseReg none _ => .refresh
  | .cmsUpdateReg none cms => .write cms
  | .abcUpdateReg none abc => .replace abc.block
  | _ => .idle

variable {s s' : SlpRun} {c : SlpCall}

lemma ok_iff : s.Ok c ↔ ScratchCopy.Ok cmsPart s.shared (op c) := by
  cases c with
  | cmsParseReg opened cms => cases opened <;> exact Iff.rfl
  | cmsUpdateReg opened cms => cases opened <;> exact Iff.rfl
  | abcParseReg opened abc => exact Iff.rfl
  | abcUpdateReg opened abc => cases opened <;> exact Iff.rfl

/-- The four functions do to the block and the copy of the CMS file what their operations say. -/
lemma shared_next (h : s.next c = some s') : s'.shared = s.shared.next cmsPart (op c) := by
  cases c with
  | cmsParseReg opened cms =>
    cases h
    cases opened <;> rfl
  | cmsUpdateReg opened cms =>
    by_cases henable : cms.enable = 0
    · simp [next, henable] at h
    · rw [next, if_neg henable] at h
      cases h
      cases opened with
      | some errno => rfl
      | none =>
        rw [EngPc.cmsUpdateReg, if_pos henable]
        rfl
  | abcParseReg opened abc =>
    cases h
    cases opened <;> rfl
  | abcUpdateReg opened abc =>
    by_cases henable : abc.enable = 0
    · simp [next, henable] at h
    · rw [next, if_neg henable] at h
      cases h
      cases opened with
      | some errno => rfl
      | none =>
        rw [EngPc.abcUpdateReg, if_pos henable]
        rfl

lemma current_of_reachable {block : SlpLtmCfg}
    (h : Reach.Reachable (Reach.guarded next Ok) (initial block) s) : Current cmsPart s.shared := by
  apply h.invariant_guarded (P := fun s => Current cmsPart s.shared)
  · intro block' hblock
    cases hblock
  · intro s c s' hs hok hnext
    rw [shared_next hnext]
    exact current_next hs (ok_iff.mp hok)

end SlpRun

/-- A call is right where, as operations on a part of the block, it keeps the rest. -/
lemma SlpRun.right_iff_kept {s s' : SlpRun} {opened : Option Errno} {cms : CmsSlp} :
    SlpRun.Right s s' (.cmsUpdateReg opened cms) ↔
      Kept SlpRun.cmsPart s.shared s'.shared :=
  Iff.rfl

/-- In a run whose CMS writes so far were made with a fresh copy, a CMS write keeps what is not its
own exactly where it is made with a fresh copy too. -/
theorem slp_call_right_iff (block : SlpLtmCfg) {s s' : SlpRun} {c : SlpCall}
    (h : Reach.Reachable (Reach.guarded SlpRun.next SlpRun.Ok) (SlpRun.initial block) s)
    (hc : s.next c = some s') : SlpRun.Right s s' c ↔ s.Ok c := by
  have hcurrent := SlpRun.current_of_reachable h
  have hshared := SlpRun.shared_next hc
  cases c with
  | cmsParseReg opened cms => exact Iff.rfl
  | abcParseReg opened abc => exact Iff.rfl
  | abcUpdateReg opened abc => exact Iff.rfl
  | cmsUpdateReg opened cms =>
    rw [SlpRun.right_iff_kept, hshared]
    cases opened with
    | some errno => exact iff_of_true ⟨rfl, hcurrent⟩ trivial
    | none => exact kept_write_iff hcurrent cms

/-- ABC parameters that are 0 but for the brightness step. -/
def stepSeven : AbcSlp where
  enable := 1
  slpCfg := ⟨0, 7, 0, .replicate 5 0, 0, 0, .replicate 4 0⟩
  slpbasecfg := ⟨0, 0, .replicate 9 0, .replicate 3 0, .replicate 3 0, 0, 0, 0⟩
  ltmCfg := ⟨0, 0, 0⟩

def clips : CmsSlp := ⟨1, 0, ⟨1, 2, 3⟩⟩

theorem slp_call_right_after_parse :
    SlpRun.Right ⟨⟨stepSeven.block, stepSeven.block, stepSeven.block⟩, some stepSeven.block⟩
      ⟨⟨SlpRun.cmsPut clips stepSeven.block, SlpRun.cmsPut clips stepSeven.block,
        stepSeven.block⟩, some stepSeven.block⟩ (.cmsUpdateReg none clips) := by
  have hrun : Reach.replay (Reach.guarded SlpRun.next SlpRun.Ok) (SlpRun.initial .zero)
      [.abcUpdateReg none stepSeven, .cmsParseReg none clips] =
        some ⟨⟨stepSeven.block, stepSeven.block, stepSeven.block⟩, some stepSeven.block⟩ := rfl
  exact (slp_call_right_iff .zero (Reach.reachable_of_replay hrun) rfl).mpr rfl

/-- ABC writes a brightness step of 7, and a CMS write makes it 0 again. -/
theorem slp_stale_copy :
    ∃ s s', Reach.Reachable SlpRun.next (SlpRun.initial .zero) s ∧
      s.next (.cmsUpdateReg none clips) = some s' ∧ s.regs.store.brightnessStep = 7 ∧
      s'.regs.store.brightnessStep = 0 ∧ ¬SlpRun.Right s s' (.cmsUpdateReg none clips) := by
  have hrun : Reach.replay SlpRun.next (SlpRun.initial .zero) [.abcUpdateReg none stepSeven] =
      some ⟨⟨stepSeven.block, .zero, stepSeven.block⟩, some stepSeven.block⟩ := rfl
  refine ⟨_, _, Reach.reachable_of_replay hrun, rfl, rfl, rfl, fun h => ?_⟩
  have hstep := congrArg SlpLtmCfg.brightnessStep h.1
  exact absurd hstep (by decide)

end EngPc
