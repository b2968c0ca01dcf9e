import EngPc.Lib.Machine
import EngPc.Proofs.LogCall
import EngPc.Proofs.PortEnable

/-!
# Ports and the stored destination

The branches for PC and T-card set the ports as they set the destination; the branch for no log
leaves the ports alone, so it must not be taken from PC. COM_AT is the port that `CDev::find` gives
under this name.
-/

namespace EngPc
open CString

variable {π : Type}

lemma devName_ne {type type' : LogType} (h : type ≠ type') (name : List UInt8) :
    ¬(strcaseeq name type.devName ∧ strcaseeq name type'.devName) := by
  have hne : ¬strcaseeq LogType.modem.devName LogType.wcn.devName := by decide
  rintro ⟨hname, hname'⟩
  have heq : strcaseeq type.devName type'.devName := hname.symm.trans hname'
  cases type with
  | modem =>
    cases type' with
    | modem => exact h rfl
    | wcn => exact hne heq
  | wcn =>
    cases type' with
    | modem => exact hne heq.symm
    | wcn => exact h rfl

/-- Two devices that are found under different names share no port. -/
lemma CDevMgr.ports_disjoint (mgr : CDevMgr π) {type type' : LogType} (hne : type ≠ type')
    {dev dev' : CDev π} (hdev : devFind mgr.devList type.devName = some dev)
    (hdev' : devFind mgr.devList type'.devName = some dev') {port : π}
    (hport : port ∈ dev.activePorts) : port ∉ dev'.activePorts := by
  intro hport'
  have hname : strcaseeq dev.devName type.devName := by simpa using List.find?_some hdev
  have hname' : strcaseeq dev'.devName type'.devName := by simpa using List.find?_some hdev'
  have hdiff : dev ≠ dev' := fun heq => devName_ne hne dev.devName ⟨hname, heq ▸ hname'⟩
  exact hdiff (mgr.dev_unique (List.mem_of_find?_eq_some hdev) (List.mem_of_find?_eq_some hdev')
    (CDev.activePorts_subset dev hport) (CDev.activePorts_subset dev' hport'))

variable [DecidableEq π]

/-- The ports of both devices, COM_AT apart, are enabled when the destination is PC, and else
disabled. -/
def PortsFollow (a : Adapter) (mgr : CDevMgr π) (s : LogState π) : Prop :=
  ∀ type dev, devFind mgr.devList (LogType.devName type) = some dev → ∀ port ∈ dev.activePorts,
    dev.find devModemAtName ≠ some port →
      s.flags port =
        ⟨sysGetlogdest a s type = logLocationPc, sysGetlogdest a s type = logLocationPc⟩

/-- The destination that is not followed when it comes after PC: the branch for no log leaves the
ports as they are; an adapter without a store leaves the destination. -/
def lostFromPc : Adapter → UInt8
  | .android => logLocationNone
  | .miniap => logLocationTcard

/-- While the destination is PC, slogmodem refuses that one. -/
def LogFine (a : Adapter) (s : LogState π) (c : LogCall) : Prop :=
  ∀ type ∈ LogType.ofChar c.logType, sysGetlogdest a s type = logLocationPc →
    c.location = lostFromPc a → ∀ b ∈ logSwitch type c.location,
      noticeSlogmodem b.cmd c.first ≠ .ok 0

instance (a : Adapter) (s : LogState π) (c : LogCall) : Decidable (LogFine a s c) :=
  inferInstanceAs (Decidable (∀ type ∈ LogType.ofChar c.logType, _))

omit [DecidableEq π] in
lemma LogFine.not_lost {a : Adapter} {s : LogState π} {c : LogCall} {type : LogType}
    {b : LogSwitch} (h : LogFine a s c) (hasks : c.Asks a s type b)
    (htaken : noticeSlogmodem b.cmd c.first = .ok 0)
    (hpc : sysGetlogdest a s type = logLocationPc) : c.location ≠ lostFromPc a :=
  fun hloc => h type hasks.logType hpc hloc b hasks.location htaken

lemma logSwitch_reset {type : LogType} {location : UInt8} {b : LogSwitch}
    (h : logSwitch type location = some b) :
    (location = logLocationPc ∧ b.reset = some true) ∨
      (location = logLocationTcard ∧ b.reset = some false) ∨
      (location = logLocationNone ∧ b.reset = none) := by
  cases type <;>
  · simp only [logSwitch] at h
    split_ifs at h with hpc htcard hnone
    · exact .inl ⟨hpc, by cases h; rfl⟩
    · exact .inr (.inl ⟨htcard, by cases h; rfl⟩)
    · exact .inr (.inr ⟨hnone, by cases h; rfl⟩)

section Apply

variable {a : Adapter} {mgr : CDevMgr π} {s : LogState π} {type : LogType} {b : LogSwitch}
  {location : UInt8}

lemma LogSwitch.apply_reset {enable : Bool} (h : b.reset = some enable) :
    (b.apply a mgr type location s).flags = resetWithDevName mgr type.devName enable s.flags := by
  rw [LogSwitch.apply, h]
  cases a <;> rfl

lemma LogSwitch.apply_keep (h : b.reset = none) :
    (b.apply a mgr type location s).flags = s.flags := by
  rw [LogSwitch.apply, h]
  cases a <;> rfl

lemma LogSwitch.apply_logdest (type' : LogType) :
    sysGetlogdest a (b.apply a mgr type location s) type' =
      if a = .android ∧ type' = type then location else sysGetlogdest a s type' := by
  have hkeep : ∀ enable, (match enable with
      | some enable => { s with flags := resetWithDevName mgr type.devName enable s.flags }
      | none => s : LogState π).logdest = s.logdest := by
    intro enable
    cases enable <;> rfl
  cases a with
  | android =>
    have hset : sysGetlogdest .android (b.apply .android mgr type location s) type' =
        Function.update s.logdest type location type' := by
      rw [← hkeep b.reset]
      rfl
    rw [hset]
    by_cases htype : type' = type
    · rw [htype, Function.update_self, if_pos ⟨rfl, rfl⟩]
    · rw [Function.update_of_ne htype, if_neg fun hbad => htype hbad.2]
      rfl
  | miniap => rfl

end Apply

/-- A call that is not of the bad kind keeps ports and destination in step. -/
lemma logLocation_follow {a : Adapter} {mgr : CDevMgr π} {s : LogState π} {c : LogCall}
    (h : PortsFollow a mgr s) (hfine : LogFine a s c) :
    PortsFollow a mgr (logLocation a mgr s c).1 := by
  rcases logLocation_state a mgr s c with heq | ⟨type, b, hasks, htaken, heq⟩
  · rw [heq]
    exact h
  · rw [heq]
    intro type' dev hdev port hport hat
    rw [LogSwitch.apply_logdest]
    by_cases htype : type' = type
    · subst htype
      rcases logSwitch_reset hasks.location with ⟨hloc, hreset⟩ | ⟨hloc, hreset⟩ | ⟨hloc, hreset⟩
      · rw [LogSwitch.apply_reset hreset, resetWithDevName_apply true s.flags hdev hport hat, hloc]
        cases a with
        | android =>
          rw [if_pos ⟨rfl, rfl⟩]
          rfl
        | miniap => rfl
      · rw [LogSwitch.apply_reset hreset, resetWithDevName_apply false s.flags hdev hport hat, hloc]
        cases a with
        | android =>
          rw [if_pos ⟨rfl, rfl⟩]
          rfl
        | miniap => exact absurd hloc (hfine.not_lost hasks htaken rfl)
      · rw [LogSwitch.apply_keep hreset, hloc, h type' dev hdev port hport hat]
        cases a with
        | android =>
          have hdest : sysGetlogdest .android s type' ≠ logLocationPc := fun hpc =>
            hfine.not_lost hasks htaken hpc hloc
          have hnone : logLocationNone ≠ logLocationPc := by decide
          simp [hdest, hnone]
        | miniap => rfl
    · rw [if_neg fun hbad => htype hbad.2, ← h type' dev hdev port hport hat]
      cases hreset : b.reset with
      | none => rw [LogSwitch.apply_keep hreset]
      | some enable =>
        rw [LogSwitch.apply_reset hreset]
        apply resetWithDevName_other
        intro dev' hdev'
        exact mgr.ports_disjoint htype hdev hdev' hport

/-- Every port is enabled at first; the set-up of a normal boot mode puts it in step. -/
lemma logSetUp_follow (a : Adapter) (mgr : CDevMgr π) {bootmode : List UInt8}
    (hmode : strcaseeq bootmode bootmodeNormal ∨ strcaseeq bootmode bootmodeNormalLite)
    (logdest : LogType → UInt8) : PortsFollow a mgr (logSetUp a mgr bootmode ⟨.init, logdest⟩) := by
  have hdest : ∀ type, sysGetlogdest a (logSetUp a mgr bootmode ⟨.init, logdest⟩) type =
      sysGetlogdest a ⟨(.init : PortFlags π), logdest⟩ type := by
    intro type
    rw [logSetUp, if_pos hmode]
    cases a <;> rfl
  intro type dev hdev port hport hat
  rw [hdest, logSetUp, if_pos hmode]
  dsimp only
  cases type with
  | modem =>
    have hwcn : ∀ enable flags, resetWithDevName mgr LogType.wcn.devName enable flags port =
        flags port := by
      intro enable flags
      apply resetWithDevName_other
      intro dev' hdev'
      exact mgr.ports_disjoint (by decide) hdev hdev' hport
    rw [apply_ite (fun flags : PortFlags π => flags port), hwcn, hwcn, ite_self]
    by_cases hpc : sysGetlogdest a ⟨(.init : PortFlags π), logdest⟩ .modem = logLocationPc
    · rw [if_neg (not_not_intro hpc)]
      simp [hpc, PortFlags.init]
    · rw [if_pos hpc, resetWithDevName_apply false .init hdev hport hat]
      simp [hpc]
  | wcn =>
    by_cases hpc : sysGetlogdest a ⟨(.init : PortFlags π), logdest⟩ .wcn = logLocationPc
    · rw [if_pos hpc, resetWithDevName_apply true _ hdev hport hat]
      simp [hpc]
    · rw [if_neg hpc, resetWithDevName_apply false _ hdev hport hat]
      simp [hpc]

/-- One call as a step. A restart sets the ports up again, by the destinations that it finds. -/
def logStep (a : Adapter) (mgr : CDevMgr π) (bootmode : List UInt8) (s : LogState π)
    (c : LogCall) : Except Empty (LogState π × LogOut) :=
  let r := logLocation a mgr s c
  match r.2.ret with
  | .error .restart => .ok (logSetUp a mgr bootmode ⟨.init, r.1.logdest⟩, r.2)
  | _ => .ok r

/-- After the set-up and any calls that do not take the bad destination from PC, the ports follow
the stored destination. -/
theorem log_ports_follow (a : Adapter) (mgr : CDevMgr π) (bootmode : List UInt8)
    (hmode : strcaseeq bootmode bootmodeNormal ∨ strcaseeq bootmode bootmodeNormalLite)
    (logdest : LogType → UInt8) (l : List LogCall)
    (h : Machine.Guarded (logStep a mgr bootmode) (LogFine a)
      (logSetUp a mgr bootmode ⟨.init, logdest⟩) l) :
    PortsFollow a mgr (logSetUp a mgr bootmode ⟨.init, logdest⟩) ∧
      Machine.Meets (logStep a mgr bootmode) (fun _ _ r => PortsFollow a mgr r.1)
        (logSetUp a mgr bootmode ⟨.init, logdest⟩) l := by
  have hinit := logSetUp_follow a mgr hmode
  refine ⟨hinit logdest, Machine.meets_of_guarded (PortsFollow a mgr) ?_ _ l (hinit logdest) h⟩
  intro s c hinv hok
  have hfollow := logLocation_follow hinv hok
  unfold logStep
  dsimp only
  split
  · exact ⟨_, rfl, hinit _, hinit _⟩
  · exact ⟨_, rfl, hfollow, hfollow⟩

section Example

/-- A modem with three ports and a WCN with one. -/
def cpAndWcn : CDevMgr Nat where
  devList := [
    ⟨ofString "cp", ofString "normal",
      [⟨ofString "normal",
        [(ofString "COM_DIAG", 0), (ofString "COM_LOG", 1), (ofString "COM_AT", 2)]⟩]⟩,
    ⟨ofString "wcn", ofString "normal", [⟨ofString "normal", [(ofString "COM_WCN_DIAG", 3)]⟩]⟩]
  ports_nodup := by decide

/-- slogmodem takes a command of this length. -/
def slogOk (length : Nat) : SlogExchange := ⟨true, true, some length, 1, true, some (ofString "OK\n")⟩

/-- A request for the modem log, whose commands have these lengths. -/
def modemLog (location : UInt8) (length length' : Nat) : LogCall :=
  ⟨0x31, location, 0, slogOk length, slogOk length', []⟩

end Example

/-- From PC to T-card, to no log and back to PC. -/
theorem log_ports_follow_round :
    let s := logSetUp .android cpAndWcn bootmodeNormal ⟨.init, fun _ => logLocationPc⟩
    PortsFollow .android cpAndWcn s ∧
      Machine.Meets (logStep .android cpAndWcn bootmodeNormal)
        (fun _ _ r => PortsFollow .android cpAndWcn r.1) s
        [modemLog logLocationTcard 17 18, modemLog logLocationNone 18 19,
          modemLog logLocationPc 18 19] :=
  log_ports_follow .android cpAndWcn bootmodeNormal (.inl rfl) _ _ (by decide)

/-- From PC to no log: the ports of the modem stay enabled. -/
theorem log_ports_left_enabled :
    let s := logSetUp .android cpAndWcn bootmodeNormal ⟨.init, fun _ => logLocationPc⟩
    ¬Machine.Meets (logStep .android cpAndWcn bootmodeNormal)
      (fun _ _ r => PortsFollow .android cpAndWcn r.1) s [modemLog logLocationNone 18 19] := by
  rintro s ⟨hfollow, -⟩
  have hport := hfollow .modem _ rfl 0 (by decide) (by decide)
  exact absurd hport (by decide)

end EngPc
