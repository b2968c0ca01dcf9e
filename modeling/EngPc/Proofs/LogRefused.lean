import EngPc.Proofs.LogCall

/-!
# Refused log switches

A request is refused unless slogmodem takes it. Three things go past that: the answer of `poll` stands
for the answer of slogmodem when there is none or a wrong one, a slogmodem that has hung up ends the
server, and the diag port is switched at the end of every call.
-/

namespace EngPc
open CString

variable {π : Type} [DecidableEq π]

/-- slogmodem takes the request. -/
def LogCall.Taken (a : Adapter) (s : LogState π) (c : LogCall) : Prop :=
  ∃ type b, c.Asks a s type b ∧ c.first.SaysOk b.cmd

/-- A call that is not taken returns -1 and has no effect. -/
def RefusedQuietly (a : Adapter) (mgr : CDevMgr π) (s : LogState π) (c : LogCall) : Prop :=
  ¬c.Taken a s → (logLocation a mgr s c).2.ret = .ok (-1) ∧ (logLocation a mgr s c).1 = s ∧
    (logLocation a mgr s c).2.diagSwitch = none

/-- The call is taken; or its diag switch is idle, and no exchange passes for a success or finds
slogmodem gone. -/
def RefusalFine (a : Adapter) (s : LogState π) (c : LogCall) : Prop :=
  c.Taken a s ∨ (c.SwitchIdle ∧
    ∀ type b, c.Asks a s type b → ¬c.first.PassesFor b.cmd ∧ ¬c.first.HangsUp)

/-- **The exact condition for a call that is not taken to have no effect**, for every request, state
and behaviour of slogmodem. -/
theorem refused_quietly_iff (a : Adapter) (mgr : CDevMgr π) (s : LogState π) (c : LogCall) :
    RefusedQuietly a mgr s c ↔ RefusalFine a s c := by
  unfold RefusedQuietly RefusalFine
  by_cases htaken : c.Taken a s
  · exact iff_of_true (fun h => absurd htaken h) (.inl htaken)
  have hnotOk : ∀ type b, c.Asks a s type b → ¬c.first.SaysOk b.cmd :=
    fun type b hasks hok => htaken ⟨type, b, hasks, hok⟩
  rw [or_iff_right htaken, imp_iff_right htaken, ← diagPortSwitch_eq_none_iff]
  have heff := logLocation_effect a mgr s c
  generalize logLocation a mgr s c = r at heff
  cases heff with
  | refused cmds hrefused =>
    dsimp only
    have hreturn : diagPortSwitch c = none → c.leave a (-1) = .ok (-1) := by
      intro hidle
      rw [LogCall.leave, hidle]
      rfl
    constructor
    · rintro ⟨-, -, hidle⟩
      refine ⟨hidle, fun type b hasks => ⟨fun hpass => ?_, fun hup => ?_⟩⟩
      · have hzero := (noticeSlogmodem_ok_iff b.cmd c.first).mpr (.inr hpass)
        exact absurd (Except.ok.inj (hzero.symm.trans (hrefused type b hasks))) (by decide)
      · have herror := (noticeSlogmodem_error_iff b.cmd c.first .sigpipe).mpr ⟨rfl, hup⟩
        cases herror.symm.trans (hrefused type b hasks)
    · rintro ⟨hidle, -⟩
      exact ⟨hreturn hidle, rfl, hidle⟩
  | broken hasks hup =>
    refine iff_of_false (fun h => ?_) fun h => (h.2 _ _ hasks).2 hup
    cases h.1
  | takenBroken hasks hzero _ _ =>
    refine iff_of_false (fun h => ?_) fun h => ?_
    · cases h.1
    · exact ((noticeSlogmodem_ok_iff _ _).mp hzero).elim (hnotOk _ _ hasks) (h.2 _ _ hasks).1
  | taken hasks hzero _ =>
    refine iff_of_false (fun h => ?_) fun h => ?_
    · rcases c.leave_cases a 0 with ⟨hleave, -⟩ | ⟨hleave, -⟩
      · cases hleave.symm.trans h.1
      · exact absurd (Except.ok.inj (hleave.symm.trans h.1)) (by decide)
    · exact ((noticeSlogmodem_ok_iff _ _).mp hzero).elim (hnotOk _ _ hasks) (h.2 _ _ hasks).1

/-- There is no slogmodem to connect to. -/
def slogGone : SlogExchange := ⟨false, true, some 0, 0, false, none⟩

/-- slogmodem answers the request for the modem log on the T-card with an error. -/
def wrongAnswer : LogCall where
  logType := 0x31
  location := logLocationTcard
  diagportswitch := 0
  first := ⟨true, true, some 17, 1, true, some (ofString "ERROR\n")⟩
  second := slogGone
  usbConf := []

/-- The log is on PC already, and the diag port is to be opened. -/
def alreadyOnPc : LogCall where
  logType := 0x31
  location := logLocationPc
  diagportswitch := 1
  first := ⟨true, true, some 18, 1, true, some (ofString "OK\n")⟩
  second := slogGone
  usbConf := ofString "none"

/-- slogmodem hangs up before it is told about the modem log. -/
def hungUp : LogCall := { wrongAnswer with first := ⟨true, true, none, 0, false, none⟩ }

/-- The first call switches the log, the second restarts the server, and the third ends it. -/
theorem refused_calls_have_effects :
    let mgr : CDevMgr Nat := ⟨[], List.nodup_nil⟩
    let s : LogState Nat := ⟨.init, fun _ => logLocationPc⟩
    ¬RefusedQuietly .android mgr s wrongAnswer ∧ ¬RefusedQuietly .android mgr s alreadyOnPc ∧
      ¬RefusedQuietly .android mgr s hungUp := by
  refine ⟨?_, ?_, ?_⟩
  · intro h
    have hret := (h ?_).1
    · exact absurd hret (by decide)
    · rintro ⟨type, b, -, hok⟩
      obtain ⟨resp, hresp, htake⟩ := hok.answer
      cases hresp
      exact absurd htake (by decide)
  · intro h
    have hswitch := (h ?_).2.2
    · exact absurd hswitch (by decide)
    · rintro ⟨type, b, ⟨htype, -, hother⟩, -⟩
      cases htype
      exact hother rfl
  · intro h
    have hret := (h ?_).1
    · exact absurd hret (by decide)
    · rintro ⟨type, b, -, hok⟩
      cases hok.written

end EngPc
