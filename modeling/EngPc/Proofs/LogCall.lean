import EngPc.Model.LogLocation

/-!
# One call of `logLocation`

slogmodem takes a command, refuses it, or has hung up, which ends the server. `logLocation_effect` says
what a call does in each case.
-/

namespace EngPc
open CString

/-- The exchange comes to an answer that begins with `OK` and a newline. -/
structure SlogExchange.SaysOk (x : SlogExchange) (cmd : List UInt8) : Prop where
  connected : x.connected = true
  nonblock : x.nonblock = true
  written : x.written = some (cmd.length : Int)
  poll : 0 ≤ x.poll
  pollin : x.pollin = true
  answer : ∃ resp, x.answer = some resp ∧ resp.take 3 = ofString "OK\n"

/-- The command is written and `poll` returns 1, and then slogmodem does not say that it is done: it
hangs up, or it answers something else. -/
structure SlogExchange.PassesFor (x : SlogExchange) (cmd : List UInt8) : Prop where
  connected : x.connected = true
  nonblock : x.nonblock = true
  written : x.written = some (cmd.length : Int)
  poll : x.poll = 1
  not_ok : ¬x.SaysOk cmd

/-- slogmodem has hung up before the command is written. -/
structure SlogExchange.HangsUp (x : SlogExchange) : Prop where
  connected : x.connected = true
  nonblock : x.nonblock = true
  written : x.written = none

lemma getResponse_eq_one_iff (x : SlogExchange) : getResponse x = 1 ↔
    (0 ≤ x.poll ∧ x.pollin = true ∧ ∃ resp, x.answer = some resp ∧
      resp.take 3 = ofString "OK\n") ∨ x.poll = 1 := by
  unfold getResponse
  by_cases hpoll : x.poll < 0
  · rw [if_pos hpoll]
    constructor
    · exact .inr
    · rintro (⟨hle, -⟩ | hone)
      · omega
      · exact hone
  · rw [if_neg hpoll]
    by_cases hin : x.pollin = true
    · rw [if_pos hin]
      cases hanswer : x.answer with
      | none => simp
      | some resp =>
        dsimp only
        split_ifs with hok
        · simp [not_lt.mp hpoll, hin, hok]
        · simp [hok]
    · rw [if_neg hin]
      simp [hin]

lemma noticeSlogmodem_unconnected (cmd : List UInt8) {x : SlogExchange}
    (h : ¬(x.connected = true ∧ x.nonblock = true)) : noticeSlogmodem cmd x = .ok (-1) := by
  rw [not_and_or, Bool.not_eq_true, Bool.not_eq_true] at h
  unfold noticeSlogmodem
  by_cases hconn : x.connected = false
  · rw [if_pos hconn]
  · rw [if_neg hconn, if_pos (h.resolve_left hconn)]

lemma noticeSlogmodem_connected (cmd : List UInt8) {x : SlogExchange}
    (hconn : x.connected = true) (hblock : x.nonblock = true) :
    noticeSlogmodem cmd x = match x.written with
      | none => .error .sigpipe
      | some len => if (cmd.length : Int) ≠ len ∨ getResponse x ≠ 1 then .ok (-1) else .ok 0 := by
  unfold noticeSlogmodem
  rw [if_neg (by simp [hconn]), if_neg (by simp [hblock])]
  cases x.written with
  | none => rfl
  | some len =>
    dsimp only
    split_ifs <;> first | rfl | tauto

lemma noticeSlogmodem_ok_iff (cmd : List UInt8) (x : SlogExchange) :
    noticeSlogmodem cmd x = .ok 0 ↔ x.SaysOk cmd ∨ x.PassesFor cmd := by
  by_cases h : x.connected = true ∧ x.nonblock = true
  · obtain ⟨hconn, hblock⟩ := h
    rw [noticeSlogmodem_connected cmd hconn hblock]
    cases hwritten : x.written with
    | none =>
      refine iff_of_false (fun h => by cases h) ?_
      rintro (h | h)
      · cases hwritten.symm.trans h.written
      · cases hwritten.symm.trans h.written
    | some len =>
      dsimp only
      split_ifs with hfails
      · refine iff_of_false (fun h => absurd h (by decide)) fun hok => ?_
        have hlen : len = cmd.length := by
          rcases hok with hok | hok
          · exact Option.some.inj (hwritten.symm.trans hok.written)
          · exact Option.some.inj (hwritten.symm.trans hok.written)
        refine hfails.elim (fun hne => hne hlen.symm) fun hone => hone ?_
        rw [getResponse_eq_one_iff]
        exact hok.imp (fun hok => ⟨hok.poll, hok.pollin, hok.answer⟩) fun hok => hok.poll
      · rw [not_or, not_not, not_not] at hfails
        obtain ⟨hlen, hone⟩ := hfails
        have hwritten' : x.written = some (cmd.length : Int) := by rw [hwritten, hlen]
        refine iff_of_true rfl ?_
        by_cases hok : x.SaysOk cmd
        · exact .inl hok
        · rcases (getResponse_eq_one_iff x).mp hone with h | h
          · exact absurd ⟨hconn, hblock, hwritten', h.1, h.2.1, h.2.2⟩ hok
          · exact .inr ⟨hconn, hblock, hwritten', h, hok⟩
  · rw [noticeSlogmodem_unconnected cmd h]
    refine iff_of_false (fun h => absurd h (by decide)) ?_
    rintro (hok | hok)
    · exact h ⟨hok.connected, hok.nonblock⟩
    · exact h ⟨hok.connected, hok.nonblock⟩

lemma noticeSlogmodem_error_iff (cmd : List UInt8) (x : SlogExchange) (e : ServerEnd) :
    noticeSlogmodem cmd x = .error e ↔ e = .sigpipe ∧ x.HangsUp := by
  by_cases h : x.connected = true ∧ x.nonblock = true
  · obtain ⟨hconn, hblock⟩ := h
    rw [noticeSlogmodem_connected cmd hconn hblock]
    cases hwritten : x.written with
    | none =>
      rw [and_iff_left ⟨hconn, hblock, hwritten⟩, Except.error.injEq, eq_comm]
    | some len =>
      dsimp only
      refine iff_of_false (fun h => ?_) fun h => ?_
      · split_ifs at h
      · cases hwritten.symm.trans h.2.written
  · rw [noticeSlogmodem_unconnected cmd h]
    exact iff_of_false (fun h => by cases h) fun hup => h ⟨hup.2.connected, hup.2.nonblock⟩

lemma noticeSlogmodem_values (cmd : List UInt8) (x : SlogExchange) :
    noticeSlogmodem cmd x = .ok 0 ∨ noticeSlogmodem cmd x = .ok (-1) ∨
      noticeSlogmodem cmd x = .error .sigpipe := by
  by_cases h : x.connected = true ∧ x.nonblock = true
  · rw [noticeSlogmodem_connected cmd h.1 h.2]
    cases x.written with
    | none => exact .inr (.inr rfl)
    | some len =>
      dsimp only
      split_ifs
      · exact .inr (.inl rfl)
      · exact .inl rfl
  · exact .inr (.inl (noticeSlogmodem_unconnected cmd h))

variable {π : Type} [DecidableEq π]

/-- The pair of the request is valid, and its destination is not the stored one. -/
structure LogCall.Asks (a : Adapter) (s : LogState π) (c : LogCall) (type : LogType)
    (b : LogSwitch) : Prop where
  logType : LogType.ofChar c.logType = some type
  location : logSwitch type c.location = some b
  other : c.location ≠ sysGetlogdest a s type

/-- What a call leaves. -/
inductive LogEffect (a : Adapter) (mgr : CDevMgr π) (s : LogState π) (c : LogCall) :
    LogState π × LogOut → Prop
  | refused (cmds : List (List UInt8))
      (h : ∀ type b, c.Asks a s type b → noticeSlogmodem b.cmd c.first = .ok (-1)) :
      LogEffect a mgr s c (s, ⟨c.leave a (-1), cmds, false, diagPortSwitch c⟩)
  | broken {type : LogType} {b : LogSwitch} (hasks : c.Asks a s type b) (hup : c.first.HangsUp) :
      LogEffect a mgr s c (s, ⟨.error .sigpipe, [b.cmd], false, none⟩)
  | takenBroken {type : LogType} {b : LogSwitch} (hasks : c.Asks a s type b)
      (htaken : noticeSlogmodem b.cmd c.first = .ok 0) (hagdsp : b.agdsp.isSome = true)
      (hup : c.second.HangsUp) :
      LogEffect a mgr s c (b.apply a mgr type c.location s,
        ⟨.error .sigpipe, b.cmd :: b.agdsp.toList, b.bqbVendorOpen, none⟩)
  | taken {type : LogType} {b : LogSwitch} (hasks : c.Asks a s type b)
      (htaken : noticeSlogmodem b.cmd c.first = .ok 0)
      (hsecond : ¬(b.agdsp.isSome = true ∧ c.second.HangsUp)) :
      LogEffect a mgr s c (b.apply a mgr type c.location s,
        ⟨c.leave a 0, b.cmd :: b.agdsp.toList, b.bqbVendorOpen, diagPortSwitch c⟩)

lemma noticeAgdsp_error_iff (b : LogSwitch) (x : SlogExchange) (e : ServerEnd) :
    b.noticeAgdsp x = .error e ↔ e = .sigpipe ∧ b.agdsp.isSome = true ∧ x.HangsUp := by
  unfold LogSwitch.noticeAgdsp
  cases b.agdsp with
  | none => simp
  | some cmd => simp [noticeSlogmodem_error_iff]

omit [DecidableEq π] in
lemma LogCall.Asks.unique {a : Adapter} {s : LogState π} {c : LogCall} {type type' : LogType}
    {b b' : LogSwitch} (h : c.Asks a s type b) (h' : c.Asks a s type' b') :
    type = type' ∧ b = b' := by
  obtain rfl : type = type' := Option.some.inj (h.logType.symm.trans h'.logType)
  exact ⟨rfl, Option.some.inj (h.location.symm.trans h'.location)⟩

theorem logLocation_effect (a : Adapter) (mgr : CDevMgr π) (s : LogState π) (c : LogCall) :
    LogEffect a mgr s c (logLocation a mgr s c) := by
  rw [logLocation]
  cases htype : LogType.ofChar c.logType with
  | none =>
    refine .refused [] fun type b hasks => ?_
    cases htype.symm.trans hasks.logType
  | some type =>
    dsimp only
    cases hswitch : logSwitch type c.location with
    | none =>
      refine .refused [] fun type' b hasks => ?_
      obtain rfl : type = type' := Option.some.inj (htype.symm.trans hasks.logType)
      cases hswitch.symm.trans hasks.location
    | some b =>
      dsimp only
      by_cases hsame : c.location = sysGetlogdest a s type
      · rw [if_pos hsame]
        refine .refused [] fun type' b' hasks => ?_
        obtain rfl : type = type' := Option.some.inj (htype.symm.trans hasks.logType)
        exact absurd hsame hasks.other
      · rw [if_neg hsame]
        have hasks : c.Asks a s type b := ⟨htype, hswitch, hsame⟩
        rcases noticeSlogmodem_values b.cmd c.first with hnotice | hnotice | hnotice
        · rw [hnotice]
          dsimp only
          rw [if_neg (by decide)]
          cases hagdsp : b.noticeAgdsp c.second with
          | error e =>
            obtain ⟨rfl, hsome, hup⟩ := (noticeAgdsp_error_iff b c.second e).mp hagdsp
            exact .takenBroken hasks hnotice hsome hup
          | ok r =>
            refine .taken hasks hnotice fun hup => ?_
            have herror := (noticeAgdsp_error_iff b c.second .sigpipe).mpr ⟨rfl, hup⟩
            cases hagdsp.symm.trans herror
        · rw [hnotice]
          refine .refused [b.cmd] fun type' b' hasks' => ?_
          obtain ⟨-, rfl⟩ := hasks.unique hasks'
          exact hnotice
        · rw [hnotice]
          exact .broken hasks ((noticeSlogmodem_error_iff b.cmd c.first .sigpipe).mp hnotice).2

/-- The call does not ask for another state of the diag port than the USB configuration has. -/
def LogCall.SwitchIdle (c : LogCall) : Prop :=
  (c.diagportswitch = 1 → c.location = logLocationPc → strcaseeq c.usbConf (ofString ",gser")) ∧
    (c.diagportswitch = 2 → c.location ≠ logLocationPc → ¬strcaseeq c.usbConf (ofString ",gser"))

lemma diagPortSwitch_eq_none_iff (c : LogCall) : diagPortSwitch c = none ↔ c.SwitchIdle := by
  unfold diagPortSwitch LogCall.SwitchIdle
  by_cases hopen : c.diagportswitch = 1 ∧ c.location = logLocationPc
  · rw [if_pos hopen]
    simp [hopen.1, hopen.2]
  · rw [if_neg hopen]
    by_cases hclose : c.diagportswitch = 2 ∧ c.location ≠ logLocationPc
    · rw [if_pos hclose]
      simp [hclose.1, hclose.2]
    · rw [if_neg hclose]
      refine iff_of_true rfl ⟨fun h h' => absurd ⟨h, h'⟩ hopen, fun h h' => absurd ⟨h, h'⟩ hclose⟩

/-- The call ends the server: slogmodem has hung up when it is told one of the commands, or init
restarts the service for the diag port. -/
def LogCall.Ends (a : Adapter) (s : LogState π) (c : LogCall) : Prop :=
  a = .android ∧ ¬c.SwitchIdle ∨ ∃ type b, c.Asks a s type b ∧
    (c.first.HangsUp ∨ (c.first.SaysOk b.cmd ∨ c.first.PassesFor b.cmd) ∧
      b.agdsp.isSome = true ∧ c.second.HangsUp)

lemma LogCall.leave_cases (c : LogCall) (a : Adapter) (ret : Int) :
    c.leave a ret = .error .restart ∧ a = .android ∧ ¬c.SwitchIdle ∨
      c.leave a ret = .ok ret ∧ ¬(a = .android ∧ ¬c.SwitchIdle) := by
  rw [← diagPortSwitch_eq_none_iff]
  unfold LogCall.leave
  cases diagPortSwitch c with
  | none => exact .inr ⟨rfl, fun h => h.2 rfl⟩
  | some cmd =>
    cases a with
    | android => exact .inl ⟨rfl, rfl, Option.some_ne_none cmd⟩
    | miniap => exact .inr ⟨rfl, fun h => Adapter.noConfusion h.1⟩

/-- **Which calls end the server.** -/
theorem logLocation_ends_iff (a : Adapter) (mgr : CDevMgr π) (s : LogState π) (c : LogCall) :
    (∃ e, (logLocation a mgr s c).2.ret = .error e) ↔ c.Ends a s := by
  have h := logLocation_effect a mgr s c
  generalize logLocation a mgr s c = r at h
  have hleave : ∀ ret, (∃ e, c.leave a ret = .error e) ↔ a = .android ∧ ¬c.SwitchIdle := by
    intro ret
    rcases c.leave_cases a ret with ⟨heq, hrestart⟩ | ⟨heq, hgo⟩
    · exact iff_of_true ⟨_, heq⟩ hrestart
    · refine iff_of_false ?_ hgo
      rintro ⟨e, he⟩
      cases heq.symm.trans he
  unfold LogCall.Ends
  cases h with
  | refused cmds h =>
    dsimp only
    rw [hleave, or_iff_left]
    rintro ⟨type, b, hasks, hup | ⟨hok, -⟩⟩
    · have herror := (noticeSlogmodem_error_iff b.cmd c.first .sigpipe).mpr ⟨rfl, hup⟩
      cases herror.symm.trans (h type b hasks)
    · have hzero := (noticeSlogmodem_ok_iff b.cmd c.first).mpr hok
      exact absurd (Except.ok.inj (hzero.symm.trans (h type b hasks))) (by decide)
  | broken hasks hup => exact iff_of_true ⟨_, rfl⟩ (.inr ⟨_, _, hasks, .inl hup⟩)
  | takenBroken hasks htaken hagdsp hup =>
    exact iff_of_true ⟨_, rfl⟩
      (.inr ⟨_, _, hasks, .inr ⟨(noticeSlogmodem_ok_iff _ _).mp htaken, hagdsp, hup⟩⟩)
  | taken hasks htaken hsecond =>
    dsimp only
    rw [hleave, or_iff_left]
    rintro ⟨type, b, hasks', hup | ⟨-, hup⟩⟩
    · have herror := (noticeSlogmodem_error_iff b.cmd c.first .sigpipe).mpr ⟨rfl, hup⟩
      obtain ⟨-, rfl⟩ := hasks.unique hasks'
      cases herror.symm.trans htaken
    · obtain ⟨-, rfl⟩ := hasks.unique hasks'
      exact hsecond hup

lemma logLocation_returns {a : Adapter} {mgr : CDevMgr π} {s : LogState π} {c : LogCall} {ret : Int}
    (h : (logLocation a mgr s c).2.ret = .ok ret) :
    ret = -1 ∧ (logLocation a mgr s c).1 = s ∨ ret = 0 ∧ ∃ type b, c.Asks a s type b ∧
      noticeSlogmodem b.cmd c.first = .ok 0 ∧
      (logLocation a mgr s c).1 = b.apply a mgr type c.location s := by
  have heff := logLocation_effect a mgr s c
  generalize logLocation a mgr s c = r at h heff
  have hleave : ∀ ret', c.leave a ret' = .ok ret → ret = ret' := by
    intro ret' heq
    rcases c.leave_cases a ret' with ⟨h', -⟩ | ⟨h', -⟩
    · cases h'.symm.trans heq
    · exact (Except.ok.inj (h'.symm.trans heq)).symm
  cases heff with
  | refused cmds _ => exact .inl ⟨hleave _ h, rfl⟩
  | broken _ _ => cases h
  | takenBroken _ _ _ _ => cases h
  | taken hasks htaken _ => exact .inr ⟨hleave _ h, _, _, hasks, htaken, rfl⟩

lemma logLocation_state (a : Adapter) (mgr : CDevMgr π) (s : LogState π) (c : LogCall) :
    (logLocation a mgr s c).1 = s ∨ ∃ type b, c.Asks a s type b ∧
      noticeSlogmodem b.cmd c.first = .ok 0 ∧
      (logLocation a mgr s c).1 = b.apply a mgr type c.location s := by
  have heff := logLocation_effect a mgr s c
  generalize logLocation a mgr s c = r at heff
  cases heff with
  | refused cmds _ => exact .inl rfl
  | broken _ _ => exact .inl rfl
  | takenBroken hasks htaken _ _ => exact .inr ⟨_, _, hasks, htaken, rfl⟩
  | taken hasks htaken _ => exact .inr ⟨_, _, hasks, htaken, rfl⟩

end EngPc
