import EngPc.Model.TimeSync
import EngPc.Proofs.HostMessages
import EngPc.Proofs.RouterRun

/-!
# What the host learns about resets

To the host the thread `timesync` is a machine with one flag. It does not matter which descriptors the
servers have, when they come and go and in which order they are read: a reset of the modem is told
once for each message about one, and the first time that comes after a reset is told too.
-/

namespace EngPc
open CString Machine

/-- What is read of a server, as far as it matters. -/
inductive SyncInput
  | reset
  | time (timeSync : TimeSync) (now : ApClock)
  deriving DecidableEq, Repr

def ReadResult.syncInput (now : ApClock) : SyncServer → ReadResult → List SyncInput
  | .modemd, .data bytes =>
    if parseCpEventNotify ((bytes.take 255).takeWhile (· ≠ 0)) = .reset then [.reset] else []
  | .refnotify, .data bytes =>
    if bytes.length = 8 then [.time (TimeSync.ofBytes bytes) now] else []
  | _, _ => []

/-- The messages for the host; `pending` says that a reset has been told and no time since. -/
def notices : (pending : Bool) → List SyncInput → List HostMessage
  | _, [] => []
  | _, .reset :: l => .cpEvent ⟨1, 2⟩ :: notices true l
  | true, .time timeSync now :: l =>
    .timeSync (currentApTimeStampHandle timeSync now) :: notices false l
  | false, .time _ _ :: l => notices false l

/-- The flag after the inputs. -/
def pendingAfter : (pending : Bool) → List SyncInput → Bool
  | pending, [] => pending
  | _, .reset :: l => pendingAfter true l
  | _, .time _ _ :: l => pendingAfter false l

lemma notices_append (pending : Bool) (l l' : List SyncInput) :
    notices pending (l ++ l') = notices pending l ++ notices (pendingAfter pending l) l' ∧
      pendingAfter pending (l ++ l') = pendingAfter (pendingAfter pending l) l' := by
  induction l generalizing pending with
  | nil => exact ⟨rfl, rfl⟩
  | cons i l ih =>
    cases i with
    | reset => exact ⟨congrArg _ (ih true).1, (ih true).2⟩
    | time timeSync now =>
      cases pending with
      | true => exact ⟨congrArg _ (ih false).1, (ih false).2⟩
      | false => exact ih false

lemma notices_time (pending : Bool) (l : List SyncInput) {before after : List HostMessage}
    {ts : ModemTimestamp} (h : notices pending l = before ++ .timeSync ts :: after) :
    (before = [] ∧ pending = true) ∨ ∃ front, before = front ++ [.cpEvent ⟨1, 2⟩] := by
  induction l generalizing pending before with
  | nil =>
    rw [notices] at h
    exact absurd h.symm (by simp)
  | cons i l ih =>
    cases i with
    | reset =>
      rw [notices] at h
      cases before with
      | nil => cases (List.cons.inj h).1
      | cons m before =>
        obtain ⟨rfl, hrest⟩ := List.cons.inj h
        rcases ih true hrest with ⟨rfl, -⟩ | ⟨front, rfl⟩
        · exact .inr ⟨[], rfl⟩
        · exact .inr ⟨_ :: front, rfl⟩
    | time timeSync now =>
      cases pending with
      | false =>
        rcases ih false h with ⟨-, hfalse⟩ | hfront
        · cases hfalse
        · exact .inr hfront
      | true =>
        rw [notices] at h
        cases before with
        | nil => exact .inl ⟨rfl, rfl⟩
        | cons m before =>
          rcases ih false (List.cons.inj h).2 with ⟨-, hfalse⟩ | ⟨front, rfl⟩
          · cases hfalse
          · exact .inr ⟨m :: front, rfl⟩

/-- The inputs of the entries that a round reads. -/
def readLog (e : TimesyncRound) : Nat → Nat → TimesyncState → List SyncInput
  | 0, _, _ => []
  | n + 1, i, s =>
    if s.table.totalConn ≤ i then []
    else
      match s.table.fds i, e.reads i, s.table.branch i with
      | some _, some r, some server =>
        r.syncInput e.now server ++ readLog e n (i + 1) (readEntry e.now s i server r).1
      | _, _, _ => readLog e n (i + 1) s

def roundLog (s : TimesyncState) (e : TimesyncRound) : List SyncInput :=
  let s := timesyncConnect s e
  if s.table.totalConn = 0 then [] else readLog e s.table.totalConn 0 s

/-- The inputs of a run. -/
def syncLog : TimesyncState → List TimesyncRound → List SyncInput
  | _, [] => []
  | s, e :: es =>
    match timesyncStep s e with
    | .error _ => []
    | .ok (s', _) => roundLog s e ++ syncLog s' es

/-- What goes to the host. -/
def TimesyncOut.host (out : TimesyncOut) : List (List UInt8) := out.reads.flatMap EntryRead.host

lemma readEntry_notices (now : ApClock) (s : TimesyncState) (i : Nat) (server : SyncServer)
    (r : ReadResult) :
    (readEntry now s i server r).2.host =
        (notices s.modemResetFlag (r.syncInput now server)).map HostMessage.sent ∧
      (readEntry now s i server r).1.modemResetFlag =
        pendingAfter s.modemResetFlag (r.syncInput now server) := by
  unfold readEntry
  cases server with
  | modemd =>
    cases r with
    | error | closed => exact ⟨rfl, rfl⟩
    | data bytes =>
      unfold readModemd ReadResult.syncInput
      dsimp only
      split_ifs
      · exact ⟨rfl, rfl⟩
      · exact ⟨rfl, rfl⟩
  | refnotify =>
    cases r with
    | error | closed => exact ⟨rfl, rfl⟩
    | data bytes =>
      unfold readRefnotify ReadResult.syncInput
      dsimp only
      by_cases hlen : bytes.length = 8
      · rw [if_neg (not_not_intro hlen), if_pos hlen]
        cases hflag : s.modemResetFlag with
        | false =>
          rw [if_neg (by decide)]
          exact ⟨rfl, rfl⟩
        | true =>
          rw [if_pos rfl]
          exact ⟨rfl, rfl⟩
      · rw [if_pos hlen, if_neg hlen]
        exact ⟨rfl, rfl⟩

lemma readLoop_notices (e : TimesyncRound) (n i : Nat) (s : TimesyncState) :
    (readLoop e n i s).2.flatMap EntryRead.host =
        (notices s.modemResetFlag (readLog e n i s)).map HostMessage.sent ∧
      (readLoop e n i s).1.modemResetFlag = pendingAfter s.modemResetFlag (readLog e n i s) := by
  induction n generalizing i s with
  | zero => exact ⟨rfl, rfl⟩
  | succ n ih =>
    rw [readLoop, readLog]
    split_ifs
    · exact ⟨rfl, rfl⟩
    · cases s.table.fds i with
      | none => exact ih (i + 1) s
      | some fd =>
        cases e.reads i with
        | none => exact ih (i + 1) s
        | some r =>
          cases s.table.branch i with
          | none => exact ih (i + 1) s
          | some server =>
            obtain ⟨hhost, hflag⟩ := readEntry_notices e.now s i server r
            obtain ⟨hrest, hlast⟩ := ih (i + 1) (readEntry e.now s i server r).1
            obtain ⟨hnotices, hpending⟩ := notices_append s.modemResetFlag
              (r.syncInput e.now server) (readLog e n (i + 1) (readEntry e.now s i server r).1)
            dsimp only
            rw [List.flatMap_cons, hhost, hrest, hlast, hflag, hnotices, hpending, List.map_append]
            exact ⟨rfl, rfl⟩

lemma timesyncStep_notices {s s' : TimesyncState} {e : TimesyncRound} {out : TimesyncOut}
    (h : timesyncStep s e = .ok (s', out)) :
    out.host = (notices s.modemResetFlag (roundLog s e)).map HostMessage.sent ∧
      s'.modemResetFlag = pendingAfter s.modemResetFlag (roundLog s e) := by
  unfold timesyncStep at h
  unfold roundLog
  have hflag : (timesyncConnect s e).modemResetFlag = s.modemResetFlag := rfl
  dsimp only at h ⊢
  split_ifs at h ⊢
  · obtain ⟨rfl, rfl⟩ := Prod.mk.inj (Except.ok.inj h)
    exact ⟨rfl, hflag⟩
  · obtain ⟨rfl, rfl⟩ := Prod.mk.inj (Except.ok.inj h)
    have hloop := readLoop_notices e (timesyncConnect s e).table.totalConn 0 (timesyncConnect s e)
    rwa [hflag] at hloop

lemma timesync_run_notices (es : List TimesyncRound) {s s' : TimesyncState}
    {outs : List TimesyncOut} (h : run timesyncStep s es = .ok (s', outs)) :
    outs.flatMap TimesyncOut.host =
      (notices s.modemResetFlag (syncLog s es)).map HostMessage.sent := by
  induction es generalizing s outs with
  | nil =>
    obtain ⟨-, rfl⟩ := Prod.mk.inj (Except.ok.inj h)
    rfl
  | cons e es ih =>
    obtain ⟨s₁, out, outs', hstep, hrun, rfl⟩ := run_cons_ok h
    obtain ⟨hhost, hflag⟩ := timesyncStep_notices hstep
    rw [List.flatMap_cons, hhost, ih hrun, syncLog, hstep]
    dsimp only
    rw [(notices_append _ _ _).1, hflag, List.map_append]

/-- The host reads the messages of the machine, each escaped once more, and between two times there is
a reset. -/
theorem timesync_notices (es : List TimesyncRound) :
    ∃ s outs, run timesyncStep .init es = .ok (s, outs) ∧
      PacketStream.read nextDiagFrame (outs.flatMap TimesyncOut.host).flatten =
        some ((notices false (syncLog .init es)).map fun m => diagStuffing.stuff m.plain) ∧
      ∀ before ts after, notices false (syncLog .init es) = before ++ .timeSync ts :: after →
        ∃ front, before = front ++ [.cpEvent ⟨1, 2⟩] := by
  have htotal : ∀ s e, ∃ r, timesyncStep s e = .ok r := fun s e => by
    unfold timesyncStep
    dsimp only
    split_ifs <;> exact ⟨_, rfl⟩
  obtain ⟨⟨s, outs⟩, hrun⟩ := run_total htotal .init es
  refine ⟨s, outs, hrun, ?_, fun before ts after hsplit => ?_⟩
  · have hhost := timesync_run_notices es hrun
    have hframes : (notices false (syncLog .init es)).map HostMessage.sent =
        ((notices false (syncLog .init es)).map fun m => diagStuffing.stuff m.plain).map diagFrame := by
      rw [List.map_map]
      exact List.map_congr_left fun m _ => m.sent_eq
    rw [hhost, show TimesyncState.init.modemResetFlag = false from rfl, hframes, read_diagFrames]
  · rcases notices_time false (syncLog .init es) hsplit with ⟨-, hfalse⟩ | hfront
    · cases hfalse
    · exact hfront

end EngPc
