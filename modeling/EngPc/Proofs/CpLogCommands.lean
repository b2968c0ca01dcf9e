import EngPc.Lib.Machine
import EngPc.Model.CpLogCommands
import EngPc.Proofs.LogLocation

/-!
# The destination as it is told

Whoever sees the replies to all requests, by either way, knows the destination of each log: it is that
of the last request that was taken. So a query tells nothing but the last one. A request without a reply
is the last one of the server.
-/

namespace EngPc
open CString Machine

variable {π : Type} [DecidableEq π]

/-- The call of `logLocation` that a request makes. -/
def CpLogEvent.call (e : CpLogEvent) : Option LogCall :=
  match e.request with
  | .command buff =>
    match cpLogCommand (requestText buff) with
    | .change logType location diagportswitch => some
        ⟨logType, location, diagportswitch, e.outside.first, e.outside.second, e.outside.usbConf⟩
    | _ => none
  | .message bytes => some (CCPCtl.logCall e.outside bytes)

def CpLogEvent.queries (e : CpLogEvent) : Option LogType :=
  match e.request with
  | .command buff =>
    match cpLogCommand (requestText buff) with
    | .query type => some type
    | _ => none
  | .message _ => none

/-- The reply says that the request was taken. -/
def CpLogEvent.taken (e : CpLogEvent) (out : List UInt8) : Prop :=
  match e.request with
  | .command _ => out = ofString "OK\r\n"
  | .message _ => out[2]? = some 0

instance (e : CpLogEvent) (out : List UInt8) : Decidable (e.taken out) := by
  unfold CpLogEvent.taken
  split <;> infer_instance

/-- The destinations once a call is taken. The adapter without a store always answers PC. -/
def LogCall.dest (c : LogCall) (a : Adapter) (d : LogType → UInt8) : LogType → UInt8 :=
  match LogType.ofChar c.logType with
  | none => d
  | some type =>
    match a with
    | .android => Function.update d type c.location
    | .miniap => d

/-- The destinations that an observer knows after a reply. -/
def told (a : Adapter) (d : LogType → UInt8) (e : CpLogEvent) (out : List UInt8) : LogType → UInt8 :=
  match e.call with
  | none => d
  | some c => if e.taken out then c.dest a d else d

/-- A query is answered with what the observer knows, and a request that is taken asks for another one
of the three destinations. -/
structure AnswersTold (d : LogType → UInt8) (e : CpLogEvent) (out : List UInt8) : Prop where
  query : ∀ type, e.queries = some type → out = queryReply type (d type)
  change : ∀ c, e.call = some c → e.taken out →
    ∃ type, LogType.ofChar c.logType = some type ∧ c.location ≠ d type ∧
      c.location ∈ [logLocationPc, logLocationTcard, logLocationNone]

/-- The request is the last one of the server: its call ends it. Then there is no reply, and the
destinations are the old ones or those asked for. -/
structure EndsUntold (a : Adapter) (mgr : CDevMgr π) (s : LogState π) (e : CpLogEvent) : Prop where
  ends : ∃ c, e.call = some c ∧ c.Ends a s
  left : ∃ x s', cpLogStep a mgr s e = .error (x, s') ∧ (sysGetlogdest a s' = sysGetlogdest a s ∨
    ∃ c, e.call = some c ∧ sysGetlogdest a s' = c.dest a (sysGetlogdest a s))

example : cpLogCommand (ofString "AT+SPATCPLOG=2?\r") = .query .wcn := by decide

lemma logSwitch_location {type : LogType} {location : UInt8} {b : LogSwitch}
    (h : logSwitch type location = some b) :
    location ∈ [logLocationPc, logLocationTcard, logLocationNone] := by
  rcases logSwitch_reset h with ⟨rfl, -⟩ | ⟨rfl, -⟩ | ⟨rfl, -⟩
  · decide
  · decide
  · decide

/-- A branch that is taken leaves the destination that is asked for. -/
lemma LogSwitch.apply_dest {a : Adapter} {s : LogState π} {c : LogCall} {type : LogType}
    {b : LogSwitch} (mgr : CDevMgr π) (hasks : c.Asks a s type b) :
    sysGetlogdest a (b.apply a mgr type c.location s) = c.dest a (sysGetlogdest a s) := by
  funext type'
  rw [LogSwitch.apply_logdest, LogCall.dest, hasks.logType]
  cases a with
  | android => simp only [Function.update_apply, true_and]
  | miniap => simp

/-- A request that makes a call, once its reply says what the call has returned. -/
lemma change_told {a : Adapter} {mgr : CDevMgr π} {s : LogState π} {e : CpLogEvent} {c : LogCall}
    {ret : Int} {out : List UInt8} (hcall : e.call = some c) (hqueries : e.queries = none)
    (hret : (logLocation a mgr s c).2.ret = .ok ret) (htaken : e.taken out ↔ ret = 0) :
    AnswersTold (sysGetlogdest a s) e out ∧
      sysGetlogdest a (logLocation a mgr s c).1 = told a (sysGetlogdest a s) e out := by
  have hquery : ∀ type, e.queries = some type → out = queryReply type (sysGetlogdest a s type) := by
    intro type htype
    rw [hqueries] at htype
    cases htype
  unfold told
  rw [hcall]
  dsimp only
  rcases logLocation_returns hret with ⟨rfl, hstate⟩ | ⟨rfl, type, b, hasks, -, hstate⟩
  · have hnot : ¬e.taken out := by
      rw [htaken]
      decide
    rw [if_neg hnot, hstate]
    exact ⟨⟨hquery, fun _ _ h => absurd h hnot⟩, rfl⟩
  · rw [if_pos (htaken.mpr rfl), hstate, LogSwitch.apply_dest mgr hasks]
    refine ⟨⟨hquery, fun c' hc' _ => ?_⟩, rfl⟩
    obtain rfl : c = c' := Option.some.inj (hcall.symm.trans hc')
    exact ⟨type, hasks.logType, hasks.other, logSwitch_location hasks.location⟩

lemma change_ends {a : Adapter} {mgr : CDevMgr π} {s : LogState π} {e : CpLogEvent} {c : LogCall}
    {x : ServerEnd} (hcall : e.call = some c)
    (hret : (logLocation a mgr s c).2.ret = .error x)
    (hstep : cpLogStep a mgr s e = .error (x, (logLocation a mgr s c).1)) :
    EndsUntold a mgr s e := by
  refine ⟨⟨c, hcall, (logLocation_ends_iff a mgr s c).mp ⟨x, hret⟩⟩, x, _, hstep, ?_⟩
  rcases logLocation_state a mgr s c with heq | ⟨type, b, hasks, -, heq⟩
  · exact .inl (congrArg (sysGetlogdest a) heq)
  · exact .inr ⟨c, hcall, (congrArg (sysGetlogdest a) heq).trans (LogSwitch.apply_dest mgr hasks)⟩

omit [DecidableEq π] in
lemma kept_told (a : Adapter) {s : LogState π} {e : CpLogEvent} {out : List UInt8}
    (hcall : e.call = none)
    (hquery : ∀ type, e.queries = some type → out = queryReply type (sysGetlogdest a s type)) :
    AnswersTold (sysGetlogdest a s) e out ∧
      sysGetlogdest a s = told a (sysGetlogdest a s) e out := by
  refine ⟨⟨hquery, fun c h => ?_⟩, ?_⟩
  · rw [hcall] at h
    cases h
  · unfold told
    rw [hcall]

lemma cpLogServe_command (a : Adapter) (mgr : CDevMgr π) (s : LogState π) (outside : LogOutside)
    {buff : Buffer UInt8} {cmd : CpLogCommand} (hcmd : cpLogCommand (requestText buff) = cmd) :
    cpLogServe a mgr s ⟨.command buff, outside⟩ = cmd.run a mgr s outside :=
  congrArg (CpLogCommand.run a mgr s outside) hcmd

lemma cpLogStep_ok {a : Adapter} {mgr : CDevMgr π} {s s' : LogState π} {e : CpLogEvent}
    {out : List UInt8} (h : cpLogServe a mgr s e = (s', .ok out)) :
    cpLogStep a mgr s e = .ok (s', out) := by
  rw [cpLogStep, h]

lemma cpLogStep_error {a : Adapter} {mgr : CDevMgr π} {s s' : LogState π} {e : CpLogEvent}
    {x : ServerEnd} (h : cpLogServe a mgr s e = (s', .error x)) :
    cpLogStep a mgr s e = .error (x, s') := by
  rw [cpLogStep, h]

lemma cpLogStep_told (a : Adapter) (mgr : CDevMgr π) (s : LogState π) (e : CpLogEvent) :
    EndsUntold a mgr s e ∨
      ∃ s' out, cpLogStep a mgr s e = .ok (s', out) ∧ AnswersTold (sysGetlogdest a s) e out ∧
        sysGetlogdest a s' = told a (sysGetlogdest a s) e out := by
  obtain ⟨request, outside⟩ := e
  cases request with
  | message bytes =>
    cases hret : (logLocation a mgr s (CCPCtl.logCall outside bytes)).2.ret with
    | error x =>
      refine .inl (change_ends rfl hret (cpLogStep_error (Prod.ext rfl ?_)))
      simp only [cpLogServe, CCPCtl.handle, hret, Except.map]
    | ok ret =>
      refine .inr ⟨_, [bytes.getD 0 0, bytes.getD 1 0, UInt8.ofInt ret],
        cpLogStep_ok (Prod.ext rfl ?_), change_told rfl rfl hret ?_⟩
      · simp only [cpLogServe, CCPCtl.handle, hret, Except.map]
      · show ([bytes.getD 0 0, bytes.getD 1 0, UInt8.ofInt ret] : List UInt8)[2]? = some 0 ↔ _
        rw [List.getElem?_cons_succ, List.getElem?_cons_succ, List.getElem?_cons_zero,
          Option.some.injEq]
        rcases logLocation_returns hret with ⟨rfl, -⟩ | ⟨rfl, -⟩
        · decide
        · decide
  | command buff =>
    cases hcmd : cpLogCommand (requestText buff) with
    | unknown | badParam =>
      have hserve := cpLogServe_command a mgr s outside hcmd
      refine .inr ⟨s, _, cpLogStep_ok hserve, kept_told a ?_ ?_⟩
      · simp only [CpLogEvent.call, hcmd]
      · simp only [CpLogEvent.queries, hcmd]
        exact fun _ h => by cases h
    | query type =>
      have hserve := cpLogServe_command a mgr s outside hcmd
      refine .inr ⟨s, _, cpLogStep_ok hserve, kept_told a ?_ ?_⟩
      · simp only [CpLogEvent.call, hcmd]
      · simp only [CpLogEvent.queries, hcmd]
        rintro _ ⟨⟩
        rfl
    | change logType location diagportswitch =>
      have hcall : (CpLogEvent.mk (.command buff) outside).call = some ⟨logType, location,
          diagportswitch, outside.first, outside.second, outside.usbConf⟩ := by
        simp only [CpLogEvent.call, hcmd]
      have hqueries : (CpLogEvent.mk (.command buff) outside).queries = none := by
        simp only [CpLogEvent.queries, hcmd]
      cases hret : (logLocation a mgr s ⟨logType, location, diagportswitch, outside.first,
          outside.second, outside.usbConf⟩).2.ret with
      | error x =>
        refine .inl (change_ends hcall hret (cpLogStep_error ?_))
        rw [cpLogServe_command a mgr s outside hcmd, CpLogCommand.run]
        simp only [hret, Except.map]
      | ok ret =>
        refine .inr ⟨_, if ret = -1 then spatcplogTag ++ ofString " error " ++ printInt ret ++
          ofString "\r\n" else ofString "OK\r\n", cpLogStep_ok ?_, change_told hcall hqueries hret ?_⟩
        · rw [cpLogServe_command a mgr s outside hcmd, CpLogCommand.run]
          simp only [hret, Except.map]
        · show (if _ then _ else _) = ofString "OK\r\n" ↔ _
          rcases logLocation_returns hret with ⟨rfl, -⟩ | ⟨rfl, -⟩
          · decide
          · decide

end EngPc
