import EngPc.Model.CtlSocket
import EngPc.Proofs.LogCall

/-!
# How the stream of a control socket is cut

A read that is not full is handled as a request of its own, and a request on engpc_soc.l can end the
server.
-/

namespace EngPc
open RequestStream

variable {π : Type} [DecidableEq π]

/-- The request ends the server in `logLocation`. -/
def CCPCtl.Ends (a : Adapter) (s : LogState π) (out : LogOutside) (engData : List UInt8) : Prop :=
  (CCPCtl.logCall out engData).Ends a s

lemma CCPCtl.ends_iff (a : Adapter) (mgr : CDevMgr π) (s : LogState π) (out : LogOutside)
    (engData : List UInt8) :
    CCPCtl.Ends a s out engData ↔ ∃ x, (CCPCtl.handle a mgr s out engData).2 = .error x := by
  unfold CCPCtl.Ends CCPCtl.handle
  rw [← logLocation_ends_iff a mgr]
  dsimp only
  cases (logLocation a mgr s (CCPCtl.logCall out engData)).2.ret with
  | error e => simp [Except.map]
  | ok ret => simp [Except.map]

/-- Both servers do what they would do for the whole requests, once for each and in order, and answer
each, exactly when every read is as long as a request and no request ends the server. -/
theorem control_sockets_cut_iff (a : Adapter) (mgr : CDevMgr π) (s : LogState π)
    (env : Nat → LogOutside) (c : Cut UInt8 engDataLength) (calls : EnableCalls)
    (c' : Cut UInt8 engpcCmdLen) :
    (ServedWhole 0 (CCPCtl.handle a mgr) c s env ↔ (∀ r ∈ c.reads, r.length = engDataLength) ∧
      Survives (CCPCtl.handle a mgr) (CCPCtl.Ends a) s env c.requests) ∧
    (ServedWhole 0 CEngCtl.handle c' calls (fun _ => ()) ↔
      ∀ r ∈ c'.reads, r.length = engpcCmdLen) := by
  refine ⟨served_iff (by decide) (CCPCtl.ends_iff a mgr) c s env, ?_⟩
  have hgo : ∀ (calls : EnableCalls) (env : Nat → Unit) (qs : List (List UInt8)),
      Survives CEngCtl.handle (fun _ _ _ => False) calls env qs := by
    intro calls env qs
    induction qs generalizing calls env with
    | nil => trivial
    | cons q qs ih => exact ⟨id, ih _ _⟩
  have hno : ∀ (calls : EnableCalls) (u : Unit) (cmd : List UInt8),
      False ↔ ∃ e, (CEngCtl.handle calls u cmd).2 = .error e :=
    fun _ _ _ => iff_of_false id fun ⟨e, _⟩ => e.elim
  rw [served_iff (by decide) hno c' calls, and_iff_left (hgo _ _ _)]

section Example

/-- A request for the modem log on the PC, in two reads. -/
def cutEngData : Cut UInt8 engDataLength where
  requests := [[7, 1, 1]]
  reads := [[7], [1, 1]]
  whole := by decide
  nonempty := by decide
  fits := by decide
  stream := rfl

/-- A request that enables a channel, in two reads. -/
def cutEngpcCmd : Cut UInt8 engpcCmdLen where
  requests := [[1, 3] ++ List.replicate ctlChnlLen 0]
  reads := [[1], 3 :: List.replicate ctlChnlLen 0]
  whole q hq := by
    obtain rfl := List.mem_singleton.mp hq
    rw [List.length_append, List.length_replicate]
    rfl
  nonempty := by simp
  fits := by simp [engpcCmdLen, Nat.add_comm]
  stream := by simp

/-- Nobody listens for slogmodem. -/
def noSlogmodem (usbConf : String) : LogOutside where
  first := ⟨false, true, some 0, 0, false, none⟩
  second := ⟨false, true, some 0, 0, false, none⟩
  usbConf := CString.ofString usbConf

/-- Two requests for the modem log, each in one read. -/
def wholeEngData : Cut UInt8 engDataLength where
  requests := [[7, 1, 1], [8, 1, 2]]
  reads := [[7, 1, 1], [8, 1, 2]]
  whole := by decide
  nonempty := by decide
  fits := by decide
  stream := rfl

end Example

/-- Neither server handles a request that is cut; one for the PC, without the diag port on USB,
restarts the server before the next. -/
theorem control_sockets_cut :
    ¬ServedWhole 0 (CCPCtl.handle .android (⟨[], by decide⟩ : CDevMgr Nat)) cutEngData
        ⟨.init, fun _ => 0x32⟩ (fun _ => noSlogmodem ",gser") ∧
      ¬ServedWhole 0 CEngCtl.handle cutEngpcCmd [] (fun _ => ()) ∧
      ¬ServedWhole 0 (CCPCtl.handle .android (⟨[], by decide⟩ : CDevMgr Nat)) wholeEngData
        ⟨.init, fun _ => 0x32⟩ (fun _ => noSlogmodem "none") := by
  refine ⟨fun h => ?_, fun h => ?_, fun h => ?_⟩
  · exact absurd (congrArg (fun r => r.2.map Prod.fst) h.same) (by decide)
  · exact absurd (congrArg (fun r => r.2.map Prod.fst) h.same) (by decide)
  · exact absurd h.requests (by decide)

end EngPc
