import EngPc.Lib.LittleEndian
import EngPc.Model.ProtolDiag

/-!
# The module manager

`CModuleMgr::process`, `processDiag` and `processAT` of server/module. The functions that the
modules register are names of a type `φ`; what they do while one request is processed is given by
`Funcs`. A function may dispatch requests of its own through `chnl_send_diag_interface` and
`chnl_send_at_interface`, so its behaviour is a tree; the depth of such calls is bounded by fuel.
-/

namespace EngPc
open CString LittleEndian

/-- `struct eng_callback`: the registration of one module. -/
structure EngCallback (φ : Type) where
  diagApCmd : UInt32
  type : UInt8
  subtype : UInt8
  atCmd : List UInt8
  alsoNeedToCp : Bool
  engDiagFunc : Option φ
  engLinuxcmdFunc : Option φ
  engSetWriteinterfaceFunc : Option φ
  engCmdMatch : Option φ
  deriving DecidableEq, Repr

/-- The entries of `write_interface` that dispatch to the manager. -/
inductive WriteInterface
  | chnlSendDiag | chnlSendAt
  deriving DecidableEq, Repr

def WriteInterface.dataType : WriteInterface → DataType
  | .chnlSendDiag => .diag
  | .chnlSendAt => .at

/-- What a call of a module's function does: it returns, leaving the two buffers, or it first
dispatches a request and goes on with the answer and what became of that request's buffer. -/
inductive Call
  | ret (rlen : Int) (req rsp : Buffer UInt8)
  | send (way : WriteInterface) (buf : Buffer UInt8) (len : Nat) (next : Int → Buffer UInt8 → Call)

/-- What the functions of the modules do while one request is processed. -/
structure Funcs (φ : Type) where
  linuxcmd : φ → Buffer UInt8 → Buffer UInt8 → Call
  diag : φ → Buffer UInt8 → Nat → Buffer UInt8 → Nat → Call
  cmdMatch : φ → Buffer UInt8 → Nat → Int

inductive FuncKind
  | linuxcmd | diag | setWriteinterface
  deriving DecidableEq, Repr

/-- A function that was called: the place of its module in the list, which one, its result. -/
structure Called where
  entry : Nat
  kind : FuncKind
  ret : Int
  deriving DecidableEq, Repr

inductive Fault
  | nullFunc | depth
  deriving DecidableEq, Repr

/-- `m_lpCurCB` and `m_lpPendingCB`, as places in the list. -/
structure MgrState where
  lpCurCB : Option Nat
  lpPendingCB : Option Nat
  deriving DecidableEq, Repr

def MgrState.init : MgrState := ⟨none, none⟩

def MgrState.setPendingMark (m : MgrState) : MgrState := { m with lpPendingCB := m.lpCurCB }

def MgrState.clearPendingMark (m : MgrState) : MgrState := { m with lpPendingCB := none }

/-- What processing a request leaves. `offered` tells whether somewhere inside a data request came
to the test of `m_lpPendingCB`; the code does not keep it. -/
structure Served where
  mgr : MgrState
  req : Buffer UInt8
  rsp : Buffer UInt8
  rlen : Int
  cpProcess : Bool
  bProcess : Bool
  calls : List Called
  offered : Bool

def Served.start (mgr : MgrState) (req rsp : Buffer UInt8) : Served :=
  ⟨mgr, req, rsp, 0, false, false, [], false⟩

/-- How a function reaches the manager: data type, state, buffer and length. -/
abbrev Dispatch := DataType → MgrState → Buffer UInt8 → Nat → Except Fault Served

structure Answer where
  mgr : MgrState
  req : Buffer UInt8
  rsp : Buffer UInt8
  rlen : Int
  calls : List Called
  offered : Bool

def Call.run (dispatch : Dispatch) : Call → MgrState → Except Fault Answer
  | .ret rlen req rsp, m => .ok ⟨m, req, rsp, rlen, [], false⟩
  | .send way buf len next, m =>
    match dispatch way.dataType m buf len with
    | .error e => .error e
    | .ok d =>
      match (next d.rlen d.req).run dispatch d.mgr with
      | .error e => .error e
      | .ok a => .ok { a with calls := d.calls ++ a.calls, offered := d.offered || a.offered }

/-- The state after the function `kind` of entry `k` has been called. -/
def Served.called (s : Served) (k : Nat) (kind : FuncKind) (a : Answer) : Served :=
  { s with
    mgr := a.mgr, req := a.req, rsp := a.rsp, rlen := a.rlen,
    calls := s.calls ++ ⟨k, kind, a.rlen⟩ :: a.calls, offered := s.offered || a.offered }

def le16 (buf : Buffer UInt8) (off : Nat) : Nat := (buf off).toNat + 256 * (buf (off + 1)).toNat

def le32 (buf : Buffer UInt8) (off : Nat) : Nat := le16 buf off + 65536 * le16 buf (off + 2)

section Fields

variable (b : Buffer UInt8) (off : Nat)

lemma natLE_load_two : natLE (b.load off 2) = le16 b off := by
  simp only [Buffer.load_succ, Buffer.load_zero, natLE, le16, Nat.mul_zero, Nat.add_zero]

lemma natLE_load_four : natLE (b.load off 4) = le32 b off := by
  simp only [Buffer.load_succ, Buffer.load_zero, natLE, le32, le16, Nat.add_assoc, Nat.reduceAdd]
  omega

lemma le16_fill (n : Nat) : le16 (b.fill off (bytesLE 2 n)) off = n % 65536 := by
  rw [← natLE_load_two, Buffer.load_fill_of_length _ _ (length_bytesLE 2 n)]
  exact natLE_bytesLE 2 n

lemma le32_fill {value : Nat} (h : value < 2 ^ 32) :
    le32 (b.fill off (bytesLE 4 value)) off = value := by
  rw [← natLE_load_four, Buffer.load_fill_of_length _ _ (length_bytesLE 4 value)]
  exact natLE_bytesLE_of_lt h

variable {b off} {c : Buffer UInt8}

lemma le16_congr (h : ∀ i < 2, b (off + i) = c (off + i)) : le16 b off = le16 c off := by
  rw [← natLE_load_two, ← natLE_load_two, Buffer.load_congr h]

lemma le32_congr (h : ∀ i < 4, b (off + i) = c (off + i)) : le32 b off = le32 c off := by
  rw [← natLE_load_four, ← natLE_load_four, Buffer.load_congr h]

end Fields

def diagText (buf : Buffer UInt8) : List UInt8 := cstr buf 9 maxChnlBuff

variable {φ : Type}

/-- The three checks on the data command, each for one type of request. -/
def EngCallback.dataCmdMatches (cb : EngCallback φ) (buf : Buffer UInt8) : Prop :=
  (buf 7 = 0x5d → le32 buf 9 = cb.diagApCmd.toNat) ∧
  (buf 7 = 0x62 → le16 buf 9 = cb.diagApCmd.toNat) ∧
  (buf 7 = 0x38 → cb.diagApCmd = 0xffffffff ∨ (buf 9).toNat = cb.diagApCmd.toNat)

instance (cb : EngCallback φ) (buf : Buffer UInt8) : Decidable (cb.dataCmdMatches buf) :=
  inferInstanceAs (Decidable (_ ∧ _ ∧ _))

def EngCallback.cmdMatches (cb : EngCallback φ) (F : Funcs φ) (buf : Buffer UInt8) (len : Nat) :
    Bool :=
  match cb.engCmdMatch with
  | none => false
  | some f => F.cmdMatch f buf len = 0

/-- Which function of the entry the loop of `processDiag` goes for. -/
def EngCallback.selects (cb : EngCallback φ) (F : Funcs φ) (buf : Buffer UInt8) (len : Nat) :
    Option FuncKind :=
  if buf 7 = 0x68 ∧ cb.atCmd ≠ [] ∧ strcasestr (diagText buf) cb.atCmd then some .linuxcmd
  else if (buf 7 = cb.type ∧ buf 8 = cb.subtype) ∨ cb.cmdMatches F buf len = true then
    if cb.dataCmdMatches buf then some .diag else none
  else none

/-- The AT command of the entry is a prefix of the text in `buf`, whatever the case. -/
def EngCallback.atMatches (cb : EngCallback φ) (buf : Buffer UInt8) : Prop :=
  cb.atCmd ≠ [] ∧ strcaseeq (buf.load 0 cb.atCmd.length) cb.atCmd

instance (cb : EngCallback φ) (buf : Buffer UInt8) : Decidable (cb.atMatches buf) :=
  inferInstanceAs (Decidable (_ ∧ _))

/-- The function that the loop calls, and what it does. -/
def EngCallback.call (cb : EngCallback φ) (F : Funcs φ) (kind : FuncKind) (s : Served) (len : Nat) :
    Option Call :=
  match kind with
  | .linuxcmd => cb.engLinuxcmdFunc.map fun f => F.linuxcmd f s.req s.rsp
  | _ => cb.engDiagFunc.map fun f => F.diag f s.req len s.rsp maxChnlBuff

/-- A diag function gets `write_interface` first, when the entry has a function for it. -/
def EngCallback.announce (cb : EngCallback φ) (k : Nat) (kind : FuncKind) (s : Served) : Served :=
  if kind = .diag ∧ cb.engSetWriteinterfaceFunc.isSome = true then
    { s with calls := s.calls ++ [⟨k, .setWriteinterface, 0⟩] }
  else s

/-- The request counts as processed by the entry. -/
def EngCallback.accept (cb : EngCallback φ) (s : Served) : Served :=
  { s with cpProcess := s.cpProcess || cb.alsoNeedToCp, bProcess := true }

def Served.setCur (s : Served) (k : Nat) : Served :=
  { s with mgr := { s.mgr with lpCurCB := some k } }

/-- The loop of `processDiag`, from entry `k` on. -/
def diagLoop (F : Funcs φ) (dispatch : Dispatch) (len : Nat) :
    List (EngCallback φ) → Nat → Served → Except Fault Served
  | [], _, s => .ok s
  | cb :: cbs, k, s =>
    let s := s.setCur k
    match cb.selects F s.req len with
    | none => diagLoop F dispatch len cbs (k + 1) s
    | some kind =>
      match cb.call F kind s len with
      | none => .ok s
      | some c =>
        match c.run dispatch s.mgr with
        | .error e => .error e
        | .ok a =>
          let s := (cb.announce k kind s).called k kind a
          if a.rlen = engDiagRetUnsupport then diagLoop F dispatch len cbs (k + 1) s
          else .ok (cb.accept s)

/-- Nobody has processed the request, and it is data for an open session. -/
def Served.isData (s : Served) : Prop :=
  s.bProcess = false ∧ s.req 7 = 0x68 ∧ ¬strcasestr (diagText s.req) (ofString "AT")

instance (s : Served) : Decidable s.isData := inferInstanceAs (Decidable (_ ∧ _ ∧ _))

/-- The end of `processDiag`: the owner of the session gets the data, or the session ends. -/
def pendingCall (cbs : List (EngCallback φ)) (F : Funcs φ) (dispatch : Dispatch) (s : Served) :
    Except Fault Served :=
  if s.isData then
    match s.mgr.lpPendingCB with
    | none => .ok { s with offered := true }
    | some k =>
      match cbs[k]? with
      | none => .error .nullFunc
      | some cb =>
        match cb.call F .linuxcmd s 0 with
        | none => .error .nullFunc
        | some c =>
          match c.run dispatch s.mgr with
          | .error e => .error e
          | .ok a => .ok { s.called k .linuxcmd a with offered := true }
  else .ok { s with mgr := s.mgr.clearPendingMark }

def processDiag (cbs : List (EngCallback φ)) (F : Funcs φ) (dispatch : Dispatch) (m : MgrState)
    (buf rsp : Buffer UInt8) (len : Nat) : Except Fault Served :=
  match diagLoop F dispatch len cbs 0 (.start m buf rsp) with
  | .error e => .error e
  | .ok s => pendingCall cbs F dispatch s

/-- The loop of `processAT`, from entry `k` on. -/
def atLoop (F : Funcs φ) (dispatch : Dispatch) :
    List (EngCallback φ) → Nat → Served → Except Fault Served
  | [], _, s => .ok s
  | cb :: cbs, k, s =>
    if cb.atMatches s.req then
      match cb.call F .linuxcmd s 0 with
      | none => .ok s
      | some c =>
        match c.run dispatch s.mgr with
        | .error e => .error e
        | .ok a =>
          let s := s.called k .linuxcmd a
          if a.rlen = engDiagRetUnsupport then atLoop F dispatch cbs (k + 1) s
          else .ok (cb.accept s)
    else atLoop F dispatch cbs (k + 1) s

def processAT (cbs : List (EngCallback φ)) (F : Funcs φ) (dispatch : Dispatch) (m : MgrState)
    (buf rsp : Buffer UInt8) : Except Fault Served :=
  atLoop F dispatch cbs 0 (.start m buf rsp)

def processSmp (m : MgrState) (buf rsp : Buffer UInt8) (len : Nat) : Served :=
  { Served.start m buf (rsp.fill 0 (buf.load 0 len)) with rlen := len }

/-- `processWcnAT`. What the BQB library does with the text is not seen here. -/
def processWcnAT (cbs : List (EngCallback φ)) (F : Funcs φ) (dispatch : Dispatch) (m : MgrState)
    (buf rsp : Buffer UInt8) : Except Fault Served :=
  match processAT cbs F dispatch m buf rsp with
  | .error e => .error e
  | .ok s =>
    if 0 < s.rlen ∨ cstr s.rsp 0 maxChnlBuff ≠ [] then .ok s
    else .ok { s with rlen := engDiagNoResponse }

/-- `CModuleMgr::process`, once the modules are loaded. -/
def mgrProcess (cbs : List (EngCallback φ)) (F : Funcs φ) (dispatch : Dispatch) (type : DataType)
    (m : MgrState) (buf rsp : Buffer UInt8) (len : Nat) : Except Fault Served :=
  match type with
  | .at => processAT cbs F dispatch m buf rsp
  | .wcnAt => processWcnAT cbs F dispatch m buf rsp
  | .diag => processDiag cbs F dispatch m buf rsp len
  | .agdspLog | .agdspMem | .agdspPcm => .ok (processSmp m buf rsp len)
  | _ => .ok (.start m buf rsp)

/-- What the functions reach through the write interface, `n` calls deep: `process` with a
response buffer of its own. -/
def dispatchAt (cbs : List (EngCallback φ)) (F : Funcs φ) : Nat → Dispatch
  | 0 => fun _ _ _ _ => .error .depth
  | n + 1 => fun type m buf len =>
    mgrProcess cbs F (dispatchAt cbs F n) type m buf (fun _ => 0) len

end EngPc
