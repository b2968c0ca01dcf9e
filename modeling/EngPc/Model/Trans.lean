import EngPc.Model.ModuleMgr
import EngPc.Model.PortRead

/-!
# The transfer loop of a diag channel

`CDataDiag::process`, `pre_write` and `post_write` of server/trans, and the body of the loop of
`CTrans::trans` from a successful read on. A step leaves the bytes written, in order, to the two
ports of the channel.
-/

namespace EngPc
open CString

/-- `CTrans::process`. -/
def CTrans.process (retlen : Int) : DymicRet :=
  if 0 < retlen then .dealSuccess
  else if retlen = engDiagNoResponse then .noResponseToPc
  else .noDeal

/-- What `CDataDiag::process` leaves. -/
structure Processed where
  obj : CProtolDiag
  mgr : MgrState
  ret : DymicRet
  retlen : Int
  rsp : Buffer UInt8
  calls : List Called
  offered : Bool

def rspText (rsp : Buffer UInt8) : List UInt8 := cstr rsp 0 maxChnlBuff

/-- `CDataDiag::process`, up to the PENDING mark. -/
def CDataDiag.finish (o : CProtolDiag) (s : Served) : Processed :=
  let retlen := o.process (rspText s.rsp) s.rlen
  let ret := CTrans.process retlen
  let ret := if ret = .dealSuccess ∧ s.cpProcess = true then .alsoNeedToCp else ret
  if o.checkPending (rspText s.rsp) then
    ⟨{ o with bPending := true }, s.mgr.setPendingMark, ret, retlen, s.rsp, s.calls, s.offered⟩
  else
    ⟨{ o with bPending := false }, s.mgr.clearPendingMark, ret, retlen, s.rsp, s.calls, s.offered⟩

variable {φ : Type}

def CDataDiag.process (cbs : List (EngCallback φ)) (F : Funcs φ) (dispatch : Dispatch)
    (m : MgrState) (o : CProtolDiag) (req rsp : Buffer UInt8) (reqlen : Nat) :
    Except Fault Processed :=
  match mgrProcess cbs F dispatch o.dataType m req rsp reqlen with
  | .error e => .error e
  | .ok s => .ok (CDataDiag.finish o s)

/-- The two ports of a channel. -/
inductive PortEnd
  | src | dst
  deriving DecidableEq, Repr

def emptyDiag : List UInt8 := [0x7e, 0x00, 0x00, 0x00, 0x00, 0x08, 0x00, 0xd5, 0x00, 0x7e]

def okRsp : List UInt8 :=
  [0x7e, 0x00, 0x00, 0x00, 0x00, 0x0e, 0x00, 0x9c, 0x00, 0x0d, 0x0a, 0x4f, 0x4b, 0x0d, 0x0a, 0x7e]

def CDataDiag.preWrite (o : CProtolDiag) : List (PortEnd × List UInt8) :=
  if o.atReply then [(.src, emptyDiag)] else []

def CDataDiag.postWrite (o : CProtolDiag) (buff : Buffer UInt8) : List (PortEnd × List UInt8) :=
  if o.atReply ∧ ¬strcaseeq (rspText buff) (ofString "\r\nOK") then [(.src, okRsp)] else []

/-- One buffer goes out, with what `pre_write` and `post_write` add. -/
def CDataDiag.writeOut (o : CProtolDiag) (port : PortEnd) (buff : Buffer UInt8) (len : Nat) :
    List (PortEnd × List UInt8) :=
  CDataDiag.preWrite o ++ (port, buff.load 0 len) :: CDataDiag.postWrite o buff

/-- The locals and members of `trans` that live from one request to the next. -/
structure TransState where
  obj : CProtolDiag
  ret : DymicRet
  retlen : Int
  deriving DecidableEq, Repr

def TransState.init (dataType : DataType) (apProcess : Int) : TransState :=
  ⟨.init dataType apProcess, .noDeal, 0⟩

/-- What one request leaves: the new state, the writes, the functions called and the text in the
response buffer. -/
structure TransOut where
  writes : List (PortEnd × List UInt8)
  calls : List Called
  text : List UInt8
  offered : Bool
  deriving DecidableEq, Repr

/-- The answer goes back: after `encode`, to the source port or, for ENCODE_TO_DEST, on. -/
def CDataDiag.answer (o : CProtolDiag) (ret : DymicRet) (rsp : Buffer UInt8) (retlen : Int) :
    List (PortEnd × List UInt8) :=
  let e := o.encode rsp retlen
  CDataDiag.writeOut o (if ret = .encodeToDest then .dst else .src) e.1 e.2.toNat

/-- The copy of the request goes on to the destination port. -/
def CDataDiag.forward (o : CProtolDiag) (dstType : PortType) (bk : Buffer UInt8) (rCnt : Nat) :
    List (PortEnd × List UInt8) :=
  if dstType = .loop then [] else CDataDiag.writeOut o .dst bk rCnt

def CDataDiag.writes (o : CProtolDiag) (dstType : PortType) (ret : DymicRet) (rsp : Buffer UInt8)
    (retlen : Int) (bk : Buffer UInt8) (rCnt : Nat) : List (PortEnd × List UInt8) :=
  match ret with
  | .noResponseToPc => []
  | .dealSuccess | .encodeToDest => CDataDiag.answer o ret rsp retlen
  | .alsoNeedToCp => CDataDiag.answer o ret rsp retlen ++ CDataDiag.forward o dstType bk rCnt
  | .noDeal => CDataDiag.forward o dstType bk rCnt

/-- `process` on the decoded request, where the channel processes requests at all. -/
def CDataDiag.handle (cbs : List (EngCallback φ)) (F : Funcs φ) (dispatch : Dispatch)
    (m : MgrState) (t : TransState) (r : Received) : Except Fault Processed :=
  if (t.obj.frameType = .complete ∨ t.obj.frameType = .halfContinue) ∧ t.obj.apProcess = 1 then
    let d := t.obj.decode r.buff r.len
    CDataDiag.process cbs F dispatch m d.obj d.buff (fun _ => 0) d.len
  else .ok ⟨t.obj, m, t.ret, t.retlen, fun _ => 0, [], false⟩

/-- The rest of the round, after `process`. -/
def transEnd (dstType : PortType) (bk : Buffer UInt8) (rCnt : Nat) (p : Processed) :
    (MgrState × TransState) × TransOut :=
  let o : CProtolDiag := { p.obj with retType := p.ret }
  ((p.mgr, ⟨o, p.ret, p.retlen⟩),
    ⟨CDataDiag.writes o dstType p.ret p.rsp p.retlen bk rCnt, p.calls, rspText p.rsp, p.offered⟩)

/-- The body of the loop of `trans` for a request that has been read. -/
def transStep (cbs : List (EngCallback φ)) (F : Funcs φ) (dispatch : Dispatch) (dstType : PortType)
    (m : MgrState) (t : TransState) (r : Received) :
    Except Fault ((MgrState × TransState) × TransOut) :=
  let bk : Buffer UInt8 := Buffer.fill (fun _ => 0) 0 (r.buff.load 0 r.len)
  match CDataDiag.handle cbs F dispatch m t r with
  | .error e => .error e
  | .ok p => .ok (transEnd dstType bk r.len p)

/-- The verdict that `checkframe` leaves in the object while `internal_read` asks it. -/
def CProtolDiag.judge (o : CProtolDiag) (buff : Buffer UInt8) (nlen : Nat) : CProtolDiag :=
  if o.apProcess ≠ 1 then o
  else { o with iCurFrameType := (checkframe o.apProcess buff nlen).type }

/-- A round of the loop: the bytes that the last `checkframe` of the read is about, the manager,
which other channels use too, what the modules do meanwhile, and where requests go. -/
structure Round (φ : Type) where
  read : Received
  mgr : MgrState
  funcs : Funcs φ
  dstType : PortType

/-- The object when `trans` looks at the frame type. -/
def TransState.afterRead (t : TransState) (q : Round φ) : TransState :=
  { t with obj := t.obj.judge q.read.buff q.read.len }

/-- One round, with functions that dispatch at most `n` deep. -/
def transRound (cbs : List (EngCallback φ)) (n : Nat) (t : TransState) (q : Round φ) :
    Except Fault (TransState × TransOut) :=
  let c := checkframe t.obj.apProcess q.read.buff q.read.len
  match transStep cbs q.funcs (dispatchAt cbs q.funcs n) q.dstType q.mgr (t.afterRead q)
      ⟨c.buff, c.nlen⟩ with
  | .error e => .error e
  | .ok r => .ok (r.1.2, r.2)

end EngPc
