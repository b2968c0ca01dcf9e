import EngPc.Model.Miscdata
import EngPc.Model.MiscdataRw
import EngPc.Model.MsgHead
import EngPc.Model.Trans

/-!
# A diag channel with the miscdata partition behind it

`miscdata_offset_handler` of libmiscdata works on the partition, so what it does for a request
depends on the requests before. A round of the channel goes together with the partition that its
functions find and leave.
-/

namespace EngPc
open LittleEndian

section Channel

variable {φ : Type} [DecidableEq φ] (build : MiscBuild) (ι : MiscdataFunc → φ)

/-- The handler is called with the buffers of the channel. -/
def exCall (buf : Buffer UInt8) (len : Nat) (rsp : Buffer UInt8) : MiscExCall where
  buf := ⟨buf, len⟩
  rsp := ⟨rsp, maxChnlBuff⟩
  rsplen_int := show maxChnlBuff < 2 ^ 31 by decide

/-- The functions of the modules while the partition is `store`. What an access outside of the
buffers does is left to `others`, as is every other function. -/
def partitionFuncs (store : Buffer UInt8) (others : Funcs φ) : Funcs φ :=
  { others with
    diag := fun f buf len rsp rsplen =>
      if f = ι .miscdataOffsetHandler then
        match engDiagProductCtrlEx build .fine .fine store (exCall buf len rsp) with
        | .ok r => .ret r.rspLen r.buf r.rsp.cells
        | .error _ => others.diag f buf len rsp rsplen
      else others.diag f buf len rsp rsplen }

/-- The handler is among the functions that were called. -/
def handlerCalled (cbs : List (EngCallback φ)) (calls : List Called) : Bool :=
  calls.any fun c =>
    c.kind = .diag && cbs[c.entry]?.bind EngCallback.engDiagFunc = some (ι .miscdataOffsetHandler)

/-- The partition after a request. -/
def partitionAfter (cbs : List (EngCallback φ)) (store : Buffer UInt8) (buf : Buffer UInt8)
    (len : Nat) (calls : List Called) : Buffer UInt8 :=
  if handlerCalled ι cbs calls then
    match engDiagProductCtrlEx build .fine .fine store (exCall buf len fun _ => 0) with
    | .ok r => r.store
    | .error _ => store
  else store

/-- A round of the channel; the functions of the round are those of the other modules. -/
def partitionRound (cbs : List (EngCallback φ)) (n : Nat) (s : TransState × Buffer UInt8)
    (q : Round φ) : Except Fault ((TransState × Buffer UInt8) × TransOut) :=
  let c := checkframe s.1.obj.apProcess q.read.buff q.read.len
  let d := s.1.obj.decode c.buff c.nlen
  match transRound cbs n s.1 { q with funcs := partitionFuncs build ι s.2 q.funcs } with
  | .error e => .error e
  | .ok (t, out) => .ok ((t, partitionAfter build ι cbs s.2 d.buff d.len out.calls), out)

end Channel

inductive AskOp
  | read (len : Nat)
  | write (data : List UInt8)
  deriving DecidableEq, Repr

namespace AskOp

def subtype : AskOp → UInt8
  | .read _ => 0x12
  | .write _ => 0x13

/-- The bytes of the partition that it is about. -/
def size : AskOp → Nat
  | .read len => len
  | .write data => data.length

def data : AskOp → List UInt8
  | .read _ => []
  | .write data => data

end AskOp

/-- A request for the partition; `len` is the header's field, which the handler does not look at. -/
structure MiscAsk where
  seqNum : UInt32
  len : UInt16
  offset : Nat
  op : AskOp
  deriving DecidableEq, Repr

namespace MiscAsk

variable (a : MiscAsk) (store : Buffer UInt8)

def fields : List UInt8 := bytesLE 4 a.offset ++ bytesLE 4 a.op.size

def packet : List UInt8 :=
  (MsgHead.mk a.seqNum a.len 0x0d a.op.subtype).bytes ++ a.fields ++ a.op.data

/-- A read is answered with its own header and fields and the bytes, a write with its header. -/
def reply : List UInt8 :=
  match a.op with
  | .read n =>
    (MsgHead.mk a.seqNum (UInt16.ofNat (msgHeadLen + 2 * 4 + n)) 0x0d 0).bytes ++ a.fields ++
      store.load a.offset n
  | .write _ => (MsgHead.mk a.seqNum (UInt16.ofNat msgHeadLen) 0x0d 0).bytes

def after : Buffer UInt8 :=
  match a.op with
  | .read _ => store
  | .write data => store.fill a.offset data

end MiscAsk

end EngPc
