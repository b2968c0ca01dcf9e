import EngPc.Lib.LittleEndian
import EngPc.Model.Types

/-!
# The header of a diag message

`MSG_HEAD_T` of sprd_fts_diag.h, packed, in the byte order of the target.
-/

namespace EngPc
open LittleEndian

structure MsgHead where
  seqNum : UInt32
  len : UInt16
  type : UInt8
  subtype : UInt8
  deriving DecidableEq, Repr

def MsgHead.bytes (h : MsgHead) : List UInt8 :=
  bytesLE 4 h.seqNum.toNat ++ bytesLE 2 h.len.toNat ++ [h.type, h.subtype]

@[simp] lemma MsgHead.length_bytes (h : MsgHead) : h.bytes.length = msgHeadLen := by
  simp [MsgHead.bytes, msgHeadLen]

end EngPc
