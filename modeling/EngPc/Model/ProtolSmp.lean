import EngPc.Model.MsgHead
import EngPc.Model.Trans

/-!
# The audio DSP channels

`CProtolSmp` and `CDataAgdsp` of server/trans: what is read is put behind an SMP header and a
message header and goes to the destination port.
-/

namespace EngPc
open LittleEndian

structure CProtolSmp extends CTrans where
  sn : UInt32
  deriving DecidableEq, Repr

/-- A new object after `CTrans::init`. -/
def CProtolSmp.init (dataType : DataType) (apProcess : Int) : CProtolSmp where
  dataType := dataType
  apProcess := apProcess
  retType := .noDeal
  frameType := .complete
  sn := 0

/-- `AUDIO_DSP_LOG`, `AUDIO_DSP_PCM` and `AUDIO_DSP_MEM`. -/
def DataType.audioDsp : DataType → Option UInt8
  | .agdspLog => some 0
  | .agdspPcm => some 1
  | .agdspMem => some 2
  | _ => none

/-- The checksum over LEN, CHANNEL, TYPE and RESERVED, of which the low half is sent. -/
def smpChecksum (pktLen : Nat) : UInt32 :=
  let n := UInt32.ofNat pktLen + 0x5a5a
  let n := (n &&& (0xffff : UInt32)) + (n >>> (16 : UInt32))
  ~~~n

/-- The twenty bytes that `ag_dsplog_add_headers` writes. -/
def agDsplogAddHeaders (sn : UInt32) (len : Nat) (type : UInt8) : List UInt8 :=
  let pktLen := len + 8 + 8
  [0x7e, 0x7e, 0x7e, 0x7e] ++ bytesLE 2 pktLen ++ [0, 0] ++ [0x5a, 0x5a] ++
    bytesLE 2 (smpChecksum pktLen).toNat ++
    MsgHead.bytes ⟨sn, UInt16.ofNat (len + 8), 0x9d, 0x40 ||| type⟩

/-- What `encode` leaves. -/
structure SmpEncoded where
  obj : CProtolSmp
  buff : Buffer UInt8
  len : Nat

def CProtolSmp.encode (o : CProtolSmp) (buff : Buffer UInt8) (nlen : Nat) : SmpEncoded :=
  let buff := buff.copy 20 0 nlen
  match o.dataType.audioDsp with
  | none => ⟨o, buff, nlen⟩
  | some type =>
    ⟨{ o with sn := o.sn + 1 }, buff.fill 0 (agDsplogAddHeaders o.sn nlen type), nlen + 20⟩

/-- `CDataAgdsp::process`: the response buffer and `retlen`. -/
def CDataAgdsp.process (req rsp : Buffer UInt8) (reqlen : Nat) : Buffer UInt8 × Nat × DymicRet :=
  (rsp.fill 0 (req.load 0 reqlen), reqlen, .encodeToDest)

/-- The body of the loop of `trans` for what has been read; `decode` changes nothing here. -/
def agdspStep (dstType : PortType) (o : CProtolSmp) (r : Received) :
    CProtolSmp × List (PortEnd × List UInt8) :=
  if (o.frameType = .complete ∨ o.frameType = .halfContinue) ∧ o.apProcess = 1 then
    let p := CDataAgdsp.process r.buff (fun _ => 0) r.len
    let e := CProtolSmp.encode { o with retType := p.2.2 } p.1 p.2.1
    (e.obj, [(.dst, e.buff.load 0 e.len)])
  else (o, if dstType = .loop then [] else [(.dst, r.bytes)])

/-- What goes to the destination port while `rs` are read, one write after the other. -/
def agdspPackets (dstType : PortType) : CProtolSmp → List Received → List (List UInt8)
  | _, [] => []
  | o, r :: rs =>
    let s := agdspStep dstType o r
    s.2.map Prod.snd ++ agdspPackets dstType s.1 rs

end EngPc
