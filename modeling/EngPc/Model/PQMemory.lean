import EngPc.Lib.Block
import EngPc.Model.PQParm

/-!
# The PQ core as an object in memory

The members that the constructors of `PQTuneCore` and its subclasses set, and the commands as they
use these members, the memory behind `ctx`, the received frame and the response buffer: what
PQTune.lean takes for granted may fail here. The calls of the parsers are recorded.
-/

namespace EngPc
open CLayout CString LittleEndian

inductive PQFault
  | outside (access : OutOfBounds)
  | unset
  | badPointer
  | handler (fault : HandlerFault)
  deriving DecidableEq, Repr

/-! ### The object -/

inductive ParserClass
  | abc | cms | bld | gamma | abcLiteR2p0 | cmsLiteR2p0 | bldLiteR2p0 | gammaLiteR2p0
  | abcR3p0 | abcR4p0 | cmsR4p0 | hsv
  deriving DecidableEq, Repr

/-- The members of a core; `none` stands for one that no constructor has set. A pointer that is set
may be NULL, the second `none`. -/
structure CoreObject where
  version : Option IPCore
  parser : PQModule → Option (Option ParserClass)
  size : PQModule → Option Nat
  ctxSize : Option Nat
  tuneSizes : Option Nat
  offset : Option Nat

def CoreObject.raw : CoreObject := ⟨none, fun _ => none, fun _ => none, none, none, none⟩

/-- The assignments that the constructors share: the parsers and sizes of the modules from gamma to
abc, and the memory for a `pq_tuning_parm`. -/
def CoreObject.create (o : CoreObject) (ver : IPCore) (gamma bld cms abc : ParserClass × CType) :
    CoreObject where
  version := some ver
  parser
    | .gamma => some (some gamma.1)
    | .bld => some (some bld.1)
    | .cms => some (some cms.1)
    | .abc => some (some abc.1)
    | m => o.parser m
  size
    | .gamma => some gamma.2.size
    | .bld => some bld.2.size
    | .cms => some cms.2.size
    | .abc => some abc.2.size
    | m => o.size m
  ctxSize := some (CType.struct ver.parm).size
  tuneSizes := some (CType.struct ver.parm).size
  offset := some 0

def CoreObject.setHsv (o : CoreObject) (ptr : Option ParserClass) (size : Nat) : CoreObject :=
  { o with
    parser := fun m => if m = .hsv then some ptr else o.parser m
    size := fun m => if m = .hsv then some size else o.size m }

def newPQTuneCore (ver : IPCore) : CoreObject :=
  if ver ≠ .dpuR2p0 then .raw
  else (CoreObject.raw.create ver (.gamma, gammaCommon) (.bld, bldCommon) (.cms, cmsCommon)
    (.abc, abcCommon)).setHsv none 0

/-- The base constructor gets the number of this class and returns at once. -/
def newPQTuneCoreLiteR2p0 (ver : IPCore) : CoreObject :=
  let o := newPQTuneCore .dpuLiteR2p0
  if ver ≠ .dpuLiteR2p0 then o
  else o.create ver (.gammaLiteR2p0, gammaCommonSharkl5) (.bldLiteR2p0, bldCommonSharkl5)
    (.cmsLiteR2p0, cmsCommonSharkl5) (.abcLiteR2p0, abcCommonSharkl5)

def newPQTuneCoreR3p0 (ver : IPCore) : CoreObject :=
  let o := newPQTuneCoreLiteR2p0 .dpuR3p0
  if ver ≠ .dpuR3p0 then o
  else o.create ver (.gammaLiteR2p0, gammaCommonSharkl5) (.bldLiteR2p0, bldCommonSharkl5)
    (.cmsLiteR2p0, cmsCommonSharkl5) (.abcR3p0, abcCommonRoc1)

def newPQTuneCoreR4p0 (ver : IPCore) : CoreObject :=
  let o := newPQTuneCoreLiteR2p0 .dpuR4p0
  if ver ≠ .dpuR4p0 then o
  else (o.create ver (.gammaLiteR2p0, gammaCommonSharkl5) (.bldLiteR2p0, bldCommonSharkl5)
    (.cmsR4p0, cmsCommonSharkl5Pro) (.abcR4p0, abcCommonSharkl5Pro)).setHsv (some .hsv)
      hsvCommonSharkl5Pro.size

def pqCreateTuneCore : IPCore → CoreObject
  | .dpuLiteR2p0 => newPQTuneCoreLiteR2p0 .dpuLiteR2p0
  | .dpuR2p0 => newPQTuneCore .dpuR2p0
  | .dpuR3p0 => newPQTuneCoreR3p0 .dpuR3p0
  | .dpuR4p0 => newPQTuneCoreR4p0 .dpuR4p0

/-! ### Members and parsers in use -/

/-- The value of a member. -/
def member {α : Type} : Option α → Except PQFault α
  | none => .error .unset
  | some a => .ok a

@[simp] lemma member_some {α : Type} (a : α) : member (some a) = .ok a := rfl

/-- The place of a module's structure, as the commands sum it up. -/
def CoreObject.addr (o : CoreObject) : PQModule → Except PQFault Nat
  | .version => .ok 0
  | .gamma => .ok mainversion.size
  | .bld => do
    let gamma ← member (o.size .gamma)
    return gamma + mainversion.size
  | .cms => do
    let gamma ← member (o.size .gamma)
    let bld ← member (o.size .bld)
    return gamma + bld + mainversion.size
  | .abc => do
    let gamma ← member (o.size .gamma)
    let bld ← member (o.size .bld)
    let cms ← member (o.size .cms)
    return gamma + bld + cms + mainversion.size
  | .hsv => do
    let gamma ← member (o.size .gamma)
    let bld ← member (o.size .bld)
    let cms ← member (o.size .cms)
    let abc ← member (o.size .abc)
    return gamma + bld + cms + abc + mainversion.size

/-- The core and the memory behind its `ctx`. -/
structure TuneState where
  obj : CoreObject
  ctx : Block UInt8

/-- A new core; `malloc` leaves any bytes in the memory. -/
def TuneState.built (ver : IPCore) (cells : Buffer UInt8) : TuneState :=
  ⟨pqCreateTuneCore ver, ⟨cells, (pqCreateTuneCore ver).ctxSize.getD 0⟩⟩

/-- A call of a parser, with what stands in `ctx` at the call. -/
structure ParserCall where
  parser : ParserClass
  fn : ParserFn
  ctx : Buffer UInt8

/-- What a command leaves beside the state. -/
structure TuneOut where
  reply : HandlerOut
  calls : List ParserCall

/-- `Block.read` and `Block.write` as accesses of a command. -/
def access {α : Type} (r : Except OutOfBounds α) : Except PQFault α := r.mapError .outside

def answer (r : Except HandlerFault HandlerOut) : Except PQFault HandlerOut := r.mapError .handler

def TuneState.callParser (s : TuneState) (dev : Device) (f : ParserFn) (m : PQModule) :
    Except PQFault (TuneState × ParserCall × Bool) := do
  let ptr ← member (s.obj.parser m)
  match ptr with
  | none => .error .badPointer
  | some parser =>
    let run := dev.parser m f
    return ({ s with ctx := ⟨run.ctx s.ctx.cells, s.ctx.size⟩ }, ⟨parser, f, s.ctx.cells⟩,
      run.failed)

def TuneState.callAll (dev : Device) (f : ParserFn) :
    List PQModule → TuneState → Except PQFault (TuneState × List ParserCall × Bool)
  | [], s => .ok (s, [], false)
  | m :: ms, s => do
    let r ← s.callParser dev f m
    let rs ← callAll dev f ms r.1
    return (rs.1, r.2.1 :: rs.2.1, r.2.2 || rs.2.2)

/-! ### The commands -/

section Commands

variable (s : TuneState) (dev : Device) (buf : Block UInt8) (rsp : Buffer UInt8)

def TuneState.startReadCfg : Except PQFault (TuneState × TuneOut) := do
  let r ← TuneState.callAll dev .parseXml allParsers s
  let sizes ← member r.1.obj.tuneSizes
  let reply ← answer (sendValue buf.cells rsp maxChnlBuff sizes r.2.2)
  return (r.1, ⟨reply, r.2.1⟩)

def TuneState.startWriteCfg : Except PQFault (TuneState × TuneOut) := do
  let sizes ← member s.obj.tuneSizes
  let reply ← answer
    (sendValue buf.cells rsp maxChnlBuff (if le32 buf.cells 13 = sizes then 0 else 1) false)
  return ({ s with obj := { s.obj with offset := some 0 } }, ⟨reply, []⟩)

/-- The size of a chunk, in 32 bits. -/
def chunkSize (buf : Block UInt8) : Nat := (le16 buf.cells 5 + (2 ^ 32 - 12)) % 2 ^ 32

def TuneState.midstWriteCfg : Except PQFault (TuneState × TuneOut) := do
  let offset ← member s.obj.offset
  let sizes := chunkSize buf
  let ctx ← access (s.ctx.write offset (buf.cells.load 13 sizes))
  let reply ← answer (sendValue buf.cells rsp maxChnlBuff 0 false)
  return (⟨{ s.obj with offset := some ((offset + sizes) % 2 ^ 32) }, ctx⟩, ⟨reply, []⟩)

/-- `tune_end_read_cfg` uses no member. -/
def TuneState.endReadCfg : Except PQFault (TuneState × TuneOut) := do
  let reply ← answer (sendValue buf.cells rsp maxChnlBuff 0 false)
  return (s, ⟨reply, []⟩)

def TuneState.endWriteCfg : Except PQFault (TuneState × TuneOut) := do
  let offset ← member s.obj.offset
  let sizes ← member s.obj.tuneSizes
  if offset = sizes then
    let r ← TuneState.callAll dev .updateXml allParsers s
    let reply ← answer (sendValue buf.cells rsp maxChnlBuff 0 r.2.2)
    return (r.1, ⟨reply, r.2.1⟩)
  else
    let reply ← answer (sendValue buf.cells rsp maxChnlBuff 1 false)
    return (s, ⟨reply, []⟩)

/-- `tune_rd_tuning_reg` and `tune_rd_tuning_xml`. -/
def TuneState.rdTuning (f : ParserFn) : Except PQFault (TuneState × TuneOut) :=
  match pqModule (le16 buf.cells 13) with
  | none | some .version => do
    let reply ← answer (sendReply buf.cells rsp maxChnlBuff 15 16 false)
    return (s, ⟨reply, []⟩)
  | some m => do
    let r ← s.callParser dev f m
    let sizes ← member (r.1.obj.size m)
    let addr ← r.1.obj.addr m
    let data ← access (r.1.ctx.read addr sizes)
    let reply ← answer
      (sendReply buf.cells (rsp.fill 15 data) maxChnlBuff 15 (16 + sizes) r.2.2)
    return (r.1, ⟨reply, [r.2.1]⟩)

/-- `tune_wr_tuning_reg` and `tune_wr_tuning_xml`. -/
def TuneState.wrTuning (f : ParserFn) : Except PQFault (TuneState × TuneOut) :=
  match pqModule (le16 buf.cells 13) with
  | none => do
    let reply ← answer (sendValue buf.cells rsp maxChnlBuff 1 false)
    return (s, ⟨reply, []⟩)
  | some .version => do
    let reply ← answer (sendValue buf.cells rsp maxChnlBuff 0 false)
    return (s, ⟨reply, []⟩)
  | some m => do
    let sizes ← member (s.obj.size m)
    let addr ← s.obj.addr m
    let data ← access (buf.read 15 sizes)
    let ctx ← access (s.ctx.write addr data)
    let r ← TuneState.callParser { s with ctx := ctx } dev f m
    let reply ← answer (sendValue buf.cells rsp maxChnlBuff 0 r.2.2)
    return (r.1, ⟨reply, [r.2.1]⟩)

end Commands

/-! ### Sizes given by the host

These commands return the length of the reply as an `int`, with the response buffer.
-/

section Sizes

variable (s : TuneState) (dev : Device) (buf rsp : Block UInt8)

def toInt32 (n : Nat) : Int := if n < 2 ^ 31 then n else n - 2 ^ 32

def readLE (b : Block UInt8) (off n : Nat) : Except PQFault Nat := do
  let l ← access (b.read off n)
  return natLE l

/-- The end of a reply: the length, in 32 bits, and the last flag. -/
def finishReply (rsp : Block UInt8) (rspLen : Nat) : Except PQFault (Int × Block UInt8) := do
  let rsp ← access (rsp.write 5 (bytesLE 2 (rspLen - 2)))
  let rsp ← access (rsp.write (rspLen - 1) [0x7e])
  return (toInt32 rspLen, rsp)

def TuneState.midstReadCfg : Except PQFault (Int × Block UInt8) := do
  let sizes ← readLE buf 13 4
  let offset ← readLE buf 17 4
  let head ← access (buf.read 0 13)
  let rsp ← access (rsp.write 0 head)
  let data ← access (s.ctx.read offset sizes)
  let rsp ← access (rsp.write 15 data)
  let rsp ← access (rsp.write 13 [0, 0])
  finishReply rsp ((16 + sizes) % 2 ^ 32)

/-- `strtol` comes to an end in this text: behind blanks, a sign, `0x` and digits something
stands. -/
def strtolEnds (s : List UInt8) : Prop :=
  let s := s.dropWhile fun c => c = 0x20 ∨ 0x09 ≤ c ∧ c ≤ 0x0d
  let s := if s.head? = some 0x2d ∨ s.head? = some 0x2b then s.tail else s
  let s := if strcaseeq (s.take 2) [0x30, 0x78] then s.drop 2 else s
  s.dropWhile (digit · < 16) ≠ []

instance (s : List UInt8) : Decidable (strtolEnds s) := inferInstanceAs (Decidable (_ ≠ _))

/-- `strtol (b + off, NULL, 16)`, with a `long` of `w` bits. -/
def strtolAt (w : Nat) (b : Block UInt8) (off : Nat) : Except PQFault Nat :=
  if strtolEnds (b.cells.load off (b.size - off)) then
    .ok (strtol w 16 (cstr b.cells off (b.size - off)) % 2 ^ 32).toNat
  else .error (.outside ⟨off, b.size - off + 1⟩)

/-- `HexStrstoInt`, with `j` of 32 bits. -/
def hexStrstoInt (w off : Nat) : Nat → Nat → Block UInt8 → Except PQFault (Block UInt8)
  | 0, _, rsp => .ok rsp
  | n + 1, i, rsp => do
    let value ← strtolAt w rsp (off + 9 * i % 2 ^ 32)
    let rsp ← access (rsp.write (off + 4 * i) (bytesLE 4 value))
    hexStrstoInt w off n (i + 1) rsp

def tuneReadRegs : Except PQFault (Int × Block UInt8) :=
  match dev.openAll regFiles with
  | some e => .ok (e.val, rsp)
  | none => do
    let length ← readLE buf 13 4
    let _offset ← readLE buf 17 4
    let rsp ← access (rsp.write 21 ((dev.readFile .dispcWrRegs (9 * length % 2 ^ 32)).getD []))
    let rsp ← hexStrstoInt longBits 21 length 0 rsp
    let head ← access (buf.read 0 13)
    let rsp ← access (rsp.write 0 head)
    finishReply rsp ((22 + 4 * length) % 2 ^ 32)

/-- `sprintf (dst, "%8x ", value)`. -/
def sprintf8x (rsp : Block UInt8) (off value : Nat) : Except PQFault (Block UInt8) :=
  access (rsp.write off (hex8 (UInt32.ofNat value) ++ [0x20, 0]))

/-- The loop over the values of the request. -/
def printValues (buf : Block UInt8) : Nat → Nat → Block UInt8 → Except PQFault (Block UInt8)
  | 0, _, rsp => .ok rsp
  | n + 1, i, rsp => do
    let value ← readLE buf (21 + 4 * i) 4
    let rsp ← sprintf8x rsp (13 + 9 * i) value
    printValues buf n (i + 1) rsp

def tuneWriteRegs : Except PQFault (Int × Block UInt8) :=
  match dev.openAll regFiles with
  | some e => .ok (e.val, rsp)
  | none => do
    let offset ← readLE buf 17 4
    let length ← readLE buf 13 4
    let rsp ← sprintf8x rsp 13 offset
    let rsp ← sprintf8x rsp 22 length
    let dataLen := if length < 2 ^ 31 then length else 0
    let _logged ← readLE buf 21 4
    let rsp ← printValues buf dataLen 0 rsp
    let rsp ← access (rsp.write 0 [0x7e])
    let rsp ← access (rsp.write 13 (bytesLE 4 0))
    let head ← access (buf.read 1 10)
    let rsp ← access (rsp.write 1 head)
    finishReply rsp 18

end Sizes

end EngPc
