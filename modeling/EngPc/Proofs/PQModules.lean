import EngPc.Lib.Machine
import EngPc.Proofs.PQObject

/-!
# Requests for one module

A tuning read or write names a module by its number. The core answers with the structure of that
module, or replaces it, at the place that the layout gives; the last chip alone can serve all
numbers, and starts to read a configuration.
-/

namespace EngPc
open Buffer CLayout Except LittleEndian

inductive TuneCmd
  | startReadCfg | rdTuningReg | wrTuningReg | rdTuningXml | wrTuningXml
  deriving DecidableEq, Repr

structure TuneRequest where
  cmd : TuneCmd
  dev : Device
  buf : Block UInt8
  rsp : Buffer UInt8

def TuneRequest.run (s : TuneState) (r : TuneRequest) : Except PQFault (TuneState × TuneOut) :=
  match r.cmd with
  | .startReadCfg => s.startReadCfg r.dev r.buf r.rsp
  | .rdTuningReg => s.rdTuning r.dev r.buf r.rsp .parseReg
  | .wrTuningReg => s.wrTuning r.dev r.buf r.rsp .updateReg
  | .rdTuningXml => s.rdTuning r.dev r.buf r.rsp .parseXml
  | .wrTuningXml => s.wrTuning r.dev r.buf r.rsp .updateXml

/-- A module that a core has: the parser, and the place and size of the structure. -/
structure OwnModule where
  module : PQModule
  parser : ParserClass
  off : Nat
  size : Nat
  deriving DecidableEq, Repr

def IPCore.own (ver : IPCore) (m : PQModule) : Option OwnModule :=
  match ver.parsers m, ver.region m with
  | some parser, some (off, size) => some ⟨m, parser, off, size⟩
  | _, _ => none

/-- The module that the number in a request stands for; none for the version, for other numbers and
for a module that the core does not have. -/
def TuneRequest.served (ver : IPCore) (r : TuneRequest) : Option OwnModule :=
  match pqModule (le16 r.buf.cells 13) with
  | none | some .version => none
  | some m => ver.own m

/-- `ctx` with the structure of a module replaced by the data of the request. -/
def OwnModule.replaced (m : OwnModule) (ctx frame : Buffer UInt8) : Buffer UInt8 :=
  fun k => if m.off ≤ k ∧ k < m.off + m.size then frame (15 + (k - m.off)) else ctx k

/-- Nothing has changed and no parser was called. -/
def untouched (s : TuneState) (res : TuneState × TuneOut) : Prop :=
  res.1 = s ∧ res.2.calls = []

def rdMeets (ver : IPCore) (f : ParserFn) (s : TuneState) (r : TuneRequest)
    (res : TuneState × TuneOut) : Prop :=
  match r.served ver with
  | none => untouched s res
  | some m =>
    res.2.calls = [⟨m.parser, f, s.ctx.cells⟩] ∧
    res.1.ctx.cells = (r.dev.parser m.module f).ctx s.ctx.cells ∧
    res.2.reply.ret = 16 + m.size ∧
    res.2.reply.rsp.load 15 m.size = res.1.ctx.cells.load m.off m.size

def wrMeets (ver : IPCore) (f : ParserFn) (s : TuneState) (r : TuneRequest)
    (res : TuneState × TuneOut) : Prop :=
  match r.served ver with
  | none => untouched s res
  | some m =>
    15 + m.size ≤ r.buf.size ∧
    res.2.calls = [⟨m.parser, f, m.replaced s.ctx.cells r.buf.cells⟩] ∧
    res.1.ctx.cells = (r.dev.parser m.module f).ctx (m.replaced s.ctx.cells r.buf.cells)

/-- A step that calls a parser which is not there has no result. -/
def TuneRequest.meets (ver : IPCore) (s : TuneState) (r : TuneRequest)
    (res : TuneState × TuneOut) : Prop :=
  match r.cmd with
  | .startReadCfg => ∀ call ∈ res.2.calls, ∃ m, ver.parsers m = some call.parser
  | .rdTuningReg => rdMeets ver .parseReg s r res
  | .wrTuningReg => wrMeets ver .updateReg s r res
  | .rdTuningXml => rdMeets ver .parseXml s r res
  | .wrTuningXml => wrMeets ver .updateXml s r res

/-- A request for HSV, and the start of a read, need the last chip; a write brings all of its data. -/
def TuneRequest.ready (ver : IPCore) (r : TuneRequest) : Prop :=
  match r.cmd with
  | .startReadCfg => ver = .dpuR4p0
  | .rdTuningReg | .rdTuningXml => le16 r.buf.cells 13 = 5 → ver = .dpuR4p0
  | .wrTuningReg | .wrTuningXml =>
    (le16 r.buf.cells 13 = 5 → ver = .dpuR4p0) ∧
      ∀ m, r.served ver = some m → 15 + m.size ≤ r.buf.size

/-- A core that serves a module has its members set, and its place in `ctx`. -/
structure OwnModule.Of (m : OwnModule) (ver : IPCore) (obj : CoreObject) : Prop where
  parser : obj.parser m.module = some (some m.parser)
  size : obj.size m.module = some m.size
  addr : obj.addr m.module = .ok m.off
  fits : m.off + m.size ≤ ver.tuneSizes
  pos : 0 < m.size
  reply : 16 + m.size ≤ maxChnlBuff

/-- A core has all modules but HSV, and the last chip has that too. -/
lemma own_cases (ver : IPCore) {m : PQModule} (hm : m ≠ .version) :
    (∃ own, ver.own m = some own ∧ own.module = m ∧ own.Of ver (pqCreateTuneCore ver) ∧
      (m = .hsv → ver = .dpuR4p0)) ∨
    (ver.own m = none ∧ m = .hsv ∧ ver ≠ .dpuR4p0 ∧
      ∀ c, (pqCreateTuneCore ver).parser .hsv ≠ some (some c)) := by
  cases m with
  | version => exact absurd rfl hm
  | hsv =>
    cases ver with
    | dpuR4p0 =>
      exact .inl ⟨_, rfl, rfl, ⟨rfl, rfl, rfl, by decide, by decide, by decide⟩, fun _ => rfl⟩
    | _ => exact .inr ⟨rfl, rfl, by decide, fun c h => nomatch h⟩
  | _ =>
    apply Or.inl
    cases ver <;> exact ⟨_, rfl, rfl, ⟨rfl, rfl, rfl, by decide, by decide, by decide⟩,
      fun h => nomatch h⟩

lemma pqModule_eq_hsv (n : Nat) : pqModule n = some .hsv ↔ n = 5 := by
  unfold pqModule
  rcases n with _ | _ | _ | _ | _ | _ | n <;> simp

/-- What the number in a request stands for. -/
inductive TuneRequest.Names (ver : IPCore) (r : TuneRequest) : Prop
  | nothing (h : pqModule (le16 r.buf.cells 13) = none ∨
        pqModule (le16 r.buf.cells 13) = some .version)
      (hserved : r.served ver = none) (hcode : le16 r.buf.cells 13 ≠ 5)
  | own (m : OwnModule) (h : pqModule (le16 r.buf.cells 13) = some m.module)
      (hversion : m.module ≠ .version) (hserved : r.served ver = some m)
      (hof : m.Of ver (pqCreateTuneCore ver)) (hchip : le16 r.buf.cells 13 = 5 → ver = .dpuR4p0)
  | missing (h : pqModule (le16 r.buf.cells 13) = some .hsv) (hserved : r.served ver = none)
      (hcode : le16 r.buf.cells 13 = 5) (hchip : ver ≠ .dpuR4p0)
      (hptr : ∀ c, (pqCreateTuneCore ver).parser .hsv ≠ some (some c))

lemma served_of_module {ver : IPCore} {r : TuneRequest} {m : PQModule}
    (hm : pqModule (le16 r.buf.cells 13) = some m) (hversion : m ≠ .version) :
    r.served ver = ver.own m := by
  rw [TuneRequest.served, hm]
  cases m with
  | version => exact absurd rfl hversion
  | _ => rfl

lemma names (ver : IPCore) (r : TuneRequest) : r.Names ver := by
  have hcode := pqModule_eq_hsv (le16 r.buf.cells 13)
  cases hm : pqModule (le16 r.buf.cells 13) with
  | none =>
    rw [hm] at hcode
    exact .nothing (.inl hm) (by rw [TuneRequest.served, hm]) fun h => nomatch hcode.mpr h
  | some m =>
    rw [hm] at hcode
    by_cases hversion : m = .version
    · subst hversion
      exact .nothing (.inr hm) (by rw [TuneRequest.served, hm]) fun h => nomatch hcode.mpr h
    have hserved : r.served ver = ver.own m := served_of_module hm hversion
    apply (own_cases ver hversion).elim
    · rintro ⟨own, hown, rfl, hof, hchip⟩
      exact .own own hm hversion (hserved.trans hown) hof
        fun h => hchip (Option.some.inj (hcode.mpr h))
    · rintro ⟨hnone, rfl, hchip, hptr⟩
      exact .missing hm (hserved.trans hnone) (hcode.mp rfl) hchip hptr

section Tuning

variable {s : TuneState} {dev : Device} {buf : Block UInt8} {rsp : Buffer UInt8} {f : ParserFn}
  {m : PQModule}

lemma rdTuning_plain (h : pqModule (le16 buf.cells 13) = none ∨
    pqModule (le16 buf.cells 13) = some .version) :
    ∃ reply, s.rdTuning dev buf rsp f = .ok (s, ⟨reply, []⟩) := by
  unfold TuneState.rdTuning
  cases h with
  | inl h =>
    rw [h]
    exact ⟨_, rfl⟩
  | inr h =>
    rw [h]
    exact ⟨_, rfl⟩

lemma wrTuning_plain (h : pqModule (le16 buf.cells 13) = none ∨
    pqModule (le16 buf.cells 13) = some .version) :
    ∃ reply, s.wrTuning dev buf rsp f = .ok (s, ⟨reply, []⟩) := by
  unfold TuneState.wrTuning
  cases h with
  | inl h =>
    rw [h]
    exact ⟨_, rfl⟩
  | inr h =>
    rw [h]
    exact ⟨_, rfl⟩

lemma rdTuning_module (h : pqModule (le16 buf.cells 13) = some m) (hversion : m ≠ .version) :
    s.rdTuning dev buf rsp f = (do
      let r ← s.callParser dev f m
      let sizes ← member (r.1.obj.size m)
      let addr ← r.1.obj.addr m
      let data ← access (r.1.ctx.read addr sizes)
      let reply ← answer
        (sendReply buf.cells (rsp.fill 15 data) maxChnlBuff 15 (16 + sizes) r.2.2)
      return (r.1, ⟨reply, [r.2.1]⟩)) := by
  unfold TuneState.rdTuning
  rw [h]
  cases m with
  | version => exact absurd rfl hversion
  | _ => rfl

lemma wrTuning_module (h : pqModule (le16 buf.cells 13) = some m) (hversion : m ≠ .version) :
    s.wrTuning dev buf rsp f = (do
      let sizes ← member (s.obj.size m)
      let addr ← s.obj.addr m
      let data ← access (buf.read 15 sizes)
      let ctx ← access (s.ctx.write addr data)
      let r ← TuneState.callParser { s with ctx := ctx } dev f m
      let reply ← answer (sendValue buf.cells rsp maxChnlBuff 0 r.2.2)
      return (r.1, ⟨reply, [r.2.1]⟩)) := by
  unfold TuneState.wrTuning
  rw [h]
  cases m with
  | version => exact absurd rfl hversion
  | _ => rfl

lemma rdTuning_own {ver : IPCore} {own : OwnModule} (hof : own.Of ver s.obj)
    (hctx : s.ctx.size = ver.tuneSizes) (h : pqModule (le16 buf.cells 13) = some own.module)
    (hversion : own.module ≠ .version) :
    ∃ reply, s.rdTuning dev buf rsp f =
        .ok (⟨s.obj, ⟨(dev.parser own.module f).ctx s.ctx.cells, s.ctx.size⟩⟩,
          ⟨reply, [⟨own.parser, f, s.ctx.cells⟩]⟩) ∧
      reply.ret = 16 + own.size ∧
      reply.rsp.load 15 own.size =
        ((dev.parser own.module f).ctx s.ctx.cells).load own.off own.size := by
  obtain ⟨reply, hreply, hret, hdata⟩ := answer_sendData buf.cells rsp
    (length_load ((dev.parser own.module f).ctx s.ctx.cells) own.off own.size) hof.reply
    (dev.parser own.module f).failed
  refine ⟨reply, ?_, hret, hdata⟩
  have hread := @Block.read_eq _ ⟨(dev.parser own.module f).ctx s.ctx.cells, s.ctx.size⟩
    own.off own.size (.inr (hctx ▸ hof.fits))
  rw [rdTuning_module h hversion, callParser_ok hof.parser, Except.ok_bind]
  dsimp only
  rw [hof.size, member_some, Except.ok_bind, hof.addr, Except.ok_bind, hread]
  change (answer _ >>= _) = _
  rw [hreply]
  rfl

lemma fill_eq_replaced (own : OwnModule) (ctx frame : Buffer UInt8) :
    ctx.fill own.off (frame.load 15 own.size) = own.replaced ctx frame := by
  funext k
  rw [OwnModule.replaced]
  by_cases hk : own.off ≤ k ∧ k < own.off + own.size
  · obtain ⟨i, rfl⟩ := Nat.exists_eq_add_of_le hk.1
    rw [if_pos hk, Nat.add_sub_cancel_left]
    exact (fill_inside ctx (by rw [length_load]; omega)).trans (getElem_load frame 15 _ i _)
  · rw [if_neg hk, fill_outside]
    rw [length_load]
    omega

lemma wrTuning_own {ver : IPCore} {own : OwnModule} (hof : own.Of ver s.obj)
    (hctx : s.ctx.size = ver.tuneSizes) (h : pqModule (le16 buf.cells 13) = some own.module)
    (hversion : own.module ≠ .version) (hframe : 15 + own.size ≤ buf.size) :
    ∃ reply, s.wrTuning dev buf rsp f =
      .ok (⟨s.obj, ⟨(dev.parser own.module f).ctx (own.replaced s.ctx.cells buf.cells),
          s.ctx.size⟩⟩,
        ⟨reply, [⟨own.parser, f, own.replaced s.ctx.cells buf.cells⟩]⟩) := by
  obtain ⟨reply, hreply, -⟩ := answer_sendValue buf.cells rsp (Nat.two_pow_pos 32)
    (dev.parser own.module f).failed
  refine ⟨reply, ?_⟩
  have hread := @Block.read_eq _ buf 15 own.size (.inr hframe)
  have hwrite := @Block.write_eq _ s.ctx own.off (buf.cells.load 15 own.size)
    (.inr (by rw [length_load, hctx]; exact hof.fits))
  rw [fill_eq_replaced] at hwrite
  have hcall := @callParser_ok dev f
    ⟨s.obj, ⟨own.replaced s.ctx.cells buf.cells, s.ctx.size⟩⟩ own.module own.parser hof.parser
  rw [wrTuning_module h hversion, hof.size, member_some, Except.ok_bind, hof.addr, Except.ok_bind,
    hread]
  change (access (s.ctx.write own.off (buf.cells.load 15 own.size)) >>= _) = _
  rw [hwrite]
  change (TuneState.callParser _ dev f own.module >>= _) = _
  rw [hcall, Except.ok_bind]
  dsimp only
  rw [hreply]
  rfl

lemma rdTuning_missing {P : TuneState × TuneOut → Prop}
    (h : pqModule (le16 buf.cells 13) = some m) (hversion : m ≠ .version)
    (hptr : ∀ c, s.obj.parser m ≠ some (some c)) : ¬(s.rdTuning dev buf rsp f).Succeeds P := by
  rw [rdTuning_module h hversion, succeeds_bind]
  intro hs
  obtain ⟨c, hc⟩ := callParser_succeeds hs
  exact hptr c hc

lemma wrTuning_missing {P : TuneState × TuneOut → Prop}
    (h : pqModule (le16 buf.cells 13) = some m) (hversion : m ≠ .version)
    (hptr : ∀ c, s.obj.parser m ≠ some (some c)) : ¬(s.wrTuning dev buf rsp f).Succeeds P := by
  rw [wrTuning_module h hversion, succeeds_bind]
  intro hs
  obtain ⟨sizes, -, hs⟩ := succeeds_iff.mp hs
  rw [succeeds_bind] at hs
  obtain ⟨addr, -, hs⟩ := succeeds_iff.mp hs
  rw [succeeds_bind] at hs
  obtain ⟨data, -, hs⟩ := succeeds_iff.mp hs
  rw [succeeds_bind] at hs
  obtain ⟨ctx, -, hs⟩ := succeeds_iff.mp hs
  rw [succeeds_bind] at hs
  obtain ⟨c, hc⟩ := callParser_succeeds hs
  exact hptr c hc

lemma wrTuning_short {own : OwnModule} {ver : IPCore} {P : TuneState × TuneOut → Prop}
    (hof : own.Of ver s.obj) (h : pqModule (le16 buf.cells 13) = some own.module)
    (hversion : own.module ≠ .version) (hframe : ¬15 + own.size ≤ buf.size) :
    ¬(s.wrTuning dev buf rsp f).Succeeds P := by
  rw [wrTuning_module h hversion, hof.size, member_some, Except.ok_bind, hof.addr, Except.ok_bind,
    succeeds_bind, succeeds_access, Block.succeeds_read]
  intro hs
  exact hframe (hs.1.resolve_left hof.pos.ne')

end Tuning

lemma callAll_parsers {dev : Device} {f : ParserFn} {ms : List PQModule} {s : TuneState}
    {P : TuneState × List ParserCall × Bool → Prop}
    (h : (TuneState.callAll dev f ms s).Succeeds P) :
    ∀ m ∈ ms, ∃ c, s.obj.parser m = some (some c) := by
  induction ms generalizing s P with
  | nil => exact fun m hm => absurd hm List.not_mem_nil
  | cons m ms ih =>
    rw [TuneState.callAll, succeeds_bind] at h
    obtain ⟨c, hc⟩ := callParser_succeeds h
    rw [callParser_ok hc, succeeds_ok, succeeds_bind] at h
    intro m' hm'
    rw [List.mem_cons] at hm'
    apply hm'.elim
    · rintro rfl
      exact ⟨c, hc⟩
    · exact fun hmem => ih h m' hmem

lemma callsFrom_parsers {dev : Device} {f : ParserFn} {cls : PQModule → ParserClass}
    {ms : List PQModule} {ctx : Buffer UInt8} :
    ∀ call ∈ callsFrom dev f cls ms ctx, ∃ m ∈ ms, call.parser = cls m := by
  induction ms generalizing ctx with
  | nil => exact fun call h => absurd h List.not_mem_nil
  | cons m ms ih =>
    intro call hcall
    rw [callsFrom, List.mem_cons] at hcall
    apply hcall.elim
    · rintro rfl
      exact ⟨m, List.mem_cons_self, rfl⟩
    · intro hmem
      obtain ⟨m', hm', heq⟩ := ih call hmem
      exact ⟨m', List.mem_cons_of_mem _ hm', heq⟩

lemma startReadCfg_ok {s : TuneState} {dev : Device} {buf : Block UInt8} {rsp : Buffer UInt8}
    {sizes : Nat} (hsizes : s.obj.tuneSizes = some sizes) (hlt : sizes < 2 ^ 32)
    {cls : PQModule → ParserClass}
    (hcls : ∀ m ∈ allParsers, s.obj.parser m = some (some (cls m))) :
    ∃ reply, s.startReadCfg dev buf rsp =
      .ok (⟨s.obj, ⟨ctxAfter dev .parseXml allParsers s.ctx.cells, s.ctx.size⟩⟩,
        ⟨reply, callsFrom dev .parseXml cls allParsers s.ctx.cells⟩) := by
  obtain ⟨reply, hreply, -⟩ := answer_sendValue buf.cells rsp hlt
    (allParsers.any fun m => (dev.parser m .parseXml).failed)
  refine ⟨reply, ?_⟩
  rw [TuneState.startReadCfg, callAll_ok hcls, Except.ok_bind]
  dsimp only
  rw [hsizes, member_some, Except.ok_bind, hreply]
  rfl

/-- The object stays as it was built, and `ctx` keeps its size. -/
structure BuiltAs (ver : IPCore) (s : TuneState) : Prop where
  obj : s.obj = pqCreateTuneCore ver
  size : s.ctx.size = ver.tuneSizes

lemma builtAs (ver : IPCore) (cells : Buffer UInt8) : BuiltAs ver (.built ver cells) :=
  ⟨rfl, built_ctx_size ver cells⟩

section Steps

variable {ver : IPCore} {s : TuneState} (r : TuneRequest) (f : ParserFn)

/-- A request that finds what it needs is answered as it should be, and another one is not answered
at all. -/
def decided (ver : IPCore) (ready : Prop) (res : Except PQFault (TuneState × TuneOut))
    (meets : TuneState × TuneOut → Prop) : Prop :=
  (ready ∧ ∃ r, res = .ok r ∧ meets r ∧ BuiltAs ver r.1) ∨ (¬ready ∧ ∀ r, res ≠ .ok r)

variable {r f} (h : BuiltAs ver s)

include h

lemma startReadCfg_decided (hcmd : r.cmd = .startReadCfg) :
    decided ver (ver = .dpuR4p0) (s.startReadCfg r.dev r.buf r.rsp) (r.meets ver s) := by
  by_cases hchip : ver = .dpuR4p0
  · subst hchip
    have hlt : IPCore.tuneSizes .dpuR4p0 < 2 ^ 32 := (tuneSizes_le _).trans_lt (by decide)
    have hsizes : s.obj.tuneSizes = some (IPCore.tuneSizes .dpuR4p0) := by
      rw [h.obj]
      rfl
    have hcls : ∀ m ∈ allParsers, s.obj.parser m = some (some (lastChipClass m)) := by
      rw [h.obj]
      exact lastChip_parsers
    obtain ⟨reply, hrun⟩ := @startReadCfg_ok s r.dev r.buf r.rsp _ hsizes hlt _ hcls
    refine .inl ⟨rfl, _, hrun, ?_, ⟨h.obj, h.size⟩⟩
    rw [TuneRequest.meets, hcmd]
    intro call hcall
    obtain ⟨m, hm, heq⟩ := callsFrom_parsers call hcall
    refine ⟨m, ?_⟩
    rw [IPCore.parsers, lastChip_parsers m hm, heq]
    rfl
  · refine .inr ⟨hchip, fun res hres => ?_⟩
    have hs : (s.startReadCfg r.dev r.buf r.rsp).Succeeds fun _ => True := by
      rw [hres]
      exact trivial
    rw [TuneState.startReadCfg, succeeds_bind] at hs
    obtain ⟨c, hc⟩ := callAll_parsers hs .hsv (by decide)
    rw [h.obj] at hc
    cases ver with
    | dpuR4p0 => exact hchip rfl
    | _ => cases hc

lemma rdTuning_decided : decided ver (le16 r.buf.cells 13 = 5 → ver = .dpuR4p0)
    (s.rdTuning r.dev r.buf r.rsp f) (rdMeets ver f s r) := by
  cases names ver r with
  | nothing hnone hserved hcode =>
    obtain ⟨reply, hrun⟩ := @rdTuning_plain s r.dev r.buf r.rsp f hnone
    refine .inl ⟨fun h => absurd h hcode, _, hrun, ?_, h⟩
    rw [rdMeets, hserved]
    exact ⟨rfl, rfl⟩
  | own own hm hversion hserved hof hchip =>
    rw [← h.obj] at hof
    obtain ⟨reply, hrun, hret, hdata⟩ := @rdTuning_own s r.dev r.buf r.rsp f ver own hof h.size hm
      hversion
    refine .inl ⟨hchip, _, hrun, ?_, ⟨h.obj, h.size⟩⟩
    rw [rdMeets, hserved]
    exact ⟨rfl, rfl, hret, hdata⟩
  | missing hm hserved hcode hchip hptr =>
    rw [← h.obj] at hptr
    refine .inr ⟨fun hready => hchip (hready hcode), fun res hres => ?_⟩
    apply @rdTuning_missing s r.dev r.buf r.rsp f .hsv (fun _ => True) hm (by decide) hptr
    rw [hres]
    exact trivial

lemma wrTuning_decided : decided ver ((le16 r.buf.cells 13 = 5 → ver = .dpuR4p0) ∧
      ∀ m, r.served ver = some m → 15 + m.size ≤ r.buf.size)
    (s.wrTuning r.dev r.buf r.rsp f) (wrMeets ver f s r) := by
  cases names ver r with
  | nothing hnone hserved hcode =>
    obtain ⟨reply, hrun⟩ := @wrTuning_plain s r.dev r.buf r.rsp f hnone
    refine .inl ⟨⟨fun h => absurd h hcode, fun m hm => ?_⟩, _, hrun, ?_, h⟩
    · rw [hserved] at hm
      cases hm
    · rw [wrMeets, hserved]
      exact ⟨rfl, rfl⟩
  | own own hm hversion hserved hof hchip =>
    rw [← h.obj] at hof
    by_cases hframe : 15 + own.size ≤ r.buf.size
    · obtain ⟨reply, hrun⟩ := @wrTuning_own s r.dev r.buf r.rsp f ver own hof h.size hm hversion
        hframe
      refine .inl ⟨⟨hchip, fun m hm' => ?_⟩, _, hrun, ?_, ⟨h.obj, h.size⟩⟩
      · rw [hserved] at hm'
        cases hm'
        exact hframe
      · rw [wrMeets, hserved]
        exact ⟨hframe, rfl, rfl⟩
    · refine .inr ⟨fun hready => hframe (hready.2 own hserved), fun res hres => ?_⟩
      apply @wrTuning_short s r.dev r.buf r.rsp f own ver (fun _ => True) hof hm hversion hframe
      rw [hres]
      exact trivial
  | missing hm hserved hcode hchip hptr =>
    rw [← h.obj] at hptr
    refine .inr ⟨fun hready => hchip (hready.1 hcode), fun res hres => ?_⟩
    apply @wrTuning_missing s r.dev r.buf r.rsp f .hsv (fun _ => True) hm (by decide) hptr
    rw [hres]
    exact trivial

lemma run_decided : decided ver (r.ready ver) (r.run s) (r.meets ver s) := by
  obtain ⟨cmd, dev, buf, rsp⟩ := r
  cases cmd with
  | startReadCfg => exact startReadCfg_decided h rfl
  | rdTuningReg | rdTuningXml => exact rdTuning_decided h
  | wrTuningReg | wrTuningXml => exact wrTuning_decided h

end Steps

/-- On a new core of any chip, the requests of a run are answered through the core's own parsers, each
in the place of its module, exactly when no request but one for the last chip names HSV or starts
to read a configuration, and every write brings all the data of its module. -/
theorem module_requests_iff (ver : IPCore) (cells : Buffer UInt8) (reqs : List TuneRequest) :
    Machine.Meets (fun s r => r.run s) (fun s r => r.meets ver s) (.built ver cells) reqs ↔
      ∀ r ∈ reqs, TuneRequest.ready ver r := by
  apply Machine.meets_iff_forall (BuiltAs ver) ?_ ?_ _ _ (builtAs ver cells)
  · intro s r h
    apply (run_decided (r := r) h).elim
    · rintro ⟨hready, res, hres, hmeets, -⟩
      exact iff_of_true hready ⟨res, hres, hmeets⟩
    · rintro ⟨hnot, hnone⟩
      exact iff_of_false hnot fun ⟨res, hres, _⟩ => hnone res hres
  · intro s r res h hres
    apply (run_decided (r := r) h).elim
    · rintro ⟨-, res', hres', -, hinv⟩
      rw [hres] at hres'
      cases hres'
      exact hinv
    · rintro ⟨-, hnone⟩
      exact absurd hres (hnone res)

/-- A request to read the structure of HSV from the file. -/
def hsvRequest : TuneRequest where
  cmd := .rdTuningXml
  dev := bareDevice
  buf := .ofList 0 [0x7e, 0, 0, 0, 0, 14, 0, 0x5d, 1, 13, 0, 0, 0, 5, 0, 0x7e]
  rsp := fun _ => 0

/-- The pointer that the request is about is NULL in one core and was never set in two others. -/
theorem hsv_parser_missing :
    ¬Machine.Meets (fun s r => TuneRequest.run s r) (fun s r => r.meets .dpuR2p0 s)
      (.built .dpuR2p0 fun _ => 0) [hsvRequest] ∧
    ¬Machine.Meets (fun s r => TuneRequest.run s r) (fun s r => r.meets .dpuLiteR2p0 s)
      (.built .dpuLiteR2p0 fun _ => 0) [hsvRequest] := by
  have hnull : hsvRequest.run (.built .dpuR2p0 fun _ => 0) = .error .badPointer := rfl
  have hunset : hsvRequest.run (.built .dpuLiteR2p0 fun _ => 0) = .error .unset := rfl
  rw [Machine.Meets, hnull, Machine.Meets, hunset]
  exact ⟨id, id⟩

end EngPc
