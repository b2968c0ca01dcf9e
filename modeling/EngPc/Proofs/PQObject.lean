import EngPc.Model.PQMemory
import EngPc.Proofs.PQTune

/-!
# The PQ cores as they are built

A module's structure begins where the structure behind `ctx` has its member. The commands sum up the
sizes that the constructors have set, which gives the same place. Of the parsers, only the last chip
has all.
-/

namespace EngPc
open Buffer CLayout LittleEndian

/-- The numbers of `PQ_MODULE_TYPE`, in the order of the members. -/
def PQModule.code : PQModule → Nat
  | .version => 0
  | .gamma => 1
  | .bld => 2
  | .cms => 3
  | .abc => 4
  | .hsv => 5

/-- The place and the size of a module's structure: `offsetof` and `sizeof` of the member, if the
structure behind `ctx` has one. -/
def IPCore.region (ver : IPCore) (m : PQModule) : Option (Nat × Nat) :=
  ((offsets 0 ver.parm).zip (ver.parm.map CType.size))[m.code]?

def IPCore.tuneSizes (ver : IPCore) : Nat := (CType.struct ver.parm).size

lemma tuneSizes_le (ver : IPCore) : ver.tuneSizes ≤ 65521 := by
  cases ver <;> decide

lemma built_ctx_size (ver : IPCore) (cells : Buffer UInt8) :
    (TuneState.built ver cells).ctx.size = ver.tuneSizes := by
  cases ver <;> rfl

lemma succeeds_access {α : Type} {P : α → Prop} (r : Except OutOfBounds α) :
    (access r).Succeeds P ↔ r.Succeeds P :=
  Except.succeeds_mapError _ r

/-- The parsers that the constructors of a core create. -/
def IPCore.parsers (ver : IPCore) (m : PQModule) : Option ParserClass :=
  ((pqCreateTuneCore ver).parser m).join

section Calls

variable (dev : Device) (f : ParserFn) (cls : PQModule → ParserClass)

/-- What the calls of some parsers make of `ctx`. -/
def ctxAfter (ms : List PQModule) (ctx : Buffer UInt8) : Buffer UInt8 :=
  ms.foldl (fun ctx m => (dev.parser m f).ctx ctx) ctx

/-- The calls, each with what the calls before have left. -/
def callsFrom : List PQModule → Buffer UInt8 → List ParserCall
  | [], _ => []
  | m :: ms, ctx => ⟨cls m, f, ctx⟩ :: callsFrom ms ((dev.parser m f).ctx ctx)

variable {dev f cls}

lemma callParser_ok {s : TuneState} {m : PQModule} {c : ParserClass}
    (h : s.obj.parser m = some (some c)) :
    s.callParser dev f m = .ok (⟨s.obj, ⟨(dev.parser m f).ctx s.ctx.cells, s.ctx.size⟩⟩,
      ⟨c, f, s.ctx.cells⟩, (dev.parser m f).failed) := by
  rw [TuneState.callParser, h]
  rfl

lemma callParser_succeeds {s : TuneState} {m : PQModule}
    {P : TuneState × ParserCall × Bool → Prop} (h : (s.callParser dev f m).Succeeds P) :
    ∃ c, s.obj.parser m = some (some c) := by
  unfold TuneState.callParser at h
  cases hptr : s.obj.parser m with
  | none =>
    rw [hptr] at h
    exact h.elim
  | some ptr =>
    cases ptr with
    | none =>
      rw [hptr] at h
      exact h.elim
    | some c => exact ⟨c, rfl⟩

lemma callAll_ok {ms : List PQModule} {s : TuneState}
    (h : ∀ m ∈ ms, s.obj.parser m = some (some (cls m))) :
    TuneState.callAll dev f ms s = .ok (⟨s.obj, ⟨ctxAfter dev f ms s.ctx.cells, s.ctx.size⟩⟩,
      callsFrom dev f cls ms s.ctx.cells, ms.any fun m => (dev.parser m f).failed) := by
  induction ms generalizing s with
  | nil => rfl
  | cons m ms ih =>
    have hrest := @ih ⟨s.obj, ⟨(dev.parser m f).ctx s.ctx.cells, s.ctx.size⟩⟩
      fun m hmem => h m (List.mem_cons_of_mem _ hmem)
    rw [TuneState.callAll, callParser_ok (h m List.mem_cons_self), Except.ok_bind]
    dsimp only
    rw [hrest]
    rfl

end Calls

/-- The parsers of the last chip. -/
def lastChipClass : PQModule → ParserClass
  | .version | .gamma => .gammaLiteR2p0
  | .bld => .bldLiteR2p0
  | .cms => .cmsR4p0
  | .abc => .abcR4p0
  | .hsv => .hsv

lemma lastChip_parsers : ∀ m ∈ allParsers,
    (pqCreateTuneCore .dpuR4p0).parser m = some (some (lastChipClass m)) := by decide

lemma answer_sendValue (buf rsp : Buffer UInt8) {value : Nat} (hvalue : value < 2 ^ 32)
    (failed : Bool) : ∃ reply, answer (sendValue buf rsp maxChnlBuff value failed) = .ok reply ∧
      le32 reply.rsp 13 = value := by
  have hcell : ∀ i < 4, (((rsp.fill 13 (bytesLE 4 value)).fill 0 (buf.load 0 13)).fill 5
      (bytesLE 2 16)).store 17 0x7e (13 + i) = rsp.fill 13 (bytesLE 4 value) (13 + i) := by
    intro i hi
    rw [store_ne _ _ (by omega), fill_outside _ (.inr (by rw [length_bytesLE]; omega)),
      fill_outside _ (.inr (by rw [length_load]; omega))]
  refine ⟨_, rfl, ?_⟩
  exact (le32_congr hcell).trans (le32_fill rsp 13 hvalue)

lemma answer_sendData (buf rsp : Buffer UInt8) {data : List UInt8} {n : Nat}
    (hdata : data.length = n) (hmax : 16 + n ≤ maxChnlBuff) (failed : Bool) :
    ∃ reply, answer (sendReply buf (rsp.fill 15 data) maxChnlBuff 15 (16 + n) failed) = .ok reply ∧
      reply.ret = 16 + n ∧ reply.rsp.load 15 n = data := by
  have hcell : ∀ i < n, (((rsp.fill 15 data).fill 0 (buf.load 0 15)).fill 5
      (bytesLE 2 (16 + n - 2))).store (16 + n - 1) 0x7e (15 + i) = rsp.fill 15 data (15 + i) := by
    intro i hi
    rw [store_ne _ _ (by omega), fill_outside _ (.inr (by rw [length_bytesLE]; omega)),
      fill_outside _ (.inr (by rw [length_load]; omega))]
  have hreply : sendReply buf (rsp.fill 15 data) maxChnlBuff 15 (16 + n) failed =
      .ok ⟨(16 + n : Nat), _, failed⟩ := if_neg (Nat.not_lt.mpr hmax)
  refine ⟨_, congrArg answer hreply, by push_cast; rfl, ?_⟩
  exact (load_congr hcell).trans (load_fill_of_length _ _ hdata)

end EngPc
