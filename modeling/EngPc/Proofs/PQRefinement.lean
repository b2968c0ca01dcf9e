import EngPc.Lib.Refines
import EngPc.Proofs.PQSizes
import Mathlib.Data.List.Forall2

/-!
# The core in memory and the core of the handlers

The commands are modelled twice: over the object in memory, where an access may leave its block or a
member may not be set, and over the values that the handlers see. Where the first goes on, the second
does the same: over any run of requests the replies are the same, and so are `ctx` and the offset.
-/

namespace EngPc
open Buffer CLayout CString LittleEndian Machine Refinement

/-- The core that the handlers see is the object in memory. -/
structure Represents (s : TuneState) (c : PQTuneCore) : Prop where
  obj : s.obj = { pqCreateTuneCore c.version with offset := some c.offset }
  cells : s.ctx.cells = c.ctx
  size : s.ctx.size = c.version.tuneSizes

lemma represents_built (ver : IPCore) (cells : Buffer UInt8) :
    Represents (.built ver cells) ⟨ver, cells, 0⟩ := by
  refine ⟨?_, rfl, built_ctx_size ver cells⟩
  cases ver <;> rfl

section Steps

variable {γ δ : Type} {S : γ → δ → Prop} {m : Except HandlerFault δ} {b : Block UInt8} {off : Nat}

lemma refines_member {α : Type} {o : Option α} {f : α → Except PQFault γ}
    (h : ∀ a, o = some a → Refines S (f a) m) : Refines S (member o >>= f) m := by
  cases o with
  | none => exact refines_error _ _
  | some a => exact h a rfl

lemma refines_read {n : Nat} {f : List UInt8 → Except PQFault γ}
    (h : b.Holds off n → Refines S (f (b.cells.load off n)) m) :
    Refines S (access (b.read off n) >>= f) m := by
  apply refines_bind_left
  intro l hl
  rw [← Except.succeeds_eq_iff, succeeds_access, Block.succeeds_read] at hl
  obtain ⟨hholds, rfl⟩ := hl
  exact h hholds

lemma refines_write {l : List UInt8} {f : Block UInt8 → Except PQFault γ}
    (h : b.Holds off l.length → Refines S (f ⟨b.cells.fill off l, b.size⟩) m) :
    Refines S (access (b.write off l) >>= f) m := by
  apply refines_bind_left
  intro b' hb'
  rw [← Except.succeeds_eq_iff, succeeds_access, Block.succeeds_write] at hb'
  obtain ⟨hholds, rfl⟩ := hb'
  exact h hholds

lemma refines_readLE {f : Nat → Except PQFault γ}
    (h : off + 4 ≤ b.size → Refines S (f (le32 b.cells off)) m) :
    Refines S (readLE b off 4 >>= f) m := by
  apply refines_bind_left
  intro value hvalue
  rw [← Except.succeeds_eq_iff, succeeds_readLE] at hvalue
  obtain ⟨hin, rfl⟩ := hvalue
  exact h hin

lemma refines_sprintf8x {value : Nat} {f : Block UInt8 → Except PQFault γ}
    (h : off + 10 ≤ b.size → Refines S
      (f ⟨b.cells.fill off (hex8 (UInt32.ofNat value) ++ [0x20, 0]), b.size⟩) m) :
    Refines S (sprintf8x b off value >>= f) m := by
  apply refines_bind_left
  intro b' hb'
  rw [← Except.succeeds_eq_iff, succeeds_sprintf8x] at hb'
  obtain ⟨hin, rfl⟩ := hb'
  exact h hin

end Steps

section Core

variable {s : TuneState} {c : PQTuneCore} (h : Represents s c)
include h

lemma Represents.tuneSizes : s.obj.tuneSizes = some c.tuneSizes := by
  rw [h.obj]
  obtain ⟨ver, ctx, offset⟩ := c
  have hsizes : ∀ ver : IPCore, (CType.struct ver.parm).size =
      (PQTuneCore.mk ver (fun _ => 0) 0).tuneSizes := by
    intro ver
    cases ver <;> decide
  apply Eq.trans _ (congrArg some (hsizes ver))
  cases ver <;> rfl

lemma Represents.offset : s.obj.offset = some c.offset := by
  rw [h.obj]

lemma Represents.withCtx (cells : Buffer UInt8) :
    Represents ⟨s.obj, ⟨cells, s.ctx.size⟩⟩ { c with ctx := cells } :=
  ⟨h.obj, rfl, h.size⟩

lemma Represents.withOffset (n : Nat) :
    Represents { s with obj := { s.obj with offset := some n } } { c with offset := n } := by
  refine ⟨?_, h.cells, h.size⟩
  dsimp only
  rw [h.obj]

lemma Represents.parser {m : PQModule} {p : ParserClass} (hp : s.obj.parser m = some (some p)) :
    ¬(m = .hsv ∧ c.version ≠ .dpuR4p0) := by
  rw [h.obj] at hp
  obtain ⟨ver, ctx, offset⟩ := c
  rintro ⟨rfl, hver⟩
  cases ver with
  | dpuR4p0 => exact hver rfl
  | _ => cases hp

lemma Represents.moduleSize {m : PQModule} {n : Nat} (hn : s.obj.size m = some n) : n = c.size m := by
  rw [h.obj] at hn
  obtain ⟨ver, ctx, offset⟩ := c
  cases ver <;> cases m <;> first | exact (Option.some.inj hn).symm | cases hn

variable {γ δ : Type} {S : γ → δ → Prop} {f : Nat → Except PQFault γ} {n : Except HandlerFault δ}

lemma Represents.refines_size {m : PQModule} (hf : Refines S (f (c.size m)) n) :
    Refines S (member (s.obj.size m) >>= f) n := by
  apply refines_member
  intro size hsize
  rw [h.moduleSize hsize]
  exact hf

/-- The sums of the sizes are the places of the modules. -/
lemma Represents.refines_addr {m : PQModule} (hf : Refines S (f (c.moduleOffset m)) n) :
    Refines S (s.obj.addr m >>= f) n := by
  have hmain : mainversion.size = 8 := rfl
  have hplace : ∀ k, k = c.moduleOffset m → Refines S (f k) n := by
    rintro k rfl
    exact hf
  cases m with
  | version | gamma => exact hf
  | bld | cms | abc | hsv =>
    simp only [CoreObject.addr, bind_assoc]
    repeat apply h.refines_size
    apply hplace
    rw [PQTuneCore.moduleOffset]
    omega

lemma callParser_refines (dev : Device) (f : ParserFn) (m : PQModule) :
    Refines (fun r r' => Represents r.1 r'.1 ∧ r.2.2 = r'.2) (s.callParser dev f m)
      (c.parse dev f m) := by
  apply refines_member
  intro ptr hptr
  cases ptr with
  | none => exact refines_error _ _
  | some p =>
    rw [PQTuneCore.parse, if_neg (h.parser hptr)]
    apply refines_ok
    rw [← h.cells]
    exact ⟨h.withCtx _, rfl⟩

end Core

lemma callAll_refines (dev : Device) (f : ParserFn) (ms : List PQModule) {s : TuneState}
    {c : PQTuneCore} (h : Represents s c) :
    Refines (fun r r' => Represents r.1 r'.1 ∧ r.2.2 = r'.2) (TuneState.callAll dev f ms s)
      (PQTuneCore.parseAll dev f ms c) := by
  induction ms generalizing s c with
  | nil => exact refines_ok ⟨h, rfl⟩
  | cons m ms ih =>
    rw [TuneState.callAll, PQTuneCore.parseAll]
    apply (callParser_refines h dev f m).step
    rintro r r' hr ⟨hrep, hfailed⟩
    rw [hr]
    apply (ih hrep).step
    rintro rs rs' hrs ⟨hrep', hfailed'⟩
    dsimp only
    rw [hrs]
    apply refines_ok
    refine ⟨hrep', ?_⟩
    dsimp only
    rw [hfailed, hfailed']

/-- The states stay together and the replies are the same. -/
def SameOut (r : TuneState × TuneOut) (r' : PQTuneCore × HandlerOut) : Prop :=
  Represents r.1 r'.1 ∧ r.2.reply = r'.2

section Commands

variable {s : TuneState} {c : PQTuneCore} (h : Represents s c) (dev : Device) (buf : Block UInt8)
  (rsp : Buffer UInt8)
include h

lemma answer_refines (r : Except HandlerFault HandlerOut) (calls : List ParserCall) :
    Refines SameOut (answer r >>= fun reply => .ok (s, ⟨reply, calls⟩))
      (r.map fun o => (c, o)) := by
  cases r with
  | error e => exact refines_error _ _
  | ok o => exact refines_ok ⟨h, rfl⟩

lemma startReadCfg_refines :
    Refines SameOut (s.startReadCfg dev buf rsp) (c.startReadCfg dev buf.cells rsp maxChnlBuff) := by
  apply (callAll_refines dev .parseXml allParsers h).step
  rintro r r' hr ⟨hrep, hfailed⟩
  rw [PQTuneCore.startReadCfg, hr, hrep.tuneSizes, hfailed, member_some, Except.ok_bind]
  exact answer_refines hrep _ _

lemma startWriteCfg_refines :
    Refines SameOut (s.startWriteCfg buf rsp) (c.startWriteCfg buf.cells rsp maxChnlBuff) := by
  rw [TuneState.startWriteCfg, PQTuneCore.startWriteCfg, h.tuneSizes, member_some, Except.ok_bind]
  exact answer_refines (h.withOffset 0) _ _

omit h in
/-- A length field below 12 makes a chunk of nearly 2 ^ 32 bytes. -/
lemma chunkSize_fits (hsmall : chunkSize buf ≤ 65536) :
    12 ≤ le16 buf.cells 5 ∧ chunkSize buf = le16 buf.cells 5 - 12 := by
  have hlow := (buf.cells 5).toNat_lt
  have hhigh := (buf.cells (5 + 1)).toNat_lt
  unfold chunkSize le16 at *
  omega

lemma midstWriteCfg_refines :
    Refines SameOut (s.midstWriteCfg buf rsp) (c.midstWriteCfg buf.cells rsp maxChnlBuff) := by
  rw [TuneState.midstWriteCfg, h.offset, member_some, Except.ok_bind]
  apply refines_write
  intro hholds
  rw [length_load] at hholds
  have hsize := h.size.trans_le (tuneSizes_le c.version)
  have hsmall : chunkSize buf ≤ 65536 := by
    unfold Block.Holds at hholds
    omega
  obtain ⟨hfits, hchunk⟩ := chunkSize_fits buf hsmall
  rw [PQTuneCore.midstWriteCfg, if_neg (Nat.not_lt.mpr hfits), hchunk, h.cells]
  exact answer_refines ((h.withCtx (c.ctx.fill c.offset _)).withOffset _) _ _

lemma endReadCfg_refines :
    Refines SameOut (s.endReadCfg buf rsp)
      ((PQTuneCore.endReadCfg buf.cells rsp maxChnlBuff).map fun o => (c, o)) :=
  answer_refines h _ _

lemma endWriteCfg_refines :
    Refines SameOut (s.endWriteCfg dev buf rsp) (c.endWriteCfg dev buf.cells rsp maxChnlBuff) := by
  rw [TuneState.endWriteCfg, PQTuneCore.endWriteCfg, h.offset, h.tuneSizes, member_some, member_some,
    Except.ok_bind, Except.ok_bind]
  split_ifs
  · apply (callAll_refines dev .updateXml allParsers h).step
    rintro r r' hr ⟨hrep, hfailed⟩
    rw [hr, hfailed]
    exact answer_refines hrep _ _
  · exact answer_refines h _ _

lemma rdTuning_refines (f : ParserFn) :
    Refines SameOut (s.rdTuning dev buf rsp f) (c.rdTuning dev buf.cells rsp maxChnlBuff f) := by
  rw [TuneState.rdTuning, PQTuneCore.rdTuning]
  rcases pqModule (le16 buf.cells 13) with _ | m
  · exact answer_refines h _ _
  cases m with
  | version => exact answer_refines h _ _
  | _ =>
    apply (callParser_refines h dev f _).step
    rintro r r' hr ⟨hrep, hfailed⟩
    dsimp only
    rw [hr, hfailed]
    apply hrep.refines_size
    apply hrep.refines_addr
    apply refines_read
    intro hholds
    rw [hrep.cells]
    exact answer_refines hrep _ _

lemma wrTuning_refines (f : ParserFn) :
    Refines SameOut (s.wrTuning dev buf rsp f) (c.wrTuning dev buf.cells rsp maxChnlBuff f) := by
  rw [TuneState.wrTuning, PQTuneCore.wrTuning]
  rcases pqModule (le16 buf.cells 13) with _ | m
  · exact answer_refines h _ _
  cases m with
  | version => exact answer_refines h _ _
  | _ =>
    apply h.refines_size
    apply h.refines_addr
    apply refines_read
    intro hframe
    apply refines_write
    intro hholds
    rw [h.cells]
    apply (callParser_refines (h.withCtx _) dev f _).step
    rintro r r' hr ⟨hrep, hfailed⟩
    dsimp only
    rw [hr, hfailed]
    exact answer_refines hrep _ _

end Commands

/-- The replies agree in the result and in the response buffer. -/
def SameReply (o : Int × Block UInt8) (o' : HandlerOut) : Prop :=
  o.1 = o'.ret ∧ o.2.cells = o'.rsp

lemma finishReply_refines (cells : Buffer UInt8) {rspLen size : Nat} (hpos : 8 ≤ rspLen)
    (hsmall : size < 2 ^ 31) (failed : Bool) :
    Refines SameReply (finishReply ⟨cells, size⟩ rspLen)
      (if size < rspLen then .error .outOfBounds
      else .ok ⟨rspLen, (cells.fill 5 (bytesLE 2 (rspLen - 2))).store (rspLen - 1) 0x7e, failed⟩ :
        Except HandlerFault HandlerOut) := by
  apply refines_write
  intro _
  apply refines_write
  intro hholds
  have hfit : rspLen ≤ size := by
    unfold Block.Holds at hholds
    dsimp only [List.length_singleton] at hholds
    omega
  rw [if_neg (Nat.not_lt.mpr hfit), fill_singleton]
  exact refines_ok ⟨if_pos (by omega), rfl⟩

lemma midstReadCfg_refines {s : TuneState} {c : PQTuneCore} (h : Represents s c)
    (buf : Block UInt8) (rsp : Buffer UInt8) :
    Refines SameReply (s.midstReadCfg buf ⟨rsp, maxChnlBuff⟩)
      (c.midstReadCfg buf.cells rsp maxChnlBuff) := by
  apply refines_readLE
  intro _
  apply refines_readLE
  intro _
  apply refines_read
  intro _
  apply refines_write
  intro _
  apply refines_read
  intro hctx
  apply refines_write
  intro hroom
  apply refines_write
  intro _
  have hmax := maxChnlBuff_eq
  have hsize := h.size.trans_le (tuneSizes_le c.version)
  have hfits : 15 + le32 buf.cells 13 ≤ maxChnlBuff := by
    unfold Block.Holds at hctx hroom
    rw [length_load] at hroom
    dsimp only at hroom
    omega
  have hmod : (16 + le32 buf.cells 13) % 2 ^ 32 = 16 + le32 buf.cells 13 :=
    Nat.mod_eq_of_lt (by omega)
  rw [hmod, PQTuneCore.midstReadCfg, if_neg (Nat.not_lt.mpr hfits), sendReply, ← h.cells]
  dsimp only
  have hhead : ∀ cells : Buffer UInt8, ((cells.fill 0 (buf.cells.load 0 13)).fill 15
      (s.ctx.cells.load (le32 buf.cells 17) (le32 buf.cells 13))).fill 13 [0, 0] =
      ((cells.fill 15 (s.ctx.cells.load (le32 buf.cells 17) (le32 buf.cells 13))).fill 13
        [0, 0]).fill 0 (buf.cells.load 0 13) := by
    intro cells
    rw [fill_comm cells (.inl (by rw [length_load]; omega)),
      fill_comm _ (.inl (by rw [length_load]))]
  rw [hhead]
  exact finishReply_refines _ (by omega) (by omega) false

lemma hexStrstoInt_cells {off n i : Nat} {rsp rsp' : Block UInt8} (hsmall : 9 * (i + n) ≤ 2 ^ 32)
    (h : hexStrstoInt longBits off n i rsp = .ok rsp') :
    rsp'.cells = hexStrsToInt rsp.size off n i rsp.cells := by
  induction n generalizing i rsp with
  | zero =>
    cases h
    rfl
  | succ n ih =>
    have hmod : 9 * i % 2 ^ 32 = 9 * i := Nat.mod_eq_of_lt (by omega)
    rw [← Except.succeeds_eq_iff, hexStrstoInt_succ, hmod] at h
    exact ih (by omega) (Except.succeeds_eq_iff.mp h.2.2)

lemma readRegs_refines (dev : Device) (buf : Block UInt8) (rsp : Buffer UInt8) :
    Refines SameReply (tuneReadRegs dev buf ⟨rsp, maxChnlBuff⟩)
      (PQTuneCore.readRegs dev buf.cells rsp maxChnlBuff) := by
  rw [tuneReadRegs, PQTuneCore.readRegs]
  cases dev.openAll regFiles with
  | some e => exact refines_ok ⟨rfl, rfl⟩
  | none =>
    apply refines_readLE
    intro _
    apply refines_readLE
    intro _
    apply refines_write
    intro htext
    apply refines_bind_left
    intro b hb
    apply refines_read
    intro _
    apply refines_write
    intro _
    obtain ⟨hsize, hroom⟩ := hexStrstoInt_room hb
    have hmax := maxChnlBuff_eq
    have hfits : 21 + 4 * le32 buf.cells 13 ≤ maxChnlBuff := by
      by_cases hpos : 0 < le32 buf.cells 13
      · have hlast := hroom hpos
        dsimp only at hlast
        omega
      · omega
    have hregs : 21 + ((dev.readFile .dispcWrRegs (9 * le32 buf.cells 13 % 2 ^ 32)).getD []).length ≤
        maxChnlBuff := by
      unfold Block.Holds at htext
      dsimp only at htext
      omega
    have hcells := hexStrstoInt_cells (by omega) hb
    dsimp only at hsize hcells ⊢
    rw [if_neg (by omega), hsize, hcells, sendReply,
      show (22 + 4 * le32 buf.cells 13) % 2 ^ 32 = 22 + 4 * le32 buf.cells 13 from
        Nat.mod_eq_of_lt (by omega)]
    exact finishReply_refines _ (by omega) (by omega) _

/-- The texts that the loop over the values leaves, with the zero behind the last one. -/
def valuesText (buf : Buffer UInt8) (n off : Nat) : List UInt8 :=
  if n = 0 then [] else regText buf n off ++ [0]

lemma fill_text (cells : Buffer UInt8) (at' : Nat) (value : UInt32) {l : List UInt8}
    (hl : 1 ≤ l.length) :
    (cells.fill at' (hex8 value ++ [0x20, 0])).fill (at' + 9) l =
      cells.fill at' (hex8 value ++ [0x20] ++ l) := by
  have hlen : (hex8 value ++ [0x20]).length = 9 := by
    rw [List.length_append, length_hex8]
    rfl
  have hsplit : hex8 value ++ [0x20, 0] = hex8 value ++ [0x20] ++ [0] := by
    rw [List.append_assoc]
    rfl
  rw [hsplit, ← fill_fill, hlen, @fill_over _ _ _ [0] l hl, ← hlen, fill_fill]

lemma fill_valuesText (cells buf : Buffer UInt8) (n at' off : Nat) :
    (cells.fill at' (hex8 (UInt32.ofNat (le32 buf off)) ++ [0x20, 0])).fill (at' + 9)
      (valuesText buf n (off + 4)) = cells.fill at' (valuesText buf (n + 1) off) := by
  rw [valuesText, valuesText, if_neg (Nat.succ_ne_zero n), regText]
  split_ifs with hn
  · subst hn
    rw [fill_nil, regText, List.append_nil, List.append_assoc]
    rfl
  · rw [fill_text _ _ _ (by rw [List.length_append]; exact Nat.le_add_left _ _),
      List.append_assoc _ _ [0]]

/-- The loop over the values fills the texts in, and every text has its room. -/
lemma refines_printValues {γ δ : Type} {S : γ → δ → Prop} {m : Except HandlerFault δ}
    {f : Block UInt8 → Except PQFault γ} (buf : Block UInt8) {n i : Nat} {rsp : Block UInt8}
    (h : (0 < n → 14 + 9 * (i + n) ≤ rsp.size) → Refines S
      (f ⟨rsp.cells.fill (13 + 9 * i) (valuesText buf.cells n (21 + 4 * i)), rsp.size⟩) m) :
    Refines S (printValues buf n i rsp >>= f) m := by
  induction n generalizing i rsp with
  | zero =>
    have hdone := h fun hpos => absurd hpos (Nat.lt_irrefl 0)
    rw [valuesText, if_pos rfl, fill_nil] at hdone
    exact hdone
  | succ n ih =>
    rw [printValues, bind_assoc]
    apply refines_readLE
    intro _
    rw [bind_assoc]
    apply refines_sprintf8x
    intro hhere
    apply ih
    intro hroom
    rw [← fill_valuesText] at h
    apply h
    intro _
    dsimp only at hroom
    omega

lemma writeRegs_refines (dev : Device) (buf : Block UInt8) (rsp : Buffer UInt8) :
    Refines SameReply (tuneWriteRegs dev buf ⟨rsp, maxChnlBuff⟩)
      (PQTuneCore.writeRegs dev buf.cells rsp maxChnlBuff) := by
  rw [tuneWriteRegs, PQTuneCore.writeRegs]
  cases dev.openAll regFiles with
  | some e => exact refines_ok ⟨rfl, rfl⟩
  | none =>
    apply refines_readLE
    intro _
    apply refines_readLE
    intro _
    apply refines_sprintf8x
    intro _
    apply refines_sprintf8x
    intro htext
    apply refines_bind_left
    intro logged _
    apply refines_printValues
    intro hroom
    apply refines_write
    intro _
    apply refines_write
    intro _
    apply refines_read
    intro _
    apply refines_write
    intro _
    dsimp only at htext hroom ⊢
    generalize (if le32 buf.cells 13 < 2 ^ 31 then le32 buf.cells 13 else 0) = n at hroom ⊢
    have hmax := maxChnlBuff_eq
    have htexts : (hex8 (UInt32.ofNat (le32 buf.cells 17)) ++ [0x20] ++
        hex8 (UInt32.ofNat (le32 buf.cells 13)) ++ [0x20, 0]).length = 19 := by
      simp [length_hex8]
    have hvalues : 13 + (valuesText buf.cells n 21).length ≤ maxChnlBuff := by
      rw [valuesText]
      split_ifs with hn
      · rw [List.length_nil]
        omega
      · have hlast := hroom (Nat.pos_of_ne_zero hn)
        rw [List.length_append, length_regText, List.length_singleton]
        omega
    have hout : ¬(maxChnlBuff < 13 + (hex8 (UInt32.ofNat (le32 buf.cells 17)) ++ [0x20] ++
        hex8 (UInt32.ofNat (le32 buf.cells 13)) ++ [0x20, 0]).length ∨
        maxChnlBuff < 13 + (valuesText buf.cells n 21).length) := by
      rw [htexts]
      omega
    rw [valuesText] at hout
    rw [if_neg hout, ← valuesText, fill_text _ 13 _ (by simp), fill_singleton, ← List.append_assoc]
    have hreply := finishReply_refines
      (((((rsp.fill 13 (hex8 (UInt32.ofNat (le32 buf.cells 17)) ++ [0x20] ++
        hex8 (UInt32.ofNat (le32 buf.cells 13)) ++ [0x20, 0])).fill 13
          (valuesText buf.cells n 21)).store 0 0x7e).fill 13 (bytesLE 4 0)).fill 1
            (buf.cells.load 1 10)) (show 8 ≤ 18 by decide) (show maxChnlBuff < 2 ^ 31 by omega) false
    rw [@if_neg (maxChnlBuff < 18) _ (by omega)] at hreply
    exact hreply

/-- The commands that are modelled over the object in memory. -/
inductive CoreCommand
  | readRegs | writeRegs | startReadCfg | midstReadCfg | endReadCfg | startWriteCfg | midstWriteCfg
  | endWriteCfg | rdTuningReg | wrTuningReg | rdTuningXml | wrTuningXml
  deriving DecidableEq, Repr

def CoreCommand.number : CoreCommand → PQCommand
  | .readRegs => .readRegs
  | .writeRegs => .writeRegs
  | .startReadCfg => .startReadCfg
  | .midstReadCfg => .midstReadCfg
  | .endReadCfg => .endReadCfg
  | .startWriteCfg => .startWriteCfg
  | .midstWriteCfg => .midstWriteCfg
  | .endWriteCfg => .endWriteCfg
  | .rdTuningReg => .rdTuningReg
  | .wrTuningReg => .wrTuningReg
  | .rdTuningXml => .rdTuningXml
  | .wrTuningXml => .wrTuningXml

/-- A command with the frame received, the response buffer before and what its calls meet. -/
structure CoreRequest where
  cmd : CoreCommand
  dev : Device
  buf : Block UInt8
  rsp : Buffer UInt8

section Requests

variable (s : TuneState) (c : PQTuneCore) (r : CoreRequest)

/-- The result and the response buffer that a command leaves. -/
abbrev CoreReply : Type := Int × Buffer UInt8

def TuneOut.coreReply (o : TuneOut) : CoreReply := (o.reply.ret, o.reply.rsp)

/-- The request on the object in memory. -/
def TuneState.serve : Except PQFault (TuneState × CoreReply) :=
  match r.cmd with
  | .readRegs => (tuneReadRegs r.dev r.buf ⟨r.rsp, maxChnlBuff⟩).map fun o => (s, o.1, o.2.cells)
  | .writeRegs => (tuneWriteRegs r.dev r.buf ⟨r.rsp, maxChnlBuff⟩).map fun o => (s, o.1, o.2.cells)
  | .midstReadCfg =>
    (s.midstReadCfg r.buf ⟨r.rsp, maxChnlBuff⟩).map fun o => (s, o.1, o.2.cells)
  | .startReadCfg => (s.startReadCfg r.dev r.buf r.rsp).map fun o => (o.1, o.2.coreReply)
  | .endReadCfg => (s.endReadCfg r.buf r.rsp).map fun o => (o.1, o.2.coreReply)
  | .startWriteCfg => (s.startWriteCfg r.buf r.rsp).map fun o => (o.1, o.2.coreReply)
  | .midstWriteCfg => (s.midstWriteCfg r.buf r.rsp).map fun o => (o.1, o.2.coreReply)
  | .endWriteCfg => (s.endWriteCfg r.dev r.buf r.rsp).map fun o => (o.1, o.2.coreReply)
  | .rdTuningReg => (s.rdTuning r.dev r.buf r.rsp .parseReg).map fun o => (o.1, o.2.coreReply)
  | .wrTuningReg => (s.wrTuning r.dev r.buf r.rsp .updateReg).map fun o => (o.1, o.2.coreReply)
  | .rdTuningXml => (s.rdTuning r.dev r.buf r.rsp .parseXml).map fun o => (o.1, o.2.coreReply)
  | .wrTuningXml => (s.wrTuning r.dev r.buf r.rsp .updateXml).map fun o => (o.1, o.2.coreReply)

/-- The request on the core that the handlers see. -/
def PQTuneCore.serve : Except HandlerFault (PQTuneCore × CoreReply) :=
  (c.run r.dev r.buf.cells r.rsp maxChnlBuff r.cmd.number).map fun o => (o.1, o.2.ret, o.2.rsp)

variable {s c}

lemma serve_out {m : Except PQFault (TuneState × TuneOut)}
    {m' : Except HandlerFault (PQTuneCore × HandlerOut)} (h : Refines SameOut m m') :
    Refines (fun o o' => Represents o.1 o'.1 ∧ o.2 = o'.2)
      (m.map fun o => (o.1, o.2.coreReply)) (m'.map fun o => (o.1, o.2.ret, o.2.rsp)) := by
  apply h.map
  rintro o o' ⟨hrep, hreply⟩
  refine ⟨hrep, ?_⟩
  rw [← hreply]
  rfl

lemma serve_reply (hrep : Represents s c) {m : Except PQFault (Int × Block UInt8)}
    {m' : Except HandlerFault HandlerOut} (h : Refines SameReply m m') :
    Refines (fun o o' => Represents o.1 o'.1 ∧ o.2 = o'.2)
      (m.map fun o => (s, o.1, o.2.cells))
      ((m'.map fun o => (c, o)).map fun o => (o.1, o.2.ret, o.2.rsp)) := by
  intro o ho
  cases m with
  | error e => cases ho
  | ok a =>
    cases ho
    obtain ⟨b, rfl, hret, hrsp⟩ := h a rfl
    exact ⟨_, rfl, hrep, Prod.ext hret hrsp⟩

lemma serve_refines (h : Represents s c) :
    Refines (fun o o' => Represents o.1 o'.1 ∧ o.2 = o'.2) (s.serve r) (c.serve r) := by
  obtain ⟨cmd, dev, buf, rsp⟩ := r
  cases cmd with
  | readRegs => exact serve_reply h (readRegs_refines dev buf rsp)
  | writeRegs => exact serve_reply h (writeRegs_refines dev buf rsp)
  | startReadCfg => exact serve_out (startReadCfg_refines h dev buf rsp)
  | midstReadCfg => exact serve_reply h (midstReadCfg_refines h buf rsp)
  | endReadCfg => exact serve_out (endReadCfg_refines h buf rsp)
  | startWriteCfg => exact serve_out (startWriteCfg_refines h buf rsp)
  | midstWriteCfg => exact serve_out (midstWriteCfg_refines h buf rsp)
  | endWriteCfg => exact serve_out (endWriteCfg_refines h dev buf rsp)
  | rdTuningReg => exact serve_out (rdTuning_refines h dev buf rsp .parseReg)
  | wrTuningReg => exact serve_out (wrTuning_refines h dev buf rsp .updateReg)
  | rdTuningXml => exact serve_out (rdTuning_refines h dev buf rsp .parseXml)
  | wrTuningXml => exact serve_out (wrTuning_refines h dev buf rsp .updateXml)

end Requests

/-- A run of requests on a new core: where the object in memory comes to the end of it, the core of
the handlers gives the same replies, and holds the same bytes afterwards. -/
theorem core_refines (ver : IPCore) (cells : Buffer UInt8) (reqs : List CoreRequest)
    {s : TuneState} {replies : List CoreReply}
    (hrun : run TuneState.serve (.built ver cells) reqs = .ok (s, replies)) :
    ∃ c, run PQTuneCore.serve ⟨ver, cells, 0⟩ reqs = .ok (c, replies) ∧ Represents s c := by
  obtain ⟨⟨c, replies'⟩, hrun', hrep, hreplies⟩ :=
    run_refines (fun s c r => serve_refines r) reqs (represents_built ver cells) _ hrun
  rw [List.forall₂_eq_eq_eq] at hreplies
  subst hreplies
  exact ⟨c, hrun', hrep⟩

/-- The start of a write for the first chip, a chunk of four bytes, and one byte of it read back. -/
def writeThenRead : List CoreRequest :=
  [⟨.startWriteCfg, bareDevice,
      .ofList 0 [0x7e, 0, 0, 0, 0, 16, 0, 0x5d, 1, 8, 0, 0, 0, 0, 0, 0, 0, 0x7e], fun _ => 0⟩,
    ⟨.midstWriteCfg, bareDevice,
      .ofList 0 [0x7e, 0, 0, 0, 0, 16, 0, 0x5d, 1, 9, 0, 0, 0, 1, 2, 3, 4, 0x7e], fun _ => 0⟩,
    ⟨.midstReadCfg, bareDevice, midstReadFrame [2, 0, 0, 0], fun _ => 0⟩]

theorem core_refines_write_then_read :
    ∃ s replies c, run TuneState.serve (.built .dpuR2p0 fun _ => 0) writeThenRead =
        .ok (s, replies) ∧ replies.map (fun r => (r.1, r.2 15)) = [(18, 0), (18, 0), (17, 3)] ∧
      run PQTuneCore.serve ⟨.dpuR2p0, fun _ => 0, 0⟩ writeThenRead = .ok (c, replies) ∧
      Represents s c := by
  have hserved : (run TuneState.serve (.built .dpuR2p0 fun _ => 0) writeThenRead).Succeeds
      fun o => o.2.map (fun r => (r.1, r.2 15)) = [(18, 0), (18, 0), (17, 3)] := by
    decide
  obtain ⟨⟨s, replies⟩, hrun, hreplies⟩ := Except.succeeds_iff.mp hserved
  obtain ⟨c, hrun', hrep⟩ := core_refines .dpuR2p0 (fun _ => 0) writeThenRead hrun
  exact ⟨s, replies, c, hrun, hreplies, hrun', hrep⟩

end EngPc
