import EngPc.Proofs.PQObject

/-!
# Sizes given by the host

Three commands take offsets and lengths of 32 bits from the request and use them as they are. The
lemmas say for each access when it stays in its block, for the loops when all of theirs do, and
for the end when the length fits its field.
-/

namespace EngPc
open Buffer CLayout CString Except LittleEndian

section Access

variable {b : Block UInt8} {off : Nat}

lemma succeeds_readLE {P : Nat → Prop} :
    (readLE b off 4).Succeeds P ↔ off + 4 ≤ b.size ∧ P (le32 b.cells off) := by
  rw [readLE, succeeds_bind, succeeds_access, Block.succeeds_read, natLE_load_four]
  simp [Block.Holds, pure, Except.pure]

end Access

/-- The result is a length that fits the buffer and that the length field tells. -/
def sized (rsplen : Nat) (o : Int × Block UInt8) : Prop :=
  o.1 ≤ rsplen ∧ (le16 o.2.cells 5 : Int) = o.1 - 2

lemma finishReply_iff {cells : Buffer UInt8} {rspLen rsplen : Nat} (hlow : 8 ≤ rspLen)
    (hhigh : rspLen < 2 ^ 31) :
    (finishReply ⟨cells, rsplen⟩ rspLen).Succeeds (sized rsplen) ↔
      rspLen ≤ rsplen ∧ rspLen - 2 < 65536 := by
  rw [finishReply, succeeds_bind, succeeds_access, Block.succeeds_write, succeeds_bind,
    succeeds_access, Block.succeeds_write]
  have hlen : (le16 ((cells.fill 5 (bytesLE 2 (rspLen - 2))).fill (rspLen - 1) [0x7e]) 5 : Nat) =
      (rspLen - 2) % 65536 := by
    rw [← le16_fill cells 5 (rspLen - 2)]
    exact le16_congr fun i hi => fill_outside _ (.inl (by omega))
  have hint : toInt32 rspLen = rspLen := if_pos hhigh
  have hsized : sized rsplen (toInt32 rspLen,
      ⟨(cells.fill 5 (bytesLE 2 (rspLen - 2))).fill (rspLen - 1) [0x7e], rsplen⟩) ↔
      rspLen ≤ rsplen ∧ rspLen - 2 < 65536 := by
    rw [sized, hint]
    dsimp only
    rw [hlen]
    omega
  simp only [pure, Except.pure, succeeds_ok, hsized, Block.Holds, length_bytesLE, List.length_cons,
    List.length_nil]
  omega

/-- The text of a number starts at `off` and ends in the block. -/
def textEnds (b : Block UInt8) (off : Nat) : Prop := strtolEnds (b.cells.load off (b.size - off))

instance (b : Block UInt8) (off : Nat) : Decidable (textEnds b off) :=
  inferInstanceAs (Decidable (strtolEnds _))

lemma textEnds_write (b : Block UInt8) {off off' : Nat} {l : List UInt8}
    (h : off + l.length ≤ off') : textEnds ⟨b.cells.fill off l, b.size⟩ off' ↔ textEnds b off' := by
  have hload : (b.cells.fill off l).load off' (b.size - off') = b.cells.load off' (b.size - off') :=
    load_congr fun i _ => fill_outside _ (.inr (by omega))
  rw [textEnds, textEnds, hload]

lemma succeeds_strtolAt {w : Nat} {P : Nat → Prop} {b : Block UInt8} {off : Nat} :
    (strtolAt w b off).Succeeds P ↔
      textEnds b off ∧ P (strtol w 16 (cstr b.cells off (b.size - off)) % 2 ^ 32).toNat := by
  unfold strtolAt textEnds
  split_ifs with h
  · simp [h]
  · simp [h]

section Registers

variable {w off : Nat}

lemma hexStrstoInt_succ {n i : Nat} {rsp : Block UInt8} {P : Block UInt8 → Prop} :
    (hexStrstoInt w off (n + 1) i rsp).Succeeds P ↔
      textEnds rsp (off + 9 * i % 2 ^ 32) ∧ rsp.Holds (off + 4 * i) 4 ∧
      (hexStrstoInt w off n (i + 1) ⟨rsp.cells.fill (off + 4 * i) (bytesLE 4
        (strtol w 16 (cstr rsp.cells (off + 9 * i % 2 ^ 32) (rsp.size - (off + 9 * i % 2 ^ 32)))
          % 2 ^ 32).toNat), rsp.size⟩).Succeeds P := by
  rw [hexStrstoInt, succeeds_bind, succeeds_strtolAt, succeeds_bind, succeeds_access,
    Block.succeeds_write, length_bytesLE]

/-- The values that the loop writes lie in the block, whose size stays. -/
lemma hexStrstoInt_room {n i : Nat} {rsp rsp' : Block UInt8}
    (h : hexStrstoInt w off n i rsp = .ok rsp') :
    rsp'.size = rsp.size ∧ (0 < n → off + 4 * (i + n) ≤ rsp.size) := by
  induction n generalizing i rsp with
  | zero =>
    cases h
    exact ⟨rfl, fun h => absurd h (Nat.lt_irrefl 0)⟩
  | succ n ih =>
    rw [← succeeds_eq_iff, hexStrstoInt_succ] at h
    obtain ⟨-, hholds, hrest⟩ := h
    obtain ⟨hsize, hroom⟩ := ih (succeeds_eq_iff.mp hrest)
    refine ⟨hsize, fun _ => ?_⟩
    have hhere : off + 4 * i + 4 ≤ rsp.size := hholds.resolve_left (by decide)
    by_cases hn : 0 < n
    · have hrest : off + 4 * (i + 1 + n) ≤ rsp.size := hroom hn
      omega
    · omega

/-- Where the counter of the loop stays in 32 bits, it comes to its end when the values lie in the
block and the texts end there. -/
lemma hexStrstoInt_iff {n i size : Nat} {cells : Buffer UInt8} (hsmall : 9 * (i + n) ≤ 2 ^ 32)
    {P : Block UInt8 → Prop} {Q : Prop} (hP : ∀ cells, P ⟨cells, size⟩ ↔ Q) :
    (hexStrstoInt w off n i ⟨cells, size⟩).Succeeds P ↔
      ((∀ k < n, textEnds ⟨cells, size⟩ (off + 9 * (i + k))) ∧
        (0 < n → off + 4 * (i + n) ≤ size)) ∧ Q := by
  induction n generalizing i cells with
  | zero => simp [hexStrstoInt, hP cells]
  | succ n ih =>
    have hmod : 9 * i % 2 ^ 32 = 9 * i := Nat.mod_eq_of_lt (by omega)
    rw [hexStrstoInt_succ, hmod, ih (by omega), ← and_assoc, ← and_assoc]
    apply and_congr_left'
    have hrest : ∀ k < n, textEnds ⟨cells.fill (off + 4 * i) (bytesLE 4
        (strtol w 16 (cstr cells (off + 9 * i) (size - (off + 9 * i))) % 2 ^ 32).toNat), size⟩
          (off + 9 * (i + 1 + k)) ↔ textEnds ⟨cells, size⟩ (off + 9 * (i + (k + 1))) := by
      intro k _
      rw [textEnds_write ⟨cells, size⟩ (by rw [length_bytesLE]; omega), Nat.add_assoc i,
        Nat.add_comm 1]
    have hholds : (Block.mk cells size).Holds (off + 4 * i) 4 ↔ off + 4 * i + 4 ≤ size :=
      or_iff_right (by decide)
    rw [hholds]
    constructor
    · rintro ⟨⟨hfirst, hhere⟩, htexts, hroom⟩
      refine ⟨fun k hk => ?_, fun _ => by by_cases hn : 0 < n <;> omega⟩
      cases k with
      | zero => exact hfirst
      | succ k => exact (hrest k (by omega)).mp (htexts k (by omega))
    · rintro ⟨htexts, hroom⟩
      have hlast := hroom (Nat.succ_pos n)
      refine ⟨⟨htexts 0 (Nat.succ_pos n), by omega⟩, fun k hk => ?_, fun _ => by omega⟩
      exact (hrest k hk).mpr (htexts (k + 1) (by omega))

lemma length_sprintf8x (value : Nat) : (hex8 (UInt32.ofNat value) ++ [0x20, 0]).length = 10 := by
  rw [List.length_append, length_hex8]
  rfl

lemma succeeds_sprintf8x {rsp : Block UInt8} {value : Nat} {P : Block UInt8 → Prop} :
    (sprintf8x rsp off value).Succeeds P ↔ off + 10 ≤ rsp.size ∧
      P ⟨rsp.cells.fill off (hex8 (UInt32.ofNat value) ++ [0x20, 0]), rsp.size⟩ := by
  rw [sprintf8x, succeeds_access, Block.succeeds_write, length_sprintf8x]
  exact and_congr_left fun _ => or_iff_right (by decide)

/-- The loop reads its values from the request and writes the texts behind each other. -/
lemma printValues_iff {buf : Block UInt8} {n i size : Nat} {cells : Buffer UInt8}
    {P : Block UInt8 → Prop} {Q : Prop} (hP : ∀ cells, P ⟨cells, size⟩ ↔ Q) :
    (printValues buf n i ⟨cells, size⟩).Succeeds P ↔
      (0 < n → 21 + 4 * (i + n) ≤ buf.size ∧ 14 + 9 * (i + n) ≤ size) ∧ Q := by
  induction n generalizing i cells with
  | zero => simp [printValues, hP cells]
  | succ n ih =>
    rw [printValues, succeeds_bind, succeeds_readLE, succeeds_bind, succeeds_sprintf8x, ih,
      ← and_assoc, ← and_assoc]
    apply and_congr_left'
    dsimp only
    by_cases hn : 0 < n
    · have hpos : 0 < n + 1 := Nat.succ_pos n
      simp only [hn, hpos, true_implies]
      omega
    · have hzero : n = 0 := by omega
      subst hzero
      simp only [Nat.lt_irrefl, false_implies, and_true, Nat.lt_add_one, true_implies, Nat.zero_add]
      omega

end Registers

/-- The commands that take an offset and a length from the request. -/
inductive SizedCommand
  | midstReadCfg | readRegs | writeRegs
  deriving DecidableEq, Repr

section Commands

variable (s : TuneState) (dev : Device) (buf rsp : Block UInt8)

def SizedCommand.run : SizedCommand → Except PQFault (Int × Block UInt8)
  | .midstReadCfg => s.midstReadCfg buf rsp
  | .readRegs => tuneReadRegs dev buf rsp
  | .writeRegs => tuneWriteRegs dev buf rsp

/-- What `tune_read_regs` gets from the register file. -/
def regsText : List UInt8 := (dev.readFile .dispcWrRegs (9 * le32 buf.cells 13 % 2 ^ 32)).getD []

/-- The code for a file that does not open happens to be the length of what the response buffer
holds. -/
def errnoFits (e : Errno) : Prop := e.val ≤ rsp.size ∧ le16 rsp.cells 5 + 2 = e.val

/-- What the commands need of the request. -/
def SizedCommand.fits : SizedCommand → Prop
  | .midstReadCfg =>
    21 ≤ buf.size ∧ (le32 buf.cells 13 = 0 ∨ le32 buf.cells 17 + le32 buf.cells 13 ≤ s.ctx.size) ∧
      16 + le32 buf.cells 13 ≤ rsp.size
  | .readRegs =>
    match dev.openAll regFiles with
    | some e => errnoFits rsp e
    | none =>
      21 ≤ buf.size ∧ 22 + 4 * le32 buf.cells 13 ≤ rsp.size ∧ 20 + 4 * le32 buf.cells 13 < 65536 ∧
        21 + (regsText dev buf).length ≤ rsp.size ∧
        ∀ k < le32 buf.cells 13,
          textEnds ⟨rsp.cells.fill 21 (regsText dev buf), rsp.size⟩ (21 + 9 * k)
  | .writeRegs =>
    match dev.openAll regFiles with
    | some e => errnoFits rsp e
    | none =>
      25 ≤ buf.size ∧ 32 ≤ rsp.size ∧
        (0 < le32 buf.cells 13 → le32 buf.cells 13 < 2 ^ 31 →
          21 + 4 * le32 buf.cells 13 ≤ buf.size ∧ 14 + 9 * le32 buf.cells 13 ≤ rsp.size)

variable {s dev buf rsp}

lemma errnoFits_iff (e : Errno) :
    (Except.ok (e.val, rsp) : Except PQFault (Int × Block UInt8)).Succeeds (sized rsp.size) ↔
      errnoFits rsp e := by
  rw [succeeds_ok, sized, errnoFits]
  dsimp only
  omega

lemma midstReadCfg_iff (hctx : s.ctx.size ≤ 65521) :
    (s.midstReadCfg buf rsp).Succeeds (sized rsp.size) ↔
      SizedCommand.fits s dev buf rsp .midstReadCfg := by
  rw [TuneState.midstReadCfg, SizedCommand.fits]
  simp only [succeeds_bind, succeeds_readLE, succeeds_access, Block.succeeds_read,
    Block.succeeds_write, length_load, List.length_cons, List.length_nil]
  by_cases hdata : s.ctx.Holds (le32 buf.cells 17) (le32 buf.cells 13)
  · have hsmall : le32 buf.cells 13 ≤ 65521 := by
      rcases hdata with hzero | hin
      · omega
      · omega
    have hmod : (16 + le32 buf.cells 13) % 2 ^ 32 = 16 + le32 buf.cells 13 :=
      Nat.mod_eq_of_lt (by omega)
    rw [hmod, finishReply_iff (by omega) (by omega)]
    unfold Block.Holds at hdata ⊢
    dsimp only
    omega
  · unfold Block.Holds at hdata ⊢
    omega

lemma readRegs_tail {cells : Buffer UInt8} {size length : Nat} (hsmall : 22 + 4 * length < 2 ^ 31) :
    ((access (buf.read 0 13)).Succeeds fun head =>
      (access (Block.write ⟨cells, size⟩ 0 head)).Succeeds fun rsp =>
        (finishReply rsp ((22 + 4 * length) % 2 ^ 32)).Succeeds (sized size)) ↔
      13 ≤ buf.size ∧ 22 + 4 * length ≤ size ∧ 20 + 4 * length < 65536 := by
  have hmod : (22 + 4 * length) % 2 ^ 32 = 22 + 4 * length := Nat.mod_eq_of_lt (by omega)
  rw [succeeds_access, Block.succeeds_read, succeeds_access, Block.succeeds_write, hmod,
    finishReply_iff (by omega) hsmall, length_load]
  unfold Block.Holds
  dsimp only
  omega

lemma readRegs_open_iff (hsize : rsp.size < 2 ^ 31) (hopen : dev.openAll regFiles = none) :
    (tuneReadRegs dev buf rsp).Succeeds (sized rsp.size) ↔
      SizedCommand.fits s dev buf rsp .readRegs := by
  obtain ⟨cells, size⟩ := rsp
  rw [tuneReadRegs, SizedCommand.fits, hopen]
  dsimp only at hsize ⊢
  rw [succeeds_bind, succeeds_readLE, succeeds_bind, succeeds_readLE, ← regsText, succeeds_bind,
    succeeds_access, Block.succeeds_write]
  simp only [succeeds_bind]
  by_cases hfit : 22 + 4 * le32 buf.cells 13 ≤ size ∧ 20 + 4 * le32 buf.cells 13 < 65536
  · rw [hexStrstoInt_iff (by omega) fun cells => readRegs_tail (by omega)]
    unfold Block.Holds
    simp only [Nat.zero_add]
    constructor
    · rintro ⟨-, hframe, htext, ⟨htexts, -⟩, -⟩
      exact ⟨hframe, hfit.1, hfit.2, by omega, htexts⟩
    · rintro ⟨hframe, -, -, htext, htexts⟩
      exact ⟨by omega, hframe, .inr htext, ⟨htexts, fun _ => by omega⟩, by omega, hfit⟩
  · -- The values lie in the buffer, so that no sum wraps, and the end of the reply does not fit.
    refine iff_of_false ?_ fun h => hfit ⟨h.2.1, h.2.2.1⟩
    rintro ⟨-, -, htext, hrest⟩
    obtain ⟨rsp', hloop, htail⟩ := succeeds_iff.mp hrest
    obtain ⟨hsame, hroom⟩ := hexStrstoInt_room hloop
    obtain ⟨cells', size'⟩ := rsp'
    dsimp only at hsame hroom
    subst hsame
    have hsmall : 22 + 4 * le32 buf.cells 13 < 2 ^ 31 := by
      by_cases hzero : 0 < le32 buf.cells 13
      · have := hroom hzero
        omega
      · omega
    exact hfit ((readRegs_tail hsmall).mp htail).2

lemma writeRegs_tail {cells : Buffer UInt8} {size : Nat} :
    ((access (Block.write ⟨cells, size⟩ 0 [0x7e])).Succeeds fun rsp =>
      (access (rsp.write 13 (bytesLE 4 0))).Succeeds fun rsp =>
        (access (buf.read 1 10)).Succeeds fun head =>
          (access (rsp.write 1 head)).Succeeds fun rsp =>
            (finishReply rsp 18).Succeeds (sized size)) ↔
      11 ≤ buf.size ∧ 18 ≤ size := by
  rw [succeeds_access, Block.succeeds_write, succeeds_access, Block.succeeds_write,
    succeeds_access, Block.succeeds_read, succeeds_access, Block.succeeds_write,
    finishReply_iff (by omega) (by omega), length_load, length_bytesLE]
  unfold Block.Holds
  dsimp only [List.length_cons, List.length_nil]
  omega

lemma writeRegs_open_iff (hopen : dev.openAll regFiles = none) :
    (tuneWriteRegs dev buf rsp).Succeeds (sized rsp.size) ↔
      SizedCommand.fits s dev buf rsp .writeRegs := by
  obtain ⟨cells, size⟩ := rsp
  rw [tuneWriteRegs, SizedCommand.fits, hopen]
  simp only [succeeds_bind, succeeds_readLE, succeeds_sprintf8x]
  rw [printValues_iff fun cells => writeRegs_tail]
  by_cases hneg : le32 buf.cells 13 < 2 ^ 31
  · rw [if_pos hneg]
    omega
  · rw [if_neg hneg]
    omega

end Commands

/-- A command stays inside the memory behind `ctx`, the request and the response buffer, and its result
is a length that fits the buffer and that its length field tells, exactly when the sizes in the
request fit. -/
theorem sized_command_iff (ver : IPCore) (ctx : Buffer UInt8) (dev : Device)
    (buf rsp : Block UInt8) (hrsp : rsp.size < 2 ^ 31) (cmd : SizedCommand) :
    (cmd.run (.built ver ctx) dev buf rsp).Succeeds (sized rsp.size) ↔
      cmd.fits (.built ver ctx) dev buf rsp := by
  cases cmd with
  | midstReadCfg =>
    have hctx := (built_ctx_size ver ctx).trans_le (tuneSizes_le ver)
    exact midstReadCfg_iff hctx
  | readRegs =>
    rw [SizedCommand.run]
    cases hopen : dev.openAll regFiles with
    | none => exact readRegs_open_iff hrsp hopen
    | some e =>
      rw [tuneReadRegs, SizedCommand.fits, hopen]
      exact errnoFits_iff e
  | writeRegs =>
    rw [SizedCommand.run]
    cases hopen : dev.openAll regFiles with
    | none => exact writeRegs_open_iff hopen
    | some e =>
      rw [tuneWriteRegs, SizedCommand.fits, hopen]
      exact errnoFits_iff e

/-- A request for a byte of `ctx`, at an offset of four bytes. -/
def midstReadFrame (offset : List UInt8) : Block UInt8 :=
  .ofList 0 ([0x7e, 0, 0, 0, 0, 20, 0, 0x5d, 1, 6, 0, 0, 0, 1, 0, 0, 0] ++ offset ++ [0x7e])

/-- The first byte, with a response buffer of the size that `trans` has. -/
theorem sized_command_first_byte :
    (SizedCommand.midstReadCfg.run (.built .dpuR2p0 fun _ => 0) bareDevice
      (midstReadFrame [0, 0, 0, 0]) ⟨fun _ => 0, maxChnlBuff⟩).Succeeds (sized maxChnlBuff) := by
  apply (sized_command_iff .dpuR2p0 (fun _ => 0) bareDevice _ ⟨fun _ => 0, maxChnlBuff⟩ (by decide)
    .midstReadCfg).mpr
  rw [SizedCommand.fits]
  decide

/-- A byte far behind `ctx`. -/
theorem far_offset_read :
    ¬(SizedCommand.midstReadCfg.run (.built .dpuR2p0 fun _ => 0) bareDevice
      (midstReadFrame [255, 255, 255, 255]) ⟨fun _ => 0, maxChnlBuff⟩).Succeeds
        (sized maxChnlBuff) := by
  have hctx := (built_ctx_size .dpuR2p0 fun _ => 0).trans_le (tuneSizes_le .dpuR2p0)
  have hiff := @midstReadCfg_iff (.built .dpuR2p0 fun _ => 0) bareDevice
    (midstReadFrame [255, 255, 255, 255]) ⟨fun _ => 0, maxChnlBuff⟩ hctx
  rw [SizedCommand.run, hiff, SizedCommand.fits]
  decide

end EngPc
