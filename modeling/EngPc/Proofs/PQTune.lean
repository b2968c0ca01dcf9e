import EngPc.Model.PQTune
import EngPc.Model.Trans

/-!
# Positive results of handlers

`CTrans::process` takes any positive result of a handler for the length of a reply. The handlers
return such lengths from one shared end, and errno values and fixed numbers from others.
-/

namespace EngPc
open Buffer CString LittleEndian

/-- `n` bytes of a frame whose length field tells so. -/
structure WellFormedReply (rsp : Buffer UInt8) (n : Int) : Prop where
  first : rsp 0 = 0x7e
  last : rsp (n - 1).toNat = 0x7e
  len : (le16 rsp 5 : Int) = n - 2

/-- A positive result stands for a reply, and for accesses that did not fail. -/
def HandlerOut.answers (o : HandlerOut) : Prop :=
  0 < o.ret → WellFormedReply o.rsp o.ret ∧ o.failed = false

/-- A handler may stay away; it may not write outside the response buffer. -/
def meetsContract : Except HandlerFault HandlerOut → Prop
  | .error .noReturn => True
  | .error .outOfBounds => False
  | .ok o => o.answers

section Reply

variable {buf rsp : Buffer UInt8} {rsplen head rspLen : Nat} {failed : Bool}

lemma sendReply_iff (h8 : 8 ≤ rspLen) (hhead : 0 < head) (hmax : rsplen ≤ 65536) :
    meetsContract (sendReply buf rsp rsplen head rspLen failed) ↔
      rspLen ≤ rsplen ∧ buf 0 = 0x7e ∧ failed = false := by
  unfold sendReply
  split_ifs with hlen
  · exact ⟨False.elim, fun h => absurd h.1 (Nat.not_le.mpr hlen)⟩
  · have hfirst : rsp.fill 0 (buf.load 0 head) (0 + 0) = buf (0 + 0) :=
      (fill_inside rsp (by rwa [length_load])).trans (getElem_load buf 0 head 0 _)
    rw [Nat.add_zero] at hfirst
    have hcell : ∀ k < 7, ((rsp.fill 0 (buf.load 0 head)).fill 5 (bytesLE 2 (rspLen - 2))).store
        (rspLen - 1) 0x7e k =
          (rsp.fill 0 (buf.load 0 head)).fill 5 (bytesLE 2 (rspLen - 2)) k := by
      intro k hk
      exact store_ne _ _ (by omega)
    constructor
    · intro h
      obtain ⟨hwf, hfailed⟩ := h (by dsimp only; omega)
      refine ⟨Nat.le_of_not_lt hlen, ?_, hfailed⟩
      have h0 := hwf.first
      dsimp only at h0
      rwa [hcell 0 (by omega), fill_outside _ (.inl (by omega)), hfirst] at h0
    · rintro ⟨-, hflag, hfailed⟩ -
      refine ⟨⟨?_, ?_, ?_⟩, hfailed⟩
      · dsimp only
        rw [hcell 0 (by omega), fill_outside _ (.inl (by omega)), hfirst, hflag]
      · dsimp only
        rw [show ((rspLen : Int) - 1).toNat = rspLen - 1 by omega, store_same]
      · have hle := le16_fill (rsp.fill 0 (buf.load 0 head)) 5 (rspLen - 2)
        unfold le16 at hle ⊢
        dsimp only
        rw [hcell 5 (by omega), hcell 6 (by omega), hle]
        omega

lemma sendValue_iff {value : Nat} (hmax : rsplen ≤ 65536) (h18 : 18 ≤ rsplen) :
    meetsContract (sendValue buf rsp rsplen value failed) ↔ buf 0 = 0x7e ∧ failed = false := by
  unfold sendValue
  rw [sendReply_iff (by omega) (by omega) hmax]
  exact ⟨fun h => h.2, fun h => ⟨h18, h⟩⟩

lemma meetsContract_nonpos {o : HandlerOut} (h : o.ret ≤ 0) : meetsContract (.ok o) :=
  fun hpos => absurd h (not_le.mpr hpos)

lemma not_meetsContract_errno (e : Errno) : ¬meetsContract (.ok ⟨e.val, rsp, true⟩) := by
  intro h
  have hpos : (0 : Int) < e.val := by exact_mod_cast e.pos
  exact Bool.noConfusion (h hpos).2

end Reply

section Commands

variable (c : PQTuneCore) (dev : Device) (buf : Buffer UInt8)

/-- Memory and files give `tune_connect` what it looks for. -/
def connectAnswers : Prop :=
  dev.malloc = true ∧ ∃ cmdline arg panel, dev.readFile .chipInfo 1024 = some cmdline ∧
    hardwareArg (cstr (connectInfo dev cmdline) 0 1024) = some arg ∧ 0x20 ∈ arg ∧
    dev.readFile .panelSize 1024 = some panel ∧
    (parsePanelsize ((connectInfo dev cmdline).fill 0 panel) panel.length).isSome = true

/-- The parser, where the chip has one, gets at its files. -/
def parserRuns (f : ParserFn) (m : PQModule) : Prop := (dev.parser m f).failed = false

/-- A module of the request is there, or there is nothing to come back from. -/
def PQTuneCore.tuningMeets (f : ParserFn) : Prop :=
  match pqModule (le16 buf 13) with
  | none | some .version => buf 0 = 0x7e
  | some m => (m = .hsv → c.version = .dpuR4p0) → buf 0 = 0x7e ∧ parserRuns dev f m

def PQTuneCore.meets : PQCommand → Prop
  | .connect => dev.openAll connectFiles = none ∧
      ((c.display dev).isSome = true → connectAnswers dev →
        buf 0 = 0x7e ∧ c.display dev = some 0 ∧ (dev.read .pqStatus).isSome = true)
  | .rgbPattern => dev.openAll [.dispcBg, .flipDisable] = none ∧ buf 0 = 0x7e
  | .readRegs => dev.openAll regFiles = none ∧ buf 0 = 0x7e ∧ 22 + 4 * le32 buf 13 ≤ maxChnlBuff ∧
      ∃ regs, dev.readFile .dispcWrRegs (9 * le32 buf 13) = some regs ∧
        21 + regs.length ≤ maxChnlBuff
  | .writeRegs => dev.openAll regFiles = none ∧
      (le32 buf 13 < 2 ^ 31 → 14 + 9 * le32 buf 13 ≤ maxChnlBuff)
  | .startReadCfg => c.version = .dpuR4p0 →
      buf 0 = 0x7e ∧ ∀ m ∈ allParsers, parserRuns dev .parseXml m
  | .midstReadCfg => buf 0 = 0x7e ∧ 16 + le32 buf 13 ≤ maxChnlBuff
  | .endReadCfg | .startWriteCfg => buf 0 = 0x7e
  | .midstWriteCfg => 12 ≤ le16 buf 5 → buf 0 = 0x7e
  | .endWriteCfg =>
      if c.offset = c.tuneSizes then
        c.version = .dpuR4p0 → buf 0 = 0x7e ∧ ∀ m ∈ allParsers, parserRuns dev .updateXml m
      else buf 0 = 0x7e
  | .rdTuningReg => c.tuningMeets dev buf .parseReg
  | .wrTuningReg => c.tuningMeets dev buf .updateReg
  | .rdTuningXml => c.tuningMeets dev buf .parseXml
  | .wrTuningXml => c.tuningMeets dev buf .updateXml
  | .rdAmbient => dev.openAll [.sensorLight] = none ∧
      ((dev.read .sensorLight).isSome = true → buf 0 = 0x7e)

end Commands

lemma map_map_snd {α : Type} (c : α) (r : Except HandlerFault HandlerOut) :
    (r.map fun o => (c, o)).map Prod.snd = r := by
  cases r <;> rfl

section Proofs

variable {c : PQTuneCore} {dev : Device} {buf rsp : Buffer UInt8}

lemma opened_iff {files : List SysFile} {rest : Except HandlerFault HandlerOut} {P : Prop}
    (h : meetsContract rest ↔ P) :
    meetsContract (match dev.openAll files with
      | some e => .ok ⟨e.val, rsp, true⟩
      | none => rest) ↔ dev.openAll files = none ∧ P := by
  cases dev.openAll files with
  | none => simp [h]
  | some e => simp [not_meetsContract_errno]

lemma maxChnlBuff_eq : maxChnlBuff = 65536 := rfl

lemma reply_iff {head rspLen : Nat} {failed : Bool} (h8 : 8 ≤ rspLen) (hhead : 0 < head)
    (hmax : rspLen ≤ 65536) :
    meetsContract (sendReply buf rsp maxChnlBuff head rspLen failed) ↔
      buf 0 = 0x7e ∧ failed = false := by
  rw [sendReply_iff h8 hhead maxChnlBuff_eq.le, maxChnlBuff_eq]
  exact ⟨fun h => h.2, fun h => ⟨hmax, h⟩⟩

lemma value_iff {value : Nat} {failed : Bool} :
    meetsContract (sendValue buf rsp maxChnlBuff value failed) ↔ buf 0 = 0x7e ∧ failed = false :=
  sendValue_iff maxChnlBuff_eq.le (by rw [maxChnlBuff_eq]; omega)

lemma parseAll_cases (f : ParserFn) (ms : List PQModule) (c : PQTuneCore) :
    (c.version ≠ .dpuR4p0 ∧ .hsv ∈ ms ∧ PQTuneCore.parseAll dev f ms c = .error .noReturn) ∨
    (c.version = .dpuR4p0 ∨ .hsv ∉ ms) ∧ ∃ c' b, PQTuneCore.parseAll dev f ms c = .ok (c', b) ∧
      c'.version = c.version ∧ (b = false ↔ ∀ m ∈ ms, parserRuns dev f m) := by
  induction ms generalizing c with
  | nil => exact .inr ⟨.inr (by simp), c, false, rfl, rfl, by simp⟩
  | cons m ms ih =>
    rw [PQTuneCore.parseAll]
    by_cases hm : m = .hsv ∧ c.version ≠ .dpuR4p0
    · left
      unfold PQTuneCore.parse
      rw [if_pos hm]
      exact ⟨hm.2, by rw [hm.1]; exact List.mem_cons_self, rfl⟩
    · unfold PQTuneCore.parse
      rw [if_neg hm]
      dsimp only
      rcases ih { c with ctx := (dev.parser m f).ctx c.ctx } with ⟨hv, hmem, h⟩ | ⟨hv, c', b, h, hc', hb⟩
      · left
        rw [h]
        exact ⟨hv, List.mem_cons_of_mem m hmem, rfl⟩
      · right
        rw [h]
        refine ⟨?_, c', (dev.parser m f).failed || b, rfl, hc', ?_⟩
        · by_cases hversion : c.version = .dpuR4p0
          · exact .inl hversion
          · right
            rw [List.mem_cons, not_or]
            exact ⟨fun heq => hm ⟨heq.symm, hversion⟩, hv.resolve_left hversion⟩
        · rw [Bool.or_eq_false_iff, hb, List.forall_mem_cons]
          rfl

lemma connectOpened_iff {failed : Bool} :
    meetsContract ((c.connectOpened dev buf rsp maxChnlBuff failed).map Prod.snd) ↔
      (connectAnswers dev → buf 0 = 0x7e ∧ failed = false ∧ (dev.read .pqStatus).isSome = true) := by
  unfold PQTuneCore.connectOpened connectAnswers
  have hread : (dev.readFile .pqStatus 100).isNone = false ↔ (dev.read .pqStatus).isSome = true := by
    unfold Device.readFile
    cases dev.read .pqStatus <;> simp
  by_cases hmalloc : dev.malloc = false
  · simp [hmalloc, Except.map, meetsContract_nonpos]
  cases hchip : dev.readFile .chipInfo 1024 with
  | none => simp [hmalloc, Except.map, meetsContract_nonpos]
  | some cmdline =>
    cases harg : hardwareArg (cstr (connectInfo dev cmdline) 0 1024) with
    | none => simp [hmalloc, harg, Except.map, meetsContract_nonpos]
    | some arg =>
      by_cases hblank : 0x20 ∉ arg
      · simp [hmalloc, harg, hblank, Except.map, meetsContract]
      cases hpanel : dev.readFile .panelSize 1024 with
      | none => simp [hmalloc, harg, hblank, Except.map, meetsContract_nonpos]
      | some panel =>
        cases hloop : parsePanelsize ((connectInfo dev cmdline).fill 0 panel) panel.length with
        | none => simp [hmalloc, harg, hblank, hloop, Except.map, meetsContract]
        | some px =>
          have hsize : 8 ≤ 14 + dutInfoSize ∧ 14 + dutInfoSize ≤ 65536 := by decide
          simp only [hmalloc, harg, hblank, hloop, reduceCtorEq, if_false, map_map_snd]
          rw [reply_iff hsize.1 (by omega) hsize.2, Bool.or_eq_false_iff, hread]
          simp [harg, hloop, not_not.mp hblank]

lemma connect_iff :
    meetsContract ((c.connect dev buf rsp maxChnlBuff).map Prod.snd) ↔ c.meets dev buf .connect := by
  unfold PQTuneCore.connect PQTuneCore.meets
  cases hopen : dev.openAll connectFiles with
  | some e => simp [Except.map, not_meetsContract_errno]
  | none =>
    cases hdisplay : c.display dev with
    | none => simp [Except.map, meetsContract]
    | some ret =>
      dsimp only
      rw [connectOpened_iff]
      simp

lemma readRegs_iff :
    meetsContract (PQTuneCore.readRegs dev buf rsp maxChnlBuff) ↔ c.meets dev buf .readRegs := by
  unfold PQTuneCore.readRegs
  apply opened_iff
  dsimp only
  by_cases hlen : 22 + 4 * le32 buf 13 ≤ maxChnlBuff
  · have hcount : 9 * le32 buf 13 % 2 ^ 32 = 9 * le32 buf 13 := by
      rw [maxChnlBuff_eq] at hlen
      exact Nat.mod_eq_of_lt (by omega)
    rw [hcount]
    cases hregs : dev.readFile .dispcWrRegs (9 * le32 buf 13) with
    | none =>
      rw [Option.getD_none, List.length_nil, if_neg (by omega),
        sendReply_iff (by omega) (by omega) maxChnlBuff_eq.le]
      simp
    | some regs =>
      rw [Option.getD_some]
      split_ifs with hout
      · constructor
        · exact False.elim
        · rintro ⟨-, -, regs', hregs', hfit⟩
          obtain rfl := Option.some.inj hregs'
          omega
      · rw [sendReply_iff (by omega) (by omega) maxChnlBuff_eq.le]
        have hfit : 21 + regs.length ≤ maxChnlBuff := by omega
        simp [hlen, hfit]
  · have hfalse : ¬meetsContract (if maxChnlBuff < 21 + ((dev.readFile .dispcWrRegs
        (9 * le32 buf 13 % 2 ^ 32)).getD []).length ∨ maxChnlBuff < 21 + 4 * le32 buf 13 then
          .error .outOfBounds
        else sendReply buf (hexStrsToInt maxChnlBuff 21 (le32 buf 13) 0 (rsp.fill 21
          ((dev.readFile .dispcWrRegs (9 * le32 buf 13 % 2 ^ 32)).getD []))) maxChnlBuff 13
          (22 + 4 * le32 buf 13) (dev.readFile .dispcWrRegs (9 * le32 buf 13 % 2 ^ 32)).isNone) := by
      split_ifs
      · exact id
      · rw [sendReply_iff (by omega) (by omega) maxChnlBuff_eq.le]
        exact fun h => hlen h.1
    exact ⟨fun h => absurd h hfalse, fun h => absurd h.2.1 hlen⟩

lemma length_regText (buf : Buffer UInt8) (n off : Nat) : (regText buf n off).length = 9 * n := by
  induction n generalizing off with
  | zero => rfl
  | succ n ih =>
    rw [regText, List.length_append, List.length_append, ih, length_hex8, List.length_singleton]
    omega

/-- The reply of `tune_write_regs`, which has a flag of its own in front. -/
lemma writeRegs_answers (b : Buffer UInt8) :
    meetsContract (.ok ⟨18, ((((b.store 0 0x7e).fill 13 (bytesLE 4 0)).fill 1 (buf.load 1 10)).fill 5
      (bytesLE 2 16)).store 17 0x7e, false⟩) := by
  intro _
  refine ⟨⟨?_, ?_, ?_⟩, rfl⟩
  · dsimp only
    rw [store_ne _ _ (by omega), fill_outside _ (.inl (by omega)), fill_outside _ (.inl (by omega)),
      fill_outside _ (.inl (by omega)), store_same]
  · dsimp only
    rw [show ((18 : Int) - 1).toNat = 17 by decide, store_same]
  · have hle := le16_fill (((b.store 0 0x7e).fill 13 (bytesLE 4 0)).fill 1 (buf.load 1 10)) 5 16
    unfold le16 at hle ⊢
    dsimp only
    rw [store_ne _ _ (by omega), store_ne _ _ (by omega), hle]
    rfl

lemma writeRegs_iff :
    meetsContract (PQTuneCore.writeRegs dev buf rsp maxChnlBuff) ↔ c.meets dev buf .writeRegs := by
  unfold PQTuneCore.writeRegs
  apply opened_iff
  dsimp only
  have htext : 13 + (hex8 (UInt32.ofNat (le32 buf 17)) ++ [0x20] ++
      hex8 (UInt32.ofNat (le32 buf 13)) ++ [0x20, 0]).length = 32 := by
    simp [length_hex8]
  have hdata : ∀ n, 13 + (if n = 0 then [] else regText buf n 21 ++ [0]).length =
      if n = 0 then 13 else 14 + 9 * n := by
    intro n
    split_ifs
    · rfl
    · rw [List.length_append, length_regText, List.length_singleton]
      omega
  rw [htext, hdata]
  have hmax := maxChnlBuff_eq
  split_ifs with hlen hzero hout hout
  all_goals first
    | exact iff_of_true (writeRegs_answers _) (by omega)
    | exact iff_of_false id (by omega)

lemma parseAll_iff (f : ParserFn) (value : PQTuneCore → Nat) :
    meetsContract (Except.map Prod.snd
      (match PQTuneCore.parseAll dev f allParsers c with
      | .error e => .error e
      | .ok (c, failed) => (sendValue buf rsp maxChnlBuff (value c) failed).map fun o => (c, o))) ↔
      (c.version = .dpuR4p0 → buf 0 = 0x7e ∧ ∀ m ∈ allParsers, parserRuns dev f m) := by
  rcases parseAll_cases f allParsers c with ⟨hv, -, h⟩ | ⟨hv, c', b, h, -, hb⟩
  · rw [h]
    exact iff_of_true trivial fun hv' => absurd hv' hv
  · have hversion : c.version = .dpuR4p0 := hv.resolve_right (by decide)
    rw [h]
    dsimp only
    rw [map_map_snd, value_iff, hb]
    exact ⟨fun h _ => h, fun h => h hversion⟩

lemma midstWriteCfg_iff :
    meetsContract ((c.midstWriteCfg buf rsp maxChnlBuff).map Prod.snd) ↔
      (12 ≤ le16 buf 5 → buf 0 = 0x7e) := by
  unfold PQTuneCore.midstWriteCfg
  split_ifs with hlen
  · exact iff_of_true trivial fun h => absurd h (Nat.not_le.mpr hlen)
  · rw [map_map_snd, value_iff]
    exact ⟨fun h _ => h.1, fun h => ⟨h (Nat.le_of_not_lt hlen), rfl⟩⟩

lemma endWriteCfg_iff :
    meetsContract ((c.endWriteCfg dev buf rsp maxChnlBuff).map Prod.snd) ↔
      c.meets dev buf .endWriteCfg := by
  unfold PQTuneCore.endWriteCfg PQTuneCore.meets
  split_ifs with hoffset
  · exact parseAll_iff .updateXml fun _ => 0
  · rw [map_map_snd, value_iff]
    exact and_iff_left rfl

lemma parse_iff (c : PQTuneCore) (dev : Device) (f : ParserFn) (m : PQModule)
    (rest : PQTuneCore → Bool → Except HandlerFault HandlerOut)
    (h : ∀ c b, meetsContract (rest c b) ↔ buf 0 = 0x7e ∧ b = false) :
    meetsContract (Except.map Prod.snd
      (match c.parse dev f m with
      | .error e => .error e
      | .ok (c, failed) => (rest c failed).map fun o => (c, o))) ↔
      ((m = .hsv → c.version = .dpuR4p0) → buf 0 = 0x7e ∧ parserRuns dev f m) := by
  unfold PQTuneCore.parse
  split_ifs with hm
  · exact iff_of_true trivial fun hv => absurd (hv hm.1) hm.2
  · dsimp only
    rw [map_map_snd, h]
    have hv : m = .hsv → c.version = .dpuR4p0 := fun heq => not_not.mp fun hne => hm ⟨heq, hne⟩
    exact ⟨fun h _ => h, fun h => h hv⟩

lemma size_le (c : PQTuneCore) (m : PQModule) : 16 + c.size m ≤ 65536 := by
  unfold PQTuneCore.size
  cases m <;> cases c.version <;> decide

lemma rdTuning_iff (f : ParserFn) :
    meetsContract ((c.rdTuning dev buf rsp maxChnlBuff f).map Prod.snd) ↔
      c.tuningMeets dev buf f := by
  have hrest : ∀ (m : PQModule) (c : PQTuneCore) (b : Bool), meetsContract (sendReply buf
      (rsp.fill 15 (c.ctx.load (c.moduleOffset m) (c.size m))) maxChnlBuff 15 (16 + c.size m) b) ↔
        buf 0 = 0x7e ∧ b = false :=
    fun m c b => reply_iff (by omega) (by omega) (size_le c m)
  have hplain : meetsContract (((sendReply buf rsp maxChnlBuff 15 16 false).map
      fun o => (c, o)).map Prod.snd) ↔ buf 0 = 0x7e := by
    rw [map_map_snd, reply_iff (by omega) (by omega) (by omega)]
    exact and_iff_left rfl
  have hmodule := fun m => parse_iff c dev f m _ (hrest m)
  unfold PQTuneCore.rdTuning PQTuneCore.tuningMeets
  rcases pqModule (le16 buf 13) with _ | m
  · exact hplain
  · cases m with
    | version => exact hplain
    | gamma => exact hmodule .gamma
    | bld => exact hmodule .bld
    | cms => exact hmodule .cms
    | abc => exact hmodule .abc
    | hsv => exact hmodule .hsv

lemma wrTuning_iff (f : ParserFn) :
    meetsContract ((c.wrTuning dev buf rsp maxChnlBuff f).map Prod.snd) ↔
      c.tuningMeets dev buf f := by
  have hplain : ∀ value, meetsContract (((sendValue buf rsp maxChnlBuff value false).map
      fun o => (c, o)).map Prod.snd) ↔ buf 0 = 0x7e := by
    intro value
    rw [map_map_snd, value_iff]
    exact and_iff_left rfl
  have hmodule := fun m =>
    parse_iff { c with ctx := c.ctx.fill (c.moduleOffset m) (buf.load 15 (c.size m)) } dev f m
      (fun _ b => sendValue buf rsp maxChnlBuff 0 b) fun _ _ => value_iff
  unfold PQTuneCore.wrTuning PQTuneCore.tuningMeets
  rcases pqModule (le16 buf 13) with _ | m
  · exact hplain 1
  · cases m with
    | version => exact hplain 0
    | gamma => exact hmodule .gamma
    | bld => exact hmodule .bld
    | cms => exact hmodule .cms
    | abc => exact hmodule .abc
    | hsv => exact hmodule .hsv

lemma rdAmbient_iff :
    meetsContract (PQTuneCore.rdAmbient dev buf rsp maxChnlBuff) ↔ c.meets dev buf .rdAmbient := by
  unfold PQTuneCore.rdAmbient
  apply opened_iff
  unfold Device.readFile
  cases dev.read .sensorLight with
  | none =>
    refine iff_of_true (meetsContract_nonpos ?_) fun h => by cases h
    exact Int.neg_nonpos_of_nonneg (by decide)
  | some text =>
    dsimp only [Option.map_some]
    rw [value_iff]
    simp

lemma run_iff (cmd : PQCommand) :
    meetsContract ((c.run dev buf rsp maxChnlBuff cmd).map Prod.snd) ↔ c.meets dev buf cmd := by
  cases cmd with
  | connect => exact connect_iff
  | rgbPattern =>
    unfold PQTuneCore.run PQTuneCore.rgbPattern
    rw [map_map_snd]
    exact opened_iff (value_iff.trans (and_iff_left rfl))
  | readRegs =>
    unfold PQTuneCore.run
    rw [map_map_snd]
    exact readRegs_iff
  | writeRegs =>
    unfold PQTuneCore.run
    rw [map_map_snd]
    exact writeRegs_iff
  | startReadCfg => exact parseAll_iff .parseXml PQTuneCore.tuneSizes
  | midstReadCfg =>
    unfold PQTuneCore.run PQTuneCore.midstReadCfg PQTuneCore.meets
    rw [map_map_snd]
    dsimp only
    split_ifs with hlen
    · exact iff_of_false id fun h => by omega
    · rw [sendReply_iff (by omega) (by omega) maxChnlBuff_eq.le]
      exact ⟨fun h => ⟨h.2.1, h.1⟩, fun h => ⟨h.2, h.1, rfl⟩⟩
  | endReadCfg =>
    unfold PQTuneCore.run
    rw [map_map_snd]
    exact value_iff.trans (and_iff_left rfl)
  | startWriteCfg =>
    unfold PQTuneCore.run PQTuneCore.startWriteCfg
    rw [map_map_snd]
    exact value_iff.trans (and_iff_left rfl)
  | midstWriteCfg => exact midstWriteCfg_iff
  | endWriteCfg => exact endWriteCfg_iff
  | rdTuningReg => exact rdTuning_iff .parseReg
  | wrTuningReg => exact wrTuning_iff .updateReg
  | rdTuningXml => exact rdTuning_iff .parseXml
  | wrTuningXml => exact wrTuning_iff .updateXml
  | rdAmbient =>
    unfold PQTuneCore.run
    rw [map_map_snd]
    exact rdAmbient_iff

end Proofs

/-- The functions that the two modules register. -/
inductive DiagHandler
  | pqCmd (cmd : PQCommand)
  | apDeepSleep
  deriving DecidableEq, Repr

/-- A call by the manager, with the cleared response buffer of `trans`. -/
def DiagHandler.run (tuneCore : Option PQTuneCore) (dev : Device) (buf : Buffer UInt8) :
    DiagHandler → Except HandlerFault HandlerOut
  | .pqCmd cmd => (EngPc.pqCmd tuneCore cmd dev buf (fun _ => 0) maxChnlBuff).map Prod.snd
  | .apDeepSleep => .ok (apDeepSleepHandler dev fun _ => 0)

/-- What the handlers need: `ap_deep_sleep_handler` has to fail. -/
def DiagHandler.meets (tuneCore : Option PQTuneCore) (dev : Device) (buf : Buffer UInt8) :
    DiagHandler → Prop
  | .pqCmd cmd => ∀ c, tuneCore = some c → c.meets dev buf cmd
  | .apDeepSleep => (dev.opened .wakeupCount).isSome = true ∨ dev.pthreadCreate = false

lemma apDeepSleep_iff (tuneCore : Option PQTuneCore) (dev : Device) (buf : Buffer UInt8) :
    meetsContract (DiagHandler.run tuneCore dev buf .apDeepSleep) ↔
      DiagHandler.meets tuneCore dev buf .apDeepSleep := by
  unfold DiagHandler.run DiagHandler.meets apDeepSleepHandler
  cases dev.opened .wakeupCount with
  | some e => simp [meetsContract_nonpos]
  | none =>
    cases dev.pthreadCreate with
    | false => simp [meetsContract_nonpos]
    | true =>
      refine iff_of_false (fun h => ?_) (by simp)
      have hpos : (0 : Int) < 2 := by decide
      exact absurd (h hpos).1.first (by decide)

/-- A handler's positive result is the length of a reply, and no failed open or read is answered
with one, exactly when the handler gets what it needs. -/
theorem handler_contract_iff (tuneCore : Option PQTuneCore) (dev : Device) (buf : Buffer UInt8)
    (h : DiagHandler) :
    meetsContract (h.run tuneCore dev buf) ↔ h.meets tuneCore dev buf := by
  cases h with
  | apDeepSleep => exact apDeepSleep_iff tuneCore dev buf
  | pqCmd cmd =>
    unfold DiagHandler.run DiagHandler.meets EngPc.pqCmd
    cases tuneCore with
    | none => exact iff_of_true (meetsContract_nonpos le_rfl) fun c hc => by cases hc
    | some c =>
      have hmap : ∀ r : Except HandlerFault (PQTuneCore × HandlerOut),
          (r.map fun r => (some r.1, r.2)).map Prod.snd = r.map Prod.snd := by
        intro r
        cases r <;> rfl
      dsimp only
      rw [hmap, run_iff]
      simp

/-- A device whose files are all missing, and which starts threads. -/
def bareDevice : Device where
  opened := fun f => if f = .wakeupCount then none else some ⟨2, by decide⟩
  read := fun _ => none
  written := fun _ => false
  grInit := some (-1)
  malloc := true
  pthreadCreate := true
  parser := fun _ _ => ⟨true, id⟩

/-- A failed open of `tune_connect` and a successful `ap_deep_sleep_handler` both give 2, which goes
to the host as a reply of two zeros. -/
theorem errno_answered :
    (∃ o, DiagHandler.run (some ⟨.dpuR2p0, fun _ => 0, 0⟩) bareDevice (fun _ => 0x7e)
        (.pqCmd .connect) = .ok o ∧ CTrans.process o.ret = .dealSuccess ∧
      o.rsp.load 0 o.ret.toNat = [0, 0] ∧ o.failed = true ∧ ¬o.answers) ∧
    ∃ o, DiagHandler.run none bareDevice (fun _ => 0x7e) .apDeepSleep = .ok o ∧
      CTrans.process o.ret = .dealSuccess ∧ o.rsp.load 0 o.ret.toNat = [0, 0] ∧ ¬o.answers := by
  refine ⟨⟨_, rfl, by decide, rfl, rfl, fun h => ?_⟩, _, rfl, by decide, rfl, fun h => ?_⟩
  · exact Bool.noConfusion (h (by decide)).2
  · exact absurd (h (by decide)).1.first (by decide)

end EngPc
