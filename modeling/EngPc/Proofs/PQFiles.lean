import EngPc.Lib.Machine
import EngPc.Model.PQFiles
import EngPc.Proofs.PQDownload
import EngPc.Proofs.PQLaterTables
import EngPc.Proofs.PQModules
import EngPc.Proofs.PQSizes

/-!
# The file of a module behind the commands

The core with the XML file of one of its modules. Below the commands stand the bytes of a C structure
and an element tree; what the tool sees of both is a record of numbers, which the writes replace and
the reads return.
-/

namespace EngPc
open Buffer CLayout CString Except LittleEndian ReadWrite XmlTree

section Fields

variable {σ : Type} [PQFields σ] [PQLayout σ]

lemma eight_mul_fieldBytes (s : σ) : 8 * fieldBytes s = PQFields.width s :=
  Nat.mul_div_cancel' (PQLayout.width_dvd s)

lemma field_fits (s : σ) : fieldOffset s + fieldBytes s ≤ (PQLayout.type σ).size :=
  offsetAt_add_size_le PQLayout.sized (PQLayout.typeAt_path s)

lemma fieldOffset_disjoint {s t : σ} (h : s ≠ t) :
    fieldOffset s + fieldBytes s ≤ fieldOffset t ∨ fieldOffset t + fieldBytes t ≤ fieldOffset s :=
  offsetAt_disjoint PQLayout.sized (PQLayout.typeAt_path s) (PQLayout.typeAt_path t)
    fun heq => h (PQLayout.path_injective heq)

lemma fieldsAt_congr {mem mem' : Buffer UInt8} {off off' n : Nat} (hn : (PQLayout.type σ).size ≤ n)
    (h : mem.load off n = mem'.load off' n) : (fieldsAt mem off : PQCtx σ) = fieldsAt mem' off' := by
  funext s
  have hfits := field_fits s
  have hslice : ∀ (b : Buffer UInt8) (o : Nat), b.load (o + fieldOffset s) (fieldBytes s) =
      ((b.load o n).drop (fieldOffset s)).take (fieldBytes s) := by
    intro b o
    rw [load_drop b o (by omega), load_take b _ (by omega)]
  rw [fieldsAt, fieldsAt, hslice, hslice, h]

variable [DecidableEq σ]

lemma fieldsAt_assign (mem : Buffer UInt8) (off : Nat) (st : Store σ) :
    fieldsAt (assign off mem st) off =
      Function.update (fieldsAt mem off) st.1 (BitVec.ofNat _ st.2) := by
  obtain ⟨t, n⟩ := st
  funext s
  by_cases hs : s = t
  · subst hs
    have hpow : 256 ^ fieldBytes s = 2 ^ PQFields.width s := by
      rw [← eight_mul_fieldBytes s, Nat.pow_mul]
    rw [Function.update_self, fieldsAt, assign, load_fill_of_length _ _ (length_bytesLE _ _),
      natLE_bytesLE, hpow]
    apply BitVec.eq_of_toNat_eq
    rw [BitVec.toNat_ofNat, BitVec.toNat_ofNat, Nat.mod_mod]
  · have hapart := fieldOffset_disjoint hs
    have hload : (assign off mem (t, n)).load (off + fieldOffset s) (fieldBytes s) =
        mem.load (off + fieldOffset s) (fieldBytes s) := by
      apply load_congr
      intro i hi
      apply fill_outside
      dsimp only
      rw [length_bytesLE]
      omega
    rw [Function.update_of_ne hs, fieldsAt, hload, fieldsAt]

/-- The assignments do to the fields what the stores say. -/
theorem fieldsAt_assignAll (mem : Buffer UInt8) (off : Nat) (stores : List (Store σ)) :
    fieldsAt (assignAll mem off stores) off = (fieldsAt mem off).storeAll stores := by
  induction stores generalizing mem with
  | nil => rfl
  | cons st stores ih =>
    have hrest := ih (assign off mem st)
    rw [fieldsAt_assign] at hrest
    exact hrest

end Fields

section Held

variable {σ : Type} [PQFields σ] [DecidableEq σ]

/-- The number that is left in each field for which there are stores. -/
def held (stores : List (Store σ)) (s : σ) : Option (BitVec (PQFields.width s)) :=
  (storedIn s stores).getLast?.map (BitVec.ofNat _)

lemma storeAll_eq_held (ctx : PQCtx σ) (stores : List (Store σ)) (s : σ) :
    ctx.storeAll stores s = (held stores s).getD (ctx s) := storeAll_getLast? ctx stores

end Held

/-- What `update_xml` makes of a file that `parse_xml` gets through. -/
def PQXmlFile.Keeps (file : PQXmlFile) : Prop :=
  ∀ (ctx : PQCtx file.Slot) (root : Node) (stores : List (Store file.Slot)),
    file.stores root = .ok stores → ∃ r stores', file.updateXml ctx root = .ok r ∧
      file.stores r.2 = .ok stores' ∧ ∀ s, held stores' s =
        if file.major = some s then held stores s else (held stores s).map fun _ => ctx s

section Keeps

variable {σ : Type} [PQFields σ] [DecidableEq σ] {name : Text} {major : Option σ}
  {walk : List Node → Except XmlFault (List (Store σ))}
  {write : PQCtx σ → List Node → Except XmlFault (List Node)}

lemma held_of_saves (hsaves : Saves major walk write) (ctx : PQCtx σ) {nodes : List Node}
    {stores : List (Store σ)} (h : walk nodes = .ok stores) :
    ∃ nodes' stores', write ctx nodes = .ok nodes' ∧ walk nodes' = .ok stores' ∧
      ∀ s, held stores' s =
        if major = some s then held stores s else (held stores s).map fun _ => ctx s := by
  obtain ⟨nodes', stores', hwrite, -, hwalk, hstored⟩ := hsaves ctx nodes stores h
  refine ⟨nodes', stores', hwrite, hwalk, fun s => ?_⟩
  rw [held, hstored s]
  split_ifs
  · rfl
  · rw [held, List.getLast?_map, Option.map_map, Option.map_map]
    congr 1
    funext _
    exact ofNat_number ctx s

/-- `update_xml` saves what its writer saves; a root of another name it leaves. -/
lemma keeps_of_saves {other : Int} (hsaves : Saves major walk write) (ctx : PQCtx σ) (root : Node)
    (stores : List (Store σ)) (h : rootStores name walk root = .ok stores) :
    ∃ r stores', updateDocument name other (write ctx) root = .ok r ∧
      rootStores name walk r.2 = .ok stores' ∧ ∀ s, held stores' s =
        if major = some s then held stores s else (held stores s).map fun _ => ctx s := by
  by_cases hname : root.name = name
  · have hname' : ¬root.name ≠ name := not_not.mpr hname
    rw [rootStores, if_neg hname'] at h
    obtain ⟨children, stores', hwrite, hwalk, hheld⟩ := held_of_saves hsaves ctx h
    refine ⟨(0, root.withChildren children), stores', ?_, ?_, hheld⟩
    · rw [updateDocument, if_neg hname', hwrite]
      rfl
    · dsimp only
      rwa [rootStores, name_withChildren, if_neg hname', children_withChildren]
  · rw [rootStores, if_pos hname] at h
    cases h
    refine ⟨(other, root), [], if_pos hname, if_pos hname, fun s => ?_⟩
    split_ifs <;> rfl

end Keeps

lemma xmlFile_keeps {parser : ParserClass} {file : PQXmlFile} (h : parser.xmlFile = some file) :
    file.Keeps := by
  cases parser with
  | gamma =>
    cases h
    exact keeps_of_saves (saves_of_agree agree_parseGamma)
  | bld =>
    cases h
    exact keeps_of_saves (saves_of_agree agree_parseBld)
  | cms =>
    cases h
    exact keeps_of_saves (saves_of_agree agree_parseCms)
  | gammaLiteR2p0 =>
    cases h
    exact keeps_of_saves GammaParserLiteR2p0.saves_parseGamma
  | bldLiteR2p0 =>
    cases h
    exact keeps_of_saves BldParserLiteR2p0.saves_parseBld
  | cmsLiteR2p0 =>
    cases h
    exact keeps_of_saves CmsSharkl5.saves_parseCms
  | cmsR4p0 =>
    cases h
    exact keeps_of_saves CmsSharkl5.saves_parseCms
  | hsv =>
    cases h
    exact keeps_of_saves HsvParser.saves_parseHsv
  | _ => cases h

lemma xmlFile_size {ver : IPCore} {m : PQModule} {own : OwnModule} {file : PQXmlFile}
    (hown : ver.own m = some own) (hfile : own.parser.xmlFile = some file) :
    (PQLayout.type file.Slot).size = own.size := by
  cases ver <;> cases m <;> cases hown <;> cases hfile <;> rfl

/-! ### The core with a file -/

/-- A module of a core, with the XML functions of its parser. -/
structure FileModule (ver : IPCore) where
  own : OwnModule
  file : PQXmlFile
  served : ver.own own.module = some own
  parser : own.parser.xmlFile = some file

inductive FileFault
  | core (fault : PQFault)
  | xml (fault : XmlFault)

/-- The core, and the document in the file of the module. -/
structure TuneFile where
  core : TuneState
  doc : Node

/-- The requests behind the start of a configuration read. -/
inductive ReadCfg
  | midst | finish
  deriving DecidableEq, Repr

structure ReadCfgRequest where
  cmd : ReadCfg
  buf : Block UInt8
  rsp : Block UInt8

def ReadCfgRequest.run (r : ReadCfgRequest) (s : TuneState) : Except PQFault (TuneState × TuneOut) :=
  match r.cmd with
  | .midst => do
    let res ← s.midstReadCfg r.buf r.rsp
    return (s, ⟨⟨res.1, res.2.cells, false⟩, []⟩)
  | .finish => s.endReadCfg r.buf r.rsp.cells

/-- A chunk lies in the structure behind `ctx`, and its answer in the response buffer. -/
def ReadCfgRequest.fits (ver : IPCore) (r : ReadCfgRequest) : Prop :=
  match r.cmd with
  | .midst =>
    21 ≤ r.buf.size ∧ le32 r.buf.cells 17 + le32 r.buf.cells 13 ≤ ver.tuneSizes ∧
      16 + le32 r.buf.cells 13 ≤ r.rsp.size
  | .finish => True

/-- A new start of the daemon, which leaves any bytes in the memory, or a request. -/
inductive FileEvent
  | restart (cells : Buffer UInt8)
  | tune (r : TuneRequest)
  | readCfg (r : ReadCfgRequest)
  | writeCfg (r : WriteCfgRequest)

/-- A chunk has room, and only the last chip ends a download. -/
def WriteCfgRequest.fits (ver : IPCore) (s : TuneState) (r : WriteCfgRequest) : Prop :=
  match r.cmd with
  | .start => True
  | .midst => 12 ≤ le16 r.buf.cells 5 ∧
      ∀ offset ∈ s.obj.offset, offset + (le16 r.buf.cells 5 - 12) ≤ ver.tuneSizes
  | .finish => s.obj.offset = some ver.tuneSizes → ver = .dpuR4p0

/-- What the code takes for granted of an event. -/
def FileEvent.ready (ver : IPCore) (x : TuneFile) : FileEvent → Prop
  | .restart _ => True
  | .tune r => r.ready ver
  | .readCfg r => r.fits ver
  | .writeCfg r => r.fits ver x.core

namespace FileModule

variable {ver : IPCore} (fm : FileModule ver)

/-- The runs of the parsers: what the module's XML functions do to `ctx` is given by the document. -/
def runs (doc : Node) (dev : Device) (m : PQModule) (f : ParserFn) : ParserRun :=
  if m = fm.own.module then
    match f with
    | .parseXml =>
      ⟨(dev.parser m f).failed, fun ctx => (fm.file.parseInto fm.own.off doc ctx).toOption.getD ctx⟩
    | .updateXml => ⟨(dev.parser m f).failed, id⟩
    | .parseReg | .updateReg => dev.parser m f
  else dev.parser m f

def device (doc : Node) (dev : Device) : Device := { dev with parser := fm.runs doc dev }

lemma device_keepsCtx (doc : Node) (xml : XmlDevice) (m : PQModule) :
    ((fm.device doc xml.dev).parser m .updateXml).ctx = id := by
  change (fm.runs doc xml.dev m .updateXml).ctx = id
  rw [runs]
  split_ifs
  · rfl
  · exact xml.keepsCtx m

def tuneRequest (doc : Node) (r : TuneRequest) : TuneRequest := { r with dev := fm.device doc r.dev }

def writeRequest (doc : Node) (r : WriteCfgRequest) : WriteCfgRequest :=
  { r with xml := ⟨fm.device doc r.xml.dev, fm.device_keepsCtx doc r.xml⟩ }

def run (x : TuneFile) : FileEvent → Except PQFault (TuneState × Option TuneOut)
  | .restart cells => .ok (.built ver cells, none)
  | .tune r => ((fm.tuneRequest x.doc r).run x.core).map fun res => (res.1, some res.2)
  | .readCfg r => (r.run x.core).map fun res => (res.1, some res.2)
  | .writeCfg r => ((fm.writeRequest x.doc r).run x.core).map fun res => (res.1, some res.2)

/-- What a call of a parser makes of the document. -/
def called (doc : Node) (call : ParserCall) : Except XmlFault Node :=
  if call.parser = fm.own.parser then
    match call.fn with
    | .parseXml => do
      let _ ← fm.file.stores doc
      return doc
    | .updateXml => fm.file.updateFrom fm.own.off call.ctx doc
    | .parseReg | .updateReg => .ok doc
  else .ok doc

def step (x : TuneFile) (e : FileEvent) : Except FileFault (TuneFile × Option TuneOut) :=
  match fm.run x e with
  | .error fault => .error (.core fault)
  | .ok (core, out) =>
    match (out.elim [] TuneOut.calls).foldlM fm.called x.doc with
    | .error fault => .error (.xml fault)
    | .ok doc => .ok (⟨core, doc⟩, out)

/-- The numbers in a file. -/
abbrev Numbers : Type := (s : fm.file.Slot) → Option (BitVec (PQFields.width s))

/-- The structure that an event saves: the one in the request, or at the end of a download the one
that stands in `ctx`. -/
def saved (e : FileEvent) (out : Option TuneOut) : Option (PQCtx fm.file.Slot) :=
  match e with
  | .restart _ | .readCfg _ => none
  | .tune r =>
    if r.cmd = .wrTuningXml ∧ r.served ver = some fm.own then some (fieldsAt r.buf.cells 15) else none
  | .writeCfg _ => do
    let call ← (out.elim [] TuneOut.calls).find? (·.parser = fm.own.parser)
    return fieldsAt call.ctx fm.own.off

/-- A number that is there is replaced; the major version stays. -/
def next (numbers : fm.Numbers) (e : FileEvent) (out : Option TuneOut) : fm.Numbers :=
  match fm.saved e out with
  | none => numbers
  | some ctx => fun s => if fm.file.major = some s then numbers s else (numbers s).map fun _ => ctx s

/-- A read of the file shows its numbers, and elsewhere what stands in `ctx`. A chunk is answered with
as many bytes as it asks for. -/
def allow (numbers : fm.Numbers) (e : FileEvent) (out : Option TuneOut) : Prop :=
  match e with
  | .tune r =>
    r.cmd = .rdTuningXml → r.served ver = some fm.own → ∃ o ctx, out = some o ∧
      o.calls = [⟨fm.own.parser, .parseXml, ctx⟩] ∧ o.reply.ret = 16 + fm.own.size ∧
      ∀ s, fieldsAt o.reply.rsp 15 s = (numbers s).getD (fieldsAt ctx fm.own.off s)
  | .readCfg r =>
    r.cmd = .midst → ∃ o, out = some o ∧ o.reply.ret = 16 + le32 r.buf.cells 13
  | _ => True

end FileModule

/-- The core that was built, whatever its offset is. -/
structure CoreReady (ver : IPCore) (s : TuneState) : Prop where
  obj : ∃ offset, s.obj = { pqCreateTuneCore ver with offset := some offset }
  size : s.ctx.size = ver.tuneSizes

lemma coreReady_built (ver : IPCore) (cells : Buffer UInt8) : CoreReady ver (.built ver cells) := by
  refine ⟨⟨0, ?_⟩, built_ctx_size ver cells⟩
  cases ver <;> rfl

section Commands

variable {ver : IPCore} {s : TuneState} {r : TuneRequest} {f : ParserFn} (h : CoreReady ver s)

lemma midstReadCfg_ok {buf rsp : Block UInt8} (hsize : s.ctx.size = ver.tuneSizes)
    (hframe : 21 ≤ buf.size) (hchunk : le32 buf.cells 17 + le32 buf.cells 13 ≤ ver.tuneSizes)
    (hroom : 16 + le32 buf.cells 13 ≤ rsp.size) :
    ∃ rsp', s.midstReadCfg buf rsp = .ok (16 + le32 buf.cells 13, rsp') := by
  have hctx := tuneSizes_le ver
  have hmod : (16 + le32 buf.cells 13) % 2 ^ 32 = 16 + le32 buf.cells 13 :=
    Nat.mod_eq_of_lt (by omega)
  have hint : toInt32 (16 + le32 buf.cells 13) = ((16 + le32 buf.cells 13 : Nat) : Int) :=
    if_pos (by omega)
  have hlength : (s.midstReadCfg buf rsp).Succeeds fun o =>
      o.1 = ((16 + le32 buf.cells 13 : Nat) : Int) := by
    rw [TuneState.midstReadCfg]
    simp only [finishReply, succeeds_bind, succeeds_readLE, succeeds_access, Block.succeeds_read,
      Block.succeeds_write, length_load, length_bytesLE, List.length_cons, List.length_nil, hmod,
      hint, pure, Except.pure, succeeds_ok, and_true]
    unfold Block.Holds
    dsimp only
    omega
  obtain ⟨⟨ret, rsp'⟩, hrun, hret⟩ := succeeds_iff.mp hlength
  dsimp only at hret
  subst hret
  exact ⟨rsp', hrun⟩

lemma OwnModule.Of.offset {own : OwnModule} {obj : CoreObject} (hof : own.Of ver obj) (offset : Nat) :
    own.Of ver { obj with offset := some offset } :=
  ⟨hof.parser, hof.size, hof.addr, hof.fits, hof.pos, hof.reply⟩

include h

lemma CoreReady.of {own : OwnModule} (hof : own.Of ver (pqCreateTuneCore ver)) : own.Of ver s.obj := by
  obtain ⟨offset, hobj⟩ := h.obj
  rw [hobj]
  exact hof.offset offset

/-- A read calls the parser of its module, if it has one, and sends what then stands there. -/
lemma rdTuning_reads (hready : le16 r.buf.cells 13 = 5 → ver = .dpuR4p0) :
    ∃ core out, s.rdTuning r.dev r.buf r.rsp f = .ok (core, out) ∧ CoreReady ver core ∧
      (∀ call ∈ out.calls, call.fn = f) ∧ ∀ own, r.served ver = some own →
        out.calls = [⟨own.parser, f, s.ctx.cells⟩] ∧ out.reply.ret = 16 + own.size ∧
        out.reply.rsp.load 15 own.size =
          ((r.dev.parser own.module f).ctx s.ctx.cells).load own.off own.size := by
  cases names ver r with
  | nothing hnone hserved hcode =>
    obtain ⟨reply, hrun⟩ := @rdTuning_plain s r.dev r.buf r.rsp f hnone
    refine ⟨_, _, hrun, h, fun call hcall => absurd hcall List.not_mem_nil, fun own hown => ?_⟩
    rw [hserved] at hown
    cases hown
  | own own hm hversion hserved hof hchip =>
    obtain ⟨reply, hrun, hret, hdata⟩ := @rdTuning_own s r.dev r.buf r.rsp f ver own (h.of hof) h.size
      hm hversion
    refine ⟨_, _, hrun, ⟨h.obj, h.size⟩, fun call hcall => ?_, fun own' hown' => ?_⟩
    · rw [List.mem_singleton.mp hcall]
    · rw [hserved] at hown'
      cases hown'
      exact ⟨rfl, hret, hdata⟩
  | missing hm hserved hcode hchip hptr => exact absurd (hready hcode) hchip

/-- A write calls it with the structure of the request in its place. -/
lemma wrTuning_writes (hready : (le16 r.buf.cells 13 = 5 → ver = .dpuR4p0) ∧
      ∀ m, r.served ver = some m → 15 + m.size ≤ r.buf.size) :
    ∃ core out, s.wrTuning r.dev r.buf r.rsp f = .ok (core, out) ∧ CoreReady ver core ∧
      out.calls = ((r.served ver).map fun own =>
        ⟨own.parser, f, own.replaced s.ctx.cells r.buf.cells⟩).toList := by
  cases names ver r with
  | nothing hnone hserved hcode =>
    obtain ⟨reply, hrun⟩ := @wrTuning_plain s r.dev r.buf r.rsp f hnone
    exact ⟨_, _, hrun, h, by rw [hserved]; rfl⟩
  | own own hm hversion hserved hof hchip =>
    obtain ⟨reply, hrun⟩ := @wrTuning_own s r.dev r.buf r.rsp f ver own (h.of hof) h.size hm hversion
      (hready.2 own hserved)
    exact ⟨_, _, hrun, ⟨h.obj, h.size⟩, by rw [hserved]; rfl⟩
  | missing hm hserved hcode hchip hptr => exact absurd (hready.1 hcode) hchip

lemma CoreReady.lastParsers (hchip : ver = .dpuR4p0) :
    ∀ m ∈ allParsers, s.obj.parser m = some (some (lastChipClass m)) := by
  obtain ⟨offset, hobj⟩ := h.obj
  rw [hobj, hchip]
  exact lastChip_parsers

lemma CoreReady.tuneSizes_obj : s.obj.tuneSizes = some ver.tuneSizes := by
  obtain ⟨offset, hobj⟩ := h.obj
  rw [hobj]
  cases ver <;> rfl

lemma startReadCfg_reads (hchip : ver = .dpuR4p0) :
    ∃ core out, s.startReadCfg r.dev r.buf r.rsp = .ok (core, out) ∧ CoreReady ver core ∧
      ∀ call ∈ out.calls, call.fn = .parseXml := by
  have hlt : ver.tuneSizes < 2 ^ 32 := (tuneSizes_le ver).trans_lt (by decide)
  obtain ⟨reply, hrun⟩ := @startReadCfg_ok s r.dev r.buf r.rsp _ h.tuneSizes_obj hlt _
    (h.lastParsers hchip)
  refine ⟨_, _, hrun, ⟨h.obj, h.size⟩, fun call hcall => ?_⟩
  have hfn : ∀ (ms : List PQModule) (ctx : Buffer UInt8),
      ∀ call ∈ callsFrom r.dev .parseXml lastChipClass ms ctx, call.fn = .parseXml := by
    intro ms
    induction ms with
    | nil => exact fun _ call hcall => absurd hcall List.not_mem_nil
    | cons m ms ih =>
      intro ctx call hcall
      rw [callsFrom, List.mem_cons] at hcall
      rcases hcall with rfl | hcall
      · rfl
      · exact ih _ call hcall
  exact hfn _ _ call hcall

/-- A configuration read behind its start calls no parser and leaves the core as it is. -/
lemma readCfg_calls {q : ReadCfgRequest} (hfits : q.fits ver) :
    ∃ out, q.run s = .ok (s, out) ∧ out.calls = [] ∧
      (q.cmd = .midst → out.reply.ret = 16 + le32 q.buf.cells 13) := by
  rw [ReadCfgRequest.fits] at hfits
  rw [ReadCfgRequest.run]
  cases hcmd : q.cmd with
  | midst =>
    rw [hcmd] at hfits
    obtain ⟨hframe, hchunk, hroom⟩ := hfits
    obtain ⟨rsp, hrun⟩ := midstReadCfg_ok h.size hframe hchunk hroom
    refine ⟨⟨⟨16 + le32 q.buf.cells 13, rsp.cells, false⟩, []⟩, ?_, rfl, fun _ => rfl⟩
    dsimp only
    rw [hrun]
    rfl
  | finish =>
    obtain ⟨reply, hreply, -⟩ :=
      answer_sendValue q.buf.cells q.rsp.cells (Nat.two_pow_pos 32) false
    refine ⟨⟨reply, []⟩, ?_, rfl, fun hmidst => nomatch hmidst⟩
    dsimp only
    rw [TuneState.endReadCfg, hreply]
    rfl

/-- The end of a download calls all parsers with what stands in `ctx`, or none. -/
lemma writeCfg_calls {w : WriteCfgRequest} (hfits : w.fits ver s) :
    ∃ core out, w.run s = .ok (core, out) ∧ CoreReady ver core ∧
      (out.calls = [] ∨ ver = .dpuR4p0 ∧
        out.calls = allParsers.map fun m => ⟨lastChipClass m, .updateXml, s.ctx.cells⟩) := by
  obtain ⟨offset, hobj⟩ := h.obj
  have hoffset : s.obj.offset = some offset := by rw [hobj]
  rw [WriteCfgRequest.fits] at hfits
  rw [WriteCfgRequest.run]
  cases hcmd : w.cmd with
  | start =>
    obtain ⟨reply, hrun, -⟩ := startWriteCfg_ok s w.buf w.rsp h.tuneSizes_obj
    exact ⟨_, _, hrun, ⟨⟨0, by rw [hobj]⟩, h.size⟩, .inl rfl⟩
  | midst =>
    rw [hcmd] at hfits
    have hsize := chunkSize_eq hfits.1
    have hroom := hfits.2 offset hoffset
    obtain ⟨reply, hrun⟩ := midstWriteCfg_ok s w.buf w.rsp hoffset (by rwa [hsize, h.size])
    exact ⟨_, _, hrun, ⟨⟨_, by rw [hobj]⟩, h.size⟩, .inl rfl⟩
  | finish =>
    rw [hcmd] at hfits
    by_cases hend : offset = ver.tuneSizes
    · have hchip := hfits (hend ▸ hoffset)
      obtain ⟨reply, hrun, -⟩ := endWriteCfg_done s w.buf w.rsp hoffset (hend ▸ h.tuneSizes_obj)
        (h.lastParsers hchip) w.xml.dev
      refine ⟨_, _, hrun, ⟨h.obj, h.size⟩, .inr ⟨hchip, ?_⟩⟩
      exact (@calls_keep w.xml lastChipClass allParsers s.ctx.cells).2
    · obtain ⟨reply, hrun, -⟩ := endWriteCfg_refused s w.buf w.rsp hoffset h.tuneSizes_obj hend
        w.xml.dev
      exact ⟨_, _, hrun, h, .inl rfl⟩

end Commands

lemma own_parser_inj {ver : IPCore} {m m' : PQModule} {own own' : OwnModule} (h : ver.own m = some own)
    (h' : ver.own m' = some own') (heq : own.parser = own'.parser) : own = own' := by
  cases ver <;> cases m <;> cases h <;> cases m' <;> cases h' <;> first | rfl | cases heq

lemma own_of_served {ver : IPCore} {r : TuneRequest} {own : OwnModule} (h : r.served ver = some own) :
    ∃ m, ver.own m = some own := by
  rw [TuneRequest.served] at h
  split at h
  · cases h
  · cases h
  · exact ⟨_, h⟩

/-- The parser of a module of the last chip is one of those that the end of a download calls. -/
lemma lastChip_own {own : OwnModule} (h : IPCore.own .dpuR4p0 own.module = some own) :
    own.module ∈ allParsers ∧ own.parser = lastChipClass own.module := by
  obtain ⟨module, parser, off, size⟩ := own
  cases module <;> cases h <;> exact ⟨by decide, rfl⟩

namespace FileModule

variable {ver : IPCore} (fm : FileModule ver) {doc : Node} {stores : List (Store fm.file.Slot)}

lemma called_other {call : ParserCall} (h : call.parser ≠ fm.own.parser) :
    fm.called doc call = .ok doc :=
  if_neg h

/-- A call that only reads leaves a document as it is that can be read. -/
lemma called_reads (h : fm.file.stores doc = .ok stores) {call : ParserCall}
    (hfn : call.fn ≠ .updateXml) : fm.called doc call = .ok doc := by
  obtain ⟨parser, f, ctx⟩ := call
  rw [called]
  dsimp only
  split_ifs
  · cases f with
    | parseXml =>
      dsimp only
      rw [h]
      rfl
    | updateXml => exact absurd rfl hfn
    | _ => rfl
  · rfl

lemma called_update (ctx : Buffer UInt8) :
    fm.called doc ⟨fm.own.parser, .updateXml, ctx⟩ = fm.file.updateFrom fm.own.off ctx doc :=
  if_pos rfl

lemma called_keeps {calls : List ParserCall} (h : ∀ call ∈ calls, fm.called doc call = .ok doc) :
    calls.foldlM fm.called doc = .ok doc := by
  induction calls with
  | nil => rfl
  | cons call calls ih =>
    rw [List.forall_mem_cons] at h
    rw [List.foldlM_cons, h.1]
    exact ih h.2

lemma allCalls_split (hchip : ver = .dpuR4p0) (ctx : Buffer UInt8) : ∃ l l' : List ParserCall,
    (allParsers.map fun m => ⟨lastChipClass m, .updateXml, ctx⟩) =
      l ++ ⟨fm.own.parser, .updateXml, ctx⟩ :: l' ∧
    ∀ call ∈ l ++ l', call.parser ≠ fm.own.parser := by
  have hserved : IPCore.own .dpuR4p0 fm.own.module = some fm.own := by
    rw [← hchip]
    exact fm.served
  obtain ⟨hmem, hparser⟩ := lastChip_own hserved
  obtain ⟨ms, ms', hsplit⟩ := List.append_of_mem hmem
  -- no two modules share a parser
  have hnodup : (allParsers.map lastChipClass).Nodup := by decide
  rw [hsplit, List.map_append, List.map_cons, ← hparser, List.nodup_middle, List.nodup_cons,
    ← List.map_append] at hnodup
  refine ⟨ms.map fun m => ⟨lastChipClass m, .updateXml, ctx⟩,
    ms'.map fun m => ⟨lastChipClass m, .updateXml, ctx⟩, ?_, ?_⟩
  · rw [hsplit, List.map_append, List.map_cons, ← hparser]
  · rw [← List.map_append, List.forall_mem_map]
    exact fun m hm heq => hnodup.1 (List.mem_map.mpr ⟨m, hm, heq⟩)

lemma called_all (hchip : ver = .dpuR4p0) (doc : Node) (ctx : Buffer UInt8) :
    let calls : List ParserCall := allParsers.map fun m => ⟨lastChipClass m, .updateXml, ctx⟩
    calls.foldlM fm.called doc = fm.file.updateFrom fm.own.off ctx doc ∧
      calls.find? (·.parser = fm.own.parser) = some ⟨fm.own.parser, .updateXml, ctx⟩ := by
  obtain ⟨l, l', hcalls, hother⟩ := fm.allCalls_split hchip ctx
  dsimp only
  rw [hcalls]
  rw [List.forall_mem_append] at hother
  constructor
  · have hfront : l.foldlM fm.called doc = .ok doc :=
      fm.called_keeps fun call hcall => fm.called_other (hother.1 call hcall)
    rw [List.foldlM_append, hfront, Except.ok_bind, List.foldlM_cons, called_update]
    cases fm.file.updateFrom fm.own.off ctx doc with
    | error fault => rfl
    | ok doc' => exact fm.called_keeps fun call hcall => fm.called_other (hother.2 call hcall)
  · have hfront : l.find? (·.parser = fm.own.parser) = none := by
      rw [List.find?_eq_none]
      intro call hcall
      simpa using hother.1 call hcall
    rw [List.find?_append, hfront, Option.none_or]
    exact List.find?_cons_of_pos (decide_eq_true rfl)

lemma parseInto_eq (h : fm.file.stores doc = .ok stores) (ctx : Buffer UInt8) :
    fm.file.parseInto fm.own.off doc ctx = .ok (assignAll ctx fm.own.off stores) := by
  rw [PQXmlFile.parseInto, h]
  rfl

/-- What `update_xml` leaves of the document when the structure stands in `ctx`. -/
lemma updateFrom_ok (h : fm.file.stores doc = .ok stores) (ctx : Buffer UInt8) :
    ∃ doc' stores', fm.file.updateFrom fm.own.off ctx doc = .ok doc' ∧
      fm.file.stores doc' = .ok stores' ∧ ∀ s, held stores' s =
        if fm.file.major = some s then held stores s
        else (held stores s).map fun _ => fieldsAt ctx fm.own.off s := by
  obtain ⟨r, stores', hupdate, hstores, hheld⟩ :=
    xmlFile_keeps fm.parser (fieldsAt ctx fm.own.off) doc stores h
  refine ⟨r.2, stores', ?_, hstores, hheld⟩
  rw [PQXmlFile.updateFrom, hupdate]
  rfl

lemma fieldsAt_replaced (ctx frame : Buffer UInt8) :
    (fieldsAt (fm.own.replaced ctx frame) fm.own.off : PQCtx fm.file.Slot) = fieldsAt frame 15 := by
  apply fieldsAt_congr (xmlFile_size fm.served fm.parser).le
  rw [← fill_eq_replaced, load_fill_of_length _ _ (length_load _ _ _)]

/-- The core stands, and the file holds the numbers. -/
def Holds (x : TuneFile) (numbers : fm.Numbers) : Prop :=
  CoreReady ver x.core ∧ ∃ stores, fm.file.stores x.doc = .ok stores ∧ held stores = numbers

variable {fm} {x : TuneFile} {numbers : fm.Numbers} {e : FileEvent} {core : TuneState}
  {out : Option TuneOut}

lemma Holds.keeps (h : fm.Holds x numbers) (hrun : fm.run x e = .ok (core, out))
    (hcore : CoreReady ver core)
    (hcalls : ∀ call ∈ out.elim [] TuneOut.calls, fm.called x.doc call = .ok x.doc)
    (hsaved : fm.saved e out = none) :
    ∃ x', fm.step x e = .ok (x', out) ∧ fm.Holds x' (fm.next numbers e out) := by
  refine ⟨⟨core, x.doc⟩, ?_, hcore, ?_⟩
  · rw [step, hrun]
    dsimp only
    rw [called_keeps fm hcalls]
  · rw [next, hsaved]
    exact h.2

lemma Holds.saves (h : fm.Holds x numbers) (hrun : fm.run x e = .ok (core, out))
    (hcore : CoreReady ver core) (ctx : Buffer UInt8)
    (hcalls : (out.elim [] TuneOut.calls).foldlM fm.called x.doc =
      fm.file.updateFrom fm.own.off ctx x.doc)
    (hsaved : fm.saved e out = some (fieldsAt ctx fm.own.off)) :
    ∃ x', fm.step x e = .ok (x', out) ∧ fm.Holds x' (fm.next numbers e out) := by
  obtain ⟨-, stores, hdoc, rfl⟩ := h
  obtain ⟨doc', stores', hupdate, hdoc', hheld⟩ := fm.updateFrom_ok hdoc ctx
  refine ⟨⟨core, doc'⟩, ?_, hcore, stores', hdoc', ?_⟩
  · rw [step, hrun]
    dsimp only
    rw [hcalls, hupdate]
  · rw [next, hsaved]
    exact funext hheld

lemma step_read (h : fm.Holds x numbers) {r : TuneRequest} {f : ParserFn} (hf : f ≠ .updateXml)
    (hcmd : (fm.tuneRequest x.doc r).run x.core =
      x.core.rdTuning (fm.device x.doc r.dev) r.buf r.rsp f)
    (hallow : r.cmd = .rdTuningXml → f = .parseXml) (hwrite : r.cmd ≠ .wrTuningXml)
    (hready : le16 r.buf.cells 13 = 5 → ver = .dpuR4p0) :
    ∃ x' out, fm.step x (.tune r) = .ok (x', out) ∧ fm.allow numbers (.tune r) out ∧
      fm.Holds x' (fm.next numbers (.tune r) out) := by
  obtain ⟨stores, hdoc, hnumbers⟩ := h.2
  obtain ⟨core, out, hrun, hcore, hcalls, hown⟩ :=
    @rdTuning_reads ver x.core (fm.tuneRequest x.doc r) f h.1 hready
  have hrun' : fm.run x (.tune r) = .ok (core, some out) := by
    rw [run, hcmd.trans hrun]
    rfl
  have hreads : ∀ call ∈ out.calls, call.fn ≠ .updateXml := by
    intro call hcall
    rwa [hcalls call hcall]
  obtain ⟨x', hstep, hholds⟩ := h.keeps hrun' hcore
    (fun call hcall => fm.called_reads hdoc (hreads call hcall)) (if_neg fun hw => hwrite hw.1)
  refine ⟨x', some out, hstep, fun hread hserved => ?_, hholds⟩
  obtain rfl := hallow hread
  obtain ⟨hcall, hret, hdata⟩ := hown fm.own hserved
  refine ⟨out, x.core.ctx.cells, rfl, hcall, hret, fun s => ?_⟩
  have hparser : ((fm.device x.doc r.dev).parser fm.own.module .parseXml).ctx x.core.ctx.cells =
      assignAll x.core.ctx.cells fm.own.off stores := by
    change (fm.runs x.doc r.dev fm.own.module .parseXml).ctx x.core.ctx.cells = _
    rw [runs, if_pos rfl]
    dsimp only
    rw [fm.parseInto_eq hdoc]
    rfl
  have hfields : (fieldsAt out.reply.rsp 15 : PQCtx fm.file.Slot) =
      fieldsAt (assignAll x.core.ctx.cells fm.own.off stores) fm.own.off :=
    fieldsAt_congr (xmlFile_size fm.served fm.parser).le (hdata.trans (by rw [← hparser]; rfl))
  rw [hfields, fieldsAt_assignAll, storeAll_eq_held, hnumbers]

lemma step_write (h : fm.Holds x numbers) {r : TuneRequest} {f : ParserFn}
    (hcmd : (fm.tuneRequest x.doc r).run x.core =
      x.core.wrTuning (fm.device x.doc r.dev) r.buf r.rsp f)
    (hfn : f = .updateXml ↔ r.cmd = .wrTuningXml) (hread : r.cmd ≠ .rdTuningXml)
    (hready : (le16 r.buf.cells 13 = 5 → ver = .dpuR4p0) ∧
      ∀ m, r.served ver = some m → 15 + m.size ≤ r.buf.size) :
    ∃ x' out, fm.step x (.tune r) = .ok (x', out) ∧ fm.allow numbers (.tune r) out ∧
      fm.Holds x' (fm.next numbers (.tune r) out) := by
  obtain ⟨stores, hdoc, -⟩ := h.2
  obtain ⟨core, out, hrun, hcore, hcalls⟩ :=
    @wrTuning_writes ver x.core (fm.tuneRequest x.doc r) f h.1 hready
  have hrun' : fm.run x (.tune r) = .ok (core, some out) := by
    rw [run, hcmd.trans hrun]
    rfl
  have hcalls' : out.calls = ((r.served ver).map fun own =>
      ⟨own.parser, f, own.replaced x.core.ctx.cells r.buf.cells⟩).toList := hcalls
  by_cases hsave : r.cmd = .wrTuningXml ∧ r.served ver = some fm.own
  · have hupdate : out.calls.foldlM fm.called x.doc =
        fm.file.updateFrom fm.own.off (fm.own.replaced x.core.ctx.cells r.buf.cells) x.doc := by
      rw [hcalls', hsave.2, hfn.mpr hsave.1, Option.map_some, Option.toList_some, List.foldlM_cons,
        called_update]
      cases fm.file.updateFrom fm.own.off (fm.own.replaced x.core.ctx.cells r.buf.cells) x.doc <;> rfl
    have hsaved : fm.saved (.tune r) (some out) =
        some (fieldsAt (fm.own.replaced x.core.ctx.cells r.buf.cells) fm.own.off) := by
      rw [fieldsAt_replaced]
      exact if_pos hsave
    obtain ⟨x', hstep, hholds⟩ := h.saves hrun' hcore _ hupdate hsaved
    exact ⟨x', some out, hstep, fun hrd => absurd hrd hread, hholds⟩
  · have hkeeps : ∀ call ∈ out.calls, fm.called x.doc call = .ok x.doc := by
      intro call hcall
      rw [hcalls', Option.mem_toList, Option.map_eq_some_iff] at hcall
      obtain ⟨own, hown, rfl⟩ := hcall
      by_cases hf : f = .updateXml
      · apply called_other
        intro heq
        -- the parser of the file would make the module that is served the file's own
        obtain ⟨m, hm⟩ := own_of_served hown
        exact hsave ⟨hfn.mp hf, hown.trans (congrArg some (own_parser_inj hm fm.served heq))⟩
      · exact fm.called_reads hdoc hf
    obtain ⟨x', hstep, hholds⟩ := h.keeps hrun' hcore hkeeps (if_neg hsave)
    exact ⟨x', some out, hstep, fun hrd => absurd hrd hread, hholds⟩

lemma step_readCfg (h : fm.Holds x numbers) {r : TuneRequest} (hcmd : r.cmd = .startReadCfg)
    (hchip : ver = .dpuR4p0) :
    ∃ x' out, fm.step x (.tune r) = .ok (x', out) ∧ fm.allow numbers (.tune r) out ∧
      fm.Holds x' (fm.next numbers (.tune r) out) := by
  obtain ⟨stores, hdoc, -⟩ := h.2
  obtain ⟨core, out, hrun, hcore, hcalls⟩ :=
    @startReadCfg_reads ver x.core (fm.tuneRequest x.doc r) h.1 hchip
  have hrequest : (fm.tuneRequest x.doc r).run x.core = .ok (core, out) := by
    rw [TuneRequest.run, tuneRequest, hcmd]
    exact hrun
  have hrun' : fm.run x (.tune r) = .ok (core, some out) := by
    rw [run, hrequest]
    rfl
  have hreads : ∀ call ∈ out.calls, call.fn ≠ .updateXml := by
    intro call hcall
    rw [hcalls call hcall]
    decide
  have hsaved : fm.saved (.tune r) (some out) = none := by
    apply if_neg
    rw [hcmd]
    rintro ⟨hw, -⟩
    cases hw
  obtain ⟨x', hstep, hholds⟩ := h.keeps hrun' hcore
    (fun call hcall => fm.called_reads hdoc (hreads call hcall)) hsaved
  refine ⟨x', some out, hstep, fun hread => ?_, hholds⟩
  rw [hcmd] at hread
  cases hread

lemma step_readChunk (h : fm.Holds x numbers) {r : ReadCfgRequest} (hfits : r.fits ver) :
    ∃ x' out, fm.step x (.readCfg r) = .ok (x', out) ∧ fm.allow numbers (.readCfg r) out ∧
      fm.Holds x' (fm.next numbers (.readCfg r) out) := by
  obtain ⟨out, hrun, hcalls, hret⟩ := readCfg_calls h.1 hfits
  have hrun' : fm.run x (.readCfg r) = .ok (x.core, some out) := by
    rw [run, hrun]
    rfl
  have hkeeps : ∀ call ∈ out.calls, fm.called x.doc call = .ok x.doc := by
    rw [hcalls]
    exact List.forall_mem_nil _
  obtain ⟨x', hstep, hholds⟩ := h.keeps hrun' h.1 hkeeps rfl
  exact ⟨x', some out, hstep, fun hcmd => ⟨out, rfl, hret hcmd⟩, hholds⟩

lemma step_writeCfg (h : fm.Holds x numbers) {r : WriteCfgRequest} (hfits : r.fits ver x.core) :
    ∃ x' out, fm.step x (.writeCfg r) = .ok (x', out) ∧
      fm.Holds x' (fm.next numbers (.writeCfg r) out) := by
  obtain ⟨core, out, hrun, hcore, hcalls⟩ :=
    @writeCfg_calls ver x.core h.1 (fm.writeRequest x.doc r) hfits
  have hrun' : fm.run x (.writeCfg r) = .ok (core, some out) := by
    rw [run, hrun]
    rfl
  rcases hcalls with hnone | ⟨hchip, hall⟩
  · have hkeeps : ∀ call ∈ out.calls, fm.called x.doc call = .ok x.doc := by
      rw [hnone]
      exact List.forall_mem_nil _
    have hsaved : fm.saved (.writeCfg r) (some out) = none := by
      rw [saved, Option.elim_some, hnone]
      rfl
    obtain ⟨x', hstep, hholds⟩ := h.keeps hrun' hcore hkeeps hsaved
    exact ⟨x', some out, hstep, hholds⟩
  · obtain ⟨hfold, hfind⟩ := fm.called_all hchip x.doc x.core.ctx.cells
    rw [← hall] at hfold hfind
    have hsaved : fm.saved (.writeCfg r) (some out) =
        some (fieldsAt x.core.ctx.cells fm.own.off) := by
      rw [saved, Option.elim_some, hfind]
      rfl
    obtain ⟨x', hstep, hholds⟩ := h.saves hrun' hcore x.core.ctx.cells hfold hsaved
    exact ⟨x', some out, hstep, hholds⟩

/-- One event keeps the numbers in the file and what the tool sees of them together. -/
lemma step_holds (h : fm.Holds x numbers) (hready : e.ready ver x) :
    ∃ x' out, fm.step x e = .ok (x', out) ∧ fm.allow numbers e out ∧
      fm.Holds x' (fm.next numbers e out) := by
  cases e with
  | restart cells =>
    obtain ⟨x', hstep, hholds⟩ := h.keeps (e := .restart cells) rfl (coreReady_built ver cells)
      (fun call hcall => nomatch hcall) rfl
    exact ⟨x', none, hstep, trivial, hholds⟩
  | tune r =>
    rw [FileEvent.ready, TuneRequest.ready] at hready
    cases hcmd : r.cmd with
    | startReadCfg =>
      rw [hcmd] at hready
      exact step_readCfg h hcmd hready
    | rdTuningReg =>
      rw [hcmd] at hready
      exact step_read h (f := .parseReg) (by decide) (by rw [TuneRequest.run, tuneRequest, hcmd])
        (fun hread => by rw [hcmd] at hread; cases hread) (by rw [hcmd]; decide) hready
    | rdTuningXml =>
      rw [hcmd] at hready
      exact step_read h (f := .parseXml) (by decide) (by rw [TuneRequest.run, tuneRequest, hcmd])
        (fun _ => rfl) (by rw [hcmd]; decide) hready
    | wrTuningReg =>
      rw [hcmd] at hready
      exact step_write h (f := .updateReg) (by rw [TuneRequest.run, tuneRequest, hcmd])
        (by rw [hcmd]; decide) (by rw [hcmd]; decide) hready
    | wrTuningXml =>
      rw [hcmd] at hready
      exact step_write h (f := .updateXml) (by rw [TuneRequest.run, tuneRequest, hcmd])
        (by rw [hcmd]; decide) (by rw [hcmd]; decide) hready
  | readCfg r => exact step_readChunk h hready
  | writeCfg r =>
    obtain ⟨x', out, hstep, hholds⟩ := step_writeCfg h hready
    exact ⟨x', out, hstep, trivial, hholds⟩

end FileModule

/-- The gamma file of the last chip. -/
def lastGammaFile : FileModule .dpuR4p0 where
  own := ⟨.gamma, .gammaLiteR2p0, 8, 3084⟩
  file := .gammaLiteR2p0
  served := rfl
  parser := rfl

/-- A request for gamma, with bytes 5 behind its header. -/
def gammaRequest (cmd : TuneCmd) : TuneRequest where
  cmd := cmd
  dev := plainXml.dev
  buf := ⟨fun k => if k = 13 then 1 else if k = 14 then 0 else 5, 3100⟩
  rsp := fun _ => 0

end EngPc
