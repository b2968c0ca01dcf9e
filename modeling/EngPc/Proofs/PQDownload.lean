import EngPc.Lib.Machine
import EngPc.Proofs.PQObject

/-!
# The download of a configuration

A start, chunks and an end, in any order. Beside the core goes the session that the requests
describe: the chunks received since a start with the right size was accepted. The offset of the
core follows it as long as every chunk fits and no end comes too early in the right place.
-/

namespace EngPc
open Buffer CLayout LittleEndian

/-- The size of a whole configuration of the last chip. -/
def cfgSize : Nat := IPCore.tuneSizes .dpuR4p0

/-- The `update_xml` functions return; they write what stands in `ctx` to the files, and nothing to
`ctx`. -/
structure XmlDevice where
  dev : Device
  keepsCtx : ∀ m, (dev.parser m .updateXml).ctx = id

inductive WriteCfg
  | start | midst | finish
  deriving DecidableEq, Repr

structure WriteCfgRequest where
  cmd : WriteCfg
  xml : XmlDevice
  buf : Block UInt8
  rsp : Buffer UInt8

def WriteCfgRequest.run (r : WriteCfgRequest) (s : TuneState) :
    Except PQFault (TuneState × TuneOut) :=
  match r.cmd with
  | .start => s.startWriteCfg r.buf r.rsp
  | .midst => s.midstWriteCfg r.buf r.rsp
  | .finish => s.endWriteCfg r.xml.dev r.buf r.rsp

/-- The data of a chunk: what is behind the header of a request, as its length field says. -/
def WriteCfgRequest.chunk (r : WriteCfgRequest) : List UInt8 :=
  r.buf.cells.load 13 (le16 r.buf.cells 5 - 12)

/-- The chunks since the last start, none if that was refused. -/
def WriteCfgRequest.session (r : WriteCfgRequest) (session : Option (List UInt8)) :
    Option (List UInt8) :=
  match r.cmd with
  | .start => if le32 r.buf.cells 13 = cfgSize then some [] else none
  | .midst => session.map (· ++ r.chunk)
  | .finish => session

structure Download where
  core : TuneState
  session : Option (List UInt8)

def Download.step (d : Download) (r : WriteCfgRequest) : Except PQFault (Download × TuneOut) := do
  let res ← r.run d.core
  return (⟨res.1, r.session d.session⟩, res.2)

/-- A new core of the last chip. -/
def Download.init (cells : Buffer UInt8) : Download := ⟨.built .dpuR4p0 cells, none⟩

/-- The chunks make up a configuration. -/
def Download.complete (d : Download) : Prop := ∃ l, d.session = some l ∧ l.length = cfgSize

/-- The five calls of `update_xml`. -/
def xmlUpdates : List ParserClass := [.abcR4p0, .cmsR4p0, .bldLiteR2p0, .gammaLiteR2p0, .hsv]

/-- What a request is to do. A request that copies outside `ctx` has no result. -/
def Download.meets (d : Download) (r : WriteCfgRequest) (res : Download × TuneOut) : Prop :=
  match r.cmd with
  | .start => le32 res.2.reply.rsp 13 = 0 ↔ res.1.session = some []
  | .midst => res.2.calls = []
  | .finish =>
    (le32 res.2.reply.rsp 13 = 0 ↔ d.complete) ∧
    (¬d.complete → res.2.calls = []) ∧
    (d.complete →
      res.2.calls.map (fun call => (call.parser, call.fn)) =
        xmlUpdates.map (fun parser => (parser, .updateXml)) ∧
      some (res.1.core.ctx.cells.load 0 cfgSize) = d.session ∧
      ∀ call ∈ res.2.calls, some (call.ctx.load 0 cfgSize) = d.session)

/-- A chunk fits behind what the offset counts, and an end at the size of a configuration ends a
session. -/
def Download.ready (d : Download) (r : WriteCfgRequest) : Prop :=
  match r.cmd with
  | .start => True
  | .midst => 12 ≤ le16 r.buf.cells 5 ∧
      ∀ offset ∈ d.core.obj.offset, offset + (le16 r.buf.cells 5 - 12) ≤ cfgSize
  | .finish => d.core.obj.offset = some cfgSize → d.session ≠ none

/-- The core of the last chip, with an offset. -/
def coreAt (offset : Nat) : CoreObject := { pqCreateTuneCore .dpuR4p0 with offset := some offset }

/-- In a session the offset counts what has been received, which stands at the front of `ctx`. -/
structure Download.Inv (d : Download) (offset : Nat) : Prop where
  obj : d.core.obj = coreAt offset
  size : d.core.ctx.size = cfgSize
  room : offset ≤ cfgSize
  received : ∀ l, d.session = some l → d.core.ctx.cells.load 0 offset = l

lemma Download.inv_init (cells : Buffer UInt8) : (Download.init cells).Inv 0 :=
  ⟨rfl, rfl, Nat.zero_le _, fun _ h => nomatch h⟩

variable {d : Download} {r : WriteCfgRequest} {offset : Nat}

lemma Download.Inv.length (h : d.Inv offset) {l : List UInt8} (hl : d.session = some l) :
    l.length = offset := by
  rw [← h.received l hl, length_load]

lemma Download.Inv.complete_iff (h : d.Inv offset) :
    d.complete ↔ offset = cfgSize ∧ d.session ≠ none := by
  constructor
  · rintro ⟨l, hl, hlen⟩
    refine ⟨(h.length hl).symm.trans hlen, fun hnone => ?_⟩
    rw [hl] at hnone
    cases hnone
  · rintro ⟨hoff, hsome⟩
    obtain ⟨l, hl⟩ := Option.ne_none_iff_exists'.mp hsome
    exact ⟨l, hl, (h.length hl).trans hoff⟩

section Commands

variable (s : TuneState) (buf : Block UInt8) (rsp : Buffer UInt8)

lemma startWriteCfg_ok {sizes : Nat} (hsizes : s.obj.tuneSizes = some sizes) :
    ∃ reply, s.startWriteCfg buf rsp =
        .ok (⟨{ s.obj with offset := some 0 }, s.ctx⟩, ⟨reply, []⟩) ∧
      le32 reply.rsp 13 = if le32 buf.cells 13 = sizes then 0 else 1 := by
  have hlt : (if le32 buf.cells 13 = sizes then 0 else 1) < 2 ^ 32 := by
    split_ifs <;> decide
  obtain ⟨reply, hreply, hvalue⟩ := answer_sendValue buf.cells rsp hlt false
  refine ⟨reply, ?_, hvalue⟩
  rw [TuneState.startWriteCfg, hsizes, member_some, Except.ok_bind, hreply]
  rfl

lemma midstWriteCfg_ok {offset : Nat} (hoffset : s.obj.offset = some offset)
    (hfit : offset + chunkSize buf ≤ s.ctx.size) :
    ∃ reply, s.midstWriteCfg buf rsp =
      .ok (⟨{ s.obj with offset := some ((offset + chunkSize buf) % 2 ^ 32) },
        ⟨s.ctx.cells.fill offset (buf.cells.load 13 (chunkSize buf)), s.ctx.size⟩⟩,
          ⟨reply, []⟩) := by
  obtain ⟨reply, hreply, -⟩ := answer_sendValue buf.cells rsp (Nat.two_pow_pos 32) false
  refine ⟨reply, ?_⟩
  have hwrite := @Block.write_eq _ s.ctx offset (buf.cells.load 13 (chunkSize buf))
    (.inr (by rwa [length_load]))
  rw [TuneState.midstWriteCfg, hoffset, member_some, Except.ok_bind]
  dsimp only
  rw [hwrite, hreply]
  rfl

lemma endWriteCfg_refused {offset sizes : Nat} (hoffset : s.obj.offset = some offset)
    (hsizes : s.obj.tuneSizes = some sizes) (hne : offset ≠ sizes) (dev : Device) :
    ∃ reply, s.endWriteCfg dev buf rsp = .ok (s, ⟨reply, []⟩) ∧ le32 reply.rsp 13 = 1 := by
  obtain ⟨reply, hreply, hvalue⟩ := answer_sendValue buf.cells rsp (by decide : 1 < 2 ^ 32) false
  refine ⟨reply, ?_, hvalue⟩
  rw [TuneState.endWriteCfg, hoffset, hsizes, member_some, Except.ok_bind, member_some,
    Except.ok_bind, if_neg hne, hreply]
  rfl

lemma endWriteCfg_done {offset : Nat} (hoffset : s.obj.offset = some offset)
    (hsizes : s.obj.tuneSizes = some offset) {cls : PQModule → ParserClass}
    (hcls : ∀ m ∈ allParsers, s.obj.parser m = some (some (cls m))) (dev : Device) :
    ∃ reply, s.endWriteCfg dev buf rsp =
        .ok (⟨s.obj, ⟨ctxAfter dev .updateXml allParsers s.ctx.cells, s.ctx.size⟩⟩,
          ⟨reply, callsFrom dev .updateXml cls allParsers s.ctx.cells⟩) ∧
      le32 reply.rsp 13 = 0 := by
  obtain ⟨reply, hreply, hvalue⟩ := answer_sendValue buf.cells rsp (Nat.two_pow_pos 32)
    (allParsers.any fun m => (dev.parser m .updateXml).failed)
  refine ⟨reply, ?_, hvalue⟩
  rw [TuneState.endWriteCfg, hoffset, hsizes, member_some, Except.ok_bind,
    Except.ok_bind, if_pos rfl, callAll_ok hcls, Except.ok_bind]
  dsimp only
  rw [hreply]
  rfl

end Commands

lemma Download.step_eq {core : TuneState} {out : TuneOut} (h : r.run d.core = .ok (core, out)) :
    d.step r = .ok (⟨core, r.session d.session⟩, out) := by
  rw [Download.step, h]
  rfl

lemma Download.step_session {res : Download × TuneOut} (h : d.step r = .ok res) :
    res.1.session = r.session d.session := by
  rw [Download.step] at h
  cases hrun : r.run d.core with
  | error e =>
    rw [hrun] at h
    cases h
  | ok res' =>
    rw [hrun] at h
    cases h
    rfl

lemma Download.Inv.sizes (h : d.Inv offset) :
    d.core.obj.offset = some offset ∧ d.core.obj.tuneSizes = some cfgSize := by
  rw [h.obj]
  exact ⟨rfl, rfl⟩

lemma start_ok (h : d.Inv offset) (hcmd : r.cmd = .start) :
    ∃ res, d.step r = .ok res ∧ d.meets r res ∧ res.1.Inv 0 := by
  obtain ⟨reply, hrun, hvalue⟩ := startWriteCfg_ok d.core r.buf r.rsp h.sizes.2
  have hsession : r.session d.session = if le32 r.buf.cells 13 = cfgSize then some [] else none := by
    rw [WriteCfgRequest.session, hcmd]
  refine ⟨_, Download.step_eq (by rw [WriteCfgRequest.run, hcmd]; exact hrun), ?_, ?_⟩
  · rw [Download.meets, hcmd]
    dsimp only
    rw [hvalue, hsession]
    split_ifs <;> simp
  · refine ⟨?_, h.size, Nat.zero_le _, fun l hl => ?_⟩
    · rw [h.obj]
      rfl
    · rw [hsession] at hl
      split_ifs at hl
      cases hl
      rfl

lemma chunkSize_eq (h : 12 ≤ le16 r.buf.cells 5) :
    chunkSize r.buf = le16 r.buf.cells 5 - 12 := by
  have hlow := (r.buf.cells 5).toNat_lt
  have hhigh := (r.buf.cells (5 + 1)).toNat_lt
  rw [le16] at h
  rw [chunkSize, le16]
  omega

/-- A chunk is put behind the others, in `ctx` and in the session. -/
lemma midst_ok (h : d.Inv offset) (hcmd : r.cmd = .midst) (hready : d.ready r) :
    ∃ res, d.step r = .ok res ∧ d.meets r res ∧
      res.1.Inv (offset + (le16 r.buf.cells 5 - 12)) := by
  rw [Download.ready, hcmd] at hready
  have hoffset := h.sizes.1
  have hfit := hready.2 offset hoffset
  have hsize := chunkSize_eq hready.1
  have hmax : cfgSize ≤ 65521 := tuneSizes_le .dpuR4p0
  obtain ⟨reply, hrun⟩ := midstWriteCfg_ok d.core r.buf r.rsp hoffset
    (by rwa [hsize, h.size])
  rw [hsize, Nat.mod_eq_of_lt (by omega)] at hrun
  refine ⟨_, Download.step_eq (by rw [WriteCfgRequest.run, hcmd]; exact hrun), ?_, ?_⟩
  · rw [Download.meets, hcmd]
  · refine ⟨?_, h.size, hfit, fun l hl => ?_⟩
    · rw [h.obj]
      rfl
    · rw [WriteCfgRequest.session, hcmd] at hl
      obtain ⟨l', hl', rfl⟩ := Option.map_eq_some_iff.mp hl
      have hload := load_fill_append d.core.ctx.cells offset r.chunk
      rw [h.received l' hl', WriteCfgRequest.chunk, length_load] at hload
      exact hload

/-- Functions that leave `ctx` alone find all the same in it. -/
lemma calls_keep {xml : XmlDevice} {cls : PQModule → ParserClass} (ms : List PQModule)
    (ctx : Buffer UInt8) : ctxAfter xml.dev .updateXml ms ctx = ctx ∧
      callsFrom xml.dev .updateXml cls ms ctx = ms.map fun m => ⟨cls m, .updateXml, ctx⟩ := by
  induction ms generalizing ctx with
  | nil => exact ⟨rfl, rfl⟩
  | cons m ms ih =>
    rw [ctxAfter, List.foldl_cons, callsFrom, xml.keepsCtx m, id, ← ctxAfter, (ih ctx).1,
      (ih ctx).2]
    exact ⟨rfl, rfl⟩

lemma Download.Inv.parsers (h : d.Inv offset) :
    ∀ m ∈ allParsers, d.core.obj.parser m = some (some (lastChipClass m)) := by
  rw [h.obj]
  exact lastChip_parsers

lemma finish_ok (h : d.Inv offset) (hcmd : r.cmd = .finish) (hready : d.ready r) :
    ∃ res, d.step r = .ok res ∧ d.meets r res ∧ res.1.Inv offset := by
  rw [Download.ready, hcmd] at hready
  obtain ⟨hoffset, hsizes⟩ := h.sizes
  have hsession : r.session d.session = d.session := by
    rw [WriteCfgRequest.session, hcmd]
  by_cases hend : offset = cfgSize
  · obtain ⟨reply, hrun, hvalue⟩ := endWriteCfg_done d.core r.buf r.rsp hoffset
      (hend ▸ hsizes) h.parsers r.xml.dev
    have hcomplete : d.complete := h.complete_iff.mpr ⟨hend, hready (hend ▸ hoffset)⟩
    obtain ⟨l, hl, -⟩ := hcomplete
    have hctx : some (d.core.ctx.cells.load 0 cfgSize) = d.session := by
      rw [hl, ← hend, h.received l hl]
    have hcalls := @calls_keep r.xml lastChipClass allParsers d.core.ctx.cells
    rw [hcalls.1, hcalls.2] at hrun
    refine ⟨_, Download.step_eq (by rw [WriteCfgRequest.run, hcmd]; exact hrun), ?_, ?_⟩
    · rw [Download.meets, hcmd]
      refine ⟨iff_of_true hvalue ⟨l, hl, (h.length hl).trans hend⟩, fun hnot => ?_, fun _ => ?_⟩
      · exact absurd ⟨l, hl, (h.length hl).trans hend⟩ hnot
      · refine ⟨rfl, hctx, fun call hcall => ?_⟩
        obtain ⟨m, -, rfl⟩ := List.mem_map.mp hcall
        exact hctx
    · exact ⟨h.obj, h.size, h.room, fun l hl => h.received l (hsession ▸ hl)⟩
  · obtain ⟨reply, hrun, hvalue⟩ :=
      endWriteCfg_refused d.core r.buf r.rsp hoffset hsizes hend r.xml.dev
    have hnot : ¬d.complete := fun hcomplete => hend (h.complete_iff.mp hcomplete).1
    refine ⟨_, Download.step_eq (by rw [WriteCfgRequest.run, hcmd]; exact hrun), ?_, ?_⟩
    · rw [Download.meets, hcmd]
      refine ⟨iff_of_false ?_ hnot, fun _ => rfl, fun hcomplete => absurd hcomplete hnot⟩
      rw [hvalue]
      exact Nat.one_ne_zero
    · exact ⟨h.obj, h.size, h.room, fun l hl => h.received l (hsession ▸ hl)⟩

/-- From a new core of the last chip on, as long as every chunk fits and no end at the right offset
comes outside a session, every copy stays inside `ctx`, and an end is answered with 0 and rewrites
the files exactly when the chunks since an accepted start make up a configuration, which then
stands in `ctx`. -/
theorem download_follows_session (cells : Buffer UInt8) (reqs : List WriteCfgRequest)
    (hready : Machine.Guarded Download.step Download.ready (.init cells) reqs) :
    Machine.Meets Download.step Download.meets (.init cells) reqs := by
  apply Machine.meets_of_guarded (fun d => ∃ offset, d.Inv offset) ?_ _ _ ⟨0, Download.inv_init cells⟩
    hready
  rintro d r ⟨offset, hinv⟩ hok
  cases hcmd : r.cmd with
  | start =>
    obtain ⟨res, hres, hmeets, hinv'⟩ := start_ok hinv hcmd
    exact ⟨res, hres, hmeets, 0, hinv'⟩
  | midst =>
    obtain ⟨res, hres, hmeets, hinv'⟩ := midst_ok hinv hcmd hok
    exact ⟨res, hres, hmeets, _, hinv'⟩
  | finish =>
    obtain ⟨res, hres, hmeets, hinv'⟩ := finish_ok hinv hcmd hok
    exact ⟨res, hres, hmeets, offset, hinv'⟩

/-- A device whose files all open. -/
def plainXml : XmlDevice where
  dev := { bareDevice with opened := fun _ => none, parser := fun _ _ => ⟨false, id⟩ }
  keepsCtx := fun _ => rfl

/-- A request with this length field and these bytes behind the header. -/
def writeCfgRequest (cmd : WriteCfg) (len : Nat) (data : List UInt8) : WriteCfgRequest where
  cmd := cmd
  xml := plainXml
  buf := ⟨Buffer.fill (fun _ => 0) 0 ([0x7e, 0, 0, 0, 0] ++ bytesLE 2 len ++
    [0x5d, 1, match cmd with | .start => 8 | .midst => 9 | .finish => 10, 0, 0, 0] ++ data), len + 2⟩
  rsp := fun _ => 0

/-- An accepted start, a chunk of four bytes and an end that comes too early. -/
theorem download_follows_session_early_end :
    Machine.Meets Download.step Download.meets (.init fun _ => 0)
      [writeCfgRequest .start 16 (bytesLE 4 cfgSize), writeCfgRequest .midst 16 [1, 2, 3, 4],
        writeCfgRequest .finish 12 []] := by
  apply download_follows_session
  exact ⟨trivial, ⟨by decide, by decide⟩, fun h => absurd h (by decide), trivial⟩

/-- A chunk of the size of a configuration, and an end, without any start. -/
theorem download_without_start :
    ¬Machine.Meets Download.step Download.meets (.init fun _ => 0)
      [writeCfgRequest .midst (cfgSize + 12) [], writeCfgRequest .finish 12 []] := by
  have hchunk : (Download.init fun _ => 0).ready (writeCfgRequest .midst (cfgSize + 12) []) :=
    ⟨by decide, by decide⟩
  obtain ⟨res, hres, -, hinv⟩ := midst_ok (Download.inv_init _) rfl hchunk
  have hsession : res.1.session = none := by
    rw [Download.step_session hres]
    rfl
  rw [Machine.Meets, hres]
  rintro ⟨-, hmeets⟩
  rw [Machine.Meets] at hmeets
  have hoffset : res.1.core.obj.offset = some cfgSize := hinv.sizes.1.trans (by decide)
  obtain ⟨reply, hrun, hvalue⟩ := endWriteCfg_done res.1.core (writeCfgRequest .finish 12 []).buf
    (fun _ => 0) hoffset hinv.sizes.2 hinv.parsers plainXml.dev
  rw [@Download.step_eq res.1 (writeCfgRequest .finish 12 []) _ _ hrun] at hmeets
  obtain ⟨l, hl, -⟩ := hmeets.1.1.mp hvalue
  rw [hsession] at hl
  cases hl

end EngPc
