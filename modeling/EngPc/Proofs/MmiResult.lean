import EngPc.Lib.Machine
import EngPc.Model.MmiResult
import EngPc.Proofs.BbatConfig
import EngPc.Proofs.Miscdata

/-!
# What the files of test results keep

A read answers with what was confirmed last. Only the file of the BBAT test gets made, by the first
read of any test, from the support table that is configured then.
-/

namespace EngPc
open Buffer LittleEndian

/-- The results of each kind of test, where there are some. -/
abbrev MmiResults := MmiTest → Option (List UInt8)

/-- The status in an answer. -/
def mmiStatus (out : List UInt8) : Nat := natLE ((out.drop (1 + msgHeadLen)).take 2)

/-- The results in an answer. -/
def mmiResultsIn (out : List UInt8) : List UInt8 := (out.drop (mmiAt + 2)).take mmiBuffLen

/-- The rows of a configuration, if it can be opened. -/
def bbatRows (conf : Option (List UInt8)) : List HardwareResult :=
  (conf.map fun conf => rowsRead (rowTexts conf)).getD []

/-- Every test of the table, with its support flag and no result. -/
def bbatTable (conf : Option (List UInt8)) : List UInt8 :=
  (recordsOf (bbatRows conf)).flatMap TestNewResultInfo.bytes

namespace MmiRequest

variable (r : MmiRequest)

def test : Option MmiTest := mmiTest (le16 r.buf mmiAt)

/-- The results in a request. -/
def results : List UInt8 := r.buf.load (mmiAt + 2) mmiBuffLen

/-- What a read finds. -/
def made (t : MmiResults) : MmiResults :=
  if t .bbat = none ∧ r.io.openTest = .opened then
    Function.update t .bbat (some (bbatTable r.conf))
  else t

/-- The results that a request gets at. -/
def reached (t : MmiResults) : Option (List UInt8) :=
  if r.io.opens = true ∧ r.io.transfer.isSome = true then r.test.bind t else none

/-- A confirmed write replaces the results of its test. -/
def next (t : MmiResults) (r : MmiRequest) (out : List UInt8) : MmiResults :=
  match r.cmd with
  | .read => r.made t
  | .write =>
    match r.test with
    | none => t
    | some test => if mmiStatus out = 0 then Function.update t test (some r.results) else t

def allow (t : MmiResults) (r : MmiRequest) (out : List UInt8) : Prop :=
  match r.cmd with
  | .read =>
    match r.reached (r.made t) with
    | none => mmiStatus out = 1
    | some results => mmiStatus out = 0 ∧ (mmiResultsIn out).take results.length = results
  | .write => mmiStatus out = if (r.reached t).isSome then 0 else 1

/-- The answer has room, files are read and written whole, and the rows fit the support table. -/
structure Ready : Prop where
  room : msgHeadLen + apCnfLen + 2 + mmiBuffLen + 2 ≤ r.rsp.size
  whole : ∀ n ∈ r.io.transfer, mmiBuffLen ≤ n
  created : r.cmd = .read → mmiBuffLen ≤ r.io.created
  rows : r.cmd = .read → ∀ conf ∈ r.conf, RowsFit 0 (rowTexts conf)

end MmiRequest

lemma engInitTestFile_rows (io : BbatIo) {conf : Option (List UInt8)}
    (h : ∀ c ∈ conf, RowsFit 0 (rowTexts c)) :
    ∃ ret records, engInitTestFile io conf = .ok (ret, records) ∧
      ∀ l, l ∈ records ↔ io.Writes ∧ l = recordsOf (bbatRows conf) := by
  cases conf with
  | some conf => exact (engInitTestFile_eq io conf).1 (h conf rfl)
  | none => exact engInitTestFile_of_rows io rfl (fill_nil _ _).symm

lemma length_bbatTable (conf : Option (List UInt8)) : (bbatTable conf).length = mmiBuffLen := by
  have hfour : ∀ r ∈ recordsOf (bbatRows conf), r.bytes.length = 4 := fun _ _ => rfl
  rw [bbatTable, List.length_flatMap, List.map_congr_left hfour, List.map_const', List.sum_replicate_nat,
    recordsOf, List.length_map, List.length_range]
  rfl

/-- What is in the files, as far as an answer has room for it. -/
def resultsIn (files : MmiFiles) : MmiResults := fun test => (files test).map (·.take mmiBuffLen)

lemma resultsIn_update (files : MmiFiles) (test : MmiTest) (bytes : List UInt8) :
    resultsIn (Function.update files test (some bytes)) =
      Function.update (resultsIn files) test (some (bytes.take mmiBuffLen)) := by
  funext test'
  by_cases h : test' = test
  · subst h
    rw [resultsIn, Function.update_self, Function.update_self, Option.map_some]
  · rw [resultsIn, Function.update_of_ne h, Function.update_of_ne h, resultsIn]

variable {r : MmiRequest} {files : MmiFiles}

lemma initTestFile_made (hcreated : mmiBuffLen ≤ r.io.created)
    (hrows : ∀ conf ∈ r.conf, RowsFit 0 (rowTexts conf)) :
    ∃ files', initTestFile r.io r.conf files = .ok files' ∧
      resultsIn files' = r.made (resultsIn files) := by
  obtain ⟨ret, records, hrun, hmem⟩ :=
    engInitTestFile_rows ⟨(files .bbat).isSome, r.io.openTest⟩ hrows
  have hwrites : BbatIo.Writes ⟨(files .bbat).isSome, r.io.openTest⟩ ↔
      resultsIn files .bbat = none ∧ r.io.openTest = .opened := by
    rw [BbatIo.Writes, resultsIn, Option.map_eq_none_iff, Option.isSome_eq_false_iff,
      Option.isNone_iff_eq_none]
  rw [initTestFile, hrun, Except.ok_bind, MmiRequest.made]
  cases records with
  | none =>
    have hnot : ¬(resultsIn files .bbat = none ∧ r.io.openTest = .opened) := by
      intro h
      have hwritten := (hmem _).mpr ⟨hwrites.mpr h, rfl⟩
      cases hwritten
    exact ⟨files, rfl, (if_neg hnot).symm⟩
  | some l =>
    obtain ⟨hw, rfl⟩ := (hmem l).mp rfl
    refine ⟨_, rfl, ?_⟩
    have htable : (bbatTable r.conf).take r.io.created = bbatTable r.conf :=
      List.take_of_length_le (by rwa [length_bbatTable])
    rw [if_pos (hwrites.mp hw), resultsIn_update, ← bbatTable, htable,
      List.take_of_length_le (length_bbatTable r.conf).le]

lemma readResult_eq (h : ∀ n ∈ r.io.transfer, mmiBuffLen ≤ n) :
    readResult r.io files (le16 r.buf mmiAt) = r.reached (resultsIn files) := by
  rw [readResult, MmiRequest.reached, MmiRequest.test]
  cases mmiTest (le16 r.buf mmiAt) with
  | none => simp
  | some test =>
    cases hopens : r.io.opens with
    | false => cases files test <;> simp
    | true =>
      cases htransfer : r.io.transfer with
      | none => cases files test <;> simp
      | some n =>
        have hn : min mmiBuffLen n = mmiBuffLen := min_eq_left (h n (by rw [htransfer]; rfl))
        cases hfile : files test <;> simp [hfile, hn, resultsIn]

/-- A write that gets at the results of a test replaces them, and another one changes nothing. -/
lemma writeResult_eq (h : ∀ n ∈ r.io.transfer, mmiBuffLen ≤ n) :
    match r.reached (resultsIn files) with
    | none => writeResult r.io files (le16 r.buf mmiAt) r.results = none
    | some _ => ∃ test files', r.test = some test ∧
        writeResult r.io files (le16 r.buf mmiAt) r.results = some files' ∧
        resultsIn files' = Function.update (resultsIn files) test (some r.results) := by
  have hlength : r.results.length = mmiBuffLen := length_load _ _ _
  rw [writeResult, MmiRequest.reached, MmiRequest.test]
  cases mmiTest (le16 r.buf mmiAt) with
  | none => simp
  | some test =>
    cases hopens : r.io.opens with
    | false => cases files test <;> simp
    | true =>
      cases htransfer : r.io.transfer with
      | none => cases files test <;> simp
      | some n =>
        have htake : r.results.take n = r.results :=
          List.take_of_length_le (by rw [hlength]; exact h n (by rw [htransfer]; rfl))
        cases hfile : files test with
        | none => simp [hfile, resultsIn]
        | some file =>
          have hkept : (r.results ++ file.drop r.results.length).take mmiBuffLen = r.results :=
            List.take_left' hlength
          simp [hfile, resultsIn, htake, hkept, resultsIn_update, -List.length_take]

section Answers

variable {answer : Buffer UInt8} {n : Nat}

lemma packet_part {k m : Nat} (h : k + m ≤ n) :
    ((0x7e :: answer.load 0 n ++ [0x7e]).drop (k + 1)).take m = answer.load k m := by
  have hlength : (answer.load 0 n).length = n := length_load _ _ _
  rw [List.cons_append, List.drop_succ_cons, List.drop_append_of_le_length (by omega),
    load_drop _ _ (by omega), Nat.zero_add, List.take_append_of_le_length (by rw [length_load]; omega),
    load_take _ _ (by omega)]

lemma mmiStatus_packet (h : msgHeadLen + apCnfLen ≤ n) :
    mmiStatus (0x7e :: answer.load 0 n ++ [0x7e]) = natLE (answer.load msgHeadLen 2) := by
  rw [apCnfLen] at h
  rw [mmiStatus, Nat.add_comm 1, packet_part (by omega)]

lemma mmiResultsIn_packet (h : msgHeadLen + apCnfLen + 2 + mmiBuffLen ≤ n) :
    mmiResultsIn (0x7e :: answer.load 0 n ++ [0x7e]) =
      answer.load (msgHeadLen + apCnfLen + 2) mmiBuffLen := by
  rw [mmiResultsIn, show mmiAt + 2 = msgHeadLen + apCnfLen + 2 + 1 from rfl, packet_part h]

lemma mmiAnswer_status (heap buf : Buffer UInt8) (rsplen status length : Nat) :
    natLE ((mmiAnswer heap buf rsplen status length).load msgHeadLen 2) = status % 256 ^ 2 := by
  rw [mmiAnswer, load_fill_before _ _ _ _ _ le_rfl, load_fill_of_length _ _ (length_bytesLE _ _),
    natLE_bytesLE]

lemma packet_sent (answer : Buffer UInt8) {rsp : Block UInt8} (h : n + 2 ≤ rsp.size) :
    ∃ sent, miscTranslatePacket rsp (answer.load 0 n) = .ok (sent, n + 2) ∧
      sent.cells.load 0 (n + 2) = 0x7e :: answer.load 0 n ++ [0x7e] := by
  have hlength : (answer.load 0 n).length = n := length_load _ _ _
  obtain ⟨sent, hsent, hload⟩ := miscTranslatePacket_eq rsp (answer.load 0 n) (by omega)
  rw [hlength] at hsent hload
  exact ⟨sent, hsent, hload⟩

end Answers

lemma reached_short {results : List UInt8} (h : r.reached (resultsIn files) = some results) :
    results.length ≤ mmiBuffLen := by
  rw [MmiRequest.reached] at h
  split_ifs at h
  obtain ⟨test, -, htest⟩ := Option.bind_eq_some_iff.mp h
  rw [resultsIn, Option.map_eq_some_iff] at htest
  obtain ⟨file, -, rfl⟩ := htest
  exact List.length_take_le _ _

lemma read_allowed (hready : r.Ready) (hcmd : r.cmd = .read) :
    ∃ files' out, r.run files = .ok (files', out) ∧
      MmiRequest.allow (resultsIn files) r out ∧
      resultsIn files' = MmiRequest.next (resultsIn files) r out := by
  obtain ⟨files', hinit, hmade⟩ :=
    @initTestFile_made r files (hready.created hcmd) (hready.rows hcmd)
  have hread := @readResult_eq r files' hready.whole
  rw [hmade] at hread
  simp only [MmiRequest.run, MmiRequest.allow, MmiRequest.next, hcmd, hinit, Except.ok_bind,
    engDiagReadMmi, hread]
  cases hreached : r.reached (r.made (resultsIn files)) with
  | none =>
    obtain ⟨sent, hsent, hout⟩ := packet_sent (mmiAnswer r.heap r.buf
      (msgHeadLen + apCnfLen + 2 + mmiBuffLen) 1 (2 + mmiBuffLen)) hready.room
    refine ⟨files', _, by rw [hsent]; rfl, ?_, hmade⟩
    dsimp only
    rw [hout, mmiStatus_packet (by omega), mmiAnswer_status]
    rfl
  | some results =>
    obtain ⟨sent, hsent, hout⟩ := packet_sent ((mmiAnswer r.heap r.buf
      (msgHeadLen + apCnfLen + 2 + mmiBuffLen) 0 (2 + mmiBuffLen)).fill (msgHeadLen + apCnfLen + 2)
        results) hready.room
    have hshort : results.length ≤ mmiBuffLen := by
      rw [← hmade] at hreached
      exact reached_short hreached
    refine ⟨files', _, by rw [hsent]; rfl, ?_, hmade⟩
    dsimp only
    rw [hout, mmiStatus_packet (by omega), mmiResultsIn_packet le_rfl,
      load_fill_before _ _ _ _ _ (by rw [apCnfLen]; omega), mmiAnswer_status, load_take _ _ hshort,
      load_fill]
    exact ⟨rfl, rfl⟩

lemma write_allowed (hready : r.Ready) (hcmd : r.cmd = .write) :
    ∃ files' out, r.run files = .ok (files', out) ∧
      MmiRequest.allow (resultsIn files) r out ∧
      resultsIn files' = MmiRequest.next (resultsIn files) r out := by
  have hroom : msgHeadLen + apCnfLen + 2 ≤ r.rsp.size := by
    have hread := hready.room
    omega
  have hwrite := @writeResult_eq r files hready.whole
  have hdata : r.buf.load (mmiAt + 2) mmiBuffLen = r.results := rfl
  have hstatus : ∀ status : Nat, status < 2 → ∃ sent,
      miscTranslatePacket r.rsp ((mmiAnswer r.heap r.buf (msgHeadLen + apCnfLen) status 0).load 0
        (msgHeadLen + apCnfLen)) = .ok (sent, msgHeadLen + apCnfLen + 2) ∧
      mmiStatus (sent.cells.load 0 (msgHeadLen + apCnfLen + 2)) = status := by
    intro status hlt
    obtain ⟨sent, hsent, hout⟩ := packet_sent (mmiAnswer r.heap r.buf (msgHeadLen + apCnfLen)
      status 0) hroom
    refine ⟨sent, hsent, ?_⟩
    rw [hout, mmiStatus_packet le_rfl, mmiAnswer_status]
    exact Nat.mod_eq_of_lt (by omega)
  simp only [MmiRequest.run, MmiRequest.allow, MmiRequest.next, hcmd, engDiagWriteMmi, hdata]
  cases hreached : r.reached (resultsIn files) with
  | none =>
    rw [hreached] at hwrite
    obtain ⟨sent, hsent, hone⟩ := hstatus 1 (by omega)
    refine ⟨files, _, by rw [hwrite, Option.isSome_none, if_neg Bool.false_ne_true, hsent]; rfl,
      hone, ?_⟩
    cases r.test with
    | none => rfl
    | some test =>
      dsimp only
      rw [hone, if_neg one_ne_zero]
  | some results =>
    rw [hreached] at hwrite
    obtain ⟨test, files', htest, hfiles, hresults⟩ := hwrite
    obtain ⟨sent, hsent, hzero⟩ := hstatus 0 (by omega)
    refine ⟨files', _, by rw [hfiles, Option.isSome_some, if_pos rfl, hsent]; rfl, hzero, ?_⟩
    rw [htest, hresults]
    dsimp only
    rw [hzero, if_pos rfl]

/-- **Test results are kept**: over any run of requests, a read answers with the results of its test
that were confirmed last, or with those that were there at first. A test without a file is refused;
only BBAT gets one, by the first read of any test, with the support table that is configured then. -/
theorem mmi_results_kept (files : MmiFiles) (requests : List MmiRequest)
    (hready : ∀ r ∈ requests, r.Ready) :
    ∃ files' outs, Machine.run MmiRequest.run files requests = .ok (files', outs) ∧
      Machine.Obeys MmiRequest.allow MmiRequest.next (resultsIn files) requests outs := by
  refine Machine.run_obeys (fun files t => resultsIn files = t) requests ?_ files _ rfl
    (Machine.guarded_of_forall (fun _ => hready) files)
  rintro files t r hmem rfl hr
  cases hcmd : r.cmd with
  | read => exact read_allowed hr hcmd
  | write => exact write_allowed hr hcmd

/-- A request about the BBAT results, with bytes 7 for them. -/
def bbatRequest (cmd : MmiCmd) : MmiRequest where
  cmd := cmd
  io := ⟨.opened, mmiBuffLen, true, some mmiBuffLen⟩
  conf := none
  buf := fun k => if k = 13 then 2 else if k = 14 then 0 else 7
  heap := fun _ => 0
  rsp := ⟨fun _ => 0, maxChnlBuff⟩

/-- Without any file, a first read makes the one of the BBAT test, and what is then written is read. -/
theorem mmi_results_kept_bbat : ∃ files out out' out'',
    Machine.run MmiRequest.run (fun _ => none)
        [bbatRequest .read, bbatRequest .write, bbatRequest .read] =
      .ok (files, [out, out', out'']) ∧
    mmiStatus out' = 0 ∧ mmiResultsIn out'' = (bbatRequest .write).results := by
  have hready : ∀ cmd, (bbatRequest cmd).Ready := fun cmd =>
    ⟨show 272 ≤ maxChnlBuff by decide, fun n hn => (Option.some_inj.mp hn).le, fun _ => le_rfl, fun _ _ hc => nomatch hc⟩
  obtain ⟨files, outs, hrun, hobeys⟩ := mmi_results_kept (fun _ => none)
    [bbatRequest .read, bbatRequest .write, bbatRequest .read]
    (List.forall_mem_cons.mpr ⟨hready _, List.forall_mem_cons.mpr
      ⟨hready _, List.forall_mem_cons.mpr ⟨hready _, List.forall_mem_nil _⟩⟩⟩)
  rcases outs with _ | ⟨out, _ | ⟨out', _ | ⟨out'', outs⟩⟩⟩
  · exact hobeys.elim
  · exact hobeys.2.elim
  · exact hobeys.2.2.elim
  · obtain ⟨-, hwrite, hread, hend⟩ := hobeys
    obtain rfl : outs = [] := hend
    have hstatus : mmiStatus out' = 0 := hwrite
    have hnext : ∀ t, MmiRequest.next t (bbatRequest .write) out' =
        Function.update t .bbat (some (bbatRequest .write).results) := fun t => if_pos hstatus
    rw [hnext] at hread
    have hresults : (mmiResultsIn out'').take (bbatRequest .write).results.length =
        (bbatRequest .write).results := hread.2
    rw [MmiRequest.results, length_load, mmiResultsIn, List.take_take, min_self] at hresults
    exact ⟨files, out, out', out'', hrun, hstatus, hresults⟩

end EngPc
