import EngPc.Model.TsxData

/-!
# What was written to the TSX data is read

A block of any length is written, and a block of 1 to 255 bytes is read: an empty file counts as an
error, and so does one that fills the scratch buffer.
-/

namespace EngPc
open Buffer LittleEndian

/-- A request, with what the calls answer and what `rcount` and `rsp` hold before. -/
structure TsxRequest where
  io : TsxIo
  garbage : Int
  buf : Buffer UInt8
  rsp : Buffer UInt8
  rsplen : Nat

namespace TsxRequest

def subcmd (q : TsxRequest) : Nat := le32 q.buf 13

def datalen (q : TsxRequest) : Nat := le32 q.buf 21

/-- The block behind the two headers. -/
def data (q : TsxRequest) : List UInt8 := q.buf.load 25 q.datalen

def serve (q : TsxRequest) (file : TsxFile) : TsxServed :=
  tsxRawdataRwHandler q.io q.garbage file q.buf q.rsp q.rsplen

/-- The answer before the request is looked at, with the headers of that. -/
def start (q : TsxRequest) : Buffer UInt8 :=
  (q.rsp.set 0 q.rsplen).fill 0 (q.buf.load 0 (msgHeadLen + tsxDataHeadLen + 1))

def answered (q : TsxRequest) (status : Nat) (data : List UInt8) (file : TsxFile) : TsxServed :=
  let rsp := tsxAnswer q.start status data
  ⟨le16 rsp 5 + 2, rsp, file⟩

end TsxRequest

/-- The file after some requests. -/
def tsxRun (file : TsxFile) (qs : List TsxRequest) : TsxFile :=
  qs.foldl (fun file q => (q.serve file).file) file

namespace TsxServed

def status (s : TsxServed) : Nat := le32 s.rsp 17

/-- The answer tells success and carries `data`, with the lengths of that. -/
structure Carries (s : TsxServed) (data : List UInt8) : Prop where
  status : s.status = 0
  datalen : le32 s.rsp 21 = data.length
  bytes : s.rsp.load 25 data.length = data
  len : le16 s.rsp 5 = msgHeadLen + tsxDataHeadLen + data.length
  ret : s.ret = msgHeadLen + tsxDataHeadLen + data.length + 2

end TsxServed

/-- No call fails. -/
structure TsxIo.NoError (io : TsxIo) : Prop where
  dir : io.dir ≠ .failed
  fopen : io.fopen = true
  fwrite : io.fwrite = none
  fread : io.fread = none

/-- The two answers that no error explains and that `write_tsx_rawdata` fails for. -/
def TsxIo.odd (io : TsxIo) : Prop := io.dir = .eexist ∨ io.fileno ≤ 0

instance (io : TsxIo) : Decidable io.odd := inferInstanceAs (Decidable (_ ∨ _))

section Answer

variable (rsp : Buffer UInt8) {status : Nat} {data : List UInt8}

lemma tsxAnswer_status (h : status < 2 ^ 32) : le32 (tsxAnswer rsp status data) 17 = status := by
  refine (le32_congr fun i hi => ?_).trans (le32_fill rsp 17 h)
  rw [tsxAnswer, store_ne _ _ (by omega), fill_outside _ (.inl (by omega)),
    fill_outside _ (.inl (by omega)), fill_outside _ (.inr (by rw [length_bytesLE]; omega))]

lemma tsxAnswer_datalen (h : data.length < 2 ^ 32) :
    le32 (tsxAnswer rsp status data) 21 = data.length := by
  refine (le32_congr fun i hi => ?_).trans (le32_fill ((rsp.fill 17 (bytesLE 4 status)).fill 5
    (bytesLE 2 (msgHeadLen + tsxDataHeadLen + data.length))) 21 h)
  rw [tsxAnswer, store_ne _ _ (by omega), fill_outside _ (.inl (by omega))]

lemma tsxAnswer_len (h : msgHeadLen + tsxDataHeadLen + data.length < 65536) :
    le16 (tsxAnswer rsp status data) 5 = msgHeadLen + tsxDataHeadLen + data.length := by
  refine Eq.trans ?_ ((le16_fill (rsp.fill 17 (bytesLE 4 status)) 5 _).trans (Nat.mod_eq_of_lt h))
  refine le16_congr fun i hi => ?_
  rw [tsxAnswer, store_ne _ _ (by omega), fill_outside _ (.inl (by omega)),
    fill_outside _ (.inl (by omega))]

lemma tsxAnswer_bytes : (tsxAnswer rsp status data).load 25 data.length = data := by
  rw [tsxAnswer, load_store_outside _ _ (.inr le_rfl), load_fill]

end Answer

lemma writeTsxRawdata_eq {io : TsxIo} (h : io.NoError) (file : TsxFile) (data : Buffer UInt8)
    {n : Nat} (hn : n < 2 ^ 31) :
    writeTsxRawdata io file data (intOf n) = (if io.odd then -1 else 0, some (data.load 0 n)) := by
  have hint : intOf n = n := intOf_eq (by omega) (by omega)
  have hsize : ((n : Int) % 2 ^ longBits).toNat = n := by
    rw [show longBits = 32 from rfl]
    omega
  have hfail : ¬(io.dir = .failed ∨ io.fopen = false) := by
    rw [h.fopen]
    exact not_or.mpr ⟨h.dir, Bool.noConfusion⟩
  have hret : (if 0 < io.fileno then if io.dir = .eexist then -1 else 0 else -1 : Int) =
      if io.odd then -1 else 0 := by
    by_cases hfd : 0 < io.fileno
    · have hodd : io.odd ↔ io.dir = .eexist := or_iff_left (not_le.mpr hfd)
      rw [if_pos hfd]
      simp only [hodd]
    · rw [if_neg hfd, if_pos (show io.odd from .inr (not_lt.mp hfd))]
  rw [writeTsxRawdata, if_neg hfail]
  simp only [hint, h.fwrite, Option.map_none, Option.getD_none, hsize, ne_eq, not_true_eq_false,
    if_false, hret]

/-- Where no call fails the file is read up to the size of the buffer. -/
lemma readTsxRawdata_eq {io : TsxIo} (h : io.NoError) (garbage : Int) (bytes : List UInt8)
    (n : Nat) :
    readTsxRawdata io garbage (some bytes) n = (((bytes.take n).length : Int), bytes.take n) := by
  simp only [readTsxRawdata, h.fopen, h.fread, Bool.true_eq_false, if_false, Option.map_none,
    Option.getD_none]

section Requests

variable {q : TsxRequest} {file : TsxFile}

lemma serve_zero (hcmd : q.subcmd = 0) :
    q.serve file =
      let w := writeTsxRawdata q.io file (q.buf.offset 25) (intOf q.datalen)
      q.answered (if w.1 = 0 then 0 else 1) [] w.2 := by
  rw [TsxRequest.serve, tsxRawdataRwHandler]
  exact if_pos hcmd

lemma serve_one (hcmd : q.subcmd = 1) (h : q.io.NoError) (data : List UInt8) :
    q.serve (some data) =
      if 1 ≤ data.length ∧ data.length ≤ 255 then q.answered 0 data (some data)
      else q.answered 1 [] (some data) := by
  have hcmd' : le32 q.buf 13 = 1 := hcmd
  have hread := readTsxRawdata_eq h q.garbage data tsxRawdataLen
  rw [TsxRequest.serve, tsxRawdataRwHandler, hread, if_neg (by omega), if_pos hcmd']
  by_cases hfits : 1 ≤ data.length ∧ data.length ≤ 255
  · have htake : data.take tsxRawdataLen = data :=
      List.take_of_length_le (by rw [tsxRawdataLen]; omega)
    have hret : (0 : Int) < data.length ∧ (data.length : Int) < tsxRawdataLen := by
      rw [tsxRawdataLen]
      omega
    rw [htake, if_pos hfits]
    dsimp only
    rw [if_pos hret, Int.toNat_natCast, load_fill]
    rfl
  · have hret : ¬((0 : Int) < (data.take tsxRawdataLen).length ∧
        ((data.take tsxRawdataLen).length : Int) < tsxRawdataLen) := by
      rw [List.length_take, tsxRawdataLen]
      omega
    rw [if_neg hfits]
    dsimp only
    rw [if_neg hret]
    rfl

lemma answered_status {status : Nat} (h : status < 2 ^ 32) (data : List UInt8) :
    (q.answered status data file).status = status := tsxAnswer_status _ h

lemma answered_carries {data : List UInt8}
    (h : msgHeadLen + tsxDataHeadLen + data.length < 65536) :
    (q.answered 0 data file).Carries data where
  status := tsxAnswer_status _ (by decide)
  datalen := tsxAnswer_datalen _ (by omega)
  bytes := tsxAnswer_bytes _
  len := tsxAnswer_len _ h
  ret := congrArg (· + 2) (tsxAnswer_len _ h)

lemma serve_write (hcmd : q.subcmd = 0) (h : q.io.NoError) (hlen : q.datalen < 2 ^ 31) :
    (q.serve file).file = some q.data ∧ ((q.serve file).status = 0 ↔ ¬q.io.odd) := by
  have hwrite := writeTsxRawdata_eq h file (q.buf.offset 25) hlen
  rw [load_offset] at hwrite
  rw [serve_zero hcmd, hwrite]
  refine ⟨rfl, ?_⟩
  dsimp only
  by_cases hodd : q.io.odd
  · rw [if_pos hodd, if_neg (by decide), answered_status (by decide)]
    simp [hodd]
  · rw [if_neg hodd, if_pos rfl, answered_status (by decide)]
    simp [hodd]

lemma serve_read (hcmd : q.subcmd = 1) (h : q.io.NoError) (data : List UInt8) :
    (q.serve (some data)).Carries data ↔ 1 ≤ data.length ∧ data.length ≤ 255 := by
  rw [serve_one hcmd h]
  split_ifs with hfits
  · refine ⟨fun _ => hfits, fun _ => answered_carries ?_⟩
    rw [msgHeadLen, tsxDataHeadLen]
    omega
  · refine ⟨fun hcarries => ?_, fun hfits' => absurd hfits' hfits⟩
    have hstatus := hcarries.status
    rw [answered_status (by decide)] at hstatus
    exact absurd hstatus (by decide)

lemma serve_file (hcmd : q.subcmd ≠ 0) : (q.serve file).file = file := by
  rw [TsxRequest.serve, tsxRawdataRwHandler, if_neg (show ¬le32 q.buf 13 = 0 from hcmd)]
  split_ifs <;> rfl

lemma tsxRun_file {qs : List TsxRequest} (h : ∀ q ∈ qs, q.subcmd ≠ 0) : tsxRun file qs = file := by
  induction qs with
  | nil => rfl
  | cons q qs ih =>
    rw [List.forall_mem_cons] at h
    rw [tsxRun, List.foldl_cons, serve_file h.1]
    exact ih h.2

end Requests

/-- Without I/O errors, what is written and confirmed is read by any later request before the next
write, exactly when it has 1 to 255 bytes. -/
theorem tsx_round_trip_iff (file : TsxFile) (write read : TsxRequest) (between : List TsxRequest)
    (hwrite : write.subcmd = 0) (hread : read.subcmd = 1) (hbetween : ∀ q ∈ between, q.subcmd ≠ 0)
    (hio : write.io.NoError) (hio' : read.io.NoError)
    (hframe : msgHeadLen + tsxDataHeadLen + write.datalen ≤ le16 write.buf 5) :
    ((write.serve file).status = 0 →
        (read.serve (tsxRun (write.serve file).file between)).Carries write.data) ↔
      write.io.odd ∨ 1 ≤ write.datalen ∧ write.datalen ≤ 255 := by
  have hlen16 : le16 write.buf 5 < 65536 := by
    have h := natLE_lt (write.buf.load 5 2)
    rwa [natLE_load_two, length_load] at h
  have hlength : write.data.length = write.datalen := length_load _ _ _
  obtain ⟨hfile, hstatus⟩ : (write.serve file).file = some write.data ∧
      ((write.serve file).status = 0 ↔ ¬write.io.odd) := serve_write hwrite hio (by omega)
  rw [tsxRun_file hbetween, hfile, hstatus]
  rw [serve_read hread hio', hlength, or_iff_not_imp_left]

/-- Calls that all succeed. -/
def tsxIoFine : TsxIo := ⟨.present, true, none, 3, none⟩

/-- A request to write one byte. -/
def tsxWriteOne : TsxRequest where
  io := tsxIoFine
  garbage := 0
  buf := Buffer.fill (fun _ => 0) 0
    [0x7e, 0, 0, 0, 0, 25, 0, 0x62, 0, 0x24, 0, 16, 0, 0, 0, 0, 0, 0, 0, 0, 0, 1, 0, 0, 0, 0x55, 0x7e]
  rsp := fun _ => 0
  rsplen := maxChnlBuff

def tsxRead : TsxRequest where
  io := tsxIoFine
  garbage := 0
  buf := Buffer.fill (fun _ => 0) 0
    [0x7e, 0, 0, 0, 0, 24, 0, 0x62, 0, 0x24, 0, 16, 0, 1, 0, 0, 0, 0, 0, 0, 0, 0, 0, 0, 0, 0x7e]
  rsp := fun _ => 0
  rsplen := maxChnlBuff

theorem tsx_round_trip_one :
    (tsxRead.serve (tsxRun (tsxWriteOne.serve none).file [tsxRead])).Carries [0x55] := by
  have hio : tsxIoFine.NoError := ⟨by decide, rfl, rfl, rfl⟩
  have hiff := tsx_round_trip_iff none tsxWriteOne tsxRead [tsxRead] (by decide) (by decide)
    (by decide) hio hio (by decide)
  exact hiff.mpr (.inr (by decide)) (by decide)

/-- An empty block is written and confirmed, and cannot be read. -/
theorem tsx_round_trip_empty :
    let write : TsxRequest := { tsxWriteOne with
      buf := Buffer.fill (fun _ => 0) 0
        [0x7e, 0, 0, 0, 0, 24, 0, 0x62, 0, 0x24, 0, 16, 0, 0, 0, 0, 0, 0, 0, 0, 0, 0, 0, 0, 0, 0x7e] }
    msgHeadLen + tsxDataHeadLen + write.datalen = le16 write.buf 5 ∧
      (write.serve none).status = 0 ∧ (write.serve none).file = some write.data ∧
      ¬(tsxRead.serve (write.serve none).file).Carries write.data := by
  refine ⟨by decide, by decide, by decide, fun h => ?_⟩
  exact absurd h.status (by decide)

end EngPc
