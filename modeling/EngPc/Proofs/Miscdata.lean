import EngPc.Lib.Machine
import EngPc.Model.Miscdata

/-!
# Reads and writes of the miscdata partition

Both builds read and write the partition at the offset they are given. The legacy handler gives
them offset 0 and uses the offset of the request in its own scratch copy only, so a request is
served at its offset only where the partition makes no difference between the two.
-/

namespace EngPc
open Buffer LittleEndian

section Access

variable (store : Buffer UInt8) (build : MiscBuild)

lemma getFileSize_pos : 0 < getFileSize := by decide

lemma getFileSize_le (build : MiscBuild) : getFileSize ≤ build.size := by
  cases build with
  | nand => exact le_rfl
  | block partition => exact partition.large

/-- In front of the end of the partition, a read delivers what is there. -/
lemma readAt_fine {pos dataLen : Nat} (hpos : 0 < dataLen) (hend : pos < build.size) :
    readAt .fine store build pos dataLen =
      (0, store.load pos (min dataLen (build.size - pos))) := by
  refine if_neg ?_
  simp only [MiscIo.fine, Bool.true_eq_false, false_or]
  omega

lemma readAt_nothing {pos dataLen : Nat} (h : dataLen = 0 ∨ build.size ≤ pos) :
    readAt .fine store build pos dataLen = (-2, []) := if_pos (.inr (by omega))

lemma writeAt_fine {pos : Nat} {databuf : List UInt8} (hpos : 0 < databuf.length)
    (hend : pos < build.size) :
    writeAt .fine store build pos databuf =
      (0, store.fill pos (databuf.take (build.size - pos))) := by
  refine if_neg ?_
  simp only [MiscIo.fine, Bool.true_eq_false, false_or, List.take_eq_nil_iff, not_or]
  exact ⟨by omega, List.ne_nil_of_length_pos hpos⟩

lemma writeAt_nothing {pos : Nat} {databuf : List UInt8}
    (h : databuf = [] ∨ build.size ≤ pos) :
    writeAt .fine store build pos databuf = (-2, store) := by
  refine if_pos (.inr (List.take_eq_nil_iff.mpr ?_))
  exact h.symm.imp_left Nat.sub_eq_zero_of_le

lemma ptrAt_nat (pos n : Nat) : ptrAt pos n = .ok pos := by
  rw [ptrAt, if_neg (by omega), Int.toNat_natCast]

lemma nand_room : MiscBuild.nand.size - 0 = getFileSize := rfl

lemma engReadMiscdata_volume :
    engReadMiscdata .fine store .nand getFileSize = (0, store.load 0 getFileSize) := by
  have hread := readAt_fine store .nand getFileSize_pos getFileSize_pos
  rwa [nand_room, Nat.min_self] at hread

def nandCopy : Block UInt8 :=
  ⟨nandBuff.cells.fill 0 (store.load 0 getFileSize), getFileSize + 1⟩

lemma nandBuff_write : nandBuff.write 0 (store.load 0 getFileSize) = .ok (nandCopy store) := by
  apply Block.write_eq
  apply Block.holds_of_le
  rw [length_load, Nat.zero_add]
  exact Nat.le_succ _

variable {store}

lemma nandCopy_apply {k : Nat} (hk : k < getFileSize) : (nandCopy store).cells k = store k := by
  have h := fill_load_apply nandBuff.cells store 0 hk
  rwa [Nat.zero_add] at h

end Access

section Offset

variable (build : MiscBuild) (store : Buffer UInt8)

/-- An access that does not leave the copy of the volume; the other build has none. -/
def InsideBuff (build : MiscBuild) (offset : Int) (dataLen : Nat) : Prop :=
  build ≠ .nand ∨ dataLen = 0 ∨ 0 ≤ offset ∧ offset + dataLen ≤ getFileSize + 1

/-- What a write leaves in the partition: the NAND build writes no more than the volume, and the
block device takes no more than it has room for. -/
def landed (pos : Nat) (databuf : List UInt8) : Buffer UInt8 :=
  match build with
  | .nand => store.fill 0 (((nandCopy store).cells.fill pos databuf).load 0 getFileSize)
  | .block partition => store.fill pos (databuf.take (partition.size - pos))

lemma landed_inside {pos : Nat} {databuf : List UInt8}
    (h : pos + databuf.length ≤ build.size) :
    landed build store pos databuf = store.fill pos databuf := by
  cases build with
  | nand => exact fill_patched (fun k hk => nandCopy_apply hk) pos databuf h
  | block partition =>
    have hsize : pos + databuf.length ≤ partition.size := h
    rw [landed, List.take_of_length_le (by omega)]

lemma block_read {partition : Partition} {pos dataLen : Nat} (hpos : 0 < dataLen)
    (hend : pos < partition.size) :
    engReadMiscdataWithOffset .fine store (.block partition) pos dataLen =
      .ok (0, store.load pos (min dataLen (partition.size - pos))) := by
  have hseek : ¬(MiscIo.fine.lseek = false ∨ ¬(MiscBuild.block partition).Seekable pos) := by
    rw [not_or, not_not]
    exact ⟨by decide, Int.natCast_nonneg pos, Int.ofNat_le.mpr hend.le⟩
  rw [engReadMiscdataWithOffset, if_neg (by decide)]
  simp only [if_neg hseek, Int.toNat_natCast]
  rw [if_neg (by decide), readAt_fine store _ hpos hend]
  rfl

lemma block_write {partition : Partition} {pos : Nat} {databuf : List UInt8}
    (hpos : 0 < databuf.length) (hend : pos < partition.size) :
    engWriteMiscdataWithOffset .fine store (.block partition) pos databuf =
      .ok (0, landed (.block partition) store pos databuf) := by
  have hseek : ¬(MiscIo.fine.lseek = false ∨ ¬(MiscBuild.block partition).Seekable pos) := by
    rw [not_or, not_not]
    exact ⟨by decide, Int.natCast_nonneg pos, Int.ofNat_le.mpr hend.le⟩
  rw [engWriteMiscdataWithOffset, if_neg (by decide)]
  simp only [if_neg hseek, Int.toNat_natCast]
  rw [if_neg (by decide), writeAt_fine store _ hpos hend]
  rfl

/-- With no byte to be read, or none at the offset, it fails: there is no seek, or no byte read. -/
lemma block_read_nothing {partition : Partition} {offset : Int} {dataLen : Nat}
    (h : dataLen = 0 ∨ offset < 0 ∨ partition.size ≤ offset) :
    ∃ ret, ret ≠ 0 ∧
      engReadMiscdataWithOffset .fine store (.block partition) offset dataLen = .ok (ret, []) := by
  rw [engReadMiscdataWithOffset, if_neg (by decide)]
  rw [if_neg (by decide)]
  by_cases hseek : (MiscBuild.block partition).Seekable offset
  · refine ⟨-2, by decide, ?_⟩
    have hsize : ((MiscBuild.block partition).size : Int) = partition.size := rfl
    obtain ⟨hnonneg, hle⟩ := hseek
    rw [if_neg, readAt_nothing store]
    · rcases h with h | h | h
      · exact .inl h
      · omega
      · exact .inr (by omega)
    · rw [not_or, not_not]
      exact ⟨by decide, hnonneg, hle⟩
  · exact ⟨-4, by decide, if_pos (.inr hseek)⟩

lemma engReadMiscdataWithOffset_nand (offset : Int) (dataLen : Nat) :
    engReadMiscdataWithOffset .fine store .nand offset dataLen =
      ptrAt offset dataLen >>= fun p => (nandCopy store).read p dataLen >>= fun databuf =>
        .ok (0, databuf) := by
  rw [engReadMiscdataWithOffset, if_neg (by decide)]
  simp only [if_neg getFileSize_pos.ne', engReadMiscdata_volume, nandBuff_write]
  rw [if_neg (by decide), Except.ok_bind, if_pos trivial]
  rfl

lemma insideBuff_nand {offset : Int} {dataLen : Nat} :
    InsideBuff .nand offset dataLen ↔
      ptrAt offset dataLen = .ok offset.toNat ∧
        (nandCopy store).Holds offset.toNat dataLen := by
  have hsize : (nandCopy store).size = getFileSize + 1 := rfl
  rw [Block.Holds, hsize, ptrAt, InsideBuff]
  by_cases hneg : offset < 0 ∧ 0 < dataLen
  · rw [if_pos hneg]
    simp only [ne_eq, not_true_eq_false, false_or, reduceCtorEq, false_and, iff_false]
    omega
  · rw [if_neg hneg]
    simp only [ne_eq, not_true_eq_false, false_or, true_and]
    omega

lemma nand_read_ok {offset : Int} {dataLen : Nat} (h : InsideBuff .nand offset dataLen) :
    engReadMiscdataWithOffset .fine store .nand offset dataLen =
      .ok (0, (nandCopy store).cells.load offset.toNat dataLen) := by
  obtain ⟨hptr, hholds⟩ := (insideBuff_nand store).mp h
  rw [engReadMiscdataWithOffset_nand, hptr, Except.ok_bind, Block.read_eq hholds, Except.ok_bind]

lemma nand_write {offset : Int} {databuf : List UInt8}
    (h : InsideBuff .nand offset databuf.length) :
    engWriteMiscdataWithOffset .fine store .nand offset databuf =
      .ok (0, landed .nand store offset.toNat databuf) := by
  obtain ⟨hptr, hholds⟩ := (insideBuff_nand store).mp h
  have hwhole : Block.Holds
      ⟨(nandCopy store).cells.fill offset.toNat databuf, (nandCopy store).size⟩ 0
      getFileSize := by
    apply Block.holds_of_le
    rw [Nat.zero_add]
    exact Nat.le_succ _
  have hlen := length_load ((nandCopy store).cells.fill offset.toNat databuf) 0 getFileSize
  have hwrite := writeAt_fine store .nand (hlen.symm ▸ getFileSize_pos) getFileSize_pos
  rw [engWriteMiscdataWithOffset, if_neg (by decide)]
  simp only [if_neg getFileSize_pos.ne', engReadMiscdata_volume, nandBuff_write, hptr]
  rw [if_neg (by decide), Except.ok_bind, if_pos trivial, Except.ok_bind, Block.write_eq hholds,
    Except.ok_bind, Block.read_eq hwhole, Except.ok_bind]
  rw [nand_room, List.take_of_length_le hlen.le] at hwrite
  exact congrArg Except.ok hwrite

/-- A read inside the volume delivers the bytes at its offset. -/
theorem engReadMiscdataWithOffset_fine {pos dataLen : Nat}
    (h : pos + dataLen ≤ getFileSize) :
    ∃ ret, (0 < dataLen → ret = 0) ∧
      engReadMiscdataWithOffset .fine store build pos dataLen =
        .ok (ret, store.load pos dataLen) := by
  cases build with
  | nand =>
    have hload : (nandCopy store).cells.load pos dataLen = store.load pos dataLen := by
      apply load_congr
      intro i hi
      exact nandCopy_apply (by omega)
    refine ⟨0, fun _ => rfl, ?_⟩
    rw [nand_read_ok store (.inr (.inr ⟨Int.natCast_nonneg pos, by omega⟩)), Int.toNat_natCast, hload]
  | block partition =>
    have hlarge : getFileSize ≤ partition.size := partition.large
    rcases Nat.eq_zero_or_pos dataLen with rfl | hpos
    · obtain ⟨ret, -, hread⟩ : ∃ ret, ret ≠ 0 ∧
          engReadMiscdataWithOffset .fine store (.block partition) pos 0 = .ok (ret, []) :=
        block_read_nothing store (.inl rfl)
      exact ⟨ret, fun h => absurd h (lt_irrefl 0), hread⟩
    · refine ⟨0, fun _ => rfl, ?_⟩
      rw [block_read store hpos (by omega), Nat.min_eq_left (by omega)]

/-- A write inside the volume changes the bytes at its offset. -/
theorem engWriteMiscdataWithOffset_fine (pos : Nat) (databuf : List UInt8)
    (h : pos + databuf.length ≤ getFileSize) :
    ∃ ret, (0 < databuf.length → ret = 0) ∧
      engWriteMiscdataWithOffset .fine store build pos databuf =
        .ok (ret, store.fill pos databuf) := by
  have hsize := getFileSize_le build
  have hinside := landed_inside build store (h.trans hsize)
  cases build with
  | nand =>
    refine ⟨0, fun _ => rfl, ?_⟩
    rw [nand_write store (.inr (.inr ⟨Int.natCast_nonneg pos, by omega⟩)), Int.toNat_natCast,
      hinside]
  | block partition =>
    have hlarge : getFileSize ≤ partition.size := partition.large
    cases databuf with
    | nil =>
      refine ⟨-2, fun h => absurd h (lt_irrefl 0), ?_⟩
      have hseek : (MiscBuild.block partition).Seekable pos :=
        ⟨Int.natCast_nonneg pos, Int.ofNat_le.mpr (h.trans hlarge)⟩
      rw [engWriteMiscdataWithOffset, if_neg (by decide)]
      simp only [hseek, not_true_eq_false, or_false, MiscIo.fine, Bool.true_eq_false, if_false]
      rw [fill_nil]
      exact congrArg Except.ok (writeAt_nothing store _ (.inl rfl))
    | cons x l =>
      have hlen : 0 < (x :: l).length := Nat.succ_pos _
      exact ⟨0, fun _ => rfl, by rw [block_write store hlen (by omega), hinside]⟩

end Offset

lemma miscTranslatePacket_eq (dest : Block UInt8) (src : List UInt8)
    (h : src.length + 2 ≤ dest.size) :
    ∃ rsp : Block UInt8, miscTranslatePacket dest src = .ok (rsp, src.length + 2) ∧
      rsp.cells.load 0 (src.length + 2) = 0x7e :: src ++ [0x7e] := by
  have hflag : [(0x7e : UInt8)].length = 1 := rfl
  obtain ⟨d₁, h₁, hc₁, hs₁⟩ := Block.write_ok (show dest.Holds 0 [(0x7e : UInt8)].length from
    Block.holds_of_le (by omega))
  obtain ⟨d₂, h₂, hc₂, hs₂⟩ := Block.write_ok (show d₁.Holds 1 src.length from
    Block.holds_of_le (by omega))
  obtain ⟨d₃, h₃, hc₃, hs₃⟩ := Block.write_ok (show d₂.Holds (1 + src.length)
    [(0x7e : UInt8)].length from Block.holds_of_le (by omega))
  refine ⟨d₃, ?_, ?_⟩
  · rw [miscTranslatePacket, h₁, Except.ok_bind, h₂, Except.ok_bind, h₃]
    rfl
  · have hfirst : d₁.cells.load 0 1 = [0x7e] := by
      rw [hc₁]
      exact load_fill dest.cells 0 [0x7e]
    have hmid : d₂.cells.load 0 (1 + src.length) = [0x7e] ++ src := by
      rw [hc₂, load_fill_append, hfirst]
    have hlast := load_fill_append d₂.cells (1 + src.length) [0x7e]
    rw [show src.length + 2 = 1 + src.length + [(0x7e : UInt8)].length by omega, hc₃, hlast, hmid]
    rfl

lemma setMsgHead_behind (b : Buffer UInt8) {off k : Nat} (h : off + 8 ≤ k) (subtype : Int)
    (len : Nat) : setMsgHead b off subtype len k = b k := by
  rw [setMsgHead, fill_outside _ (by rw [length_bytesLE]; omega), store_ne _ _ (by omega)]

lemma setMsgHead_congr {b c : Buffer UInt8} {k : Nat} (h : b k = c k) (off : Nat) (subtype : Int)
    (len : Nat) : setMsgHead b off subtype len k = setMsgHead c off subtype len k := by
  apply fill_apply_congr
  by_cases hk : k = off + 7
  · rw [hk, store_same, store_same]
  · rw [store_ne _ _ hk, store_ne _ _ hk, h]

/-- What `nvdata` holds at last: the header and fields of the request with `subtype` and `len` set,
then the bytes that were read. -/
lemma nvdata_load (heap buf : Buffer UInt8) (subtype : Int) (len n : Nat) (h : 8 ≤ n)
    (bytes : List UInt8) :
    (setMsgHead ((heap.fill 0 (buf.load 1 n)).fill n bytes) 0 subtype len).load 0
        (n + bytes.length) =
      (setMsgHead (buf.offset 1) 0 subtype len).load 0 n ++ bytes := by
  have hhead : ∀ k, k < n → ((heap.fill 0 (buf.load 1 n)).fill n bytes) k = buf.offset 1 k := by
    intro k hk
    rw [fill_outside _ (.inl hk), fill_load_apply heap buf 1 hk, offset]
  rw [load_add]
  congr 1
  · apply load_congr
    intro k hk
    exact setMsgHead_congr (hhead (0 + k) (by omega)) 0 subtype len
  · apply load_of_apply_eq
    intro k hk
    rw [Nat.zero_add, setMsgHead_behind _ (by omega), fill_inside _ hk]

namespace MiscRequest

variable (q : MiscRequest)

def data : List UInt8 := q.buf.cells.load (1 + (msgHeadLen + 2 * 2)) q.dataLen

@[simp] lemma length_data : q.data.length = q.dataLen := length_load _ _ _

lemma dataLen_lt : q.dataLen < 65536 := by
  have h := natLE_lt (q.buf.cells.load (1 + msgHeadLen + 2) 2)
  rwa [length_load] at h

/-- The header and the fields of the request, with `subtype` and `len` of the response to a read. -/
def readHead (status : Int) : List UInt8 :=
  (setMsgHead (q.buf.cells.offset 1) 0 status (msgHeadLen + 2 * 2 + q.dataLen)).load 0
    (msgHeadLen + 2 * 2)

def readReply (status : Int) (bytes : List UInt8) : List UInt8 :=
  0x7e :: (q.readHead status ++ bytes) ++ [0x7e]

@[simp] lemma length_readHead (status : Int) :
    (q.readHead status).length = msgHeadLen + 2 * 2 := length_load _ _ _

variable {q}

lemma readReply_bytes {status status' : Int} {bytes bytes' : List UInt8}
    (h : q.readReply status bytes = q.readReply status' bytes') : bytes = bytes' := by
  unfold readReply at h
  have hbody := (List.cons_inj_right _).mp (List.append_cancel_right h)
  exact (List.append_inj hbody (by rw [length_readHead, length_readHead])).2

end MiscRequest

section Handler

variable (build : MiscBuild) (heap store : Buffer UInt8) {q : MiscRequest}

lemma nvdata_write (q : MiscRequest) {rsplen : Nat} (hlen : q.dataLen ≤ rsplen) :
    ∃ nv, Block.write ⟨heap, rsplen⟩ 0 (store.load 0 q.dataLen) = .ok nv ∧
      nv.cells = heap.fill 0 (store.load 0 q.dataLen) ∧ nv.size = rsplen := by
  apply Block.write_ok
  apply Block.holds_of_le
  rwa [length_load, Nat.zero_add]

lemma inside_volume (q : MiscRequest) : 0 + q.dataLen ≤ getFileSize := by
  have h := q.dataLen_lt
  have hsize : 65536 ≤ getFileSize := by decide
  omega

lemma readFront_fine (q : MiscRequest) :
    ∃ ret, (0 < q.dataLen → ret = 0) ∧
      engReadMiscdataWithOffset .fine store build 0 q.dataLen =
        .ok (ret, store.load 0 q.dataLen) :=
  engReadMiscdataWithOffset_fine build store (inside_volume q)

lemma productCtrlRead_fine (q : MiscRequest) :
    ∃ status, (0 < q.dataLen → status = 0) ∧
      productCtrlRead build heap .fine store q =
        .ok (q.readHead status ++ store.load 0 q.dataLen) := by
  obtain ⟨status, hstatus, hread⟩ := readFront_fine build store q
  have hlen : (if status = 0 then q.dataLen else 0) = q.dataLen := by
    split
    · rfl
    · omega
  have hhead : (q.buf.cells.load 1 (msgHeadLen + 2 * 2)).length = msgHeadLen + 2 * 2 :=
    length_load _ _ _
  have hbytes : (store.load 0 q.dataLen).length = q.dataLen := length_load _ _ _
  have hreq : q.buf.Holds 1 (msgHeadLen + 2 * 2) :=
    Block.holds_of_le (le_trans (by omega) q.fields)
  obtain ⟨nv₁, h₁, hc₁, hs₁⟩ := Block.write_ok
    (show Block.Holds ⟨heap, q.dataLen + (msgHeadLen + 2 * 2)⟩ 0
      (q.buf.cells.load 1 (msgHeadLen + 2 * 2)).length from
      Block.holds_of_le (by dsimp only; omega))
  dsimp only at hc₁ hs₁
  obtain ⟨nv₂, h₂, hc₂, hs₂⟩ := Block.write_ok
    (show nv₁.Holds (msgHeadLen + 2 * 2) (store.load 0 q.dataLen).length from
      Block.holds_of_le (by omega))
  have hnv : Block.Holds { nv₂ with
      cells := setMsgHead nv₂.cells 0 status (msgHeadLen + 2 * 2 + q.dataLen) } 0
      (msgHeadLen + 2 * 2 + q.dataLen) :=
    Block.holds_of_le (by dsimp only; omega)
  have hload := nvdata_load heap q.buf.cells status (msgHeadLen + 2 * 2 + q.dataLen)
    (msgHeadLen + 2 * 2) (by decide) (store.load 0 q.dataLen)
  rw [← hc₁, ← hc₂, hbytes] at hload
  refine ⟨status, hstatus, ?_⟩
  rw [productCtrlRead, Block.read_eq hreq, Except.ok_bind, h₁, Except.ok_bind, hread,
    Except.ok_bind, h₂, Except.ok_bind]
  simp only [hlen]
  rw [Block.read_eq hnv, hload, MiscRequest.readHead]

/-- A write puts the data into the copy of the first bytes and stores the first bytes of that. -/
lemma productCtrlWrite_fine {rsplen : Nat} (hlen : q.dataLen ≤ rsplen)
    (hdata : q.buf.Holds (1 + (msgHeadLen + 2 * 2)) q.dataLen)
    (hscratch : Block.Holds ⟨heap, rsplen⟩ q.offset q.dataLen) :
    ∃ status, productCtrlWrite build heap .fine .fine store q rsplen =
      .ok (status, store.fill 0
        (((heap.fill 0 (store.load 0 q.dataLen)).fill q.offset q.data).load 0 q.dataLen)) := by
  obtain ⟨status, hstatus, hread⟩ := readFront_fine build store q
  obtain ⟨nv₁, h₁, hc₁, hs₁⟩ := nvdata_write heap store q hlen
  rw [productCtrlWrite, hread, Except.ok_bind, h₁, Except.ok_bind]
  by_cases hs : status = 0
  · obtain ⟨nv₂, h₂, hc₂, hs₂⟩ := Block.write_ok (l := q.data)
      (show nv₁.Holds q.offset q.data.length by
        rw [q.length_data, Block.Holds, hs₁]
        exact hscratch)
    have hnv : nv₂.Holds 0 q.dataLen := Block.holds_of_le (by omega)
    obtain ⟨status', -, hwrite⟩ := engWriteMiscdataWithOffset_fine build store 0
      (nv₂.cells.load 0 q.dataLen) (by rw [length_load]; exact inside_volume q)
    rw [Nat.cast_zero] at hwrite
    refine ⟨status', ?_⟩
    rw [if_pos hs, Block.read_eq hdata, Except.ok_bind]
    change (nv₁.write q.offset q.data >>= _) = _
    rw [h₂, Except.ok_bind, Block.read_eq hnv, Except.ok_bind, hwrite, hc₂, hc₁]
  · have hzero : q.dataLen = 0 := by omega
    refine ⟨status, ?_⟩
    rw [if_neg hs, hzero, load_zero, load_zero, fill_nil]
    rfl

/-- A write that announces more data than it carries, or that ends behind `nvdata`, touches what is
not its own. -/
lemma productCtrlWrite_outside {rsplen : Nat} (hlen : q.dataLen ≤ rsplen)
    (h : ¬(q.buf.Holds (1 + (msgHeadLen + 2 * 2)) q.dataLen ∧
      Block.Holds ⟨heap, rsplen⟩ q.offset q.dataLen)) :
    ∃ e, productCtrlWrite build heap .fine .fine store q rsplen = .error e := by
  obtain ⟨status, hstatus, hread⟩ := readFront_fine build store q
  have hpos : 0 < q.dataLen := by
    rw [Nat.pos_iff_ne_zero]
    exact fun h0 => h ⟨.inl h0, .inl h0⟩
  obtain ⟨nv₁, h₁, hc₁, hs₁⟩ := nvdata_write heap store q hlen
  rw [productCtrlWrite, hread, Except.ok_bind, h₁, Except.ok_bind, if_pos (hstatus hpos)]
  by_cases hdata : q.buf.Holds (1 + (msgHeadLen + 2 * 2)) q.dataLen
  · have hscratch : ¬nv₁.Holds q.offset q.data.length := by
      rw [q.length_data, Block.Holds, hs₁]
      exact fun hs => h ⟨hdata, hs⟩
    rw [Block.read_eq hdata, Except.ok_bind]
    change ∃ e, (nv₁.write q.offset q.data >>= _) = _
    rw [Block.write_error hscratch, Except.error_bind]
    exact ⟨_, rfl⟩
  · rw [Block.read_error hdata, Except.error_bind]
    exact ⟨_, rfl⟩

end Handler

/-- `rsplen` is enough for the header, the fields, the data and the flags. -/
def MiscCall.Fits (c : MiscCall) : Prop := msgHeadLen + 2 * 2 + c.dataLen + 2 ≤ c.rsp.size

/-- What is asked of one call: a read returns the bytes of the partition from its offset on, a write
changes just these bytes to its data, and nothing else has an effect. -/
structure MiscServed (store : Buffer UInt8) (c : MiscCall) (r : Buffer UInt8 × List UInt8) :
    Prop where
  read : c.Fits → c.subtype = 2 → r.1 = store ∧ ∃ status, (0 < c.dataLen → status = 0) ∧
    r.2 = c.readReply status (store.load c.offset c.dataLen)
  write : c.Fits → c.subtype = 3 → r.1 = store.fill c.offset c.data
  ignored : ¬c.Fits ∨ c.subtype ≠ 2 ∧ c.subtype ≠ 3 → r = (store, [])

/-- When the handler does so: a read finds the same bytes at offset 0. A write carries its data, its
data end inside `nvdata`, and what it puts behind the first `dataLen` bytes is there already. -/
structure MiscAligned (store : Buffer UInt8) (c : MiscCall) : Prop where
  read : c.Fits → c.subtype = 2 → ∀ i, i < c.dataLen → store (c.offset + i) = store i
  write : c.Fits → c.subtype = 3 →
    c.buf.Holds (1 + (msgHeadLen + 2 * 2)) c.dataLen ∧
    (c.dataLen = 0 ∨ c.offset + c.dataLen ≤ c.rsp.size) ∧
    ∀ i, i < c.dataLen → c.dataLen ≤ c.offset + i →
      store (c.offset + i) = c.buf.cells (1 + (msgHeadLen + 2 * 2) + i)

section Step

variable (build : MiscBuild) (store : Buffer UInt8) {c : MiscCall}

lemma miscStep_read (hfit : c.Fits) (hsub : c.subtype = 2) :
    ∃ status, (0 < c.dataLen → status = 0) ∧
      miscStep build store c = .ok (store, c.readReply status (store.load 0 c.dataLen)) := by
  obtain ⟨status, hstatus, hread⟩ := productCtrlRead_fine build c.heap store c.toMiscRequest
  have hlen : (c.readHead status ++ store.load 0 c.dataLen).length + 2 ≤ c.rsp.size := by
    rwa [List.length_append, MiscRequest.length_readHead, length_load]
  obtain ⟨rsp, hrsp, hload⟩ := miscTranslatePacket_eq c.rsp _ hlen
  refine ⟨status, hstatus, ?_⟩
  rw [miscStep, engDiagProductCtrl]
  simp only [if_neg (not_lt.mpr hfit), if_pos hsub]
  rw [hread, Except.ok_bind, hrsp, Except.ok_bind, pure_bind, hload]
  rfl

lemma miscStep_write (hfit : c.Fits) (hsub : c.subtype = 3) {status : Int} {store' : Buffer UInt8}
    (hwrite : productCtrlWrite build c.heap .fine .fine store c.toMiscRequest c.rsp.size =
      .ok (status, store')) :
    miscStep build store c = .ok (store',
      0x7e :: (setMsgHead c.buf.cells 1 status msgHeadLen).load 1 msgHeadLen ++ [0x7e]) := by
  have hne : ¬c.subtype = 2 := by rw [hsub]; decide
  have hfit' : msgHeadLen + 2 * 2 + c.dataLen + 2 ≤ c.rsp.size := hfit
  obtain ⟨rsp, hrsp, hload⟩ := miscTranslatePacket_eq c.rsp
    ((setMsgHead c.buf.cells 1 status msgHeadLen).load 1 msgHeadLen) (by rw [length_load]; omega)
  rw [miscStep, engDiagProductCtrl]
  simp only [if_neg (not_lt.mpr hfit), if_neg hne, if_pos hsub]
  rw [hwrite, Except.ok_bind, hrsp, Except.ok_bind, pure_bind, hload]
  rfl

lemma miscStep_outside (hfit : c.Fits) (hsub : c.subtype = 3) {e : OutOfBounds}
    (hwrite : productCtrlWrite build c.heap .fine .fine store c.toMiscRequest c.rsp.size =
      .error e) : miscStep build store c = .error e := by
  have hne : ¬c.subtype = 2 := by rw [hsub]; decide
  rw [miscStep, engDiagProductCtrl]
  simp only [if_neg (not_lt.mpr hfit), if_neg hne, if_pos hsub]
  rw [hwrite, Except.error_bind, Except.error_bind]

lemma miscStep_ignored (h : ¬c.Fits ∨ c.subtype ≠ 2 ∧ c.subtype ≠ 3) :
    miscStep build store c = .ok (store, []) := by
  rw [miscStep, engDiagProductCtrl]
  rcases h with h | ⟨h₂, h₃⟩
  · rw [if_pos (not_le.mp h)]
    rfl
  · simp only [if_neg h₂, if_neg h₃, ite_self]
    rfl

lemma load_zero_eq_iff (off n : Nat) :
    store.load 0 n = store.load off n ↔ ∀ i, i < n → store (off + i) = store i := by
  constructor
  · intro h i hi
    have hget : (store.load 0 n)[i]? = (store.load off n)[i]? := by rw [h]
    simpa [hi] using hget.symm
  · intro h
    apply load_congr
    intro i hi
    rw [Nat.zero_add, h i hi]

lemma miscStep_read_iff (hfit : c.Fits) (hsub : c.subtype = 2) :
    (∀ i, i < c.dataLen → store (c.offset + i) = store i) ↔
      ∃ r, miscStep build store c = .ok r ∧ r.1 = store ∧
        ∃ status, (0 < c.dataLen → status = 0) ∧
          r.2 = c.readReply status (store.load c.offset c.dataLen) := by
  obtain ⟨status, hstatus, hstep⟩ := miscStep_read build store hfit hsub
  rw [← load_zero_eq_iff, hstep]
  constructor
  · intro h
    refine ⟨_, rfl, rfl, status, hstatus, ?_⟩
    rw [h]
  · rintro ⟨r, hr, -, status', -, hreply⟩
    cases hr
    exact MiscRequest.readReply_bytes hreply

lemma miscStep_write_iff (hfit : c.Fits) (hsub : c.subtype = 3) :
    (c.buf.Holds (1 + (msgHeadLen + 2 * 2)) c.dataLen ∧
      (c.dataLen = 0 ∨ c.offset + c.dataLen ≤ c.rsp.size) ∧
      ∀ i, i < c.dataLen → c.dataLen ≤ c.offset + i →
        store (c.offset + i) = c.buf.cells (1 + (msgHeadLen + 2 * 2) + i)) ↔
      ∃ r, miscStep build store c = .ok r ∧ r.1 = store.fill c.offset c.data := by
  have hlen : c.dataLen ≤ c.rsp.size := by
    have hfit' : msgHeadLen + 2 * 2 + c.dataLen + 2 ≤ c.rsp.size := hfit
    omega
  rw [← and_assoc]
  by_cases hin : c.buf.Holds (1 + (msgHeadLen + 2 * 2)) c.dataLen ∧
      (c.dataLen = 0 ∨ c.offset + c.dataLen ≤ c.rsp.size)
  · obtain ⟨status, hwrite⟩ := productCtrlWrite_fine build c.heap store hlen hin.1 hin.2
    have hcopy : ∀ k, k < c.dataLen →
        (Buffer.fill c.heap 0 (store.load 0 c.dataLen)) k = store k := by
      intro k hk
      rw [fill_load_apply c.heap store 0 hk, Nat.zero_add]
    have hpatch := fill_patched_iff hcopy c.offset c.data
    rw [and_iff_right hin, miscStep_write build store hfit hsub hwrite]
    constructor
    · intro h
      refine ⟨_, rfl, hpatch.mpr fun i hi hn => ?_⟩
      rw [MiscRequest.length_data] at hi
      exact (h i hi hn).trans (getElem_load _ _ _ _ _).symm
    · rintro ⟨r, hr, hstore⟩ i hi hn
      cases hr
      exact (hpatch.mp hstore i (by simpa) hn).trans (getElem_load _ _ _ _ _)
  · obtain ⟨e, hwrite⟩ := productCtrlWrite_outside build c.heap store hlen hin
    rw [miscStep_outside build store hfit hsub hwrite]
    constructor
    · exact fun h => absurd h.1 hin
    · rintro ⟨r, hr, -⟩
      cases hr

/-- The exact condition for one call to be served. -/
theorem miscAligned_iff (c : MiscCall) :
    MiscAligned store c ↔ ∃ r, miscStep build store c = .ok r ∧ MiscServed store c r := by
  by_cases hother : ¬c.Fits ∨ c.subtype ≠ 2 ∧ c.subtype ≠ 3
  · have hread : c.Fits → c.subtype ≠ 2 := by tauto
    have hwrite : c.Fits → c.subtype ≠ 3 := by tauto
    rw [miscStep_ignored build store hother]
    exact iff_of_true ⟨fun hf h => absurd h (hread hf), fun hf h => absurd h (hwrite hf)⟩
      ⟨_, rfl, fun hf h => absurd h (hread hf), fun hf h => absurd h (hwrite hf), fun _ => rfl⟩
  · have hfit : c.Fits := by tauto
    by_cases h₂ : c.subtype = 2
    · have h₃ : c.subtype ≠ 3 := by rw [h₂]; decide
      have hiff := miscStep_read_iff build store hfit h₂
      constructor
      · intro h
        obtain ⟨r, hr, hserved⟩ := hiff.mp (h.read hfit h₂)
        exact ⟨r, hr, fun _ _ => hserved, fun _ h => absurd h h₃, fun h => absurd h hother⟩
      · rintro ⟨r, hr, hserved⟩
        exact ⟨fun _ _ => hiff.mpr ⟨r, hr, hserved.read hfit h₂⟩, fun _ h => absurd h h₃⟩
    · have h₃ : c.subtype = 3 := by tauto
      have hiff := miscStep_write_iff build store hfit h₃
      constructor
      · intro h
        obtain ⟨r, hr, hserved⟩ := hiff.mp (h.write hfit h₃)
        exact ⟨r, hr, fun _ h => absurd h h₂, fun _ _ => hserved, fun h => absurd h hother⟩
      · rintro ⟨r, hr, hserved⟩
        exact ⟨fun _ h => absurd h h₂, fun _ _ => hiff.mpr ⟨r, hr, hserved.write hfit h₃⟩⟩

end Step

/-- A run serves every request exactly when each of them meets the condition where it comes up. -/
theorem miscdata_served_iff (build : MiscBuild) (store : Buffer UInt8) (l : List MiscCall) :
    Machine.Meets (miscStep build) MiscServed store l ↔
      Machine.Guarded (miscStep build) MiscAligned store l :=
  Machine.meets_iff_guarded (fun s c => miscAligned_iff build s c) store l

/-- A write of 1, 2, 3, 4 at offset 4. -/
def miscWriteAtFour : MiscCall where
  buf := ⟨Buffer.fill (fun _ => 0) 0
    [0x7e, 0, 0, 0, 0, 0x10, 0, 0x0d, 3, 4, 0, 4, 0, 1, 2, 3, 4, 0x7e], 18⟩
  fields := by decide
  heap := fun _ => 0
  rsp := ⟨fun _ => 0, 64⟩

/-- A block device without room to spare. -/
def leastPartition : Partition := ⟨nandMiscdataFilesize, le_rfl⟩

/-- All of its data lie behind the bytes that are written back. -/
theorem miscdata_write_lost :
    ¬Machine.Meets (miscStep (.block leastPartition)) MiscServed (fun _ => 0)
      [miscWriteAtFour] := by
  rw [Machine.meets_iff_guarded fun s c => miscAligned_iff (.block leastPartition) s c]
  rintro ⟨h, -⟩
  have hbyte := (h.write (by unfold MiscCall.Fits; decide) (by decide)).2.2 0 (by decide)
    (by decide)
  exact absurd hbyte (by decide)

end EngPc
