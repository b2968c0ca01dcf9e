import EngPc.Proofs.Miscdata

/-!
# The extended access to the miscdata partition

Both fields of a request are turned into `int`s, and one comparison guards what follows. A negative
length passes it, and so does one for which the sum overflows; how many bytes the frame carries is
not compared with anything.
-/

namespace EngPc
open Buffer LittleEndian

lemma mallocCleared_nat (n : Nat) : mallocCleared n = .ok ⟨fun _ => 0, n⟩ := by
  rw [mallocCleared, if_neg (by omega), Int.toNat_natCast]

lemma mallocCleared_neg {size : Int} (h : size < 0) :
    mallocCleared size = .error ⟨0, size.natAbs⟩ := if_pos h

section Access

variable (build : MiscBuild) (store : Buffer UInt8)

/-- An access with `lseek` that finds no byte of the partition. -/
def MiscBuild.Misses (build : MiscBuild) (offset : Int) : Prop :=
  build ≠ .nand ∧ (offset < 0 ∨ build.size ≤ offset)

lemma landed_apply (pos : Nat) (databuf : List UInt8) (k : Nat) :
    landed build store pos databuf k =
      if k < build.size then store.fill pos databuf k else store k := by
  cases build with
  | nand => exact fill_patched_apply (fun k hk => @nandCopy_apply store k hk) pos databuf k
  | block partition => exact fill_take_apply store pos partition.size databuf k

lemma landed_eq_iff (pos : Nat) (databuf : List UInt8) :
    landed build store pos databuf = store ↔
      ∀ i (hi : i < databuf.length), pos + i < build.size → store (pos + i) = databuf[i] := by
  constructor
  · intro h i hi hin
    have hcell := congrFun h (pos + i)
    rw [landed_apply, if_pos hin, fill_inside store hi] at hcell
    exact hcell.symm
  · intro h
    funext k
    rw [landed_apply]
    split
    · rename_i hin
      by_cases hk : k < pos ∨ pos + databuf.length ≤ k
      · exact fill_outside store hk
      · obtain ⟨i, rfl⟩ := Nat.exists_eq_add_of_le (show pos ≤ k by omega)
        rw [fill_inside store (by omega)]
        exact (h i (by omega) hin).symm
    · rfl

lemma misses_read {offset : Int} (h : build.Misses offset) (dataLen : Nat) :
    ∃ ret, ret ≠ 0 ∧
      engReadMiscdataWithOffset .fine store build offset dataLen = .ok (ret, []) := by
  cases build with
  | nand => exact absurd rfl h.1
  | block partition => exact block_read_nothing store (.inr h.2)

lemma nand_read_error {offset : Int} {dataLen : Nat} (h : ¬InsideBuff .nand offset dataLen) :
    ∃ e, engReadMiscdataWithOffset .fine store .nand offset dataLen = .error e := by
  rw [insideBuff_nand store, ptrAt] at h
  rw [engReadMiscdataWithOffset_nand, ptrAt]
  by_cases hneg : offset < 0 ∧ 0 < dataLen
  · rw [if_pos hneg]
    exact ⟨_, rfl⟩
  · rw [if_neg hneg] at h
    rw [if_neg hneg, Except.ok_bind, Block.read_error fun hholds => h ⟨rfl, hholds⟩]
    exact ⟨_, rfl⟩

/-- The read of a request that does not miss: there is an answer exactly inside the copy, short
where the partition ends. -/
lemma read_answer {offset : Int} {dataLen : Nat} (hmiss : ¬build.Misses offset)
    (h : InsideBuff build offset dataLen) :
    ∃ ret bytes, engReadMiscdataWithOffset .fine store build offset dataLen = .ok (ret, bytes) ∧
      (0 < dataLen → ret = 0) ∧ bytes.length ≤ dataLen ∧
      (offset + dataLen ≤ build.size → 0 ≤ offset → bytes = store.load offset.toNat dataLen) := by
  cases build with
  | nand =>
    refine ⟨0, _, nand_read_ok store h, fun _ => rfl, (length_load _ _ _).le, ?_⟩
    intro hle hnonneg
    have hle' : offset + dataLen ≤ getFileSize := hle
    apply load_congr
    intro i hi
    exact nandCopy_apply (by omega)
  | block partition =>
    have hsize : ((MiscBuild.block partition).size : Int) = partition.size := rfl
    have hin : 0 ≤ offset ∧ offset < partition.size := by
      by_contra hout
      exact hmiss ⟨MiscBuild.noConfusion, by omega⟩
    obtain ⟨pos, rfl⟩ := Int.eq_ofNat_of_zero_le hin.1
    rcases Nat.eq_zero_or_pos dataLen with rfl | hpos
    · obtain ⟨ret, -, hread⟩ : ∃ ret, ret ≠ 0 ∧
          engReadMiscdataWithOffset .fine store (.block partition) pos 0 = .ok (ret, []) :=
        block_read_nothing store (.inl rfl)
      exact ⟨ret, [], hread, fun h => absurd h (lt_irrefl 0), le_rfl, fun _ _ => rfl⟩
    · refine ⟨0, _, block_read store hpos (by omega), fun _ => rfl, ?_, fun hle _ => ?_⟩
      · rw [length_load]
        exact Nat.min_le_left _ _
      · rw [Nat.min_eq_left (by omega), Int.toNat_natCast]

end Access

namespace MiscExCall

variable (c : MiscExCall)

/-- The header and the two fields lie in the frame. -/
def Whole : Prop := 1 + (msgHeadLen + 2 * 4) ≤ c.buf.size

/-- `rsplen` is enough for the header, the fields, the data and the flags. -/
def Fits : Prop := (msgHeadLen + 2 * 4 : Nat) + c.dataLen + 2 ≤ c.rsp.size

def Accepted : Prop := intOf ((msgHeadLen + 2 * 4 : Nat) + c.dataLen + 2) ≤ c.rsp.size

def InRange (build : MiscBuild) : Prop :=
  0 ≤ c.offset ∧ 0 ≤ c.dataLen ∧ c.offset + c.dataLen ≤ build.size

/-- The frame has as many data bytes as it announces. -/
def Carries : Prop := (1 + (msgHeadLen + 2 * 4) : Nat) + c.dataLen ≤ c.buf.size

def GoodRead (build : MiscBuild) : Prop :=
  c.Whole ∧ c.Fits ∧ c.InRange build ∧ c.subtype = 0x12

def GoodWrite (build : MiscBuild) : Prop :=
  c.Carries ∧ c.Fits ∧ c.InRange build ∧ c.subtype = 0x13

def data : List UInt8 := c.buf.cells.load (1 + (msgHeadLen + 2 * 4)) c.dataLen.toNat

@[simp] lemma length_data : c.data.length = c.dataLen.toNat := length_load _ _ _

/-- The header and the fields of the request, with `subtype` and `len` of the response to a read of
`n` bytes. -/
def readHead (status : Int) (n : Nat) : List UInt8 :=
  (setMsgHead (c.buf.cells.offset 1) 0 status (msgHeadLen + 2 * 4 + n)).load 0 (msgHeadLen + 2 * 4)

@[simp] lemma length_readHead (status : Int) (n : Nat) :
    (c.readHead status n).length = msgHeadLen + 2 * 4 := length_load _ _ _

def readReply (status : Int) (bytes : List UInt8) : List UInt8 :=
  0x7e :: (c.readHead status bytes.length ++ bytes) ++ [0x7e]

end MiscExCall

/-- A request in range is served at its offset; every other one leaves the partition alone. -/
structure MiscExServed (build : MiscBuild) (store : Buffer UInt8) (c : MiscExCall)
    (r : Buffer UInt8 × List UInt8) : Prop where
  read : c.GoodRead build → r.1 = store ∧ ∃ status, (0 < c.dataLen → status = 0) ∧
    r.2 = c.readReply status (store.load c.offset.toNat c.dataLen.toNat)
  write : c.GoodWrite build → r.1 = store.fill c.offset.toNat c.data
  other : ¬c.GoodRead build → ¬c.GoodWrite build → r.1 = store

/-- A read that is accepted stays in its buffers: the length is not negative and the scratch buffer
can be asked for; the reply fits, without data where the read misses the partition. -/
structure MiscExReadSafe (build : MiscBuild) (c : MiscExCall) : Prop where
  nonneg : 0 ≤ c.dataLen
  scratch : c.dataLen + (msgHeadLen + 2 * 4 : Nat) < 2 ^ 31
  reply : build.Misses c.offset ∧ msgHeadLen + 2 * 4 + 2 ≤ c.rsp.size ∨
    c.Fits ∧ InsideBuff build c.offset c.dataLen.toNat

/-- A write that is accepted has nothing to write, or misses the partition, or carries its data and
is in range, or changes nothing. -/
structure MiscExWriteSafe (build : MiscBuild) (store : Buffer UInt8) (c : MiscExCall) : Prop where
  nonneg : 0 ≤ c.dataLen
  reply : msgHeadLen + 2 ≤ c.rsp.size
  data : c.dataLen = 0 ∨ build.Misses c.offset ∨
    0 ≤ c.offset ∧ c.Carries ∧ InsideBuff build c.offset c.dataLen.toNat ∧
      (c.Fits ∧ c.InRange build ∨ ∀ i, i < c.dataLen.toNat →
        c.offset.toNat + i < build.size →
          store (c.offset.toNat + i) = c.buf.cells (1 + (msgHeadLen + 2 * 4) + i))

/-- The exact condition for a call to be served. -/
structure MiscExSafe (build : MiscBuild) (store : Buffer UInt8) (c : MiscExCall) : Prop where
  whole : c.Whole
  read : c.Accepted → c.subtype = 0x12 → MiscExReadSafe build c
  write : c.Accepted → c.subtype = 0x13 → MiscExWriteSafe build store c

lemma miscTranslatePacket_error (dest : Block UInt8) (src : List UInt8)
    (h : dest.size < src.length + 2) : ∃ e, miscTranslatePacket dest src = .error e := by
  have hflag : [(0x7e : UInt8)].length = 1 := rfl
  rw [miscTranslatePacket]
  by_cases h₁ : dest.Holds 0 [(0x7e : UInt8)].length
  · obtain ⟨d₁, hw₁, -, hs₁⟩ := Block.write_ok h₁
    rw [hw₁, Except.ok_bind]
    by_cases h₂ : d₁.Holds 1 src.length
    · obtain ⟨d₂, hw₂, -, hs₂⟩ := Block.write_ok h₂
      have h₃ : ¬d₂.Holds (1 + src.length) [(0x7e : UInt8)].length := by
        rw [Block.Holds]
        omega
      rw [hw₂, Except.ok_bind, Block.write_error h₃]
      exact ⟨_, rfl⟩
    · rw [Block.write_error h₂]
      exact ⟨_, rfl⟩
  · rw [Block.write_error h₁]
    exact ⟨_, rfl⟩

namespace MiscExCall

variable {c : MiscExCall}

lemma dataLen_lt (c : MiscExCall) : c.dataLen < 2 ^ 31 := intOf_lt _

lemma le_dataLen (c : MiscExCall) : -2 ^ 31 ≤ c.dataLen := le_intOf _

/-- Without an overflow of its sum the comparison means what it should. -/
lemma accepted_iff (h : c.dataLen + (msgHeadLen + 2 * 4 + 2 : Nat) < 2 ^ 31) :
    c.Accepted ↔ c.Fits := by
  have hle := c.le_dataLen
  have hhead : msgHeadLen + 2 * 4 = 16 := rfl
  rw [Accepted, Fits, intOf_eq (by omega) (by omega)]

lemma Fits.accepted (hfit : c.Fits) : c.Accepted := by
  have hrsp := c.rsplen_int
  have hhead : msgHeadLen + 2 * 4 = 16 := rfl
  rw [accepted_iff]
  · exact hfit
  · rw [Fits] at hfit
    omega

end MiscExCall

section ExHandler

variable (build : MiscBuild) (store : Buffer UInt8) {c : MiscExCall}

lemma reqRead {b : Block UInt8} {off n : Nat} (h : off + n ≤ b.size) :
    b.read off n = .ok (b.cells.load off n) := Block.read_eq (Block.holds_of_le h)

/-- What `case 0x12` does before it reads, when length and scratch buffer are in order. -/
lemma productCtrlExRead_front (hwhole : c.Whole) (hnonneg : 0 ≤ c.dataLen)
    (hscratch : c.dataLen + (msgHeadLen + 2 * 4 : Nat) < 2 ^ 31) :
    ∃ nv : Block UInt8,
      nv.cells = Buffer.fill (fun _ => 0) 0 (c.buf.cells.load 1 (msgHeadLen + 2 * 4)) ∧
      nv.size = c.dataLen.toNat + (msgHeadLen + 2 * 4) ∧
      productCtrlExRead build .fine store c =
        engReadMiscdataWithOffset .fine store build c.offset c.dataLen.toNat >>= fun nverr =>
          nv.write (msgHeadLen + 2 * 4) nverr.2 >>= fun nvdata =>
            let n := if nverr.1 = 0 then c.dataLen.toNat else 0
            Block.read { nvdata with
              cells := setMsgHead nvdata.cells 0 nverr.1 (msgHeadLen + 2 * 4 + n) } 0
              (msgHeadLen + 2 * 4 + n) := by
  obtain ⟨n, hn⟩ := Int.eq_ofNat_of_zero_le hnonneg
  have hhead : (c.buf.cells.load 1 (msgHeadLen + 2 * 4)).length = msgHeadLen + 2 * 4 :=
    length_load _ _ _
  have hmalloc : mallocCleared (intOf (c.dataLen + (msgHeadLen + 2 * 4 : Nat))) =
      .ok ⟨fun _ => 0, n + (msgHeadLen + 2 * 4)⟩ := by
    rw [intOf_eq (by omega) hscratch, hn]
    exact mallocCleared_nat _
  obtain ⟨nv, hnv, hcells, hsize⟩ := Block.write_ok
    (show Block.Holds ⟨fun _ => 0, n + (msgHeadLen + 2 * 4)⟩ 0
      (c.buf.cells.load 1 (msgHeadLen + 2 * 4)).length from
      Block.holds_of_le (by dsimp only; omega))
  refine ⟨nv, hcells, by rw [hsize, hn, Int.toNat_natCast], ?_⟩
  rw [productCtrlExRead, hmalloc, Except.ok_bind,
    reqRead (show 1 + (msgHeadLen + 2 * 4) ≤ c.buf.size from hwhole), Except.ok_bind, hnv]
  rfl

/-- The scratch buffer is cleared, so behind a short read there are zeros. -/
lemma scratch_padded (head bytes : List UInt8) {n : Nat} (hlen : head.length = n) (k : Nat) :
    (Buffer.fill (fun _ => 0) 0 head).fill n (bytes ++ List.replicate k 0) =
      (Buffer.fill (fun _ => 0) 0 head).fill n bytes := by
  apply fill_append_there
  apply load_of_apply_eq
  intro i hi
  rw [fill_outside _ (.inr (by omega)), List.getElem_replicate]

lemma productCtrlExRead_answer (hwhole : c.Whole) (hnonneg : 0 ≤ c.dataLen)
    (hscratch : c.dataLen + (msgHeadLen + 2 * 4 : Nat) < 2 ^ 31) {ret : Int} {bytes : List UInt8}
    (hread : engReadMiscdataWithOffset .fine store build c.offset c.dataLen.toNat =
      .ok (ret, bytes)) {n : Nat} (hn : n = if ret = 0 then c.dataLen.toNat else 0)
    (hlen : bytes.length ≤ n) :
    productCtrlExRead build .fine store c =
      .ok (c.readHead ret n ++ (bytes ++ List.replicate (n - bytes.length) 0)) := by
  obtain ⟨nv₁, hc₁, hs₁, hfront⟩ := productCtrlExRead_front build store hwhole hnonneg hscratch
  have hle : n ≤ c.dataLen.toNat := by
    rw [hn]
    split <;> omega
  have hpadded : (bytes ++ List.replicate (n - bytes.length) 0).length = n := by
    rw [List.length_append, List.length_replicate]
    omega
  obtain ⟨nv₂, h₂, hc₂, hs₂⟩ := Block.write_ok
    (show nv₁.Holds (msgHeadLen + 2 * 4) bytes.length from Block.holds_of_le (by omega))
  have hnv : Block.Holds { nv₂ with
      cells := setMsgHead nv₂.cells 0 ret (msgHeadLen + 2 * 4 + n) } 0 (msgHeadLen + 2 * 4 + n) :=
    Block.holds_of_le (by dsimp only; omega)
  have hload := nvdata_load (fun _ => 0) c.buf.cells ret (msgHeadLen + 2 * 4 + n)
    (msgHeadLen + 2 * 4) (by decide) (bytes ++ List.replicate (n - bytes.length) 0)
  rw [scratch_padded _ _ (length_load _ _ _), ← hc₁, ← hc₂, hpadded] at hload
  rw [hfront, hread, Except.ok_bind, h₂, Except.ok_bind]
  simp only [← hn]
  rw [Block.read_eq hnv, hload, MiscExCall.readHead]

lemma productCtrlExRead_read_error (hwhole : c.Whole) (hnonneg : 0 ≤ c.dataLen)
    (hscratch : c.dataLen + (msgHeadLen + 2 * 4 : Nat) < 2 ^ 31) {e : OutOfBounds}
    (hread : engReadMiscdataWithOffset .fine store build c.offset c.dataLen.toNat = .error e) :
    productCtrlExRead build .fine store c = .error e := by
  obtain ⟨nv, -, -, hfront⟩ := productCtrlExRead_front build store hwhole hnonneg hscratch
  rw [hfront, hread, Except.error_bind]

/-- A negative length leaves no room for the header, and none for the data to be written; a length
near the largest `int` cannot be asked for. -/
lemma productCtrlExRead_error (hwhole : c.Whole)
    (h : c.dataLen < 0 ∨ 2 ^ 31 ≤ c.dataLen + (msgHeadLen + 2 * 4 : Nat)) :
    ∃ e, productCtrlExRead build .fine store c = .error e := by
  have hlt := c.dataLen_lt
  have hle := c.le_dataLen
  have hsize : msgHeadLen + 2 * 4 = 16 := rfl
  have hhead : (c.buf.cells.load 1 (msgHeadLen + 2 * 4)).length = msgHeadLen + 2 * 4 :=
    length_load _ _ _
  rw [productCtrlExRead]
  by_cases hneg : intOf (c.dataLen + (msgHeadLen + 2 * 4 : Nat)) < 0
  · rw [mallocCleared_neg hneg]
    exact ⟨_, rfl⟩
  · rcases h with h | h
    · have hint : intOf (c.dataLen + (msgHeadLen + 2 * 4 : Nat)) =
          c.dataLen + (msgHeadLen + 2 * 4 : Nat) := intOf_eq (by omega) (by omega)
      rw [hint] at hneg
      obtain ⟨n, hn⟩ := Int.eq_ofNat_of_zero_le (not_lt.mp hneg)
      have hover : ¬Block.Holds (⟨fun _ => 0, n⟩ : Block UInt8) 0
          (c.buf.cells.load 1 (msgHeadLen + 2 * 4)).length := by
        rw [Block.Holds, hhead]
        dsimp only
        omega
      rw [hint, hn, mallocCleared_nat, Except.ok_bind,
        reqRead (show 1 + (msgHeadLen + 2 * 4) ≤ c.buf.size from hwhole), Except.ok_bind,
        Block.write_error hover]
      exact ⟨_, rfl⟩
    · rw [intOf_overflow h (by omega)] at hneg
      omega

/-- What `case 0x13` does with a length that is not negative. -/
lemma productCtrlExWrite_front {n : Nat} (hn : c.dataLen = n) :
    productCtrlExWrite build .fine .fine store c =
      engReadMiscdataWithOffset .fine store build c.offset n >>= fun nverr =>
        Block.write ⟨fun _ => 0, n⟩ 0 nverr.2 >>= fun nvdata =>
          if nverr.1 = 0 then
            c.buf.read (1 + (msgHeadLen + 2 * 4)) n >>= fun data =>
              nvdata.write 0 data >>= fun nvdata =>
                nvdata.read 0 n >>= fun databuf =>
                  engWriteMiscdataWithOffset .fine store build c.offset databuf
          else .ok (nverr.1, store) := by
  rw [productCtrlExWrite, hn, mallocCleared_nat, Except.ok_bind, Int.toNat_natCast]
  rfl

/-- Data that the frame carries are what is written after a read that succeeded. -/
lemma productCtrlExWrite_carried {n : Nat} (hn : c.dataLen = n)
    (hcarries : c.buf.Holds (1 + (msgHeadLen + 2 * 4)) n) {bytes : List UInt8}
    (hread : engReadMiscdataWithOffset .fine store build c.offset n = .ok (0, bytes))
    (hlen : bytes.length ≤ n) :
    productCtrlExWrite build .fine .fine store c =
      engWriteMiscdataWithOffset .fine store build c.offset c.data := by
  have hdata : c.data = c.buf.cells.load (1 + (msgHeadLen + 2 * 4)) n := by
    rw [MiscExCall.data, hn, Int.toNat_natCast]
  have hdlen : c.data.length = n := by rw [c.length_data, hn, Int.toNat_natCast]
  obtain ⟨nv₁, h₁, -, hs₁⟩ := Block.write_ok
    (show Block.Holds ⟨fun _ => 0, n⟩ 0 bytes.length from
      Block.holds_of_le (by dsimp only; omega))
  dsimp only at hs₁
  obtain ⟨nv₂, h₂, hc₂, hs₂⟩ := Block.write_ok
    (show nv₁.Holds 0 c.data.length from Block.holds_of_le (by omega))
  have hload : nv₂.cells.load 0 n = c.data := by
    rw [hc₂, ← hdlen]
    exact load_fill nv₁.cells 0 c.data
  rw [productCtrlExWrite_front build store hn, hread, Except.ok_bind, h₁, Except.ok_bind,
    if_pos rfl, Block.read_eq hcarries, Except.ok_bind, ← hdata, h₂, Except.ok_bind,
    Block.read_eq (Block.holds_of_le (by omega)), Except.ok_bind, hload]

lemma productCtrlExWrite_short {n : Nat} (hn : c.dataLen = n)
    (hcarries : ¬c.buf.Holds (1 + (msgHeadLen + 2 * 4)) n) {bytes : List UInt8}
    (hread : engReadMiscdataWithOffset .fine store build c.offset n = .ok (0, bytes))
    (hlen : bytes.length ≤ n) :
    ∃ e, productCtrlExWrite build .fine .fine store c = .error e := by
  obtain ⟨nv₁, h₁, -, hs₁⟩ := Block.write_ok
    (show Block.Holds ⟨fun _ => 0, n⟩ 0 bytes.length from
      Block.holds_of_le (by dsimp only; omega))
  rw [productCtrlExWrite_front build store hn, hread, Except.ok_bind, h₁, Except.ok_bind,
    if_pos rfl, Block.read_error hcarries]
  exact ⟨_, rfl⟩

lemma productCtrlExWrite_failed {n : Nat} (hn : c.dataLen = n) {ret : Int} (hret : ret ≠ 0)
    (hread : engReadMiscdataWithOffset .fine store build c.offset n = .ok (ret, [])) :
    productCtrlExWrite build .fine .fine store c = .ok (ret, store) := by
  rw [productCtrlExWrite_front build store hn, hread, Except.ok_bind,
    Block.write_eq (.inl rfl), Except.ok_bind, if_neg hret]

lemma productCtrlExWrite_neg (hneg : c.dataLen < 0) :
    ∃ e, productCtrlExWrite build .fine .fine store c = .error e := by
  rw [productCtrlExWrite, mallocCleared_neg hneg]
  exact ⟨_, rfl⟩

lemma carries_iff {n : Nat} (hn : c.dataLen = n) (hpos : 0 < n) :
    c.buf.Holds (1 + (msgHeadLen + 2 * 4)) n ↔ c.Carries := by
  rw [Block.Holds, MiscExCall.Carries, hn]
  omega

lemma productCtrlExWrite_missed (hnonneg : 0 ≤ c.dataLen) (hmiss : build.Misses c.offset) :
    ∃ status, productCtrlExWrite build .fine .fine store c = .ok (status, store) := by
  obtain ⟨n, hn⟩ := Int.eq_ofNat_of_zero_le hnonneg
  obtain ⟨ret, hret, hread⟩ := misses_read build store hmiss n
  exact ⟨ret, productCtrlExWrite_failed build store hn hret hread⟩

/-- The NAND build writes the volume back as it is, the other one does not come to its write. -/
lemma productCtrlExWrite_nothing (hzero : c.dataLen = 0) :
    ∃ status, productCtrlExWrite build .fine .fine store c = .ok (status, store) := by
  have hin : InsideBuff .nand c.offset 0 := .inr (.inl rfl)
  cases build with
  | nand =>
    have hdata : c.data = [] := by
      rw [MiscExCall.data, hzero]
      rfl
    have hland : landed .nand store c.offset.toNat [] = store := by
      rw [landed_eq_iff]
      exact fun i hi => absurd hi (Nat.not_lt_zero i)
    have hwrite := @nand_write store c.offset [] hin
    rw [hland] at hwrite
    refine ⟨0, ?_⟩
    rw [productCtrlExWrite_carried .nand store hzero (.inl rfl) (nand_read_ok store hin) le_rfl,
      hdata, hwrite]
  | block partition =>
    obtain ⟨ret, hret, hread⟩ : ∃ ret, ret ≠ 0 ∧
        engReadMiscdataWithOffset .fine store (.block partition) c.offset 0 = .ok (ret, []) :=
      block_read_nothing store (.inl rfl)
    exact ⟨ret, productCtrlExWrite_failed (.block partition) store hzero hret hread⟩

/-- Where there is something to write, it lands or a buffer is left. -/
lemma productCtrlExWrite_landed (hpos : 0 < c.dataLen) (hoff : 0 ≤ c.offset)
    (hmiss : ¬build.Misses c.offset) (hcarries : c.Carries)
    (hin : InsideBuff build c.offset c.dataLen.toNat) :
    productCtrlExWrite build .fine .fine store c =
      .ok (0, landed build store c.offset.toNat c.data) := by
  obtain ⟨n, hn⟩ := Int.eq_ofNat_of_zero_le hpos.le
  obtain ⟨pos, hpos'⟩ := Int.eq_ofNat_of_zero_le hoff
  have hdlen : c.data.length = n := by rw [c.length_data, hn, Int.toNat_natCast]
  rw [hn, Int.toNat_natCast] at hin
  obtain ⟨ret, bytes, hread, hret, hlen, -⟩ := read_answer build store hmiss hin
  rw [hret (by omega)] at hread
  rw [productCtrlExWrite_carried build store hn ((carries_iff hn (by omega)).mpr hcarries) hread
    hlen, hpos', Int.toNat_natCast]
  cases build with
  | nand =>
    have hwrite := @nand_write store pos c.data (by rwa [hdlen, ← hpos'])
    rwa [Int.toNat_natCast] at hwrite
  | block partition =>
    apply block_write store (by omega)
    by_contra hend
    have hbehind : (partition.size : Int) ≤ c.offset := by omega
    exact hmiss ⟨MiscBuild.noConfusion, .inr hbehind⟩

lemma productCtrlExWrite_error (hpos : 0 < c.dataLen) (hmiss : ¬build.Misses c.offset)
    (h : ¬(0 ≤ c.offset ∧ c.Carries ∧ InsideBuff build c.offset c.dataLen.toNat)) :
    ∃ e, productCtrlExWrite build .fine .fine store c = .error e := by
  obtain ⟨n, hn⟩ := Int.eq_ofNat_of_zero_le hpos.le
  rw [hn, Int.toNat_natCast] at h
  by_cases hin : InsideBuff build c.offset n
  · have hoff : 0 ≤ c.offset := by
      rcases hin with hb | hzero | hle
      · exact not_lt.mp fun hneg => hmiss ⟨hb, .inl hneg⟩
      · omega
      · exact hle.1
    obtain ⟨ret, bytes, hread, hret, hlen, -⟩ := read_answer build store hmiss hin
    rw [hret (by omega)] at hread
    apply productCtrlExWrite_short build store hn _ hread hlen
    rw [carries_iff hn (by omega)]
    exact fun hcarries => h ⟨hoff, hcarries, hin⟩
  · cases build with
    | nand =>
      obtain ⟨e, hread⟩ := nand_read_error store hin
      rw [productCtrlExWrite_front .nand store hn, hread]
      exact ⟨_, rfl⟩
    | block partition => exact absurd (.inl MiscBuild.noConfusion) hin

end ExHandler

section Step

variable (build : MiscBuild) (store : Buffer UInt8) {c : MiscExCall}

lemma miscExStep_short (h : ¬c.Whole) : ∃ e, miscExStep build store c = .error e := by
  have hfields : ¬c.buf.Holds (1 + msgHeadLen) (2 * 4) := by
    rintro (hzero | hle)
    · exact absurd hzero (by decide)
    · exact h (le_trans (by omega) hle)
  rw [miscExStep, engDiagProductCtrlEx, Block.read_error hfields]
  exact ⟨_, rfl⟩

lemma miscExStep_fields (h : c.Whole) :
    c.buf.read (1 + msgHeadLen) (2 * 4) = .ok (c.buf.cells.load (1 + msgHeadLen) (2 * 4)) :=
  reqRead (le_trans (by omega) h)

lemma miscExStep_ignored (hwhole : c.Whole)
    (h : ¬c.Accepted ∨ c.subtype ≠ 0x12 ∧ c.subtype ≠ 0x13) :
    miscExStep build store c = .ok (store, []) := by
  rw [miscExStep, engDiagProductCtrlEx, miscExStep_fields hwhole, Except.ok_bind]
  rcases h with h | ⟨hread, hwrite⟩
  · rw [if_pos (not_le.mp h)]
    rfl
  · rw [if_neg hread, if_neg hwrite, ite_self]
    rfl

lemma miscExStep_read (hwhole : c.Whole) (hacc : c.Accepted) (hsub : c.subtype = 0x12) :
    miscExStep build store c =
      productCtrlExRead build .fine store c >>= fun nvdata =>
        miscTranslatePacket c.rsp nvdata >>= fun r => .ok (store, r.1.cells.load 0 r.2) := by
  rw [miscExStep, engDiagProductCtrlEx, miscExStep_fields hwhole, Except.ok_bind,
    if_neg (not_lt.mpr hacc), if_pos hsub, bind_assoc]
  simp only [bind_assoc, pure_bind]
  rfl

lemma miscExStep_write (hwhole : c.Whole) (hacc : c.Accepted) (hsub : c.subtype = 0x13) :
    miscExStep build store c =
      productCtrlExWrite build .fine .fine store c >>= fun w =>
        miscTranslatePacket c.rsp
          ((setMsgHead c.buf.cells 1 w.1 msgHeadLen).load 1 msgHeadLen) >>= fun r =>
            .ok (w.2, r.1.cells.load 0 r.2) := by
  have hne : ¬c.subtype = 0x12 := by rw [hsub]; decide
  rw [miscExStep, engDiagProductCtrlEx, miscExStep_fields hwhole, Except.ok_bind,
    if_neg (not_lt.mpr hacc), if_neg hne, if_pos hsub, bind_assoc]
  simp only [bind_assoc, pure_bind]
  rfl

lemma miscExStep_answer (hwhole : c.Whole) (hacc : c.Accepted) (hsub : c.subtype = 0x12)
    {status : Int} {bytes : List UInt8}
    (hread : productCtrlExRead build .fine store c =
      .ok (c.readHead status bytes.length ++ bytes))
    (hfit : msgHeadLen + 2 * 4 + bytes.length + 2 ≤ c.rsp.size) :
    miscExStep build store c = .ok (store, c.readReply status bytes) := by
  obtain ⟨rsp, hrsp, hload⟩ := miscTranslatePacket_eq c.rsp
    (c.readHead status bytes.length ++ bytes)
    (by rwa [List.length_append, MiscExCall.length_readHead])
  rw [miscExStep_read build store hwhole hacc hsub, hread, Except.ok_bind, hrsp, Except.ok_bind,
    hload]
  rfl

lemma miscExStep_no_room (hwhole : c.Whole) (hacc : c.Accepted) (hsub : c.subtype = 0x12)
    {status : Int} {bytes : List UInt8}
    (hread : productCtrlExRead build .fine store c =
      .ok (c.readHead status bytes.length ++ bytes))
    (hfit : ¬msgHeadLen + 2 * 4 + bytes.length + 2 ≤ c.rsp.size) :
    ∃ e, miscExStep build store c = .error e := by
  obtain ⟨e, he⟩ := miscTranslatePacket_error c.rsp (c.readHead status bytes.length ++ bytes)
    (by rw [List.length_append, MiscExCall.length_readHead]; omega)
  rw [miscExStep_read build store hwhole hacc hsub, hread, Except.ok_bind, he]
  exact ⟨_, rfl⟩

lemma miscExStep_written (hwhole : c.Whole) (hacc : c.Accepted) (hsub : c.subtype = 0x13)
    {status : Int} {store' : Buffer UInt8}
    (hwrite : productCtrlExWrite build .fine .fine store c = .ok (status, store'))
    (hfit : msgHeadLen + 2 ≤ c.rsp.size) :
    ∃ reply, miscExStep build store c = .ok (store', reply) := by
  obtain ⟨rsp, hrsp, -⟩ := miscTranslatePacket_eq c.rsp
    ((setMsgHead c.buf.cells 1 status msgHeadLen).load 1 msgHeadLen) (by rwa [length_load])
  rw [miscExStep_write build store hwhole hacc hsub, hwrite, Except.ok_bind, hrsp]
  exact ⟨_, rfl⟩

lemma miscExStep_write_error (hwhole : c.Whole) (hacc : c.Accepted) (hsub : c.subtype = 0x13)
    (h : (∃ e, productCtrlExWrite build .fine .fine store c = .error e) ∨
      ¬msgHeadLen + 2 ≤ c.rsp.size) : ∃ e, miscExStep build store c = .error e := by
  rw [miscExStep_write build store hwhole hacc hsub]
  cases hwrite : productCtrlExWrite build .fine .fine store c with
  | error e => exact ⟨e, rfl⟩
  | ok w =>
    rcases h with ⟨e, he⟩ | hfit
    · rw [hwrite] at he
      cases he
    · obtain ⟨e, he⟩ := miscTranslatePacket_error c.rsp
        ((setMsgHead c.buf.cells 1 w.1 msgHeadLen).load 1 msgHeadLen) (by rw [length_load]; omega)
      rw [Except.ok_bind, he]
      exact ⟨_, rfl⟩

lemma not_goodWrite_of_read (hsub : c.subtype = 0x12) : ¬c.GoodWrite build := by
  rintro ⟨-, -, -, h⟩
  rw [hsub] at h
  exact absurd h (by decide)

lemma not_goodRead_of_write (hsub : c.subtype = 0x13) : ¬c.GoodRead build := by
  rintro ⟨-, -, -, h⟩
  rw [hsub] at h
  exact absurd h (by decide)

/-- A read that does not miss the partition is answered with as many bytes as it asks for. -/
lemma productCtrlExRead_bytes (hwhole : c.Whole) (hnonneg : 0 ≤ c.dataLen)
    (hscratch : c.dataLen + (msgHeadLen + 2 * 4 : Nat) < 2 ^ 31)
    (hmiss : ¬build.Misses c.offset) (hin : InsideBuff build c.offset c.dataLen.toNat) :
    ∃ ret bytes, productCtrlExRead build .fine store c =
        .ok (c.readHead ret bytes.length ++ bytes) ∧
      (0 < c.dataLen.toNat → ret = 0) ∧ bytes.length = c.dataLen.toNat ∧
      (c.InRange build → bytes = store.load c.offset.toNat c.dataLen.toNat) := by
  obtain ⟨ret, bytes, hread, hret, hlen, hbytes⟩ := read_answer build store hmiss hin
  have hn : c.dataLen.toNat = if ret = 0 then c.dataLen.toNat else 0 := by
    split
    · rfl
    · omega
  have hpadded :
      (bytes ++ List.replicate (c.dataLen.toNat - bytes.length) 0).length = c.dataLen.toNat := by
    rw [List.length_append, List.length_replicate]
    omega
  refine ⟨ret, bytes ++ List.replicate (c.dataLen.toNat - bytes.length) 0, ?_, hret, hpadded, ?_⟩
  · rw [hpadded]
    exact productCtrlExRead_answer build store hwhole hnonneg hscratch hread hn hlen
  · rintro ⟨hoff, -, hle⟩
    rw [hbytes (by omega) hoff, length_load, Nat.sub_self]
    exact List.append_nil _

lemma productCtrlExRead_missed (hwhole : c.Whole) (hnonneg : 0 ≤ c.dataLen)
    (hscratch : c.dataLen + (msgHeadLen + 2 * 4 : Nat) < 2 ^ 31)
    (hmiss : build.Misses c.offset) :
    ∃ ret, productCtrlExRead build .fine store c =
      .ok (c.readHead ret ([] : List UInt8).length ++ []) := by
  obtain ⟨ret, hret, hread⟩ := misses_read build store hmiss c.dataLen.toNat
  exact ⟨ret, productCtrlExRead_answer build store hwhole hnonneg hscratch hread (if_neg hret).symm
    le_rfl⟩

lemma miscExStep_read_served (hwhole : c.Whole) (hacc : c.Accepted) (hsub : c.subtype = 0x12)
    (hsafe : MiscExReadSafe build c) :
    ∃ r, miscExStep build store c = .ok r ∧ MiscExServed build store c r := by
  have hnonneg := hsafe.nonneg
  have hnowrite := not_goodWrite_of_read build hsub
  have hhead : msgHeadLen + 2 * 4 = 16 := rfl
  by_cases hmiss : build.Misses c.offset
  · have hroom : msgHeadLen + 2 * 4 + 2 ≤ c.rsp.size := by
      rcases hsafe.reply with ⟨-, hroom⟩ | ⟨hfit, -⟩
      · exact hroom
      · rw [MiscExCall.Fits] at hfit
        omega
    obtain ⟨ret, hanswer⟩ := productCtrlExRead_missed build store hwhole hnonneg hsafe.scratch hmiss
    have hstep := miscExStep_answer build store hwhole hacc hsub hanswer hroom
    refine ⟨_, hstep, ?_, fun h => absurd h hnowrite, fun _ _ => rfl⟩
    rintro ⟨-, -, ⟨hoff, -, hle⟩, -⟩
    have hzero : c.dataLen.toNat = 0 := by
      obtain ⟨-, hneg | hend⟩ := hmiss <;> omega
    refine ⟨rfl, ret, fun hpos => by omega, ?_⟩
    rw [hzero]
    rfl
  · obtain ⟨hfit, hin⟩ := hsafe.reply.resolve_left fun h => hmiss h.1
    obtain ⟨ret, bytes, hanswer, hret, hlen, hbytes⟩ :=
      productCtrlExRead_bytes build store hwhole hnonneg hsafe.scratch hmiss hin
    have hroom : msgHeadLen + 2 * 4 + bytes.length + 2 ≤ c.rsp.size := by
      rw [MiscExCall.Fits] at hfit
      omega
    have hstep := miscExStep_answer build store hwhole hacc hsub hanswer hroom
    refine ⟨_, hstep, ?_, fun h => absurd h hnowrite, fun _ _ => rfl⟩
    rintro ⟨-, -, hrange, -⟩
    refine ⟨rfl, ret, fun hpos => hret (by omega), ?_⟩
    rw [hbytes hrange]

lemma miscExStep_read_leaves (hwhole : c.Whole) (hacc : c.Accepted) (hsub : c.subtype = 0x12)
    (hrisky : ¬MiscExReadSafe build c) : ∃ e, miscExStep build store c = .error e := by
  have hhead : msgHeadLen + 2 * 4 = 16 := rfl
  by_cases hlen : c.dataLen < 0 ∨ 2 ^ 31 ≤ c.dataLen + (msgHeadLen + 2 * 4 : Nat)
  · obtain ⟨e, he⟩ := productCtrlExRead_error build store hwhole hlen
    rw [miscExStep_read build store hwhole hacc hsub, he]
    exact ⟨e, rfl⟩
  · have hnonneg : 0 ≤ c.dataLen := by omega
    have hscratch : c.dataLen + (msgHeadLen + 2 * 4 : Nat) < 2 ^ 31 := by omega
    by_cases hmiss : build.Misses c.offset
    · obtain ⟨ret, hanswer⟩ := productCtrlExRead_missed build store hwhole hnonneg hscratch hmiss
      apply miscExStep_no_room build store hwhole hacc hsub hanswer
      exact fun hroom => hrisky ⟨hnonneg, hscratch, .inl ⟨hmiss, hroom⟩⟩
    · by_cases hin : InsideBuff build c.offset c.dataLen.toNat
      · obtain ⟨ret, bytes, hanswer, -, hlen, -⟩ :=
          productCtrlExRead_bytes build store hwhole hnonneg hscratch hmiss hin
        apply miscExStep_no_room build store hwhole hacc hsub hanswer
        intro hroom
        apply hrisky
        refine ⟨hnonneg, hscratch, .inr ⟨?_, hin⟩⟩
        rw [MiscExCall.Fits]
        omega
      · cases build with
        | nand =>
          obtain ⟨e, he⟩ := nand_read_error store hin
          rw [miscExStep_read .nand store hwhole hacc hsub,
            productCtrlExRead_read_error .nand store hwhole hnonneg hscratch he]
          exact ⟨e, rfl⟩
        | block partition => exact absurd (.inl MiscBuild.noConfusion) hin

lemma miscExStep_write_served (hwhole : c.Whole) (hacc : c.Accepted) (hsub : c.subtype = 0x13)
    (hsafe : MiscExWriteSafe build store c) :
    ∃ r, miscExStep build store c = .ok r ∧ MiscExServed build store c r := by
  have hnoread := not_goodRead_of_write build hsub
  by_cases hnothing : c.dataLen = 0 ∨ build.Misses c.offset
  · obtain ⟨status, hwrite⟩ := hnothing.elim (productCtrlExWrite_nothing build store)
      (productCtrlExWrite_missed build store hsafe.nonneg)
    obtain ⟨reply, hstep⟩ := miscExStep_written build store hwhole hacc hsub hwrite hsafe.reply
    refine ⟨_, hstep, fun h => absurd h hnoread, ?_, fun _ _ => rfl⟩
    rintro ⟨-, -, ⟨hoff, hnonneg, hle⟩, -⟩
    have hzero : c.dataLen = 0 := by
      rcases hnothing with hzero | ⟨-, hneg | hend⟩
      · exact hzero
      all_goals omega
    have hdata : c.data = [] := by
      rw [MiscExCall.data, hzero]
      rfl
    rw [hdata, fill_nil]
  · obtain ⟨hoff, hcarries, hin, hlands⟩ :=
      (hsafe.data.resolve_left fun h => hnothing (.inl h)).resolve_left
        fun h => hnothing (.inr h)
    have hpos : 0 < c.dataLen := by
      have hnonneg := hsafe.nonneg
      omega
    obtain ⟨reply, hstep⟩ := miscExStep_written build store hwhole hacc hsub
      (productCtrlExWrite_landed build store hpos hoff (fun h => hnothing (.inr h)) hcarries hin)
      hsafe.reply
    refine ⟨_, hstep, fun h => absurd h hnoread, ?_, ?_⟩
    · rintro ⟨-, -, ⟨-, -, hle⟩, -⟩
      apply landed_inside
      rw [c.length_data]
      omega
    · intro _ hbad
      rcases hlands with ⟨hfit, hrange⟩ | hthere
      · exact absurd ⟨hcarries, hfit, hrange, hsub⟩ hbad
      · apply (landed_eq_iff build store _ _).mpr
        intro i hi hlimit
        rw [c.length_data] at hi
        exact (hthere i hi hlimit).trans (getElem_load _ _ _ _ _).symm

lemma miscExWriteSafe_of_served (hwhole : c.Whole) (hacc : c.Accepted) (hsub : c.subtype = 0x13)
    {r : Buffer UInt8 × List UInt8} (hstep : miscExStep build store c = .ok r)
    (hserved : MiscExServed build store c r) : MiscExWriteSafe build store c := by
  have hrun : ¬((∃ e, productCtrlExWrite build .fine .fine store c = .error e) ∨
      ¬msgHeadLen + 2 ≤ c.rsp.size) := by
    intro h
    obtain ⟨e, he⟩ := miscExStep_write_error build store hwhole hacc hsub h
    rw [hstep] at he
    cases he
  have hnonneg : 0 ≤ c.dataLen := not_lt.mp fun hneg =>
    hrun (.inl (productCtrlExWrite_neg build store hneg))
  have hroom : msgHeadLen + 2 ≤ c.rsp.size := not_not.mp fun h => hrun (.inr h)
  refine ⟨hnonneg, hroom, ?_⟩
  by_cases hzero : c.dataLen = 0
  · exact .inl hzero
  · by_cases hmiss : build.Misses c.offset
    · exact .inr (.inl hmiss)
    · have hpos : 0 < c.dataLen := by omega
      have hin : 0 ≤ c.offset ∧ c.Carries ∧ InsideBuff build c.offset c.dataLen.toNat :=
        not_not.mp fun h => hrun (.inl (productCtrlExWrite_error build store hpos hmiss h))
      obtain ⟨hoff, hcarries, hin⟩ := hin
      refine .inr (.inr ⟨hoff, hcarries, hin, ?_⟩)
      by_cases hgood : c.Fits ∧ c.InRange build
      · exact .inl hgood
      · obtain ⟨reply, hstep'⟩ := miscExStep_written build store hwhole hacc hsub
          (productCtrlExWrite_landed build store hpos hoff hmiss hcarries hin) hroom
        rw [hstep] at hstep'
        cases hstep'
        have hsame := hserved.other (not_goodRead_of_write build hsub) fun h =>
          hgood ⟨h.2.1, h.2.2.1⟩
        right
        intro i hi hlimit
        have hcell := (landed_eq_iff build store _ _).mp hsame i (by rwa [c.length_data]) hlimit
        exact hcell.trans (getElem_load _ _ _ _ _)

theorem miscExSafe_iff (c : MiscExCall) :
    MiscExSafe build store c ↔
      ∃ r, miscExStep build store c = .ok r ∧ MiscExServed build store c r := by
  by_cases hwhole : c.Whole
  · by_cases hignored : ¬c.Accepted ∨ c.subtype ≠ 0x12 ∧ c.subtype ≠ 0x13
    · rw [miscExStep_ignored build store hwhole hignored]
      have hread : c.Accepted → c.subtype ≠ 0x12 := fun hacc =>
        hignored.elim (fun h => absurd hacc h) fun h => h.1
      have hwrite : c.Accepted → c.subtype ≠ 0x13 := fun hacc =>
        hignored.elim (fun h => absurd hacc h) fun h => h.2
      exact iff_of_true
        ⟨hwhole, fun hacc h => absurd h (hread hacc), fun hacc h => absurd h (hwrite hacc)⟩
        ⟨_, rfl, fun h => absurd h.2.2.2 (hread h.2.1.accepted),
          fun h => absurd h.2.2.2 (hwrite h.2.1.accepted), fun _ _ => rfl⟩
    · rw [not_or, not_not] at hignored
      obtain ⟨hacc, hother⟩ := hignored
      by_cases hsub : c.subtype = 0x12
      · constructor
        · exact fun h => miscExStep_read_served build store hwhole hacc hsub (h.read hacc hsub)
        · rintro ⟨r, hstep, -⟩
          refine ⟨hwhole, fun _ _ => not_not.mp fun hrisky => ?_, fun _ h => ?_⟩
          · obtain ⟨e, he⟩ := miscExStep_read_leaves build store hwhole hacc hsub hrisky
            rw [hstep] at he
            cases he
          · rw [hsub] at h
            exact absurd h (by decide)
      · have hsub' : c.subtype = 0x13 := not_not.mp fun h => hother ⟨hsub, h⟩
        constructor
        · exact fun h => miscExStep_write_served build store hwhole hacc hsub' (h.write hacc hsub')
        · rintro ⟨r, hstep, hserved⟩
          exact ⟨hwhole, fun _ h => absurd h hsub,
            fun _ _ => miscExWriteSafe_of_served build store hwhole hacc hsub' hstep hserved⟩
  · obtain ⟨e, he⟩ := miscExStep_short build store hwhole
    constructor
    · exact fun h => absurd h.whole hwhole
    · rintro ⟨r, hstep, -⟩
      rw [he] at hstep
      cases hstep

end Step

/-- A run serves every request exactly when each of them meets the condition where it comes up. -/
theorem miscdata_ex_served_iff (build : MiscBuild) (store : Buffer UInt8) (l : List MiscExCall) :
    Machine.Meets (miscExStep build) (MiscExServed build) store l ↔
      Machine.Guarded (miscExStep build) (MiscExSafe build) store l :=
  Machine.meets_iff_guarded (fun s c => miscExSafe_iff build s c) store l

/-- A read of -1 bytes at offset 0. -/
def miscReadMinusOne : MiscExCall where
  buf := ⟨Buffer.fill (fun _ => 0) 0
    [0x7e, 0, 0, 0, 0, 0x10, 0, 0x0d, 0x12, 0, 0, 0, 0, 0xff, 0xff, 0xff, 0xff, 0x7e], 18⟩
  rsp := ⟨fun _ => 0, 64⟩
  rsplen_int := by decide

/-- The comparison lets it pass, and the header does not fit into 15 bytes. -/
theorem miscdata_ex_header_overflow :
    ¬Machine.Meets (miscExStep (.block leastPartition)) (MiscExServed (.block leastPartition))
      (fun _ => 0) [miscReadMinusOne] := by
  rw [Machine.meets_iff_guarded fun s c => miscExSafe_iff (.block leastPartition) s c]
  rintro ⟨h, -⟩
  have hsafe := h.read (by unfold MiscExCall.Accepted; decide) (by decide)
  exact absurd hsafe.nonneg (by decide)

end EngPc
