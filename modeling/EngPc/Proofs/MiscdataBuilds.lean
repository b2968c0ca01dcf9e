import EngPc.Proofs.Miscdata

/-!
# The two builds of the miscdata partition

Inside the volume both builds are one store: a read gives the slice at its offset and a write
replaces it. The whole volume that the NAND build writes back is the old one outside the slice.
-/

namespace EngPc
open Buffer

inductive MiscOp
  | read (dataLen : Nat)
  | write (databuf : List UInt8)
  deriving DecidableEq, Repr

def MiscOp.dataLen : MiscOp → Nat
  | .read dataLen => dataLen
  | .write databuf => databuf.length

/-- An access to a slice of the volume that is not empty. -/
structure MiscAccess where
  offset : Nat
  op : MiscOp
  nonempty : 1 ≤ op.dataLen
  inside : offset + op.dataLen ≤ getFileSize

/-- One access to one of the builds: the partition, the returned code and the bytes delivered. -/
def miscAccessStep (build : MiscBuild) (store : Buffer UInt8) (a : MiscAccess) :
    Except OutOfBounds (Buffer UInt8 × Int × List UInt8) :=
  match a.op with
  | .read dataLen => do
    let r ← engReadMiscdataWithOffset .fine store build a.offset dataLen
    return (store, r.1, r.2)
  | .write databuf => do
    let r ← engWriteMiscdataWithOffset .fine store build a.offset databuf
    return (r.2, r.1, [])

/-- What both are: a store of bytes that is read and written by slices. -/
def sliceStep (store : Buffer UInt8) (a : MiscAccess) : Buffer UInt8 × Int × List UInt8 :=
  match a.op with
  | .read dataLen => (store, 0, store.load a.offset dataLen)
  | .write databuf => (store.fill a.offset databuf, 0, [])

lemma miscAccessStep_eq (build : MiscBuild) :
    miscAccessStep build = fun store a => .ok (sliceStep store a) := by
  funext store a
  obtain ⟨offset, op, hne, hin⟩ := a
  cases op with
  | read dataLen =>
    obtain ⟨ret, hret, hread⟩ := engReadMiscdataWithOffset_fine build store
      (show offset + dataLen ≤ getFileSize from hin)
    rw [hret hne] at hread
    simp only [miscAccessStep, sliceStep]
    rw [hread, Except.ok_bind]
    rfl
  | write databuf =>
    obtain ⟨ret, hret, hwrite⟩ := engWriteMiscdataWithOffset_fine build store offset databuf hin
    rw [hret hne] at hwrite
    simp only [miscAccessStep, sliceStep]
    rw [hwrite, Except.ok_bind]
    rfl

/-- Every run gives the same codes, bytes and content in both builds, and none of it fails. -/
theorem miscdata_builds_agree (partition : Partition) (store : Buffer UInt8)
    (l : List MiscAccess) :
    ∃ r, Machine.run (miscAccessStep .nand) store l = .ok r ∧
      Machine.run (miscAccessStep (.block partition)) store l = .ok r := by
  have htotal : ∀ s a, ∃ r, miscAccessStep .nand s a = .ok r := by
    intro s a
    rw [miscAccessStep_eq]
    exact ⟨_, rfl⟩
  obtain ⟨r, hrun⟩ := Machine.run_total htotal store l
  refine ⟨r, hrun, ?_⟩
  rwa [miscAccessStep_eq (.block partition), ← miscAccessStep_eq .nand]

end EngPc
