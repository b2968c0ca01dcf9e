import EngPc.Lib.PacketStream
import EngPc.Lib.Stuffing

/-!
# Streams of flagged frames

A packet goes out between two flags, with its special symbols escaped. No flag is left inside, so a
receiver that reads from flag to flag gets the packets of a stream back.
-/

namespace Stuffing

variable {α : Type*} [DecidableEq α] (S : Stuffing α) (flag : α)

def frame (p : List α) : List α := flag :: S.stuff p ++ [flag]

/-- The receiver: what stands between the first two flags, and what comes behind them. -/
def nextFrame : List α → Option (List α × List α)
  | [] => none
  | a :: l =>
    if a = flag ∧ flag ∈ l then
      some (S.unstuff (l.takeWhile (· ≠ flag)), (l.dropWhile (· ≠ flag)).tail)
    else none

variable {flag}

lemma nextFrame_reads (hflag : S.special flag) (hne : flag ≠ S.esc) (p : List α) :
    PacketStream.Reads (S.nextFrame flag) (S.frame flag p) p := by
  refine ⟨List.cons_ne_nil _ _, fun rest => ?_⟩
  have hno : ∀ a ∈ S.stuff p, decide (a ≠ flag) = true := by
    intro a ha
    have hnot := S.not_mem_stuff hflag hne p
    exact decide_eq_true fun h => hnot (h ▸ ha)
  have htake : (S.stuff p ++ flag :: rest).takeWhile (· ≠ flag) = S.stuff p := by
    rw [List.takeWhile_append_of_pos hno]
    simp
  have hdrop : (S.stuff p ++ flag :: rest).dropWhile (· ≠ flag) = flag :: rest := by
    rw [List.dropWhile_append_of_pos hno]
    simp
  have hsplit : S.frame flag p ++ rest = flag :: (S.stuff p ++ flag :: rest) := by
    simp [frame]
  rw [hsplit, nextFrame, if_pos ⟨rfl, by simp⟩, htake, hdrop, S.unstuff_stuff, List.tail_cons]

/-- What the receiver gets of a stream of frames. -/
theorem read_frames (hflag : S.special flag) (hne : flag ≠ S.esc) (ps : List (List α)) :
    PacketStream.read (S.nextFrame flag) (ps.map (S.frame flag)).flatten = some ps := by
  apply PacketStream.read_flatten
  rw [List.forall₂_map_left_iff]
  exact List.forall₂_same.mpr fun p _ => S.nextFrame_reads hflag hne p

end Stuffing
