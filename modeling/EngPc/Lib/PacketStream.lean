import Mathlib.Data.List.Forall2
import Mathlib.Tactic.Common

/-!
# Streams of packets

A reader `next` takes one packet off the front of a stream. Packets that it takes off whatever
follows them can be read back from their concatenation.
-/

namespace PacketStream

variable {α β : Type*} (next : List β → Option (α × List β))

/-- At most `n` packets. -/
def readAll : Nat → List β → Option (List α)
  | _, [] => some []
  | 0, _ :: _ => none
  | n + 1, b :: l =>
    match next (b :: l) with
    | none => none
    | some (a, rest) => (readAll n rest).map fun as => a :: as

/-- Every packet takes at least one place. -/
def read (l : List β) : Option (List α) := readAll next l.length l

/-- The packet `p` reads as `a`, whatever follows. -/
def Reads (p : List β) (a : α) : Prop := p ≠ [] ∧ ∀ rest, next (p ++ rest) = some (a, rest)

variable {next}

lemma readAll_cons {p : List β} {a : α} (h : Reads next p a) (n : Nat) (rest : List β) :
    readAll next (n + 1) (p ++ rest) = (readAll next n rest).map fun as => a :: as := by
  obtain ⟨b, l, rfl⟩ := List.exists_cons_of_ne_nil h.1
  have hnext := h.2 rest
  rw [List.cons_append] at hnext ⊢
  rw [readAll, hnext]

lemma readAll_flatten {ps : List (List β)} {as : List α} (h : List.Forall₂ (Reads next) ps as)
    {n : Nat} (hn : ps.length ≤ n) : readAll next n ps.flatten = some as := by
  induction h generalizing n with
  | nil =>
    rw [List.flatten_nil]
    cases n <;> rfl
  | cons hp _ ih =>
    rw [List.length_cons] at hn
    obtain ⟨k, rfl⟩ : ∃ k, n = k + 1 := ⟨n - 1, by omega⟩
    rw [List.flatten_cons, readAll_cons hp, ih (by omega)]
    rfl

theorem read_flatten {ps : List (List β)} {as : List α} (h : List.Forall₂ (Reads next) ps as) :
    read next ps.flatten = some as := by
  apply readAll_flatten h
  induction h with
  | nil => exact Nat.zero_le _
  | @cons p a ps as hp _ ih =>
    have hpos := List.length_pos_of_ne_nil hp.1
    rw [List.length_cons, List.flatten_cons, List.length_append]
    omega

end PacketStream
