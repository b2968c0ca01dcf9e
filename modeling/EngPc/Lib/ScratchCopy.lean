import Mathlib.Tactic.Common

/-!
# Writing a part of a shared block through a copy

A block is shared by two parties. One owns a part of it, but can only write the whole: it sets its
part in a copy of its own and writes the copy. The other party replaces the block. `kept_write_iff`:
a write keeps what is outside the part exactly where the copy is fresh there.
-/

namespace ScratchCopy

/-- A part of a block: `put` sets it, `rest` is what lies outside. -/
structure Part (β ω ρ : Type*) where
  put : ω → β → β
  rest : β → ρ
  rest_put : ∀ o b, rest (put o b) = rest b

/-- The block, the copy, and the block that the other party wrote last. -/
structure Shared (β : Type*) where
  store : β
  copy : β
  given : Option β

inductive Op (β ω : Type*)
  | idle
  | refresh
  | write (o : ω)
  | replace (b : β)

section Ops

variable {β ω ρ : Type*} (P : Part β ω ρ)

def Shared.next (s : Shared β) : Op β ω → Shared β
  | .idle => s
  | .refresh => { s with copy := s.store }
  | .write o => { s with store := P.put o s.copy, copy := P.put o s.copy }
  | .replace b => { s with store := b, given := some b }

/-- The copy is up to date outside the part. -/
def Fresh (s : Shared β) : Prop := P.rest s.copy = P.rest s.store

/-- The block outside the part is what the other party wrote last. -/
def Current (s : Shared β) : Prop := ∀ b ∈ s.given, P.rest s.store = P.rest b

/-- From `s` to `s'` the block outside the part is as it was, and as the other party wrote it. -/
def Kept (s s' : Shared β) : Prop :=
  P.rest s'.store = P.rest s.store ∧ ∀ b ∈ s.given, P.rest s'.store = P.rest b

/-- A write is to be made with a fresh copy. -/
def Ok (s : Shared β) : Op β ω → Prop
  | .write _ => Fresh P s
  | _ => True

variable {P} {s : Shared β}

lemma rest_write (o : ω) : P.rest (s.next P (.write o)).store = P.rest s.copy := P.rest_put o s.copy

lemma current_next (h : Current P s) {op : Op β ω} (hok : Ok P s op) :
    Current P (s.next P op) := by
  cases op with
  | idle => exact h
  | refresh => exact h
  | write o =>
    intro b hb
    rw [rest_write, show P.rest s.copy = P.rest s.store from hok]
    exact h b hb
  | replace b =>
    intro b' hb'
    obtain rfl : b = b' := Option.some.inj hb'
    rfl

theorem kept_write_iff (h : Current P s) (o : ω) : Kept P s (s.next P (.write o)) ↔ Fresh P s := by
  rw [Kept, rest_write]
  constructor
  · exact And.left
  · intro hfresh
    refine ⟨hfresh, fun b hb => ?_⟩
    rw [show P.rest s.copy = P.rest s.store from hfresh]
    exact h b hb

end Ops

end ScratchCopy
