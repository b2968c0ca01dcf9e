import EngPc.Lib.Buffer

/-!
# Allocated blocks

A `Block` is the memory seen from a pointer together with the number of cells allocated there.
`read` and `write` move a list of cells and fail when one of them lies outside; moving no cell is
allowed anywhere.
-/

/-- An access to `count` cells from `off` on that leaves the block. -/
structure OutOfBounds where
  off : Nat
  count : Nat
  deriving DecidableEq, Repr

@[simp] lemma Except.ok_bind.{u, v} {ε : Type u} {α β : Type v} (a : α) (f : α → Except ε β) :
    (Except.ok a >>= f) = f a := rfl

@[simp] lemma Except.error_bind.{u, v} {ε : Type u} {α β : Type v} (e : ε) (f : α → Except ε β) :
    (Except.error e >>= f) = .error e := rfl

/-- A computation ends with a value that has the property. -/
def Except.Succeeds.{u, v} {ε : Type u} {α : Type v} (P : α → Prop) : Except ε α → Prop
  | .error _ => False
  | .ok a => P a

namespace Except

variable {ε ε' : Type*} {α β : Type*} {P : β → Prop}

@[simp] lemma succeeds_ok (a : β) : (Except.ok a : Except ε β).Succeeds P ↔ P a := Iff.rfl

@[simp] lemma succeeds_error (e : ε) : ¬(Except.error e : Except ε β).Succeeds P := id

lemma succeeds_mapError (f : ε → ε') (r : Except ε β) :
    (r.mapError f).Succeeds P ↔ r.Succeeds P := by
  cases r <;> exact Iff.rfl

instance [DecidablePred P] (r : Except ε β) : Decidable (r.Succeeds P) :=
  match r with
  | .error _ => inferInstanceAs (Decidable False)
  | .ok a => inferInstanceAs (Decidable (P a))

lemma Succeeds.mono {Q : β → Prop} {r : Except ε β} (h : r.Succeeds P) (hPQ : ∀ a, P a → Q a) :
    r.Succeeds Q := by
  cases r with
  | error e => exact h
  | ok a => exact hPQ a h

lemma succeeds_const {p : Prop} {r : Except ε β} :
    r.Succeeds (fun _ => p) ↔ r.Succeeds (fun _ => True) ∧ p := by
  cases r <;> simp

lemma succeeds_iff {r : Except ε β} : r.Succeeds P ↔ ∃ a, r = .ok a ∧ P a := by
  cases r with
  | error e => simp
  | ok a => simp

lemma succeeds_eq_iff {r : Except ε β} {a : β} : r.Succeeds (· = a) ↔ r = .ok a := by
  cases r with
  | error e => simp
  | ok b => simp

end Except

lemma Except.succeeds_bind.{u, v} {ε : Type u} {α β : Type v} {P : β → Prop} (r : Except ε α)
    (f : α → Except ε β) : (r >>= f).Succeeds P ↔ r.Succeeds fun a => (f a).Succeeds P := by
  cases r <;> exact Iff.rfl

structure Block (α : Type*) where
  cells : Buffer α
  size : Nat

namespace Block

variable {α : Type*}

/-- A block with the cells of a list; nothing reads what lies behind it. -/
def ofList (pad : α) (l : List α) : Block α := ⟨Buffer.fill (fun _ => pad) 0 l, l.length⟩

def Holds (b : Block α) (off n : Nat) : Prop := n = 0 ∨ off + n ≤ b.size

instance (b : Block α) (off n : Nat) : Decidable (b.Holds off n) :=
  inferInstanceAs (Decidable (_ ∨ _))

def read (b : Block α) (off n : Nat) : Except OutOfBounds (List α) :=
  if b.Holds off n then .ok (b.cells.load off n) else .error ⟨off, n⟩

def write (b : Block α) (off : Nat) (l : List α) : Except OutOfBounds (Block α) :=
  if b.Holds off l.length then .ok ⟨b.cells.fill off l, b.size⟩ else .error ⟨off, l.length⟩

/-- One cell. -/
def get (b : Block α) (i : Nat) : Except OutOfBounds α :=
  if i < b.size then .ok (b.cells i) else .error ⟨i, 1⟩

def set (b : Block α) (i : Nat) (v : α) : Except OutOfBounds (Block α) :=
  if i < b.size then .ok ⟨b.cells.store i v, b.size⟩ else .error ⟨i, 1⟩

lemma get_mk {cells : Buffer α} {size i : Nat} (h : i < size) :
    (⟨cells, size⟩ : Block α).get i = .ok (cells i) := if_pos h

lemma set_mk {cells : Buffer α} {size i : Nat} {v : α} (h : i < size) :
    (⟨cells, size⟩ : Block α).set i v = .ok ⟨cells.store i v, size⟩ := if_pos h

lemma holds_of_le {b : Block α} {off n : Nat} (h : off + n ≤ b.size) : b.Holds off n := .inr h

lemma read_eq {b : Block α} {off n : Nat} (h : b.Holds off n) :
    b.read off n = .ok (b.cells.load off n) := if_pos h

lemma write_eq {b : Block α} {off : Nat} {l : List α} (h : b.Holds off l.length) :
    b.write off l = .ok ⟨b.cells.fill off l, b.size⟩ := if_pos h

lemma write_ok {b : Block α} {off : Nat} {l : List α} (h : b.Holds off l.length) :
    ∃ b', b.write off l = .ok b' ∧ b'.cells = b.cells.fill off l ∧ b'.size = b.size :=
  ⟨_, write_eq h, rfl, rfl⟩

lemma read_error {b : Block α} {off n : Nat} (h : ¬b.Holds off n) :
    b.read off n = .error ⟨off, n⟩ := if_neg h

lemma write_error {b : Block α} {off : Nat} {l : List α} (h : ¬b.Holds off l.length) :
    b.write off l = .error ⟨off, l.length⟩ := if_neg h

lemma succeeds_read {b : Block α} {off n : Nat} {P : List α → Prop} :
    (b.read off n).Succeeds P ↔ b.Holds off n ∧ P (b.cells.load off n) := by
  unfold read
  split_ifs with h
  · simp [h]
  · simp [h]

lemma succeeds_write {b : Block α} {off : Nat} {l : List α} {P : Block α → Prop} :
    (b.write off l).Succeeds P ↔ b.Holds off l.length ∧ P ⟨b.cells.fill off l, b.size⟩ := by
  unfold write
  split_ifs with h
  · simp [h]
  · simp [h]

end Block
