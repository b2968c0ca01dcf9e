import Mathlib.Data.Nat.Basic
import Mathlib.Tactic.Common

/-!
# The layout of C structures

A member starts at the next multiple of its alignment, and a structure ends at the next multiple of
the largest alignment in it.
-/

namespace CLayout

/-- A scalar is aligned to its size, a power of two. -/
inductive CType
  | scalar (size : Nat)
  | array (elem : CType) (n : Nat)
  | struct (fields : List CType)

def alignUp (off align : Nat) : Nat := (off + (align - 1)) / align * align

mutual

def CType.align : CType → Nat
  | .scalar size => size
  | .array elem _ => elem.align
  | .struct fields => alignMax fields

def alignMax : List CType → Nat
  | [] => 1
  | t :: fields => max t.align (alignMax fields)

end

mutual

/-- `sizeof`. -/
def CType.size : CType → Nat
  | .scalar size => size
  | .array elem n => n * elem.size
  | .struct fields => alignUp (endOf 0 fields) (alignMax fields)

/-- Where the members end that are placed from `off` on. -/
def endOf (off : Nat) : List CType → Nat
  | [] => off
  | t :: fields => endOf (alignUp off t.align + t.size) fields

end

/-- `offsetof` of each of the members placed from `off` on. -/
def offsets (off : Nat) : List CType → List Nat
  | [] => []
  | t :: fields => alignUp off t.align :: offsets (alignUp off t.align + t.size) fields

end CLayout
