import Mathlib.Data.List.Basic
import Mathlib.Tactic.Ring
import Mathlib.Tactic.Common

/-!
# Little-endian fields

`bytesLE k n` are the `k` lowest bytes of `n`, the lowest one first, and `natLE` reads bytes as a
number again. What does not fit into the field is cut off.
-/

namespace LittleEndian

def bytesLE : Nat → Nat → List UInt8
  | 0, _ => []
  | k + 1, n => UInt8.ofNat n :: bytesLE k (n / 256)

def natLE : List UInt8 → Nat
  | [] => 0
  | b :: l => b.toNat + 256 * natLE l

@[simp] lemma length_bytesLE (k n : Nat) : (bytesLE k n).length = k := by
  induction k generalizing n with
  | zero => rfl
  | succ k ih => rw [bytesLE, List.length_cons, ih]

lemma natLE_lt (l : List UInt8) : natLE l < 256 ^ l.length := by
  induction l with
  | nil => simp [natLE]
  | cons b l ih =>
    have hb := b.toNat_lt
    rw [natLE, List.length_cons, pow_succ]
    omega

theorem natLE_bytesLE (k n : Nat) : natLE (bytesLE k n) = n % 256 ^ k := by
  induction k generalizing n with
  | zero => simp [bytesLE, natLE, Nat.mod_one]
  | succ k ih =>
    have hmod : n % 256 ^ (k + 1) = n % 256 + 256 * (n / 256 % 256 ^ k) := by
      rw [pow_succ, Nat.mul_comm (256 ^ k) 256, Nat.mod_mul]
    rw [bytesLE, natLE, ih, UInt8.toNat_ofNat', hmod]

lemma natLE_bytesLE_of_lt {k n : Nat} (h : n < 256 ^ k) : natLE (bytesLE k n) = n := by
  rw [natLE_bytesLE, Nat.mod_eq_of_lt h]

end LittleEndian
