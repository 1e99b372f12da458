import Mathlib.Data.List.Basic
import Mathlib.Data.List.Induction
import Mathlib.Algebra.Ring.Nat

/-! # Big-endian numbers of a fixed width -/

namespace BigEndian

open List

/-- The `w` big-endian bytes of a number; higher bytes are cut off. -/
def toBytes : Nat → Nat → List UInt8
  | 0, _ => []
  | w + 1, n => toBytes w (n / 256) ++ [UInt8.ofNat n]

/-- The number big-endian bytes stand for. -/
def ofBytes (b : List UInt8) : Nat := b.foldl (fun n x => n * 256 + x.toNat) 0

/-- A field is as wide as it was asked to be. -/
@[simp] theorem toBytes_length (w n : Nat) : (toBytes w n).length = w := by
  induction w generalizing n with
  | zero => rfl
  | succ w ih => simp [toBytes, ih]

/-- The last byte is the lowest digit. -/
theorem ofBytes_append_singleton (b : List UInt8) (x : UInt8) : ofBytes (b ++ [x]) = ofBytes b * 256 + x.toNat := by
  simp [ofBytes]

/-- Reading the bytes of a number back gives the number modulo the width. -/
theorem ofBytes_toBytes (w n : Nat) : ofBytes (toBytes w n) = n % 256 ^ w := by
  induction w generalizing n with
  | zero => simp [toBytes, ofBytes, Nat.mod_one]
  | succ w ih =>
    have hx : (UInt8.ofNat n).toNat = n % 256 := by simp
    rw [toBytes, ofBytes_append_singleton, ih, hx, Nat.pow_succ, Nat.mul_comm (256 ^ w), Nat.mod_mul]
    omega

/-- Writing the number some bytes stand for gives the bytes back. -/
theorem toBytes_ofBytes (b : List UInt8) : toBytes b.length (ofBytes b) = b := by
  induction b using reverseRecOn with
  | nil => rfl
  | append_singleton b x ih =>
    have hx := x.toNat_lt
    have hdiv : ofBytes (b ++ [x]) / 256 = ofBytes b := by
      rw [ofBytes_append_singleton]
      omega
    have hmod : UInt8.ofNat (ofBytes (b ++ [x])) = x := by
      apply UInt8.toNat_inj.mp
      rw [ofBytes_append_singleton, UInt8.toNat_ofNat']
      omega
    rw [length_append, length_singleton, toBytes, hdiv, hmod, ih]

/-- `w` bytes stand for a number below `256 ^ w`. -/
theorem ofBytes_lt (b : List UInt8) : ofBytes b < 256 ^ b.length := by
  have h := ofBytes_toBytes b.length (ofBytes b)
  rw [toBytes_ofBytes] at h
  rw [h]
  exact Nat.mod_lt _ (Nat.pow_pos (by decide))

end BigEndian
