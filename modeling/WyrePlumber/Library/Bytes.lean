import Mathlib.Algebra.Group.Int.Defs
import Mathlib.Algebra.Group.Nat.Defs
import Mathlib.Data.List.Basic

/-!
# Byte strings

Byte strings as lists, with slices, little-endian integers of fixed width and
two's complement.
-/

set_option autoImplicit false

abbrev Bytes := List UInt8

namespace Bytes

section Slices

/-- `data[start:start + size]`. -/
def slice (data : Bytes) (start size : Nat) : Bytes := (data.drop start).take size

variable {data left right : Bytes} {start size : Nat}

theorem length_slice (data : Bytes) (start size : Nat) :
    (slice data start size).length = min size (data.length - start) := by
  rw [slice, List.length_take, List.length_drop]

theorem length_slice_of_le (inside : start + size ≤ data.length) :
    (slice data start size).length = size := by
  rw [length_slice]
  omega

theorem slice_append_left (front tail : Bytes) :
    slice (front ++ tail) 0 front.length = front := by
  simp [slice]

theorem slice_append_right (front tail : Bytes) (start size : Nat) :
    slice (front ++ tail) (front.length + start) size = slice tail start size := by
  have past : front.drop (front.length + start) = [] := List.drop_eq_nil_of_le (by omega)
  rw [slice, slice, List.drop_append, past, List.nil_append, Nat.add_sub_cancel_left]

end Slices

section Integers

/-- The number that little-endian bytes stand for. -/
def toNat : Bytes → Nat
  | [] => 0
  | byte :: rest => byte.toNat + 256 * toNat rest

/-- The `width` low bytes of a number, the lowest first. -/
def ofNat : Nat → Nat → Bytes
  | 0, _ => []
  | width + 1, number => UInt8.ofNat (number % 256) :: ofNat width (number / 256)

@[simp] theorem length_ofNat (width number : Nat) : (ofNat width number).length = width := by
  induction width generalizing number with
  | zero => rfl
  | succ width inductionHypothesis => simp [ofNat, inductionHypothesis]

theorem toNat_lt (bytes : Bytes) : toNat bytes < 256 ^ bytes.length := by
  induction bytes with
  | nil => exact Nat.one_pos
  | cons byte rest inductionHypothesis =>
      have small := byte.toNat_lt
      rw [toNat, List.length_cons, Nat.pow_succ]
      omega

theorem toNat_ofNat {width number : Nat} (small : number < 256 ^ width) :
    toNat (ofNat width number) = number := by
  induction width generalizing number with
  | zero =>
      rw [Nat.pow_zero] at small
      rw [ofNat, toNat]
      omega
  | succ width inductionHypothesis =>
      have quotient : number / 256 < 256 ^ width := by
        rw [Nat.pow_succ] at small
        omega
      have low : (UInt8.ofNat (number % 256)).toNat = number % 256 := by
        rw [UInt8.toNat_ofNat']
        omega
      rw [ofNat, toNat, inductionHypothesis quotient, low]
      omega

theorem ofNat_toNat (bytes : Bytes) : ofNat bytes.length (toNat bytes) = bytes := by
  induction bytes with
  | nil => rfl
  | cons byte rest inductionHypothesis =>
      have small := byte.toNat_lt
      have low : (byte.toNat + 256 * toNat rest) % 256 = byte.toNat := by omega
      have high : (byte.toNat + 256 * toNat rest) / 256 = toNat rest := by omega
      rw [List.length_cons, toNat, ofNat, low, high, inductionHypothesis, UInt8.ofNat_toNat]

/-- The number in the `width` bytes at `start`; none past the end of the data. -/
def readNat (data : Bytes) (start width : Nat) : Option Nat :=
  if start + width ≤ data.length then some (toNat (slice data start width)) else none

theorem readNat_lt {data : Bytes} {start width number : Nat}
    (read : readNat data start width = some number) : number < 256 ^ width := by
  rw [readNat] at read
  split at read
  · rename_i inside
    have bound := toNat_lt (slice data start width)
    rw [length_slice_of_le inside, Option.some.inj read] at bound
    exact bound
  · cases read

/-- Two's complement of a number below `2 ^ bits`. -/
def signed (bits number : Nat) : Int :=
  if number < 2 ^ (bits - 1) then number else number - 2 ^ bits

/-- The number below `2 ^ bits` that stands for an integer; none out of range. -/
def unsigned? (bits : Nat) (value : Int) : Option Nat :=
  if -2 ^ (bits - 1) ≤ value ∧ value < 2 ^ (bits - 1) then some (value % 2 ^ bits).toNat else none

end Integers

end Bytes
