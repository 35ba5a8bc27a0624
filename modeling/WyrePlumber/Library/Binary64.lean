import Mathlib.Algebra.Group.Int.Defs
import Mathlib.Algebra.Group.Nat.Defs
import Mathlib.Data.Nat.Log

/-!
# IEEE 754 binary64

Double-precision words with what Python's `float` does on them: conversion from
integers, difference, absolute value and the comparisons.  A finite word is a
whole number of units of 2 to the power -1074.
-/

set_option autoImplicit false

/-- A double by its 64 bits. -/
structure Binary64 where
  word : BitVec 64
  deriving DecidableEq

namespace Binary64

section Fields

def fraction (number : Binary64) : Nat := number.word.toNat % 2 ^ 52

def exponent (number : Binary64) : Nat := number.word.toNat / 2 ^ 52 % 2 ^ 11

def negative (number : Binary64) : Bool := 2 ^ 63 ≤ number.word.toNat

/-- The word without its sign. -/
def magnitude (number : Binary64) : Nat := number.word.toNat % 2 ^ 63

def isFinite (number : Binary64) : Bool := number.exponent < 2047

def isNaN (number : Binary64) : Bool := 2047 * 2 ^ 52 < number.magnitude

/-- The value of a finite word in units of 2 to the power -1074. -/
def units (number : Binary64) : Int :=
  let size : Nat :=
    if number.exponent = 0 then number.fraction
    else (2 ^ 52 + number.fraction) * 2 ^ (number.exponent - 1)
  if number.negative then -size else size

def infinityMagnitude : Nat := 2047 * 2 ^ 52

def ofMagnitude (negative : Bool) (magnitude : Nat) : Binary64 :=
  ⟨BitVec.ofNat 64 ((if negative then 2 ^ 63 else 0) + magnitude)⟩

def quietNaN : Binary64 := ofMagnitude false (infinityMagnitude + 2 ^ 51)

end Fields

section Rounding

/-- The quotient rounded to the nearest integer, ties to even. -/
def divideHalfEven (dividend divisor : Nat) : Nat :=
  let quotient := dividend / divisor
  let remainder := dividend % divisor
  if divisor < 2 * remainder ∨ divisor = 2 * remainder ∧ quotient % 2 = 1 then quotient + 1
  else quotient

/-- The magnitude of the double nearest to `size` units.  A significand that
rounds up to the next power of two carries into the exponent. -/
def roundedMagnitude (size : Nat) : Nat :=
  let shift := Nat.log 2 size - 52
  shift * 2 ^ 52 + divideHalfEven size (2 ^ shift)

/-- The magnitude of the double nearest to a quotient of units. -/
def roundedQuotient (dividend divisor : Nat) : Nat :=
  let shift := Nat.log 2 (dividend / divisor) - 52
  shift * 2 ^ 52 + divideHalfEven dividend (divisor * 2 ^ shift)

/-- The double nearest to a number of units; none when it is out of range. -/
def ofUnits? (units : Int) : Option Binary64 :=
  let magnitude := roundedMagnitude units.natAbs
  if magnitude < infinityMagnitude then some (ofMagnitude (units < 0) magnitude) else none

/-- `float(int)`; none where Python raises `OverflowError`. -/
def ofInt? (integer : Int) : Option Binary64 := ofUnits? (integer * 2 ^ 1074)

/-- Subtraction, rounded to nearest. -/
def sub (left right : Binary64) : Binary64 :=
  if left.isNaN ∨ right.isNaN then quietNaN
  else if left.isFinite then
    if right.isFinite then
      if left.units = right.units then
        ofMagnitude (left.negative && !right.negative && left.magnitude = 0) 0
      else
        (ofUnits? (left.units - right.units)).getD
          (ofMagnitude (left.units < right.units) infinityMagnitude)
    else ofMagnitude (!right.negative) infinityMagnitude
  else if right.isFinite ∨ left.negative ≠ right.negative then left
  else quietNaN

/-- The double with the value of `number` rounded to single precision; none when
it is out of the range of single precision. -/
def toSingle? (number : Binary64) : Option Binary64 :=
  if number.isFinite then
    -- a single is a whole number of units of 2 to the power -149
    let shift := max (Nat.log 2 number.units.natAbs - 23) 925
    let rounded := divideHalfEven number.units.natAbs (2 ^ shift) * 2 ^ shift
    if rounded < 2 ^ 1202 then some (ofMagnitude number.negative (roundedMagnitude rounded))
    else none
  else some number

def abs (number : Binary64) : Binary64 := ofMagnitude false number.magnitude

end Rounding

section Comparison

/-- Words other than NaN are ordered as these integers are. -/
def key (number : Binary64) : Int :=
  if number.negative then -number.magnitude else number.magnitude

def le (left right : Binary64) : Bool :=
  !left.isNaN && !right.isNaN && decide (left.key ≤ right.key)

def lt (left right : Binary64) : Bool :=
  !left.isNaN && !right.isNaN && decide (left.key < right.key)

def eq (left right : Binary64) : Bool :=
  !left.isNaN && !right.isNaN && decide (left.key = right.key)

/-- Comparison of a double with an integer is exact. -/
def eqInt (number : Binary64) (integer : Int) : Bool :=
  number.isFinite && decide (number.units = integer * 2 ^ 1074)

def zero : Binary64 := ⟨0⟩

theorem not_isNaN_of_isFinite {number : Binary64} (finite : number.isFinite = true) :
    number.isNaN = false := by
  have small : number.word.toNat / 2 ^ 52 % 2 ^ 11 < 2047 := of_decide_eq_true finite
  refine decide_eq_false ?_
  rw [magnitude]
  omega

theorem eq_self {number : Binary64} (finite : number.isFinite = true) :
    number.eq number = true := by
  simp [eq, not_isNaN_of_isFinite finite]

example : (toSingle? ⟨0x3FD3333333333333⟩).map word = some 0x3FD3333340000000#64 := by
  decide +kernel

example : (ofInt? 1).map word = some 0x3FF0000000000000#64 := by decide +kernel

end Comparison

end Binary64
