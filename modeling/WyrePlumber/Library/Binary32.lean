import WyrePlumber.Library.Binary64

/-!
# IEEE 754 binary32

Single-precision words as `struct` unpacks them into a Python `float`.
-/

set_option autoImplicit false

namespace Binary32

def fraction (word : Nat) : Nat := word % 2 ^ 23

def exponent (word : Nat) : Nat := word / 2 ^ 23 % 2 ^ 8

def negative (word : Nat) : Bool := 2 ^ 31 ≤ word

def isFinite (word : Nat) : Bool := exponent word < 255

/-- The magnitude of the double with the value of a single; a NaN keeps its
payload and is quiet. -/
def magnitude (word : Nat) : Nat :=
  if exponent word = 255 then
    if fraction word = 0 then Binary64.infinityMagnitude
    else Binary64.infinityMagnitude + (fraction word * 2 ^ 29 ||| 2 ^ 51)
  else if exponent word = 0 then Binary64.roundedMagnitude (fraction word * 2 ^ 925)
  else (exponent word + 896) * 2 ^ 52 + fraction word * 2 ^ 29

/-- `struct.unpack("<f", …)` of the bytes of a word. -/
def unpack (word : Nat) : Binary64 := Binary64.ofMagnitude (negative word) (magnitude word)

/-- The word whose magnitude is nearest to a finite double; a significand that rounds
up to the next power of two carries into the exponent. -/
def roundedWord (units : Nat) : Nat :=
  let shift := Nat.log 2 units - 948
  shift * 2 ^ 23 + Binary64.divideHalfEven units (2 ^ (925 + shift))

def infinityWord : Nat := 255 * 2 ^ 23

/-- `struct.pack("<f", number)` as a word; none where Python raises `OverflowError`. -/
def pack? (number : Binary64) : Option Nat :=
  let sign := if number.negative then 2 ^ 31 else 0
  if number.isNaN then some (sign + infinityWord + (number.fraction / 2 ^ 29 ||| 2 ^ 22))
  else if number.isFinite then
    let word := roundedWord number.units.natAbs
    if word < infinityWord then some (sign + word) else none
  else some (sign + infinityWord)

example : (unpack 0x3DCCCCCD).word = 0x3FB99999A0000000#64 := by decide +kernel

example : (unpack 0x80000001).word = 0xB6A0000000000000#64 := by decide +kernel

example : pack? (unpack 0x80000001) = some 0x80000001 := by decide +kernel

example : pack? ⟨0x47EFFFFFF0000000⟩ = none := by decide +kernel

end Binary32
