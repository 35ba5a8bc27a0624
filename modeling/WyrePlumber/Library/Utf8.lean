import WyrePlumber.Library.Bytes
import WyrePlumber.Library.Python

/-!
# UTF-8

`str.encode("utf-8")` and `bytes.decode("utf-8", errors="replace")`.  The decoder
reads one octet at a time and knows which octets may continue the sequence it is
in; an octet that may not ends the sequence with a replacement character.
-/

set_option autoImplicit false

namespace Utf8

open Python (PyString isSurrogate)

section Encoding

/-- A code point that UTF-8 can write. -/
def IsScalar (codePoint : Nat) : Prop :=
  codePoint < 0x110000 ∧ ¬ (0xD800 ≤ codePoint ∧ codePoint ≤ 0xDFFF)

instance (codePoint : Nat) : Decidable (IsScalar codePoint) :=
  inferInstanceAs (Decidable (_ ∧ _))

def encodeCodePoint (codePoint : Nat) : List Nat :=
  if codePoint < 0x80 then [codePoint]
  else if codePoint < 0x800 then [0xC0 + codePoint / 64, 0x80 + codePoint % 64]
  else if codePoint < 0x10000 then
    [0xE0 + codePoint / 4096, 0x80 + codePoint / 64 % 64, 0x80 + codePoint % 64]
  else
    [0xF0 + codePoint / 262144, 0x80 + codePoint / 4096 % 64, 0x80 + codePoint / 64 % 64,
      0x80 + codePoint % 64]

/-- `string.encode("utf-8")`; none where Python raises `UnicodeEncodeError`. -/
def encode? (string : PyString) : Option Bytes :=
  if ∀ codePoint ∈ string, IsScalar codePoint then
    some ((string.flatMap encodeCodePoint).map UInt8.ofNat)
  else none

end Encoding

section Decoding

/-- An unfinished sequence: the octets still owed, the bounds of the next one and
the bits read so far. -/
structure Pending where
  owed : Nat
  low : Nat
  high : Nat
  bits : Nat

def replacement : Nat := 0xFFFD

/-- The first octet of a sequence: what it writes and the sequence it opens. -/
def openSequence (octet : Nat) : PyString × Option Pending :=
  if octet < 0x80 then ([octet], none)
  else if octet < 0xC2 then ([replacement], none)
  else if octet < 0xE0 then ([], some ⟨1, 0x80, 0xBF, octet - 0xC0⟩)
  else if octet = 0xE0 then ([], some ⟨2, 0xA0, 0xBF, 0⟩)
  else if octet = 0xED then ([], some ⟨2, 0x80, 0x9F, 13⟩)
  else if octet < 0xF0 then ([], some ⟨2, 0x80, 0xBF, octet - 0xE0⟩)
  else if octet = 0xF0 then ([], some ⟨3, 0x90, 0xBF, 0⟩)
  else if octet < 0xF4 then ([], some ⟨3, 0x80, 0xBF, octet - 0xF0⟩)
  else if octet = 0xF4 then ([], some ⟨3, 0x80, 0x8F, 4⟩)
  else ([replacement], none)

def readOctet (pending : Option Pending) (octet : Nat) : PyString × Option Pending :=
  match pending with
  | none => openSequence octet
  | some sequence =>
      if sequence.low ≤ octet ∧ octet ≤ sequence.high then
        let bits := sequence.bits * 64 + (octet - 0x80)
        if sequence.owed = 1 then ([bits], none)
        else ([], some ⟨sequence.owed - 1, 0x80, 0xBF, bits⟩)
      else (replacement :: (openSequence octet).1, (openSequence octet).2)

def decodeFrom : Option Pending → List Nat → PyString
  | none, [] => []
  | some _, [] => [replacement]
  | pending, octet :: rest =>
      (readOctet pending octet).1 ++ decodeFrom (readOctet pending octet).2 rest

/-- `data.decode("utf-8", errors="replace")`. -/
def decodeReplace (data : Bytes) : PyString := decodeFrom none (data.map UInt8.toNat)

example : decodeReplace [0x41, 0xE2, 0x82, 0x41, 0xFF] = [0x41, 0xFFFD, 0x41, 0xFFFD] := by decide

end Decoding

end Utf8
