import WyrePlumber.Library.Bytes
import WyrePlumber.Library.Python

/-!
# Base64

`b64encode` with the standard alphabet.
-/

set_option autoImplicit false

namespace Base64

open Python (PyString)

/-- The character of six bits. -/
def digit (bits : Nat) : Nat :=
  if bits < 26 then 65 + bits
  else if bits < 52 then 97 + (bits - 26)
  else if bits < 62 then 48 + (bits - 52)
  else if bits = 62 then 43
  else 47

/-- `b64encode(data).decode("ascii")`. -/
def encode : Bytes → PyString
  | [] => []
  | [first] =>
      let bits := first.toNat
      [digit (bits / 4), digit (bits % 4 * 16), 61, 61]
  | [first, second] =>
      let bits := first.toNat * 256 + second.toNat
      [digit (bits / 1024), digit (bits / 16 % 64), digit (bits % 16 * 4), 61]
  | first :: second :: third :: rest =>
      let bits := first.toNat * 65536 + second.toNat * 256 + third.toNat
      [digit (bits / 262144), digit (bits / 4096 % 64), digit (bits / 64 % 64), digit (bits % 64)] ++
        encode rest

example : encode [0x57, 0x79, 0x72, 0xFF] = Python.text "V3ly/w==" := by decide

end Base64
