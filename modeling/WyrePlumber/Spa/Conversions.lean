import WyrePlumber.Library.Numerals
import WyrePlumber.Library.Results
import WyrePlumber.Library.Utf8
import WyrePlumber.Spa.Values

/-!
# Python conversions

`int`, `float`, `bool`, `bytes` and `list` of the values that pods hold, with
the exceptions they raise, and the packing of integers into fixed fields.
-/

set_option autoImplicit false
set_option linter.constructorNameAsVariable false

namespace WyrePlumber.Spa

open Python

inductive ErrorKind where
  | typeError | valueError | overflowError | keyError | structError
  deriving DecidableEq

/-- A failure of the parser or the builder: a `ValueError` that they raise with
its text, or an exception of the language. -/
inductive SpaError where
  | raised (message : PyString)
  | python (kind : ErrorKind)
  /-- No Python exception: the fuel of a definition ran out. -/
  | exhausted
  deriving DecidableEq

def raise {Value : Type} (message : String) : Except SpaError Value :=
  .error (.raised (text message))

def orElseRaise {Value : Type} (kind : ErrorKind) : Option Value → Except SpaError Value
  | some value => .ok value
  | none => .error (.python kind)

section Scalars

/-- The code points of bytes that hold ASCII only. -/
def asciiText (data : Bytes) : Option PyString :=
  if data.all (· < 128) then some (data.map UInt8.toNat) else none

def pyInt : SpaValue → Except SpaError Int
  | .bool value => .ok (if value then 1 else 0)
  | .int value => .ok value
  | .member _ value => .ok value
  | .float value =>
      if value.isFinite then .ok (value.units.tdiv (2 ^ 1074 : Nat))
      else .error (.python (if value.isNaN then .valueError else .overflowError))
  | .str string => orElseRaise .valueError (parseInt string)
  | .bytes data => orElseRaise .valueError ((asciiText data).bind parseInt)
  | _ => .error (.python .typeError)

def pyFloat : SpaValue → Except SpaError Binary64
  | .bool value => orElseRaise .overflowError (Binary64.ofInt? (if value then 1 else 0))
  | .int value => orElseRaise .overflowError (Binary64.ofInt? value)
  | .member _ value => orElseRaise .overflowError (Binary64.ofInt? value)
  | .float value => .ok value
  | .str string => orElseRaise .valueError (parseFloat string)
  | .bytes data => orElseRaise .valueError ((asciiText data).bind parseFloat)
  | _ => .error (.python .typeError)

def pyBool : SpaValue → Bool
  | .none => false
  | .bool value => value
  | .int value => value ≠ 0
  | .member _ value => value ≠ 0
  | .float value => value.magnitude ≠ 0
  | .str string => string ≠ []
  | .bytes data => !data.isEmpty
  | .list items => !items.isEmpty
  | .dict items => !items.isEmpty
  | .object _ properties => !properties.isEmpty
  | .other _ => true

end Scalars

section Containers

/-- A key as the object that iterating a mapping gives. -/
def SpaKey.value : SpaKey → SpaValue
  | .name string => .str string
  | .number value => .int value

def pyList : SpaValue → Except SpaError (List SpaValue)
  | .list items => .ok items
  | .str string => .ok (string.map fun codePoint => .str [codePoint])
  | .bytes data => .ok (data.map fun byte => .int byte.toNat)
  | .dict items => .ok (items.map fun item => item.1.value)
  | .object _ properties => .ok (properties.map fun item => item.1.value)
  | _ => .error (.python .typeError)

/-- The items of an object that `isinstance(value, Sequence)` accepts. -/
def anySequence? : SpaValue → Option (List SpaValue)
  | .list items => some items
  | .str string => some (string.map fun codePoint => .str [codePoint])
  | .bytes data => some (data.map fun byte => .int byte.toNat)
  | _ => none

def byteOf (value : SpaValue) : Except SpaError UInt8 :=
  match value.integral? with
  | some number =>
      if 0 ≤ number ∧ number < 256 then .ok (UInt8.ofNat number.toNat)
      else .error (.python .valueError)
  | none => .error (.python .typeError)

def pyBytes (value : SpaValue) : Except SpaError Bytes :=
  match value with
  | .bytes data => .ok data
  | .str _ => .error (.python .typeError)
  | _ =>
      match value.integral? with
      | some count =>
          if count < 0 then .error (.python .valueError)
          else if count < 2 ^ 63 then .ok (List.replicate count.toNat 0)
          else .error (.python .overflowError)
      | none => do
          let items ← pyList value
          items.mapM byteOf

end Containers

section Packing

/-- `struct.pack("<I", value)` and `struct.pack("<Q", value)`. -/
def packUnsigned (width : Nat) (value : Int) : Except SpaError Bytes :=
  if 0 ≤ value ∧ value < 256 ^ width then .ok (Bytes.ofNat width value.toNat)
  else .error (.python .structError)

/-- `struct.pack("<i", value)` and `struct.pack("<q", value)`. -/
def packSigned (width : Nat) (value : Int) : Except SpaError Bytes :=
  match Bytes.unsigned? (8 * width) value with
  | some number => .ok (Bytes.ofNat width number)
  | none => .error (.python .structError)

def align (value : Nat) : Nat := (value + 7) / 8 * 8

theorem le_align (value : Nat) : value ≤ align value := by
  rw [align]
  omega

def headerSize : Nat := 8

def packPod (podType : PodType) (body : Bytes) : Except SpaError Bytes := do
  let size ← packUnsigned 4 body.length
  .ok (size ++ Bytes.ofNat 4 podType.code ++ body ++
    List.replicate (align (headerSize + body.length) - (headerSize + body.length)) 0)

end Packing

end WyrePlumber.Spa
