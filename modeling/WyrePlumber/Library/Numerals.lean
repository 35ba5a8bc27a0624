import WyrePlumber.Library.Binary64
import WyrePlumber.Library.Python
import Mathlib.Data.String.Basic

/-!
# Numbers as text

`int(str)`, `float(str)` and `str(int)`: surrounding white space, digits of
every script, single underscores between digits, and the limit on the digits of
an integer.
-/

set_option autoImplicit false

namespace Python

section CodePoints

/-- The zero of each run of ten decimal digits. -/
def decimalZeros : List Nat :=
  [0x30, 0x660, 0x6F0, 0x7C0, 0x966, 0x9E6, 0xA66, 0xAE6, 0xB66, 0xBE6, 0xC66, 0xCE6, 0xD66, 0xDE6,
   0xE50, 0xED0, 0xF20, 0x1040, 0x1090, 0x17E0, 0x1810, 0x1946, 0x19D0, 0x1A80, 0x1A90, 0x1B50,
   0x1BB0, 0x1C40, 0x1C50, 0xA620, 0xA8D0, 0xA900, 0xA9D0, 0xA9F0, 0xAA50, 0xABF0, 0xFF10, 0x104A0,
   0x10D30, 0x11066, 0x110F0, 0x11136, 0x111D0, 0x112F0, 0x11450, 0x114D0, 0x11650, 0x116C0,
   0x11730, 0x118E0, 0x11950, 0x11C50, 0x11D50, 0x11DA0, 0x11F50, 0x16A60, 0x16AC0, 0x16B50,
   0x1D7CE, 0x1D7D8, 0x1D7E2, 0x1D7EC, 0x1D7F6, 0x1E140, 0x1E2F0, 0x1E4F0, 0x1E950, 0x1FBF0]

def isSpace (codePoint : Nat) : Bool :=
  (9 ≤ codePoint && codePoint ≤ 13) || codePoint == 32 || codePoint == 0x85 || codePoint == 0xA0 ||
    codePoint == 0x1680 || (0x2000 ≤ codePoint && codePoint ≤ 0x200A) || codePoint == 0x2028 ||
    codePoint == 0x2029 || codePoint == 0x202F || codePoint == 0x205F || codePoint == 0x3000

/-- Digits as ASCII digits and white space as a space, as number parsing reads them. -/
def toAscii (codePoint : Nat) : Nat :=
  if isSpace codePoint then 32
  else
    match decimalZeros.find? fun runStart => runStart ≤ codePoint ∧ codePoint < runStart + 10 with
    | some runStart => 48 + (codePoint - runStart)
    | none => codePoint

def strip (string : PyString) : PyString :=
  ((string.dropWhile (· == 32)).reverse.dropWhile (· == 32)).reverse

/-- Digits with single underscores between them; none for any other text. -/
def digitRun : PyString → Option (List Nat)
  | [] => none
  | [codePoint] => (digit? codePoint).map ([·])
  | codePoint :: 95 :: rest => do
      let first ← digit? codePoint
      let others ← digitRun rest
      some (first :: others)
  | codePoint :: rest => do
      let first ← digit? codePoint
      let others ← digitRun rest
      some (first :: others)

def ofDigits (values : List Nat) : Nat := values.foldl (fun number value => 10 * number + value) 0

def splitSign : PyString → Bool × PyString
  | 45 :: rest => (true, rest)
  | 43 :: rest => (false, rest)
  | string => (false, string)

end CodePoints

section Integers

def maxStrDigits : Nat := 4300

/-- `int(string)`; none where Python raises `ValueError`. -/
def parseInt (string : PyString) : Option Int := do
  let (negative, magnitude) := splitSign (strip (string.map toAscii))
  let values ← digitRun magnitude
  if values.length ≤ maxStrDigits then
    some (if negative then -(ofDigits values : Int) else ofDigits values)
  else none

/-- `str(number)`; none where Python raises `ValueError`. -/
def intText? (number : Int) : Option PyString :=
  if number.natAbs < 10 ^ maxStrDigits then some (text (toString number)) else none

theorem intText?_of_lt {number : Int} {width : Nat} (small : number.natAbs < 10 ^ width)
    (within : width ≤ maxStrDigits) : intText? number = some (text (toString number)) :=
  if_pos (Nat.lt_of_lt_of_le small (Nat.pow_le_pow_right (by decide) within))

theorem intText?_eq_none {number : Int} (long : ¬ number.natAbs < 10 ^ maxStrDigits) :
    intText? number = none := if_neg long

theorem text_injective : Function.Injective text := by
  intro left right same
  have chars : left.toList = right.toList :=
    List.map_injective_iff.mpr (fun _ _ codes => Char.toNat_inj.mp codes) same
  exact String.toList_inj.mp chars

theorem toString_natCast (number : Nat) : toString (number : Int) = Nat.repr number := rfl

theorem digits_of_natural {number codePoint : Nat}
    (member : codePoint ∈ text (toString (number : Int))) : 48 ≤ codePoint ∧ codePoint ≤ 57 := by
  obtain ⟨char, inChars, isCode⟩ := List.mem_map.mp member
  rw [toString_natCast, Nat.toList_repr] at inChars
  have isDigit := Nat.isDigit_of_mem_toDigits (by decide) (by decide) inChars
  rw [← isCode]
  simp only [Char.isDigit, Bool.and_eq_true, decide_eq_true_eq] at isDigit
  exact isDigit

theorem natural_text_injective {left right : Nat}
    (same : text (toString (left : Int)) = text (toString (right : Int))) : left = right := by
  have reprs := text_injective same
  rw [toString_natCast, toString_natCast] at reprs
  have digits := congrArg String.toList reprs
  rw [Nat.toList_repr, Nat.toList_repr] at digits
  rw [← @Nat.ofDigitChars_ten_toDigits left, digits, Nat.ofDigitChars_ten_toDigits]

example : parseInt (text " -1_000 ") = some (-1000) := by decide +kernel

end Integers

section Floats

def lower (codePoint : Nat) : Nat :=
  if 65 ≤ codePoint ∧ codePoint ≤ 90 then codePoint + 32 else codePoint

/-- The text before the first of the code points, and the text after it. -/
def splitFirst (stops : List Nat) (string : PyString) : PyString × Option PyString :=
  let front := string.takeWhile (· ∉ stops)
  (front, (string.drop front.length).tail?)

/-- The digits of a part of a decimal that may be missing. -/
def optionalRun : PyString → Option (List Nat)
  | [] => some []
  | string => digitRun string

/-- The double nearest to `digits` times ten to the power `exponent`. -/
def ofDecimal (negative : Bool) (digits : Nat) (exponent : Int) : Binary64 :=
  let order := (Nat.log 10 digits : Int) + exponent
  let magnitude :=
    if digits = 0 ∨ order < -400 then 0
    else if 400 < order then Binary64.infinityMagnitude
    else
      min Binary64.infinityMagnitude <|
        if 0 ≤ exponent then Binary64.roundedQuotient (digits * 10 ^ exponent.toNat * 2 ^ 1074) 1
        else Binary64.roundedQuotient (digits * 2 ^ 1074) (10 ^ (-exponent).toNat)
  Binary64.ofMagnitude negative magnitude

/-- `float(string)`; none where Python raises `ValueError`. -/
def parseFloat (string : PyString) : Option Binary64 := do
  let (negative, body) := splitSign (strip (string.map toAscii))
  let lowered := body.map lower
  if lowered = text "inf" ∨ lowered = text "infinity" then
    some (Binary64.ofMagnitude negative Binary64.infinityMagnitude)
  else if lowered = text "nan" then
    some (Binary64.ofMagnitude negative (Binary64.infinityMagnitude + 2 ^ 51))
  else
    let (mantissa, exponentText) := splitFirst [101] lowered
    let (wholeText, fractionText) := splitFirst [46] mantissa
    let whole ← optionalRun wholeText
    let fraction ← optionalRun (fractionText.getD [])
    let exponent ← match exponentText with
      | none => some 0
      | some written => do
          let (below, magnitude) := splitSign written
          let values ← digitRun magnitude
          some (if below then -(ofDigits values : Int) else ofDigits values)
    if whole = [] ∧ fraction = [] then none
    else some (ofDecimal negative (ofDigits (whole ++ fraction)) (exponent - fraction.length))

example : (parseFloat (text "1_0.5e-1")).map Binary64.word = some 0x3FF0CCCCCCCCCCCD#64 := by
  decide +kernel

end Floats

end Python
