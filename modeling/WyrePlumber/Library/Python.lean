import Mathlib.Algebra.Group.Int.Defs
import Mathlib.Algebra.Group.Nat.Defs
import Mathlib.Data.List.Basic
import Mathlib.Data.List.Lex

/-!
# Python strings

Strings as lists of code points, with the few `str` operations that the models
of Python code need, and decimal numbers of fixed width.
-/

set_option autoImplicit false

namespace Python

/-- A Python string by its code points; lone surrogates are code points. -/
abbrev PyString := List Nat

instance : LawfulBEq PyString := inferInstance

def text (literal : String) : PyString := literal.toList.map Char.toNat

def isSurrogate (codePoint : Nat) : Bool := 0xD800 ≤ codePoint && codePoint ≤ 0xDFFF

section Replace

/-- The replacement with the next `skip` code points already consumed. -/
def replaceFrom (old new : PyString) : Nat → PyString → PyString
  | _, [] => []
  | skip + 1, _ :: rest => replaceFrom old new skip rest
  | 0, codePoint :: rest =>
      if old.isPrefixOf (codePoint :: rest) then
        new ++ replaceFrom old new (old.length - 1) rest
      else codePoint :: replaceFrom old new 0 rest

/-- `str.replace` for a nonempty `old`. -/
def replace (old new string : PyString) : PyString := replaceFrom old new 0 string

variable {first : Nat} {tail new : PyString}

theorem replaceFrom_skip (old new : PyString) (consumed : PyString) :
    replaceFrom old new consumed.length consumed = [] := by
  induction consumed with
  | nil => rfl
  | cons codePoint rest inductionHypothesis => exact inductionHypothesis

/-- A string that ends in its only occurrence of `old`. -/
theorem replace_suffix {front : PyString} (absent : first ∉ front) :
    replace (first :: tail) new (front ++ first :: tail) = front ++ new := by
  unfold replace
  induction front with
  | nil =>
      have whole : replaceFrom (first :: tail) new tail.length tail = [] :=
        replaceFrom_skip _ _ tail
      simp [replaceFrom, whole]
  | cons codePoint rest inductionHypothesis =>
      have different : first ≠ codePoint := fun same => absent (same ▸ List.mem_cons_self)
      have inRest := inductionHypothesis fun member => absent (List.mem_cons_of_mem _ member)
      simp [replaceFrom, List.isPrefixOf, different, inRest]

end Replace

section Decimal

def digit? (codePoint : Nat) : Option Nat :=
  if 48 ≤ codePoint ∧ codePoint ≤ 57 then some (codePoint - 48) else none

def digits : Nat → Nat → PyString
  | 0, _ => []
  | width + 1, number => digits width (number / 10) ++ [48 + number % 10]

/-- The number written by decimal digits; none when another code point occurs. -/
def parseDigits (string : PyString) : Option Nat :=
  string.foldl (fun number codePoint => do
    let value ← number
    let next ← digit? codePoint
    some (10 * value + next)) (some 0)

theorem length_digits (width number : Nat) : (digits width number).length = width := by
  induction width generalizing number with
  | zero => rfl
  | succ width inductionHypothesis => simp [digits, inductionHypothesis]

theorem digits_bounds {width number codePoint : Nat}
    (member : codePoint ∈ digits width number) : 48 ≤ codePoint ∧ codePoint ≤ 57 := by
  induction width generalizing number with
  | zero => simp [digits] at member
  | succ width inductionHypothesis =>
      rcases List.mem_append.mp member with inFront | isLast
      · exact inductionHypothesis inFront
      · rw [List.mem_singleton.mp isLast]
        omega

theorem parseDigits_digits {width number : Nat} (small : number < 10 ^ width) :
    parseDigits (digits width number) = some number := by
  induction width generalizing number with
  | zero =>
      have zero : number = 0 := by omega
      rw [zero]
      rfl
  | succ width inductionHypothesis =>
      have front : parseDigits (digits width (number / 10)) = some (number / 10) := by
        apply inductionHypothesis
        rw [Nat.pow_succ] at small
        omega
      have last : digit? (48 + number % 10) = some (number % 10) := by
        rw [digit?, if_pos (by omega)]
        congr 1
        omega
      rw [parseDigits] at front
      rw [digits, parseDigits, List.foldl_append, front]
      simp only [List.foldl_cons, List.foldl_nil, Option.bind_eq_bind, Option.bind_some, last,
        Option.some.injEq]
      omega

end Decimal

section Encodings

def hexDigit (number : Nat) : Nat := if number < 10 then 48 + number else 87 + number

def unicodeEscape (number : Nat) : PyString :=
  text "\\u" ++ [hexDigit (number / 4096 % 16), hexDigit (number / 256 % 16),
    hexDigit (number / 16 % 16), hexDigit (number % 16)]

def base64Digit (number : Nat) : Nat :=
  if number < 26 then 65 + number
  else if number < 52 then 71 + number
  else if number < 62 then number - 4
  else if number = 62 then 43 else 47

def base64 : List UInt8 → PyString
  | [] => []
  | [first] =>
      let group := first.toNat * 65536
      [base64Digit (group / 262144), base64Digit (group / 4096 % 64), 61, 61]
  | [first, second] =>
      let group := first.toNat * 65536 + second.toNat * 256
      [base64Digit (group / 262144), base64Digit (group / 4096 % 64),
        base64Digit (group / 64 % 64), 61]
  | first :: second :: third :: rest =>
      let group := first.toNat * 65536 + second.toNat * 256 + third.toNat
      [base64Digit (group / 262144), base64Digit (group / 4096 % 64),
        base64Digit (group / 64 % 64), base64Digit (group % 64)] ++ base64 rest

example : base64 [77, 97, 110, 77] = text "TWFuTQ==" := by decide

end Encodings

end Python
