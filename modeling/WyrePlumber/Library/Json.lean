import WyrePlumber.Library.Dictionary
import WyrePlumber.Library.Numerals
import WyrePlumber.Library.Results

/-!
# JSON texts

`json.loads` and the `json.dumps` of an object with one string: the scanner of the
standard library, with its literals beyond JSON, its strict strings and the limit on
the digits of an integer.
-/

set_option autoImplicit false

namespace Json

open Python Results

/-- A decoded text; a number is kept as it is written. -/
inductive JsonValue where
  | null
  | bool (value : Bool)
  | number (literal : PyString)
  | str (value : PyString)
  | list (items : List JsonValue)
  | dict (items : List (PyString × JsonValue))

inductive JsonError where
  /-- `json.JSONDecodeError`. -/
  | syntaxError
  /-- The `ValueError` of an integer with too many digits. -/
  | digits
  /-- No Python exception: the fuel of a definition ran out. -/
  | exhausted
  deriving DecidableEq

/-- A reader of the front of a text. -/
abbrev Scan (Value : Type) := PyString → Except JsonError (Value × PyString)

section Strings

def skipSpace (string : PyString) : PyString := string.dropWhile (· ∈ [32, 9, 10, 13])

def hexDigit? (codePoint : Nat) : Option Nat :=
  if 48 ≤ codePoint ∧ codePoint ≤ 57 then some (codePoint - 48)
  else if 97 ≤ codePoint ∧ codePoint ≤ 102 then some (codePoint - 87)
  else if 65 ≤ codePoint ∧ codePoint ≤ 70 then some (codePoint - 55)
  else none

def hexFour? (a b c d : Nat) : Option Nat := do
  let a ← hexDigit? a
  let b ← hexDigit? b
  let c ← hexDigit? c
  let d ← hexDigit? d
  some (((a * 16 + b) * 16 + c) * 16 + d)

/-- The character of a backslash and one more. -/
def simpleEscape? : Nat → Option Nat
  | 34 => some 34
  | 92 => some 92
  | 47 => some 47
  | 98 => some 8
  | 102 => some 12
  | 110 => some 10
  | 114 => some 13
  | 116 => some 9
  | _ => none

/-- A second escaped surrogate completes the first. -/
def joinSurrogates (high low : Nat) : Nat := 0x10000 + (high - 0xD800) * 0x400 + (low - 0xDC00)

/-- The low surrogate that an escape at the front of a text stands for. -/
def lowSurrogate? : PyString → Option Nat
  | 92 :: 117 :: a :: b :: c :: d :: _ =>
      (hexFour? a b c d).filter fun low => 0xDC00 ≤ low ∧ low ≤ 0xDFFF
  | _ => none

/-- `scanstring` behind the opening quote; the bound is on the characters of the result. -/
def scanCharacters : Nat → Scan PyString
  | 0, _ => .error .exhausted
  | rounds + 1, string =>
      match string with
      | 34 :: rest => .ok ([], rest)
      | 92 :: 117 :: a :: b :: c :: d :: rest =>
          match hexFour? a b c d with
          | some code =>
              match (if 0xD800 ≤ code ∧ code ≤ 0xDBFF then lowSurrogate? rest else none) with
              | some low =>
                  (scanCharacters rounds (rest.drop 6)).map fun scanned =>
                    (joinSurrogates code low :: scanned.1, scanned.2)
              | none =>
                  (scanCharacters rounds rest).map fun scanned => (code :: scanned.1, scanned.2)
          | none => .error .syntaxError
      | 92 :: escaped :: rest =>
          match simpleEscape? escaped with
          | some codePoint =>
              (scanCharacters rounds rest).map fun scanned => (codePoint :: scanned.1, scanned.2)
          | none => .error .syntaxError
      | codePoint :: rest =>
          if codePoint < 32 ∨ codePoint = 92 then .error .syntaxError
          else (scanCharacters rounds rest).map fun scanned => (codePoint :: scanned.1, scanned.2)
      | [] => .error .syntaxError

def scanString (string : PyString) : Except JsonError (PyString × PyString) :=
  scanCharacters (string.length + 1) string

end Strings

section Numbers

def isDigit (codePoint : Nat) : Bool := 48 ≤ codePoint ∧ codePoint ≤ 57

/-- The digits at the front of a text. -/
def takeDigits (string : PyString) : PyString × PyString :=
  (string.takeWhile isDigit, string.dropWhile isDigit)

/-- The whole part of a number: one zero, or digits that start with another one. -/
def wholePart? : PyString → Option (PyString × PyString)
  | 48 :: rest => some ([48], rest)
  | first :: rest => if isDigit first then some (takeDigits (first :: rest)) else none
  | [] => none

def fraction : PyString → PyString × PyString
  | 46 :: rest =>
      match takeDigits rest with
      | ([], _) => ([], 46 :: rest)
      | (digits, rest) => (46 :: digits, rest)
  | string => ([], string)

def exponentDigits : PyString → PyString × PyString
  | 43 :: rest => (43 :: (takeDigits rest).1, (takeDigits rest).2)
  | 45 :: rest => (45 :: (takeDigits rest).1, (takeDigits rest).2)
  | string => takeDigits string

/-- An exponent; without digits it is none. -/
def exponent : PyString → PyString × PyString
  | [] => ([], [])
  | mark :: rest =>
      if (mark = 101 ∨ mark = 69) ∧ ((exponentDigits rest).1.getLast?.any isDigit) = true then
        (mark :: (exponentDigits rest).1, (exponentDigits rest).2)
      else ([], mark :: rest)

def sign : PyString → PyString × PyString
  | 45 :: rest => ([45], rest)
  | string => ([], string)

def scanNumber (string : PyString) : Except JsonError (JsonValue × PyString) :=
  let (minus, unsigned) := sign string
  match wholePart? unsigned with
  | none => .error .syntaxError
  | some (whole, afterWhole) =>
      let (point, afterPoint) := fraction afterWhole
      let (power, rest) := exponent afterPoint
      if point = [] ∧ power = [] ∧ maxStrDigits < whole.length then .error .digits
      else .ok (.number (minus ++ whole ++ point ++ power), rest)

end Numbers

section Values

variable (scan : Scan JsonValue)

/-- The items of an array from an item on. -/
def scanItems : Nat → Scan (List JsonValue)
  | 0, _ => .error .exhausted
  | rounds + 1, string => do
      let item ← scan string
      match skipSpace item.2 with
      | 93 :: rest => .ok ([item.1], rest)
      | 44 :: rest =>
          (scanItems rounds (skipSpace rest)).map fun items => (item.1 :: items.1, items.2)
      | _ => .error .syntaxError

/-- `_parse_array_unicode` behind the bracket. -/
def scanArray (string : PyString) : Except JsonError (List JsonValue × PyString) :=
  match skipSpace string with
  | 93 :: rest => .ok ([], rest)
  | items => scanItems scan (string.length + 1) items

def scanMember (string : PyString) : Except JsonError ((PyString × JsonValue) × PyString) :=
  match string with
  | 34 :: rest => do
      let name ← scanString rest
      match skipSpace name.2 with
      | 58 :: rest => (scan (skipSpace rest)).map fun item => ((name.1, item.1), item.2)
      | _ => .error .syntaxError
  | _ => .error .syntaxError

/-- The members of an object from a member on. -/
def scanMembers : Nat → Scan (List (PyString × JsonValue))
  | 0, _ => .error .exhausted
  | rounds + 1, string => do
      let member ← scanMember scan string
      match skipSpace member.2 with
      | 125 :: rest => .ok ([member.1], rest)
      | 44 :: rest =>
          (scanMembers rounds (skipSpace rest)).map fun members =>
            (member.1 :: members.1, members.2)
      | _ => .error .syntaxError

/-- `_parse_object_unicode` behind the brace. -/
def scanObject (string : PyString) : Except JsonError (List (PyString × JsonValue) × PyString) :=
  match skipSpace string with
  | 125 :: rest => .ok ([], rest)
  | members => scanMembers scan (string.length + 1) members

def literals : List (PyString × JsonValue) :=
  [(text "null", .null), (text "true", .bool true), (text "false", .bool false),
    (text "NaN", .number (text "NaN")), (text "Infinity", .number (text "Infinity")),
    (text "-Infinity", .number (text "-Infinity"))]

/-- `scan_once`, with the call for contained values as a parameter. -/
def scanOnce (string : PyString) : Except JsonError (JsonValue × PyString) :=
  match string with
  | 34 :: rest => (scanString rest).map fun scanned => (.str scanned.1, scanned.2)
  | 123 :: rest =>
      (scanObject scan rest).map fun scanned => (.dict (Dictionary.ofItems scanned.1), scanned.2)
  | 91 :: rest => (scanArray scan rest).map fun scanned => (.list scanned.1, scanned.2)
  | string =>
      match literals.find? fun literal => literal.1.isPrefixOf string with
      | some literal => .ok (literal.2, string.drop literal.1.length)
      | none => scanNumber string

end Values

section Loads

/-- The scanner of values; the fuel bounds their nesting. -/
def scanValue : Nat → Scan JsonValue
  | 0, _ => .error .exhausted
  | fuel + 1, string => scanOnce (scanValue fuel) string

/-- `json.loads(string)`. -/
def loads (string : PyString) : Except JsonError JsonValue :=
  if string.head? = some 0xFEFF then .error .syntaxError
  else do
    let scanned ← scanValue (string.length + 1) (skipSpace string)
    if skipSpace scanned.2 = [] then .ok scanned.1 else .error .syntaxError

end Loads

section Totality

variable {Value Other : Type} {bound rounds : Nat} {string : PyString}

/-- A reader that ends with less text than it was given. -/
def Reads (string : PyString) (result : Except JsonError (Value × PyString)) : Prop :=
  result ≠ .error .exhausted ∧ ∀ scanned, result = .ok scanned → scanned.2.length < string.length

theorem reads_ok {value : Value} {rest : PyString} (shorter : rest.length < string.length) :
    Reads string (.ok (value, rest)) :=
  ⟨fun same => (nomatch same), fun _ isScanned => Except.ok.inj isScanned ▸ shorter⟩

theorem reads_syntaxError :
    Reads string (.error .syntaxError : Except JsonError (Value × PyString)) :=
  ⟨fun same => (nomatch same), fun _ same => nomatch same⟩

theorem reads_digits : Reads string (.error .digits : Except JsonError (Value × PyString)) :=
  ⟨fun same => (nomatch same), fun _ same => nomatch same⟩

/-- What reads a part of the rest and goes on reads the text. -/
theorem Reads.bind {front : PyString} {first : Except JsonError (Value × PyString)}
    {next : Value × PyString → Except JsonError (Other × PyString)} (reads : Reads front first)
    (later : ∀ scanned, scanned.2.length < front.length → Reads string (next scanned)) :
    Reads string (first >>= next) := by
  cases finished : first with
  | error error =>
      rw [finished] at reads
      exact ⟨fun same => reads.1 (congrArg _ (Except.error.inj same)), fun _ same => nomatch same⟩
  | ok scanned => exact later scanned (reads.2 scanned finished)

theorem Reads.map {front : PyString} {first : Except JsonError (Value × PyString)}
    {function : Value × PyString → Other × PyString} (reads : Reads front first)
    (shorter : front.length ≤ string.length) (kept : ∀ scanned, (function scanned).2 = scanned.2) :
    Reads string (first.map function) := by
  cases finished : first with
  | error error =>
      rw [finished] at reads
      exact ⟨fun same => reads.1 (congrArg _ (Except.error.inj same)), fun _ same => nomatch same⟩
  | ok scanned =>
      have less := reads.2 scanned finished
      refine ⟨fun same => (nomatch same), fun result isResult => ?_⟩
      rw [← Except.ok.inj isResult, kept]
      omega

theorem length_skipSpace (string : PyString) : (skipSpace string).length ≤ string.length :=
  (List.dropWhile_suffix _).length_le

theorem scanCharacters_reads (enough : string.length < rounds) :
    Reads string (scanCharacters rounds string) := by
  induction rounds generalizing string with
  | zero => omega
  | succ rounds inductionHypothesis =>
      unfold scanCharacters
      split
      · exact reads_ok (by simp)
      · rename_i a b c d rest
        simp only [List.length_cons] at enough
        split
        · split
          · refine (inductionHypothesis ?_).map ?_ fun _ => rfl
            · simp only [List.length_drop]
              omega
            · simp only [List.length_drop, List.length_cons]
              omega
          · refine (inductionHypothesis (by omega)).map ?_ fun _ => rfl
            simp only [List.length_cons]
            omega
        · exact reads_syntaxError
      · rename_i escaped rest _
        simp only [List.length_cons] at enough
        split
        · refine (inductionHypothesis (by omega)).map ?_ fun _ => rfl
          simp only [List.length_cons]
          omega
        · exact reads_syntaxError
      · rename_i codePoint rest _ _ _
        simp only [List.length_cons] at enough
        split
        · exact reads_syntaxError
        · refine (inductionHypothesis (by omega)).map ?_ fun _ => rfl
          simp only [List.length_cons]
          omega
      · exact reads_syntaxError

theorem scanString_reads (string : PyString) : Reads string (scanString string) :=
  scanCharacters_reads (Nat.lt_succ_self _)

theorem length_takeDigits (string : PyString) : (takeDigits string).2.length ≤ string.length :=
  (List.dropWhile_suffix _).length_le

theorem length_wholePart {whole rest : PyString} (found : wholePart? string = some (whole, rest)) :
    rest.length < string.length := by
  unfold wholePart? at found
  split at found
  · cases found
    simp
  · rename_i first tail _
    split at found
    · rename_i digit
      have isRest := congrArg Prod.snd (Option.some.inj found)
      have step : (takeDigits (first :: tail)).2 = tail.dropWhile isDigit := by
        rw [takeDigits, List.dropWhile_cons_of_pos digit]
      have shorter := (@List.dropWhile_suffix _ tail isDigit).length_le
      dsimp only at isRest
      rw [← isRest, step, List.length_cons]
      omega
    · cases found
  · cases found

theorem length_fraction (string : PyString) : (fraction string).2.length ≤ string.length := by
  unfold fraction
  split
  · rename_i rest
    have shorter := length_takeDigits rest
    split
    · exact Nat.le_refl _
    · rename_i digits tail _ isPair
      rw [isPair] at shorter
      simp only [List.length_cons] at shorter ⊢
      omega
  · exact Nat.le_refl _

theorem length_exponentDigits (string : PyString) :
    (exponentDigits string).2.length ≤ string.length := by
  unfold exponentDigits
  split
  · rename_i rest
    have shorter := length_takeDigits rest
    simp only [List.length_cons]
    omega
  · rename_i rest
    have shorter := length_takeDigits rest
    simp only [List.length_cons]
    omega
  · exact length_takeDigits string

theorem length_exponent (string : PyString) : (exponent string).2.length ≤ string.length := by
  unfold exponent
  split
  · exact Nat.le_refl _
  · rename_i mark rest
    have shorter := length_exponentDigits rest
    split
    · simp only [List.length_cons]
      omega
    · exact Nat.le_refl _

theorem length_sign (string : PyString) : (sign string).2.length ≤ string.length := by
  unfold sign
  split
  · simp
  · exact Nat.le_refl _

theorem scanNumber_reads (string : PyString) : Reads string (scanNumber string) := by
  unfold scanNumber
  dsimp only
  split
  · exact reads_syntaxError
  · rename_i whole afterWhole found
    have ofSign := length_sign string
    have ofWhole := length_wholePart found
    have ofFraction := length_fraction afterWhole
    have ofExponent := length_exponent (fraction afterWhole).2
    split
    · exact reads_digits
    · exact reads_ok (by omega)

variable {scan : Scan JsonValue}

theorem scanItems_reads (reads : ∀ string, string.length < bound → Reads string (scan string))
    (short : string.length < bound) (enough : string.length < rounds) :
    Reads string (scanItems scan rounds string) := by
  induction rounds generalizing string with
  | zero => omega
  | succ rounds inductionHypothesis =>
      refine (reads string short).bind fun item shorter => ?_
      have space := length_skipSpace item.2
      split
      · rename_i rest isRest
        rw [isRest, List.length_cons] at space
        exact reads_ok (by omega)
      · rename_i rest isRest
        have skipped := length_skipSpace rest
        rw [isRest, List.length_cons] at space
        exact (inductionHypothesis (by omega) (by omega)).map (by omega) fun _ => rfl
      · exact reads_syntaxError

theorem scanArray_reads (reads : ∀ string, string.length < bound → Reads string (scan string))
    (short : string.length < bound) : Reads string (scanArray scan string) := by
  have space := length_skipSpace string
  unfold scanArray
  split
  · rename_i rest isRest
    rw [isRest, List.length_cons] at space
    exact reads_ok (by omega)
  · have items := @scanItems_reads bound (string.length + 1) (skipSpace string) scan reads (by omega)
      (by omega)
    exact ⟨items.1, fun scanned isScanned => Nat.lt_of_lt_of_le (items.2 scanned isScanned) space⟩

theorem scanMember_reads (reads : ∀ string, string.length < bound → Reads string (scan string))
    (short : string.length < bound) : Reads string (scanMember scan string) := by
  unfold scanMember
  split
  · rename_i rest
    rw [List.length_cons] at short
    refine (scanString_reads rest).bind fun name shorter => ?_
    have space := length_skipSpace name.2
    split
    · rename_i tail isTail
      have skipped := length_skipSpace tail
      rw [isTail, List.length_cons] at space
      refine (reads (skipSpace tail) (by omega)).map ?_ fun _ => rfl
      rw [List.length_cons]
      omega
    · exact reads_syntaxError
  · exact reads_syntaxError

theorem scanMembers_reads (reads : ∀ string, string.length < bound → Reads string (scan string))
    (short : string.length < bound) (enough : string.length < rounds) :
    Reads string (scanMembers scan rounds string) := by
  induction rounds generalizing string with
  | zero => omega
  | succ rounds inductionHypothesis =>
      refine (scanMember_reads reads short).bind fun member shorter => ?_
      have space := length_skipSpace member.2
      split
      · rename_i rest isRest
        rw [isRest, List.length_cons] at space
        exact reads_ok (by omega)
      · rename_i rest isRest
        have skipped := length_skipSpace rest
        rw [isRest, List.length_cons] at space
        exact (inductionHypothesis (by omega) (by omega)).map (by omega) fun _ => rfl
      · exact reads_syntaxError

theorem scanObject_reads (reads : ∀ string, string.length < bound → Reads string (scan string))
    (short : string.length < bound) : Reads string (scanObject scan string) := by
  have space := length_skipSpace string
  unfold scanObject
  split
  · rename_i rest isRest
    rw [isRest, List.length_cons] at space
    exact reads_ok (by omega)
  · have members := @scanMembers_reads bound (string.length + 1) (skipSpace string) scan reads
      (by omega) (by omega)
    exact ⟨members.1, fun scanned isScanned =>
      Nat.lt_of_lt_of_le (members.2 scanned isScanned) space⟩

theorem scanOnce_reads (reads : ∀ string, string.length < bound → Reads string (scan string))
    (short : string.length ≤ bound) : Reads string (scanOnce scan string) := by
  unfold scanOnce
  split
  · exact (scanString_reads _).map (by simp) fun _ => rfl
  · rename_i rest
    rw [List.length_cons] at short
    exact (scanObject_reads reads (by omega)).map (by simp) fun _ => rfl
  · rename_i rest
    rw [List.length_cons] at short
    exact (scanArray_reads reads (by omega)).map (by simp) fun _ => rfl
  · split
    · rename_i literal found
      have isPrefix : literal.1.isPrefixOf string = true := by simpa using List.find?_some found
      have fits := (List.isPrefixOf_iff_prefix.mp isPrefix).length_le
      have positive : ∀ literal ∈ literals, 0 < literal.1.length := by decide
      have nonempty := positive literal (List.mem_of_find?_eq_some found)
      refine reads_ok ?_
      rw [List.length_drop]
      omega
    · exact scanNumber_reads string

theorem scanValue_reads {fuel : Nat} (enough : string.length < fuel) :
    Reads string (scanValue fuel string) := by
  induction fuel generalizing string with
  | zero => omega
  | succ fuel inductionHypothesis =>
      exact scanOnce_reads (fun string short => inductionHypothesis short) (by omega)

/-- Every text is decoded or refused. -/
theorem loads_ends (string : PyString) : loads string ≠ .error .exhausted := by
  unfold loads
  split
  · exact fun same => nomatch same
  · have space := length_skipSpace string
    have reads := @scanValue_reads (skipSpace string) (string.length + 1) (by omega)
    cases scanned : scanValue (string.length + 1) (skipSpace string) with
    | error error =>
        rw [scanned] at reads
        exact fun same => reads.1 (congrArg _ (Except.error.inj same))
    | ok result =>
        rw [ok_bind]
        split
        · exact fun same => nomatch same
        · exact fun same => nomatch same

end Totality

section Dumps

def hexDigit (digit : Nat) : Nat := if digit < 10 then 48 + digit else 87 + digit

def unicodeEscape (code : Nat) : PyString :=
  [92, 117, hexDigit (code / 4096 % 16), hexDigit (code / 256 % 16), hexDigit (code / 16 % 16),
    hexDigit (code % 16)]

/-- `ESCAPE_ASCII` on one character. -/
def escapeCharacter (codePoint : Nat) : PyString :=
  if codePoint = 34 ∨ codePoint = 92 then [92, codePoint]
  else if codePoint = 10 then [92, 110]
  else if codePoint = 13 then [92, 114]
  else if codePoint = 9 then [92, 116]
  else if codePoint = 12 then [92, 102]
  else if codePoint = 8 then [92, 98]
  else if 32 ≤ codePoint ∧ codePoint ≤ 126 then [codePoint]
  else if codePoint < 0x10000 then unicodeEscape codePoint
  else unicodeEscape (0xD800 + (codePoint - 0x10000) / 0x400) ++
    unicodeEscape (0xDC00 + (codePoint - 0x10000) % 0x400)

def dumpsString (string : PyString) : PyString :=
  [34] ++ string.flatMap escapeCharacter ++ [34]

/-- `json.dumps` of an object whose only member is a string. -/
def dumpsMember (name value : PyString) : PyString :=
  [123] ++ dumpsString name ++ text ": " ++ dumpsString value ++ [125]

theorem length_escapeCharacter (codePoint : Nat) : 1 ≤ (escapeCharacter codePoint).length := by
  unfold escapeCharacter
  split
  · exact Nat.le_add_left 1 1
  · repeat' split
    all_goals simp [unicodeEscape]

theorem length_dumpsString (string : PyString) :
    string.length + 2 ≤ (dumpsString string).length := by
  have body : string.length ≤ (string.flatMap escapeCharacter).length := by
    induction string with
    | nil => exact Nat.le_refl 0
    | cons codePoint rest inductionHypothesis =>
        have positive := length_escapeCharacter codePoint
        rw [List.flatMap_cons, List.length_cons, List.length_append]
        omega
  simp only [dumpsString, List.length_append, List.length_singleton]
  omega

/-- The text of an object is longer than the string in it. -/
theorem length_dumpsMember (name value : PyString) :
    value.length < (dumpsMember name value).length := by
  have shorter := length_dumpsString value
  simp only [dumpsMember, List.length_append, List.length_singleton]
  omega

example : dumpsMember (text "name") (text "a\"b") = text "\x7b\"name\": \"a\\\"b\"\x7d" := by
  decide

end Dumps

end Json
