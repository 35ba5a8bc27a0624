import WyrePlumber.Runtime.Values

/-!
# Field checks

The checks by which the runtime value classes normalize their fields.  Each
returns the value that the field holds afterwards; a check accepts that value
and changes it no more.
-/

set_option autoImplicit false

namespace WyrePlumber.Runtime

open Python Calendar Results

/-- An error text about a field. -/
def about (name : PyString) (problem : String) : Message := [.text (name ++ text problem)]

section Scalars

def integer (name : PyString) : PyValue → Except PyError Int
  | .int value => .ok value
  | _ => .error (.typeError (about name " must be an integer"))

def identifier (name : PyString) (value : PyValue) : Except PyError Int := do
  let result ← integer name value
  if result < 0 then .error (.valueError (about name " must be non-negative"))
  else .ok result

def requiredString (name : PyString) (allowEmpty : Bool) : PyValue → Except PyError PyString
  | .str value =>
      if !allowEmpty && value.isEmpty then .error (.valueError (about name " must not be empty"))
      else .ok value
  | _ => .error (.typeError (about name " must be a string"))

def identity (name : PyString) : PyValue → Except PyError PyValue
  | .str value => (requiredString name false (.str value)).map .str
  | value => (identifier name value).map .int

def boolean (name : PyString) : PyValue → Except PyError Bool
  | .bool value => .ok value
  | _ => .error (.typeError (about name " must be a boolean"))

/-- `float(value)` of a number that is not a Boolean. -/
def toFloat? : PyValue → Option (Except PyError Binary64)
  | .int value =>
      match Binary64.ofInt? value with
      | some result => some (.ok result)
      | none => some (.error (.overflowError (plain "int too large to convert to float")))
  | .float value => some (.ok value)
  | _ => none

@[simp]
theorem toFloat?_float (value : Binary64) : toFloat? (.float value) = some (.ok value) := rfl

def nonNegativeFinite (name : PyString) (result : Binary64) : Except PyError Binary64 := do
  let _ ← freezeJson (.float result)
  if result.lt Binary64.zero then .error (.valueError (about name " must be non-negative"))
  else .ok result

def float (name : PyString) (value : PyValue) : Except PyError Binary64 :=
  match toFloat? value with
  | some result => result.bind (nonNegativeFinite name)
  | none => .error (.typeError (about name " must be a number"))

/-- A check that lets `None` pass. -/
def optional (check : PyValue → Except PyError PyValue) : PyValue → Except PyError PyValue
  | .none => .ok .none
  | value => check value

/-- A member of an enumeration; `problem` is the error text for another value. -/
def enumeration (members : List PyString) (problem : PyValue → Message) :
    PyValue → Except PyError PyValue
  | .str value =>
      if value ∈ members then .ok (.str value) else .error (.valueError (problem (.str value)))
  | value => .error (.valueError (problem value))

end Scalars

section Containers

def mapping (name : PyString) : PyValue → Except PyError PyValue
  | .frozenDict items => .ok (.frozenDict items)
  | .dict items => freezeJson (.dict items)
  | _ => .error (.typeError (about name " must be a mapping"))

def contractValue : PyValue → Except PyError PyValue
  | .runtime type fields => .ok (.runtime type fields)
  | value => freezeJson value

/-- The items of a sequence, each through a check, as a tuple. -/
def sequenceOf (name : PyString) (problem : String) (check : PyValue → Except PyError PyValue)
    (value : PyValue) : Except PyError PyValue :=
  match value.sequence? with
  | some items => (items.mapM check).map .tuple
  | none => .error (.typeError (about name problem))

def runtimeValue (name : PyString) (expected : ValueType) (suffix : String) (value : PyValue) :
    Except PyError PyValue :=
  if value.isA expected then .ok value
  else .error (.typeError
    [.text (name ++ text " must be a " ++ expected.className ++ text suffix)])

def runtimeItem (name : PyString) (expected : ValueType) (value : PyValue) :
    Except PyError PyValue :=
  if value.isA expected then .ok value
  else .error (.typeError
    [.text (text "every " ++ name ++ text " item must be " ++ expected.className)])

def runtimeValues (name : PyString) (expected : ValueType) : PyValue → Except PyError PyValue :=
  sequenceOf name " must be a sequence" (runtimeItem name expected)

/-- The confirmation predicates of a request: at least one. -/
def predicateValues (name : PyString) (value : PyValue) : Except PyError PyValue :=
  if value.sequence?.any List.isEmpty then
    .error (.valueError (about name " must contain at least one predicate"))
  else runtimeValues name .confirmationPredicate value

/-- A field that holds a SPA id or a choice. -/
def spaValue (name : PyString) (value : PyValue) : Except PyError PyValue :=
  if value.isNone || value.isA .spaId || value.isA .spaChoice then .ok value
  else .error (.typeError (about name " must be a SpaIdValue, SpaChoiceValue, or None"))

def identifierOrChoice (name : PyString) (value : PyValue) : Except PyError PyValue :=
  if value.isNone || value.isA .spaChoice then .ok value
  else (identifier name value).map .int

/-- A component of a predicate's path. -/
def pathComponent : PyValue → Except PyError PyValue
  | .str value => (requiredString (text "path component") false (.str value)).map .str
  | value => (identifier (text "path component") value).map .int

end Containers

section Timestamps

def itemName (name : PyString) : PyString := name ++ text " item"

/-- The time that `_timestamp` is given. -/
def givenTime : PyValue → Except PyError DateTime
  | .datetime moment => .ok moment
  | .str string =>
      match fromisoformat (replace (text "Z") (text "+00:00") string) with
      | some moment => .ok moment
      | none => .error (.valueError (plain "captured_at must be an ISO 8601 timestamp"))
  | _ => .error (.typeError (plain "captured_at must be a datetime or ISO 8601 string"))

/-- An aware time as UTC text that ends in `Z`. -/
def utcTimestamp (moment : DateTime) : Except PyError PyString :=
  match moment.offset with
  | none => .error (.valueError (plain "captured_at must include a timezone"))
  | some offset =>
      match astimezoneUtc moment offset with
      | none => .error (.overflowError (plain "date value out of range"))
      | some utc => .ok (replace (text "+00:00") (text "Z") (isoformatUtc utc))

def timestamp (value : PyValue) : Except PyError PyString := givenTime value >>= utcTimestamp

def MessagePart.rename (old new : PyString) : MessagePart → MessagePart
  | .text literal => .text (replace old new literal)
  | .repr value => .repr value

/-- `_named_timestamp`: the errors speak of the named field. -/
def namedTimestamp (name : PyString) (value : PyValue) : Except PyError PyString :=
  match timestamp value with
  | .error (.typeError message) =>
      .error (.typeError (message.map (·.rename (text "captured_at") name)))
  | .error (.valueError message) =>
      .error (.valueError (message.map (·.rename (text "captured_at") name)))
  | result => result

def parseTimestamp (value : PyValue) : Except PyError DateTime := do
  let normalized ← namedTimestamp (text "timestamp") value
  match fromisoformat (replace (text "Z") (text "+00:00") normalized) with
  | some moment => .ok moment
  | none => .error (.valueError (plain "Invalid isoformat string"))

/-- The text of a UTC time in the contract. -/
def utcText (moment : DateTime) : PyString := isoformatLocal moment ++ text "Z"

variable {moment : DateTime} {value : PyValue} {string : PyString}

theorem replace_zone (moment : DateTime) :
    replace (text "+00:00") (text "Z") (isoformatUtc moment) = utcText moment := by
  have noPlus : 43 ∉ isoformatLocal moment := by
    intro member
    have bounds := isoformatLocal_codePoints member
    omega
  exact replace_suffix noPlus

theorem replace_utcText (moment : DateTime) :
    replace (text "Z") (text "+00:00") (utcText moment) = isoformatUtc moment := by
  have noZ : 90 ∉ isoformatLocal moment := by
    intro member
    have bounds := isoformatLocal_codePoints member
    omega
  exact replace_suffix noZ

/-- An accepted time is written as a UTC time. -/
theorem timestamp_utc (accepted : timestamp value = .ok string) :
    ∃ moment, moment.offset = some 0 ∧ string = utcText moment := by
  obtain ⟨parsed, -, written⟩ := bind_ok accepted
  unfold utcTimestamp at written
  split at written
  · cases written
  · split at written
    · cases written
    · rename_i utc moved
      refine ⟨utc, isUtc_astimezoneUtc moved, ?_⟩
      rw [← Except.ok.inj written, replace_zone]

theorem timestamp_utcText (utc : moment.offset = some 0) :
    timestamp (.str (utcText moment)) = .ok (utcText moment) := by
  have given : givenTime (.str (utcText moment)) = .ok moment := by
    simp only [givenTime, replace_utcText, fromisoformat_isoformatUtc utc]
  have written : utcTimestamp moment = .ok (utcText moment) := by
    simp only [utcTimestamp, utc, astimezoneUtc_utc utc, replace_zone]
  rw [timestamp, given]
  exact written

theorem namedTimestamp_ok {name : PyString} :
    namedTimestamp name value = .ok string ↔ timestamp value = .ok string := by
  unfold namedTimestamp
  split <;> simp_all

theorem parseTimestamp_utcText (utc : moment.offset = some 0) :
    parseTimestamp (.str (utcText moment)) = .ok moment := by
  have named : namedTimestamp (text "timestamp") (.str (utcText moment)) =
      .ok (utcText moment) := namedTimestamp_ok.mpr (timestamp_utcText utc)
  rw [parseTimestamp, named]
  simp only [bind, Except.bind, replace_utcText, fromisoformat_isoformatUtc utc]

end Timestamps

/-- The checks that the classes make of their fields. -/
inductive FieldKind where
  | requiredString (allowEmpty : Bool)
  | optionalString
  | strings
  | integer
  | identifier
  | optionalIdentifier
  | identifiers
  | identity
  | boolean
  | optionalBoolean
  | optionalFloat
  | floats
  | mapping
  | contractValue
  | contractValues
  | runtimeValue (expected : ValueType)
  | optionalRuntimeValue (expected : ValueType)
  | runtimeValues (expected : ValueType)
  | predicateValues
  | spaValue
  | identifierOrChoice
  | enumeration (members : List PyString) (problem : PyValue → Message)
  | optionalEnumeration (members : List PyString) (problem : PyValue → Message)
  | timestamp
  | namedTimestamp
  | path

/-- What a field of the given kind and name holds after its check. -/
def FieldKind.normalize (kind : FieldKind) (name : PyString) (value : PyValue) :
    Except PyError PyValue :=
  match kind with
  | requiredString allowEmpty => (Runtime.requiredString name allowEmpty value).map .str
  | optionalString => optional (fun string => (Runtime.requiredString name true string).map .str) value
  | strings => sequenceOf name " must be a sequence"
      (fun item => (Runtime.requiredString (itemName name) false item).map .str) value
  | integer => (Runtime.integer name value).map .int
  | identifier => (Runtime.identifier name value).map .int
  | optionalIdentifier => optional (fun number => (Runtime.identifier name number).map .int) value
  | identifiers => sequenceOf name " must be a sequence"
      (fun item => (Runtime.identifier (itemName name) item).map .int) value
  | identity => Runtime.identity name value
  | boolean => (Runtime.boolean name value).map .bool
  | optionalBoolean => optional (fun flag => (Runtime.boolean name flag).map .bool) value
  | optionalFloat => optional (fun number => (Runtime.float name number).map .float) value
  | floats => sequenceOf name " must be a sequence"
      (fun item => (Runtime.float (itemName name) item).map .float) value
  | mapping => Runtime.mapping name value
  | contractValue => Runtime.contractValue value
  | contractValues => sequenceOf name " must be a sequence" Runtime.contractValue value
  | runtimeValue expected => Runtime.runtimeValue name expected "" value
  | optionalRuntimeValue expected =>
      optional (Runtime.runtimeValue name expected " or None") value
  | runtimeValues expected => Runtime.runtimeValues name expected value
  | predicateValues => Runtime.predicateValues name value
  | spaValue => Runtime.spaValue name value
  | identifierOrChoice => Runtime.identifierOrChoice name value
  | enumeration members problem => Runtime.enumeration members problem value
  | optionalEnumeration members problem => optional (Runtime.enumeration members problem) value
  | timestamp => (Runtime.timestamp value).map .str
  | namedTimestamp => (Runtime.namedTimestamp name value).map .str
  | path => sequenceOf name " must be a sequence of field names and indexes" pathComponent value

section Idempotence

/-- A check accepts what it returns and changes it no more. -/
def Settling (check : PyValue → Except PyError PyValue) : Prop :=
  ∀ {value result}, check value = .ok result → check result = .ok result

variable {name : PyString}

theorem requiredString_ok {allowEmpty : Bool} {value : PyValue} {string : PyString}
    (accepted : requiredString name allowEmpty value = .ok string) : value = .str string := by
  unfold requiredString at accepted
  split at accepted
  · split at accepted
    · cases accepted
    · rw [Except.ok.inj accepted]
  · cases accepted

theorem integer_ok {value : PyValue} {number : Int} (accepted : integer name value = .ok number) :
    value = .int number := by
  unfold integer at accepted
  split at accepted
  · rw [Except.ok.inj accepted]
  · cases accepted

theorem identifier_ok {value : PyValue} {number : Int}
    (accepted : identifier name value = .ok number) : value = .int number ∧ 0 ≤ number := by
  obtain ⟨result, isInteger, checked⟩ := bind_ok accepted
  split at checked
  · cases checked
  · rename_i notNegative
    cases checked
    exact ⟨integer_ok isInteger, by omega⟩

theorem boolean_ok {value : PyValue} {flag : Bool} (accepted : boolean name value = .ok flag) :
    value = .bool flag := by
  unfold boolean at accepted
  split at accepted
  · rw [Except.ok.inj accepted]
  · cases accepted

theorem nonNegativeFinite_ok {given result : Binary64}
    (accepted : nonNegativeFinite name given = .ok result) :
    given = result ∧ result.isFinite = true := by
  obtain ⟨frozen, isFrozen, checked⟩ := bind_ok accepted
  split at checked
  · cases checked
  · cases checked
    refine ⟨rfl, ?_⟩
    unfold freezeJson at isFrozen
    split at isFrozen
    · assumption
    · cases isFrozen

theorem float_ok {value : PyValue} {result : Binary64} (accepted : float name value = .ok result) :
    nonNegativeFinite name result = .ok result := by
  unfold float at accepted
  split at accepted
  · obtain ⟨given, -, checked⟩ := bind_ok accepted
    rw [(nonNegativeFinite_ok checked).1] at checked
    exact checked
  · cases accepted

theorem settling_map {α : Type} {check : PyValue → Except PyError α} {wrap : α → PyValue}
    (accepts : ∀ {value result}, check value = .ok result → check (wrap result) = .ok result) :
    Settling fun value => (check value).map wrap := by
  intro value result accepted
  obtain ⟨middle, checked, isResult⟩ := map_ok accepted
  subst isResult
  simp only [accepts checked, Except.map]

theorem settling_of_same {check : PyValue → Except PyError PyValue}
    (same : ∀ {value result}, check value = .ok result → result = value) : Settling check := by
  intro value result accepted
  rw [← same accepted] at accepted
  exact accepted

theorem settling_requiredString {allowEmpty : Bool} :
    Settling fun value => (requiredString name allowEmpty value).map .str := by
  refine settling_map fun accepted => ?_
  rw [← requiredString_ok accepted]
  exact accepted

theorem settling_identifier : Settling fun value => (identifier name value).map .int := by
  refine settling_map fun accepted => ?_
  rw [← (identifier_ok accepted).1]
  exact accepted

theorem settling_boolean : Settling fun value => (boolean name value).map .bool := by
  refine settling_map fun accepted => ?_
  rw [← boolean_ok accepted]
  exact accepted

theorem settling_float : Settling fun value => (float name value).map .float := by
  refine settling_map fun accepted => ?_
  exact float_ok accepted

theorem identity_same {value result : PyValue} (accepted : identity name value = .ok result) :
    result = value := by
  unfold identity at accepted
  split at accepted
  · obtain ⟨string, checked, isResult⟩ := map_ok accepted
    rw [← isResult, ← requiredString_ok checked]
  · obtain ⟨number, checked, isResult⟩ := map_ok accepted
    rw [← isResult, ← (identifier_ok checked).1]

theorem pathComponent_same {value result : PyValue}
    (accepted : pathComponent value = .ok result) : result = value := by
  unfold pathComponent at accepted
  split at accepted
  · obtain ⟨string, checked, isResult⟩ := map_ok accepted
    rw [← isResult, ← requiredString_ok checked]
  · obtain ⟨number, checked, isResult⟩ := map_ok accepted
    rw [← isResult, ← (identifier_ok checked).1]

theorem settling_optional {check : PyValue → Except PyError PyValue} (settling : Settling check) :
    Settling (optional check) := by
  intro value result accepted
  unfold optional at accepted
  split at accepted
  · cases accepted
    rfl
  · unfold optional
    split
    · rfl
    · exact settling accepted

theorem settling_sequenceOf {problem : String} {check : PyValue → Except PyError PyValue}
    (settling : Settling check) : Settling (sequenceOf name problem check) := by
  intro value result accepted
  unfold sequenceOf at accepted
  split at accepted
  · obtain ⟨values, traversed, isResult⟩ := map_ok accepted
    subst isResult
    have fixed : values.mapM check = .ok values := by
      refine mapM_ok_self fun item member => ?_
      obtain ⟨origin, -, checked⟩ := exists_of_mem_mapM traversed member
      exact settling checked
    simp only [sequenceOf, PyValue.sequence?, fixed, Except.map]
  · cases accepted

theorem enumeration_same {members : List PyString} {problem : PyValue → Message}
    {value result : PyValue} (accepted : enumeration members problem value = .ok result) :
    result = value := by
  unfold enumeration at accepted
  split at accepted
  · split at accepted
    · exact (Except.ok.inj accepted).symm
    · cases accepted
  · cases accepted

theorem runtimeValue_same {expected : ValueType} {suffix : String} {value result : PyValue}
    (accepted : runtimeValue name expected suffix value = .ok result) : result = value := by
  unfold runtimeValue at accepted
  split at accepted
  · exact (Except.ok.inj accepted).symm
  · cases accepted

theorem runtimeItem_same {expected : ValueType} {value result : PyValue}
    (accepted : runtimeItem name expected value = .ok result) : result = value := by
  unfold runtimeItem at accepted
  split at accepted
  · exact (Except.ok.inj accepted).symm
  · cases accepted

theorem spaValue_same {value result : PyValue} (accepted : spaValue name value = .ok result) :
    result = value := by
  unfold spaValue at accepted
  split at accepted
  · exact (Except.ok.inj accepted).symm
  · cases accepted

theorem identifierOrChoice_same {value result : PyValue}
    (accepted : identifierOrChoice name value = .ok result) : result = value := by
  unfold identifierOrChoice at accepted
  split at accepted
  · exact (Except.ok.inj accepted).symm
  · obtain ⟨number, checked, isResult⟩ := map_ok accepted
    rw [← isResult, ← (identifier_ok checked).1]

theorem settling_mapping : Settling (mapping name) := by
  intro value result accepted
  unfold mapping at accepted
  split at accepted
  · rw [← Except.ok.inj accepted]
    rfl
  · obtain ⟨items, -, isResult⟩ := map_ok accepted
    rw [← isResult]
    rfl
  · cases accepted

theorem settling_contractValue : Settling contractValue := by
  intro value result accepted
  unfold contractValue at accepted
  split at accepted
  · rw [← Except.ok.inj accepted]
    rfl
  · have frozen := freezeJson_settled accepted
    unfold contractValue
    split
    · rfl
    · exact frozen

theorem settling_predicateValues : Settling (predicateValues name) := by
  intro value result accepted
  unfold predicateValues at accepted
  split at accepted
  · cases accepted
  · have again := settling_sequenceOf (settling_of_same runtimeItem_same) accepted
    rename_i notEmpty
    unfold runtimeValues sequenceOf at accepted
    split at accepted
    · rename_i items isSequence
      obtain ⟨values, traversed, isResult⟩ := map_ok accepted
      have length := (mapM_ok_iff.mp traversed).length_eq
      subst isResult
      rw [isSequence] at notEmpty
      have valuesNotEmpty : ¬ values = [] := by
        intro empty
        rw [empty] at length
        exact notEmpty (by simp [List.length_eq_zero_iff.mp length])
      rw [predicateValues, if_neg (by simp [PyValue.sequence?, valuesNotEmpty])]
      exact again
    · cases accepted

/-- Every check accepts what it returns and changes it no more. -/
theorem FieldKind.normalize_settling (kind : FieldKind) (name : PyString) :
    Settling (kind.normalize name) := by
  cases kind with
  | requiredString => exact settling_requiredString
  | optionalString => exact settling_optional settling_requiredString
  | strings => exact settling_sequenceOf settling_requiredString
  | integer =>
      refine settling_map fun accepted => ?_
      rw [← integer_ok accepted]
      exact accepted
  | identifier => exact settling_identifier
  | optionalIdentifier => exact settling_optional settling_identifier
  | identifiers => exact settling_sequenceOf settling_identifier
  | identity => exact settling_of_same identity_same
  | boolean => exact settling_boolean
  | optionalBoolean => exact settling_optional settling_boolean
  | optionalFloat => exact settling_optional settling_float
  | floats => exact settling_sequenceOf settling_float
  | mapping => exact settling_mapping
  | contractValue => exact settling_contractValue
  | contractValues => exact settling_sequenceOf settling_contractValue
  | runtimeValue => exact settling_of_same runtimeValue_same
  | optionalRuntimeValue => exact settling_optional (settling_of_same runtimeValue_same)
  | runtimeValues => exact settling_sequenceOf (settling_of_same runtimeItem_same)
  | predicateValues => exact settling_predicateValues
  | spaValue => exact settling_of_same spaValue_same
  | identifierOrChoice => exact settling_of_same identifierOrChoice_same
  | enumeration => exact settling_of_same enumeration_same
  | optionalEnumeration => exact settling_optional (settling_of_same enumeration_same)
  | timestamp =>
      refine settling_map fun accepted => ?_
      obtain ⟨moment, utc, isText⟩ := timestamp_utc accepted
      rw [isText]
      exact timestamp_utcText utc
  | namedTimestamp =>
      refine settling_map fun accepted => ?_
      obtain ⟨moment, utc, isText⟩ := timestamp_utc (namedTimestamp_ok.mp accepted)
      rw [isText]
      exact namedTimestamp_ok.mpr (timestamp_utcText utc)
  | path => exact settling_sequenceOf (settling_of_same pathComponent_same)

end Idempotence

end WyrePlumber.Runtime
