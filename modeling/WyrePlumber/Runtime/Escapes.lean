import WyrePlumber.Runtime.Decode

/-!
# Exceptions that escape the decoder

The decoder translates `TypeError` and `ValueError` of the constructors.  What
it does not translate is an overflow: of an integer that becomes a float, or of
a time that moves to UTC.  The `repr` of a huge integer in the text of its own
error escapes as well.
-/

set_option autoImplicit false
set_option linter.constructorNameAsVariable false

namespace WyrePlumber.Runtime

open Python Calendar RecordValidation Results

/-- What escapes: an `OverflowError`, or a `TypeError` or `ValueError` that is no
decoding error. -/
inductive Escape where
  | overflow
  | value
  deriving DecidableEq

@[simp]
def PyError.escape : PyError → Option Escape
  | .typeError _ => some .value
  | .valueError _ => some .value
  | .overflowError _ => some .overflow
  | .decodeError _ _ _ => none

section Escaping

/-- The call raises an exception of the kind. -/
def Escaping {α : Type} (kind : Escape) (result : Except PyError α) : Prop :=
  ∃ error, result = .error error ∧ error.escape = some kind

variable {α β : Type} {kind : Escape}

@[simp]
theorem escaping_ok (value : α) : ¬ Escaping kind (.ok value : Except PyError α) := by
  rintro ⟨error, same, -⟩
  cases same

@[simp]
theorem escaping_error (error : PyError) :
    Escaping kind (.error error : Except PyError α) ↔ error.escape = some kind := by
  constructor
  · rintro ⟨other, same, escapes⟩
    cases same
    exact escapes
  · intro escapes
    exact ⟨error, rfl, escapes⟩

theorem escaping_bind {result : Except PyError α} {next : α → Except PyError β} :
    Escaping kind (result >>= next) ↔
      Escaping kind result ∨ ∃ value, result = .ok value ∧ Escaping kind (next value) := by
  cases result with
  | error error =>
      have passes : ((Except.error error : Except PyError α) >>= next) = .error error := rfl
      simp [passes]
  | ok value =>
      have continues : ((Except.ok value : Except PyError α) >>= next) = next value := rfl
      simp [continues]

@[simp]
theorem escaping_map {result : Except PyError α} {function : α → β} :
    Escaping kind (result.map function) ↔ Escaping kind result := by
  cases result with
  | error error => simp [Except.map]
  | ok value => simp [Except.map]

theorem escaping_mapM {function : α → Except PyError β} {items : List α} :
    Escaping kind (items.mapM function) ↔
      ∃ before item after, items = before ++ item :: after ∧
        (∀ earlier ∈ before, ∃ value, function earlier = .ok value) ∧
        Escaping kind (function item) := by
  constructor
  · rintro ⟨error, failed, escapes⟩
    obtain ⟨before, item, after, split, earlierOk, here⟩ := mapM_error_iff.mp failed
    exact ⟨before, item, after, split, earlierOk, error, here, escapes⟩
  · rintro ⟨before, item, after, split, earlierOk, error, here, escapes⟩
    exact ⟨error, mapM_error_iff.mpr ⟨before, item, after, split, earlierOk, here⟩, escapes⟩

theorem not_escaping_mapM {function : α → Except PyError β} {items : List α}
    (quiet : ∀ item ∈ items, ¬ Escaping .overflow (function item)) :
    ¬ Escaping .overflow (items.mapM function) := by
  intro overflows
  obtain ⟨before, item, after, split, -, here⟩ := escaping_mapM.mp overflows
  exact quiet item (by simp [split]) here

theorem not_escaping_bind {result : Except PyError α} {next : α → Except PyError β}
    (quiet : ¬ Escaping .overflow result) (nextQuiet : ∀ value, ¬ Escaping .overflow (next value)) :
    ¬ Escaping .overflow (result >>= next) := by
  intro overflows
  rcases escaping_bind.mp overflows with first | ⟨value, -, later⟩
  · exact quiet first
  · exact nextQuiet value later

end Escaping

section Quiet

theorem freezeJson_quiet (value : PyValue) : ¬ Escaping .overflow (freezeJson value) := by
  induction value using PyValue.induction with
  | none | bool | int | str | frozenDict => simp [freezeJson]
  | bytes | datetime | runtime | other => simp [freezeJson]
  | float value =>
      rw [freezeJson]
      split <;> simp
  | list items inductionHypothesis | tuple items inductionHypothesis =>
      rw [freezeJson, freezeAll_eq, escaping_map]
      exact not_escaping_mapM inductionHypothesis
  | dict items inductionHypothesis =>
      rw [freezeJson, freezeItems_eq, escaping_map]
      refine not_escaping_mapM fun item member => ?_
      rw [escaping_map]
      exact inductionHypothesis item member

theorem thawJson_quiet (value : PyValue) : ¬ Escaping .overflow (thawJson value) := by
  induction value using PyValue.induction with
  | none | bool | int | float | str => simp [thawJson]
  | bytes | datetime | list | dict | runtime | other => simp [thawJson]
  | tuple items inductionHypothesis =>
      rw [thawJson, thawAll_eq, escaping_map]
      exact not_escaping_mapM inductionHypothesis
  | frozenDict items inductionHypothesis =>
      rw [thawJson, thawItems_eq, escaping_map]
      refine not_escaping_mapM fun item member => ?_
      rw [escaping_map]
      exact inductionHypothesis item member

theorem serialize_quiet (value : PyValue) : ¬ Escaping .overflow (serialize value) := by
  induction value using PyValue.induction with
  | none | bool | int | float | str => simp [serialize]
  | bytes | datetime | list | dict | other => simp [serialize]
  | frozenDict items =>
      rw [serialize]
      exact thawJson_quiet _
  | tuple items inductionHypothesis =>
      rw [serialize, serializeAll_eq, escaping_map]
      exact not_escaping_mapM inductionHypothesis
  | runtime type fields inductionHypothesis =>
      rw [serialize, escaping_map]
      induction fields with
      | nil => simp [serializeFields]
      | cons field rest ofRest =>
          obtain ⟨fieldQuiet, restQuiet⟩ := List.forall_mem_cons.mp inductionHypothesis
          rw [serializeFields]
          split
          · exact ofRest restQuiet
          · refine not_escaping_bind fieldQuiet fun serialized => ?_
            exact not_escaping_bind (ofRest restQuiet) fun others => escaping_ok _

theorem requireValue_quiet (condition : Bool) (problem : Message) :
    ¬ Escaping .overflow (requireValue condition problem) := by
  unfold requireValue
  split <;> simp

theorem requireType_quiet (condition : Bool) (problem : Message) :
    ¬ Escaping .overflow (requireType condition problem) := by
  unfold requireType
  split <;> simp

theorem requiredString_quiet (name : PyString) (allowEmpty : Bool) (value : PyValue) :
    ¬ Escaping .overflow (requiredString name allowEmpty value) := by
  unfold requiredString
  split
  · split <;> simp
  · simp

theorem integer_quiet (name : PyString) (value : PyValue) :
    ¬ Escaping .overflow (integer name value) := by
  unfold integer
  split <;> simp

theorem identifier_quiet (name : PyString) (value : PyValue) :
    ¬ Escaping .overflow (identifier name value) := by
  refine not_escaping_bind (integer_quiet name value) fun result => ?_
  split <;> simp

theorem boolean_quiet (name : PyString) (value : PyValue) :
    ¬ Escaping .overflow (boolean name value) := by
  unfold boolean
  split <;> simp

theorem identity_quiet (name : PyString) (value : PyValue) :
    ¬ Escaping .overflow (identity name value) := by
  unfold identity
  split
  · rw [escaping_map]
    exact requiredString_quiet name false _
  · rw [escaping_map]
    exact identifier_quiet name _

theorem pathComponent_quiet (value : PyValue) : ¬ Escaping .overflow (pathComponent value) := by
  unfold pathComponent
  split
  · rw [escaping_map]
    exact requiredString_quiet _ false _
  · rw [escaping_map]
    exact identifier_quiet _ _

theorem optional_quiet {check : PyValue → Except PyError PyValue} {value : PyValue}
    (quiet : ¬ Escaping .overflow (check value)) : ¬ Escaping .overflow (optional check value) := by
  unfold optional
  split
  · exact escaping_ok _
  · exact quiet

theorem sequenceOf_quiet {name : PyString} {problem : String}
    {check : PyValue → Except PyError PyValue} {value : PyValue}
    (quiet : ∀ item, ¬ Escaping .overflow (check item)) :
    ¬ Escaping .overflow (sequenceOf name problem check value) := by
  unfold sequenceOf
  split
  · rw [escaping_map]
    exact not_escaping_mapM fun item _ => quiet item
  · simp

theorem mapping_quiet (name : PyString) (value : PyValue) :
    ¬ Escaping .overflow (mapping name value) := by
  unfold mapping
  split
  · simp
  · exact freezeJson_quiet _
  · simp

theorem contractValue_quiet (value : PyValue) : ¬ Escaping .overflow (contractValue value) := by
  unfold contractValue
  split
  · simp
  · exact freezeJson_quiet _

theorem runtimeValue_quiet (name : PyString) (expected : ValueType) (suffix : String)
    (value : PyValue) : ¬ Escaping .overflow (runtimeValue name expected suffix value) := by
  unfold runtimeValue
  split <;> simp

theorem runtimeValues_quiet (name : PyString) (expected : ValueType) (value : PyValue) :
    ¬ Escaping .overflow (runtimeValues name expected value) := by
  refine sequenceOf_quiet fun item => ?_
  unfold runtimeItem
  split <;> simp

theorem enumeration_quiet (members : List PyString) (problem : PyValue → Message)
    (value : PyValue) : ¬ Escaping .overflow (enumeration members problem value) := by
  unfold enumeration
  split
  · split <;> simp
  · simp

end Quiet

section Fields

/-- An integer that no float holds. -/
def TooLarge (value : PyValue) : Prop :=
  ∃ number, value = .int number ∧ Binary64.ofInt? number = none

/-- An aware time whose UTC time is out of the range of years. -/
def OutOfRange (value : PyValue) : Prop :=
  ∃ moment offset, givenTime value = .ok moment ∧ moment.offset = some offset ∧
    astimezoneUtc moment offset = none

/-- `float(value)` by any conversion of integers.  The conversion to doubles is
left abstract where the kernel would compute with it. -/
def toFloatBy (convert : Int → Option Binary64) : PyValue → Option (Except PyError Binary64)
  | .int value =>
      match convert value with
      | some result => some (.ok result)
      | none => some (.error (.overflowError (plain "int too large to convert to float")))
  | .float value => some (.ok value)
  | _ => none

theorem toFloat?_eq : toFloat? = toFloatBy Binary64.ofInt? := rfl

theorem escaping_toFloatBy (convert : Int → Option Binary64) {value : PyValue} :
    (∃ converted, toFloatBy convert value = some converted ∧ Escaping .overflow converted) ↔
      ∃ number, value = .int number ∧ convert number = none := by
  cases value with
  | int number =>
      cases ranged : convert number with
      | none => simp [toFloatBy, ranged]
      | some result => simp [toFloatBy, ranged]
  | float number => simp [toFloatBy]
  | none | bool | str | bytes | datetime | list | tuple | dict | frozenDict | runtime | other =>
      simp [toFloatBy]

theorem toFloatBy_fits (convert : Int → Option Binary64) {value : PyValue}
    {converted : Except PyError Binary64} (isNumber : toFloatBy convert value = some converted)
    (fits : ¬ ∃ number, value = .int number ∧ convert number = none) :
    ∃ number, converted = .ok number := by
  cases value with
  | int number =>
      cases ranged : convert number with
      | none => exact absurd ⟨number, rfl, ranged⟩ fits
      | some result =>
          simp only [toFloatBy, ranged, Option.some.injEq] at isNumber
          exact ⟨result, isNumber.symm⟩
  | float number =>
      simp only [toFloatBy, Option.some.injEq] at isNumber
      exact ⟨number, isNumber.symm⟩
  | none | bool | str | bytes | datetime | list | tuple | dict | frozenDict | runtime | other =>
      simp [toFloatBy] at isNumber

theorem escaping_toFloat {value : PyValue} :
    (∃ converted, toFloat? value = some converted ∧ Escaping .overflow converted) ↔
      TooLarge value := by
  rw [toFloat?_eq]
  exact escaping_toFloatBy _

theorem toFloat_of_not_tooLarge {value : PyValue} {converted : Except PyError Binary64}
    (isNumber : toFloat? value = some converted) (fits : ¬ TooLarge value) :
    ∃ number, converted = .ok number := by
  rw [toFloat?_eq] at isNumber
  exact toFloatBy_fits _ isNumber fits

theorem nonNegativeFinite_quiet (name : PyString) (number : Binary64) :
    ¬ Escaping .overflow (nonNegativeFinite name number) := by
  refine not_escaping_bind (freezeJson_quiet _) fun frozen => ?_
  split <;> simp

theorem escaping_float {name : PyString} {value : PyValue} :
    Escaping .overflow (float name value) ↔ TooLarge value := by
  unfold float
  rw [← escaping_toFloat]
  cases converted : toFloat? value with
  | none => simp
  | some result =>
      change Escaping .overflow (result >>= nonNegativeFinite name) ↔ _
      rw [escaping_bind]
      simp [nonNegativeFinite_quiet]

theorem givenTime_quiet (value : PyValue) : ¬ Escaping .overflow (givenTime value) := by
  unfold givenTime
  split
  · simp
  · split <;> simp
  · simp

theorem escaping_timestamp {value : PyValue} :
    Escaping .overflow (timestamp value) ↔ OutOfRange value := by
  rw [timestamp, escaping_bind]
  constructor
  · rintro (overflows | ⟨moment, given, overflows⟩)
    · exact absurd overflows (givenTime_quiet value)
    · unfold utcTimestamp at overflows
      split at overflows
      · exact absurd overflows (by simp)
      · rename_i offset aware
        split at overflows
        · rename_i outOfRange
          exact ⟨moment, offset, given, aware, outOfRange⟩
        · exact absurd overflows (escaping_ok _)
  · rintro ⟨moment, offset, given, aware, outOfRange⟩
    refine .inr ⟨moment, given, ?_⟩
    simp [utcTimestamp, aware, outOfRange]

theorem escaping_namedTimestamp {name : PyString} {value : PyValue} :
    Escaping .overflow (namedTimestamp name value) ↔ OutOfRange value := by
  rw [← escaping_timestamp, namedTimestamp]
  split
  · rename_i message failed
    rw [failed]
    simp
  · rename_i message failed
    rw [failed]
    simp
  · exact Iff.rfl

/-- The first item that is no float of a sequence is too large for one. -/
def FirstTooLarge (name : PyString) (value : PyValue) : Prop :=
  ∃ before item after, value.sequence? = some (before ++ item :: after) ∧
    (∀ earlier ∈ before, ∃ number, float (itemName name) earlier = .ok number) ∧ TooLarge item

/-- When the check of a field overflows. -/
def FieldKind.Overflows (kind : FieldKind) (name : PyString) (value : PyValue) : Prop :=
  match kind with
  | .optionalFloat => TooLarge value
  | .floats => FirstTooLarge name value
  | .timestamp | .namedTimestamp => OutOfRange value
  | _ => False

theorem FieldKind.escaping_normalize (kind : FieldKind) (name : PyString) (value : PyValue) :
    Escaping .overflow (kind.normalize name value) ↔ kind.Overflows name value := by
  cases kind with
  | optionalFloat =>
      simp only [normalize, Overflows, optional]
      split
      · refine iff_of_false (escaping_ok _) ?_
        rintro ⟨number, isInt, -⟩
        cases isInt
      · rw [escaping_map, escaping_float]
  | floats =>
      simp only [normalize, Overflows, FirstTooLarge, sequenceOf]
      cases value.sequence? with
      | none => simp
      | some items =>
          simp only [escaping_map, escaping_mapM, escaping_float, Option.some.injEq]
          have accepts : ∀ item, (∃ result, (float (itemName name) item).map PyValue.float =
              .ok result) ↔ ∃ number, float (itemName name) item = .ok number := by
            intro item
            cases float (itemName name) item <;> simp [Except.map]
          simp only [accepts]
  | timestamp =>
      simp only [normalize, Overflows, escaping_map]
      exact escaping_timestamp
  | namedTimestamp =>
      simp only [normalize, Overflows, escaping_map]
      exact escaping_namedTimestamp
  | requiredString =>
      simp only [normalize, Overflows, escaping_map, iff_false]
      exact requiredString_quiet _ _ _
  | optionalString =>
      refine iff_of_false (optional_quiet ?_) id
      rw [escaping_map]
      exact requiredString_quiet _ _ _
  | strings =>
      refine iff_of_false (sequenceOf_quiet fun item => ?_) id
      rw [escaping_map]
      exact requiredString_quiet _ _ _
  | integer =>
      simp only [normalize, Overflows, escaping_map, iff_false]
      exact integer_quiet _ _
  | identifier =>
      simp only [normalize, Overflows, escaping_map, iff_false]
      exact identifier_quiet _ _
  | optionalIdentifier =>
      refine iff_of_false (optional_quiet ?_) id
      rw [escaping_map]
      exact identifier_quiet _ _
  | identifiers =>
      refine iff_of_false (sequenceOf_quiet fun item => ?_) id
      rw [escaping_map]
      exact identifier_quiet _ _
  | identity => exact iff_of_false (identity_quiet _ _) id
  | boolean =>
      simp only [normalize, Overflows, escaping_map, iff_false]
      exact boolean_quiet _ _
  | optionalBoolean =>
      refine iff_of_false (optional_quiet ?_) id
      rw [escaping_map]
      exact boolean_quiet _ _
  | mapping => exact iff_of_false (mapping_quiet _ _) id
  | contractValue => exact iff_of_false (contractValue_quiet _) id
  | contractValues => exact iff_of_false (sequenceOf_quiet contractValue_quiet) id
  | runtimeValue => exact iff_of_false (runtimeValue_quiet _ _ _ _) id
  | optionalRuntimeValue => exact iff_of_false (optional_quiet (runtimeValue_quiet _ _ _ _)) id
  | runtimeValues => exact iff_of_false (runtimeValues_quiet _ _ _) id
  | predicateValues =>
      simp only [normalize, Overflows, iff_false, Runtime.predicateValues]
      split
      · simp
      · exact runtimeValues_quiet _ _ _
  | spaValue =>
      simp only [normalize, Overflows, iff_false, Runtime.spaValue]
      split <;> simp
  | identifierOrChoice =>
      simp only [normalize, Overflows, iff_false, Runtime.identifierOrChoice]
      split
      · simp
      · rw [escaping_map]
        exact identifier_quiet _ _
  | enumeration => exact iff_of_false (enumeration_quiet _ _ _) id
  | optionalEnumeration => exact iff_of_false (optional_quiet (enumeration_quiet _ _ _)) id
  | path => exact iff_of_false (sequenceOf_quiet pathComponent_quiet) id

end Fields

section Comparison

/-- When the numeric comparison of a predicate overflows: one of the two numbers
is too large for a float. -/
structure ComparisonOverflows (predicate observation : PyValue) : Prop where
  approximate : (predicate.get .operator).isMember ConfirmationOperator.approximatelyEquals = true
  bound : ∃ bound, predicate.get .tolerance = .float bound
  numbers : ∃ document value, observed observation = .ok document ∧
    resolvePath document (predicate.get .path).items = some value ∧
    (toFloat? value).isSome = true ∧ (toFloat? (predicate.get .expected)).isSome = true ∧
    (TooLarge value ∨ TooLarge (predicate.get .expected))

theorem escaping_approximatelyEqual {value expected tolerance : PyValue} :
    Escaping .overflow (approximatelyEqual value expected tolerance) ↔
      (∃ bound, tolerance = .float bound) ∧ (toFloat? value).isSome = true ∧
        (toFloat? expected).isSome = true ∧ (TooLarge value ∨ TooLarge expected) := by
  unfold approximatelyEqual
  split
  · rename_i left right bound isLeft isRight
    have compares : ∀ first second : Binary64, ¬ Escaping .overflow
        (.ok ((first.sub second).abs.le bound) : Except PyError Bool) :=
      fun first second => escaping_ok _
    have leftOverflows : Escaping .overflow left ↔ TooLarge value := by
      rw [← escaping_toFloat, isLeft]
      simp
    have rightOverflows : Escaping .overflow right ↔ TooLarge expected := by
      rw [← escaping_toFloat, isRight]
      simp
    simp only [escaping_bind, compares, and_false, exists_false, or_false, leftOverflows,
      rightOverflows, isLeft, isRight, Option.isSome_some, true_and, PyValue.float.injEq,
      exists_eq']
    constructor
    · rintro (tooLarge | ⟨first, -, tooLarge⟩)
      · exact .inl tooLarge
      · exact .inr tooLarge
    · intro tooLarge
      by_cases leftLarge : TooLarge value
      · exact .inl leftLarge
      · obtain ⟨number, isNumber⟩ := toFloat_of_not_tooLarge isLeft leftLarge
        exact .inr ⟨number, isNumber, tooLarge.resolve_left leftLarge⟩
  · rename_i notNumbers
    refine iff_of_false (escaping_ok _) ?_
    rintro ⟨⟨bound, isBound⟩, isLeft, isRight, -⟩
    obtain ⟨left, leftFound⟩ := Option.isSome_iff_exists.mp isLeft
    obtain ⟨right, rightFound⟩ := Option.isSome_iff_exists.mp isRight
    exact notNumbers left right bound leftFound rightFound isBound

theorem comparable_quiet (value : PyValue) : ¬ Escaping .overflow (comparable value) := by
  unfold comparable
  split
  · exact not_escaping_bind (serialize_quiet _) fun document => freezeJson_quiet document
  · exact freezeJson_quiet _

theorem observed_quiet (observation : PyValue) : ¬ Escaping .overflow (observed observation) := by
  unfold observed
  split
  · exact serialize_quiet _
  · exact escaping_ok _

/-- A value is one member of an enumeration only. -/
theorem not_isMember_of_isMember {Member : Type} [StringEnum Member] {value : PyValue}
    {member other : Member} (isMember : value.isMember member = true)
    (different : StringEnum.text member ≠ StringEnum.text other) :
    value.isMember other = false := by
  unfold PyValue.isMember at isMember ⊢
  split
  · rename_i string
    rw [decide_eq_true_eq] at isMember
    rw [decide_eq_false_iff_not, isMember]
    exact different
  · rfl

theorem escaping_predicateMatches {predicate observation : PyValue} :
    Escaping .overflow (predicateMatches predicate observation) ↔
      ComparisonOverflows predicate observation := by
  unfold predicateMatches
  rw [escaping_bind]
  constructor
  · rintro (overflows | ⟨document, isDocument, overflows⟩)
    · exact absurd overflows (observed_quiet observation)
    · dsimp only at overflows
      split at overflows
      · exact absurd overflows (escaping_ok _)
      · split at overflows
        · exact absurd overflows (escaping_ok _)
        · split at overflows
          · exact absurd overflows (escaping_ok _)
          · rename_i value resolved
            split at overflows
            · rename_i approximate
              obtain ⟨bound, isValue, isExpected, tooLarge⟩ :=
                escaping_approximatelyEqual.mp overflows
              exact ⟨approximate, bound, document, value, isDocument, resolved, isValue, isExpected,
                tooLarge⟩
            · refine absurd overflows ?_
              refine not_escaping_bind (comparable_quiet _) fun left => ?_
              exact not_escaping_bind (comparable_quiet _) fun right => escaping_ok _
  · rintro ⟨approximate, bound, document, value, isDocument, resolved, isValue, isExpected,
      tooLarge⟩
    refine .inr ⟨document, isDocument, ?_⟩
    have notPresent := not_isMember_of_isMember approximate
      (show StringEnum.text _ ≠ StringEnum.text ConfirmationOperator.present by decide)
    have notAbsent := not_isMember_of_isMember approximate
      (show StringEnum.text _ ≠ StringEnum.text ConfirmationOperator.absent by decide)
    rw [PyValue.items] at resolved
    simp only [notPresent, notAbsent, approximate, resolved, if_true, Bool.false_eq_true, if_false]
    exact escaping_approximatelyEqual.mpr ⟨bound, isValue, isExpected, tooLarge⟩

end Comparison

section Constructors

/-- When a step of a constructor overflows. -/
def Check.Overflows (check : Check) (record : Record) : Prop :=
  match check with
  | .field name kind => kind.Overflows name.text (record name)
  | .tolerance =>
      (record .operator).isMember ConfirmationOperator.approximatelyEquals = true ∧
        (toFloat? (record .expected)).isSome = true ∧ TooLarge (record .tolerance)
  | .rule2 .predicate .observation _ =>
      ComparisonOverflows (record .predicate) (record .observation)
  | _ => False

/-- The call of a class gets to a step that overflows. -/
def ConstructionOverflows (type : ValueType) (arguments : List (FieldName × PyValue)) : Prop :=
  (∀ argument ∈ arguments, argument.1 ∈ fieldNames type) ∧ missingArguments type arguments = [] ∧
    ∃ before check after record, checks type = before ++ check :: after ∧
      runSteps (before.map Check.step) (initialRecord type arguments) = .ok record ∧
      check.Overflows record

theorem escaping_predicateTolerance {operator expected tolerance : PyValue} :
    Escaping .overflow (predicateTolerance operator expected tolerance) ↔
      operator.isMember ConfirmationOperator.approximatelyEquals = true ∧
        (toFloat? expected).isSome = true ∧ TooLarge tolerance := by
  have convert : Escaping .overflow (approximateTolerance tolerance) ↔ TooLarge tolerance := by
    rw [← escaping_toFloat, approximateTolerance]
    cases toFloat? tolerance with
    | none => simp
    | some converted =>
        have bounded : ∀ bound : Binary64, ¬ Escaping .overflow (do
            requireValue (bound.isFinite && !bound.lt Binary64.zero)
              (plain "approximately_equals tolerance must be finite and non-negative")
            .ok (PyValue.float bound)) := fun bound =>
          not_escaping_bind (requireValue_quiet _ _) fun passed => escaping_ok _
        simp [escaping_bind, bounded]
  unfold predicateTolerance
  by_cases approximate : operator.isMember ConfirmationOperator.approximatelyEquals
  · have notPresent := not_isMember_of_isMember approximate
      (show StringEnum.text _ ≠ StringEnum.text ConfirmationOperator.present by decide)
    have notAbsent := not_isMember_of_isMember approximate
      (show StringEnum.text _ ≠ StringEnum.text ConfirmationOperator.absent by decide)
    rw [escaping_bind]
    simp only [requireValue_quiet, false_or, approximate, if_true, true_and, escaping_bind,
      requireType_quiet, convert]
    simp only [notPresent, notAbsent, Bool.or_self, Bool.not_false, Bool.true_or, requireValue,
      if_true, exists_const, true_and, requireType]
    cases isNumber : (toFloat? expected).isSome with
    | true => simp
    | false => simp
  · refine iff_of_false ?_ fun overflows => approximate overflows.1
    refine not_escaping_bind (requireValue_quiet _ _) fun passed => ?_
    rw [if_neg approximate]
    exact not_escaping_bind (requireValue_quiet _ _) fun passed => escaping_ok _

theorem deadlineRule_quiet {requestedAt deadlineAt : PyValue}
    (requested : ¬ OutOfRange requestedAt) (deadline : ¬ OutOfRange deadlineAt) :
    ¬ Escaping .overflow (deadlineRule requestedAt deadlineAt) := by
  have parses : ∀ {value : PyValue}, ¬ OutOfRange value →
      ¬ Escaping .overflow (parseTimestamp value) := by
    intro value inRange
    refine not_escaping_bind (escaping_namedTimestamp.not.mpr inRange) fun normalized => ?_
    split <;> simp
  refine not_escaping_bind (parses deadline) fun limit => ?_
  exact not_escaping_bind (parses requested) fun start => requireValue_quiet _ _

theorem dispositionRule_quiet (disposition failureCode : PyValue)
    (expected : MutationDispatchDisposition) :
    ¬ Escaping .overflow (dispositionRule disposition failureCode expected) :=
  requireValue_quiet _ _

theorem ticketRule_quiet (disposition failureCode dispatchOrder : PyValue) :
    ¬ Escaping .overflow (ticketRule disposition failureCode dispatchOrder) := by
  have rest : ¬ Escaping .overflow (do
      dispositionRule disposition failureCode .rejected
      dispositionRule disposition failureCode .failed
      dispositionRule disposition failureCode .cancelled) := by
    refine not_escaping_bind (dispositionRule_quiet _ _ _) fun passed => ?_
    exact not_escaping_bind (dispositionRule_quiet _ _ _) fun passed => dispositionRule_quiet _ _ _
  unfold ticketRule
  split
  · refine not_escaping_bind (requireValue_quiet _ _) fun passed => ?_
    exact not_escaping_bind (requireValue_quiet _ _) fun passed => rest
  · exact not_escaping_bind (requireValue_quiet _ _) fun passed => rest

theorem outcomeRule_quiet (status failure confirmations : PyValue) :
    ¬ Escaping .overflow (outcomeRule status failure confirmations) := by
  unfold outcomeRule
  split
  · exact not_escaping_bind (requireValue_quiet _ _) fun passed => requireValue_quiet _ _
  · exact not_escaping_bind (requireValue_quiet _ _) fun passed => requireValue_quiet _ _

theorem escaping_confirmationRule {predicate observation : PyValue} :
    Escaping .overflow (confirmationRule predicate observation) ↔
      ComparisonOverflows predicate observation := by
  rw [confirmationRule, escaping_bind, escaping_predicateMatches]
  simp [requireValue_quiet]

theorem uniqueIndex_quiet (fields : List FieldName) (description : String) (values : List PyValue) :
    ∀ seen, ¬ Escaping .overflow (uniqueIndex fields description seen values) := by
  induction values with
  | nil => exact fun seen => escaping_ok _
  | cons value rest inductionHypothesis =>
      intro seen
      rw [uniqueIndex]
      split
      · simp
      · exact inductionHypothesis _

/-- Steps that never overflow never do in a run. -/
theorem runSteps_quiet {steps : List ClassStep} {record : Record}
    (quiet : ∀ step ∈ steps, ∀ reached, ¬ Escaping .overflow (step.run reached)) :
    ¬ Escaping .overflow (runSteps steps record) := by
  rintro ⟨error, failed, escapes⟩
  obtain ⟨before, step, after, reached, split, -, here⟩ := runSteps_error_iff.mp failed
  exact quiet step (by simp [split]) reached ⟨error, here, escapes⟩

theorem missingValue_quiet (missing : Missing) : ¬ Escaping .overflow missing.value := by
  unfold Missing.value
  split
  · simp [digitLimit]
  rw [escaping_map]
  refine runSteps_quiet fun step member reached => ?_
  have ofField : ∀ name, ∀ kind : FieldKind, ¬ kind.Overflows name.text (reached name) →
      ¬ Escaping .overflow ((fieldStep name kind).run reached) := by
    intro name kind fits
    rw [fieldStep, Step.run, escaping_map, FieldKind.escaping_normalize]
    exact fits
  simp only [unresolvedSteps, List.mem_cons, List.not_mem_nil, or_false] at member
  rcases member with isStep | isStep | isStep | isStep | isStep | isStep <;> subst isStep <;>
    exact ofField _ _ id

theorem resolveRelationships_quiet (snapshot : Contents) (supplied : PyValue) :
    ¬ Escaping .overflow (snapshot.resolveRelationships supplied) := by
  refine not_escaping_bind (runtimeValues_quiet _ _ _) fun items => ?_
  have indexes : ¬ Escaping .overflow snapshot.uniqueIndexes := by
    unfold Contents.uniqueIndexes
    iterate 7
      refine not_escaping_bind (uniqueIndex_quiet _ _ _ _) fun passed => ?_
    exact uniqueIndex_quiet _ _ _ _
  refine not_escaping_bind indexes fun passed => ?_
  have computed : ¬ Escaping .overflow snapshot.findUnresolvedRelationships :=
    not_escaping_mapM fun missing _ => missingValue_quiet missing
  refine not_escaping_bind computed fun values => ?_
  exact not_escaping_bind (requireValue_quiet _ _) fun passed => escaping_ok _

/-- What is known of the rules between fields. -/
def Check.Ruled : Check → Prop
  | .rule1 _ check => ∀ value, ¬ Escaping .overflow (check value)
  | .rule2 .predicate .observation check => check = confirmationRule
  | .rule2 .requestedAt .deadlineAt check => check = deadlineRule
  | .rule2 _ _ check => ∀ first second, ¬ Escaping .overflow (check first second)
  | .rule3 _ _ _ check => ∀ first second third, ¬ Escaping .overflow (check first second third)
  | _ => True

theorem checks_ruled (type : ValueType) : ∀ check ∈ checks type, check.Ruled := by
  have field : ∀ name kind, (Check.field name kind).Ruled := fun _ _ => trivial
  have relationships : Check.relationships.Ruled := trivial
  have tolerance : Check.tolerance.Ruled := trivial
  cases type <;>
    simp only [checks, eachField, enumField, List.map_cons, List.map_nil, List.cons_append,
      List.nil_append, List.forall_mem_cons, List.not_mem_nil, false_imp_iff, implies_true, field,
      relationships, tolerance, and_self, and_true, true_and]
  case runtimeSnapshot => exact fun _ _ => requireValue_quiet _ _
  case runtimeEvent =>
    exact ⟨fun _ _ => requireValue_quiet _ _, fun _ _ => requireValue_quiet _ _,
      fun _ _ => requireValue_quiet _ _⟩
  case mutationTarget => exact fun _ => requireValue_quiet _ _
  case mutationRequest => exact rfl
  case mutationFailure => exact fun _ _ => requireValue_quiet _ _
  case mutationConfirmation => exact rfl
  case mutationOutcome => exact ⟨fun _ _ => requireValue_quiet _ _, outcomeRule_quiet⟩
  case mutationDispatchTicket => exact ticketRule_quiet

variable {type : ValueType} {before after : List Check} {check : Check} {start record : Record}

/-- A field that a step reads has passed its own check before. -/
theorem settled_before (split : checks type = before ++ check :: after)
    (ran : runSteps (before.map Check.step) start = .ok record) {name : FieldName}
    {kind : FieldKind} (isField : .field name kind ∈ checks type)
    (isRead : name ∈ check.step.footprint) (different : .field name kind ≠ check) :
    (fieldStep name kind).run record = .ok record := by
  have ordered := steps_ordered type
  rw [steps, split, List.map_append, List.map_cons, Ordered, List.pairwise_append,
    List.pairwise_cons] at ordered
  rw [split, List.mem_append, List.mem_cons] at isField
  rcases isField with isBefore | isCheck | isAfter
  · exact runSteps_settled ordered.1 ran _ (List.mem_map.mpr ⟨_, isBefore, rfl⟩)
  · exact absurd isCheck different
  · have isTarget : name ∈ (Check.step (.field name kind)).target := rfl
    exact absurd isRead
      (ordered.2.1.1 _ (List.mem_map.mpr ⟨_, isAfter, rfl⟩) name isTarget)

/-- The times of a request are normalized before they are compared. -/
theorem deadline_inRange (split : checks type = before ++ check :: after)
    (ran : runSteps (before.map Check.step) start = .ok record)
    (isRule : check = .rule2 .requestedAt .deadlineAt deadlineRule) :
    ¬ OutOfRange (record .requestedAt) ∧ ¬ OutOfRange (record .deadlineAt) := by
  have member : check ∈ checks type := by simp [split]
  have isRequest : type = .mutationRequest := by
    rw [isRule] at member
    cases type <;> simp [checks, eachField, enumField] at member ⊢
  have inRange : ∀ name, name = .requestedAt ∨ name = .deadlineAt →
      ¬ OutOfRange (record name) := by
    intro name isName
    have isField : .field name .namedTimestamp ∈ checks type := by
      rcases isName with isName | isName <;> simp [isName, isRequest, checks]
    have isRead : name ∈ check.step.footprint := by
      rcases isName with isName | isName <;>
        simp [isName, isRule, Check.step, rule2Step, Step.footprint]
    have settled := settled_before split ran isField isRead (by simp [isRule])
    obtain ⟨normalized, accepted, -⟩ := map_ok settled
    rw [← @escaping_namedTimestamp name.text]
    obtain ⟨written, isText, -⟩ := map_ok accepted
    rw [isText]
    exact escaping_ok _
  exact ⟨inRange _ (.inl rfl), inRange _ (.inr rfl)⟩

/-- A step that a run comes to overflows as its check says. -/
theorem Check.escaping_run (split : checks type = before ++ check :: after)
    (ran : runSteps (before.map Check.step) start = .ok record) :
    Escaping .overflow (check.step.run record) ↔ check.Overflows record := by
  have ruled := checks_ruled type check (by simp [split])
  cases check with
  | field name kind =>
      rw [step, fieldStep, Step.run, escaping_map, kind.escaping_normalize]
      exact Iff.rfl
  | tolerance =>
      rw [step, toleranceStep, Step.run, escaping_map, escaping_predicateTolerance]
      exact Iff.rfl
  | relationships =>
      refine iff_of_false ?_ id
      rw [step, relationshipsStep, Step.run, escaping_map]
      exact resolveRelationships_quiet _ _
  | rule1 first rule =>
      refine iff_of_false ?_ id
      rw [step, rule1Step, Step.run, escaping_map]
      exact ruled _
  | rule3 first second third rule =>
      refine iff_of_false ?_ id
      rw [step, rule3Step, Step.run, escaping_map]
      exact ruled _ _ _
  | rule2 first second rule =>
      rw [step, rule2Step, Step.run, escaping_map]
      unfold Ruled at ruled
      split at ruled
      · rename_i isRule
        cases isRule
      · rename_i isRule
        cases isRule
        rw [ruled, escaping_confirmationRule]
        exact Iff.rfl
      · rename_i isRule
        cases isRule
        rw [ruled] at split ⊢
        obtain ⟨requested, deadline⟩ := deadline_inRange split ran rfl
        exact iff_of_false (deadlineRule_quiet requested deadline) id
      · rename_i notConfirmation notDeadline isRule
        cases isRule
        refine iff_of_false (ruled _ _) ?_
        unfold Overflows
        split
        · rename_i isRule
          cases isRule
        · rename_i isRule
          cases isRule
        · rename_i isRule
          cases isRule
          exact absurd rfl (notConfirmation rfl)
        · exact id
      · rename_i isRule
        cases isRule
      · rename_i notRule1 notConfirmation notDeadline notRule2 notRule3
        exact absurd rfl (notRule2 _ _ _)

/-- A call of a class overflows as its steps do. -/
theorem escaping_construct {arguments : List (FieldName × PyValue)} :
    Escaping .overflow (construct type arguments) ↔ ConstructionOverflows type arguments := by
  unfold construct ConstructionOverflows
  split
  · rename_i unknown
    refine iff_of_false (by simp) fun overflows => ?_
    simp only [Bool.not_eq_true', List.all_eq_false, decide_eq_true_eq] at unknown
    obtain ⟨argument, member, notField⟩ := unknown
    exact notField (overflows.1 argument member)
  · rename_i known
    split
    · rename_i incomplete
      refine iff_of_false (by simp) fun overflows => ?_
      rw [overflows.2.1] at incomplete
      simp at incomplete
    · rename_i complete
      rw [escaping_map]
      constructor
      · rintro ⟨error, failed, escapes⟩
        obtain ⟨ranSteps, step, laterSteps, reached, split, ran, here⟩ := runSteps_error_iff.mp failed
        obtain ⟨ranChecks, rest, isChecks, isRan, isRest⟩ := List.map_eq_append_iff.mp split
        obtain ⟨check, later, isRestChecks, isStep, -⟩ := List.map_eq_cons_iff.mp isRest
        rw [isRestChecks] at isChecks
        rw [← isRan] at ran
        refine ⟨by simpa using known, by simpa using complete, ranChecks, check, later, reached,
          isChecks, ran, ?_⟩
        rw [← Check.escaping_run isChecks ran, isStep]
        exact ⟨error, here, escapes⟩
      · rintro ⟨-, -, ranChecks, check, later, reached, split, ran, overflows⟩
        obtain ⟨error, here, escapes⟩ := (Check.escaping_run split ran).mpr overflows
        refine ⟨error, runSteps_error_iff.mpr ⟨_, check.step, later.map Check.step, reached, ?_, ran,
          here⟩, escapes⟩
        rw [steps, split, List.map_append, List.map_cons]

end Constructors

end WyrePlumber.Runtime
