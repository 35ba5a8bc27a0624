import WyrePlumber.Runtime.Classes

/-!
# Constructible values

The Python objects that a program can build: containers of such objects,
frozen mappings made by freezing and runtime values made by their constructors.
Every runtime value among them is stored in normal form: its fields hold frozen
JSON, runtime values in normal form or tuples of these, and every step of its
constructor accepts them as they stand.
-/

set_option autoImplicit false
set_option linter.constructorNameAsVariable false

namespace WyrePlumber.Runtime

open Python RecordValidation Results

/-- The objects that a program can build. -/
inductive Constructible : PyValue → Prop where
  | none : Constructible .none
  | bool (value : Bool) : Constructible (.bool value)
  | int (value : Int) : Constructible (.int value)
  | float (value : Binary64) : Constructible (.float value)
  | str (value : PyString) : Constructible (.str value)
  | bytes (value : List UInt8) : Constructible (.bytes value)
  | datetime (value : Calendar.DateTime) : Constructible (.datetime value)
  | other (className : PyString) (identity : Nat) : Constructible (.other className identity)
  | list {items : List PyValue} (items_ok : ∀ item ∈ items, Constructible item) :
      Constructible (.list items)
  | tuple {items : List PyValue} (items_ok : ∀ item ∈ items, Constructible item) :
      Constructible (.tuple items)
  | dict {items : List (PyString × PyValue)} (distinct : (items.map Prod.fst).Nodup)
      (items_ok : ∀ item ∈ items, Constructible item.2) : Constructible (.dict items)
  | frozenDict {items : List (PyString × PyValue)} {value : PyValue}
      (distinct : (items.map Prod.fst).Nodup) (items_ok : ∀ item ∈ items, Constructible item.2)
      (made : freezeJson (.dict items) = .ok value) : Constructible value
  | runtime {type : ValueType} {arguments : List (FieldName × PyValue)} {value : PyValue}
      (arguments_ok : ∀ argument ∈ arguments, Constructible argument.2)
      (made : construct type arguments = .ok value) : Constructible value

/-- What a field of a runtime value holds. -/
inductive Stored : PyValue → Prop where
  | frozen {value : PyValue} (frozen : Frozen value) : Stored value
  | tuple {items : List PyValue} (stored : ∀ item ∈ items, Stored item) : Stored (.tuple items)
  | runtime (type : ValueType) (record : Record)
      (settled : ∀ step ∈ steps type, step.run record = .ok record)
      (stored : ∀ name ∈ fieldNames type, Stored (record name)) :
      Stored (toRuntime type (fieldNames type) record)

section Freezing

/-- A frozen object comes from objects that freeze to frozen ones. -/
theorem frozen_items {items frozenItems : List (PyString × PyValue)}
    (distinct : (items.map Prod.fst).Nodup)
    (freezes : ∀ item ∈ items, ∀ frozen, freezeJson item.2 = .ok frozen → Frozen frozen)
    (made : freezeItems items = .ok frozenItems) : Frozen (.frozenDict frozenItems) := by
  rw [freezeItems_eq] at made
  have related := mapM_ok_iff.mp made
  refine .frozenDict ?_ ?_
  · have sameKeys : frozenItems.map Prod.fst = items.map Prod.fst := by
      clear made distinct freezes
      induction related with
      | nil => rfl
      | cons first rest inductionHypothesis =>
          obtain ⟨frozen, -, isItem⟩ := map_ok first
          rw [List.map_cons, List.map_cons, inductionHypothesis, ← isItem]
    rw [sameKeys]
    exact distinct
  · intro item member
    obtain ⟨origin, inItems, originFrozen⟩ := exists_of_mem_mapM made member
    obtain ⟨frozen, frozenOk, isItem⟩ := map_ok originFrozen
    rw [← isItem]
    exact freezes origin inItems frozen frozenOk

theorem frozen_tuple {items : List PyValue} {frozen : PyValue}
    (freezes : ∀ item ∈ items, ∀ frozen, freezeJson item = .ok frozen → Frozen frozen)
    (accepted : (freezeAll items).map .tuple = .ok frozen) : Frozen frozen := by
  obtain ⟨values, traversed, isFrozen⟩ := map_ok accepted
  rw [freezeAll_eq] at traversed
  rw [← isFrozen]
  refine .tuple fun item member => ?_
  obtain ⟨origin, inItems, originFrozen⟩ := exists_of_mem_mapM traversed member
  exact freezes origin inItems item originFrozen

/-- Freezing a frozen object gives it back. -/
theorem Frozen.freezeJson_self {value : PyValue} (frozen : Frozen value) :
    freezeJson value = .ok value := by
  induction frozen with
  | none | bool | int | str | frozenDict => rfl
  | float finite => rw [freezeJson, if_pos finite]
  | tuple frozen inductionHypothesis =>
      rw [freezeJson, freezeAll_eq, mapM_ok_self inductionHypothesis]
      rfl

end Freezing

section Usable

/-- What an argument of a constructor is good for: freezing gives frozen JSON,
its items are as good, and a runtime value is in normal form. -/
inductive Usable : PyValue → Prop where
  | stored {value : PyValue} (stored : Stored value) : Usable value
  | list {items : List PyValue} (usable : ∀ item ∈ items, Usable item) : Usable (.list items)
  | tuple {items : List PyValue} (usable : ∀ item ∈ items, Usable item) : Usable (.tuple items)
  | plain {value : PyValue} (freezes : ∀ frozen, freezeJson value = .ok frozen → Frozen frozen)
      (noItems : value.sequence? = none) (noRuntime : ∀ type, value.isA type = false) :
      Usable value

theorem Stored.freezes {value frozen : PyValue} (stored : Stored value)
    (accepted : freezeJson value = .ok frozen) : Frozen frozen := by
  induction stored generalizing frozen with
  | frozen isFrozen =>
      rw [isFrozen.freezeJson_self] at accepted
      cases accepted
      exact isFrozen
  | tuple stored inductionHypothesis =>
      exact frozen_tuple (fun item member _ => inductionHypothesis item member) accepted
  | runtime => cases accepted

theorem Usable.freezes {value frozen : PyValue} (usable : Usable value)
    (accepted : freezeJson value = .ok frozen) : Frozen frozen := by
  induction usable generalizing frozen with
  | stored stored => exact stored.freezes accepted
  | list usable inductionHypothesis =>
      exact frozen_tuple (fun item member _ => inductionHypothesis item member) accepted
  | tuple usable inductionHypothesis =>
      exact frozen_tuple (fun item member _ => inductionHypothesis item member) accepted
  | plain freezes => exact freezes _ accepted

theorem Stored.items {value : PyValue} {items : List PyValue} (stored : Stored value)
    (isSequence : value.sequence? = some items) : ∀ item ∈ items, Stored item := by
  cases stored with
  | frozen frozen =>
      cases frozen with
      | tuple frozen =>
          cases isSequence
          exact fun item member => .frozen (frozen item member)
      | none | bool | int | float | str | frozenDict => cases isSequence
  | tuple stored =>
      cases isSequence
      exact stored
  | runtime => cases isSequence

theorem Usable.items {value : PyValue} {items : List PyValue} (usable : Usable value)
    (isSequence : value.sequence? = some items) : ∀ item ∈ items, Usable item := by
  cases usable with
  | stored stored => exact fun item member => .stored (stored.items isSequence item member)
  | list usable =>
      cases isSequence
      exact usable
  | tuple usable =>
      cases isSequence
      exact usable
  | plain freezes noItems noRuntime =>
      rw [noItems] at isSequence
      cases isSequence

theorem Usable.stored_of_isA {value : PyValue} {expected : ValueType} (usable : Usable value)
    (isExpected : value.isA expected = true) : Stored value := by
  cases usable with
  | stored stored => exact stored
  | list | tuple => cases isExpected
  | plain freezes noItems noRuntime =>
      rw [noRuntime] at isExpected
      cases isExpected

end Usable

section Normalize

/-- A check stores what it makes of a usable argument. -/
def Storing (check : PyValue → Except PyError PyValue) : Prop :=
  ∀ {value result}, check value = .ok result → Usable value → Stored result

variable {name : PyString}

theorem storing_optional {check : PyValue → Except PyError PyValue} (storing : Storing check) :
    Storing (optional check) := by
  intro value result accepted usable
  unfold optional at accepted
  split at accepted
  · cases accepted
    exact .frozen .none
  · exact storing accepted usable

theorem storing_sequenceOf {problem : String} {check : PyValue → Except PyError PyValue}
    (storing : Storing check) : Storing (sequenceOf name problem check) := by
  intro value result accepted usable
  unfold sequenceOf at accepted
  split at accepted
  · rename_i items isSequence
    obtain ⟨values, traversed, isResult⟩ := map_ok accepted
    rw [← isResult]
    refine .tuple fun item member => ?_
    obtain ⟨origin, inItems, checked⟩ := exists_of_mem_mapM traversed member
    exact storing checked (usable.items isSequence origin inItems)
  · cases accepted

theorem storing_map {α : Type} {check : PyValue → Except PyError α} {wrap : α → PyValue}
    (frozen : ∀ {value result}, check value = .ok result → Frozen (wrap result)) :
    Storing fun value => (check value).map wrap := by
  intro value result accepted usable
  obtain ⟨middle, checked, isResult⟩ := map_ok accepted
  rw [← isResult]
  exact .frozen (frozen checked)

theorem storing_string {allowEmpty : Bool} :
    Storing fun value => (requiredString name allowEmpty value).map .str :=
  storing_map fun _ => .str _

theorem storing_identifier : Storing fun value => (identifier name value).map .int :=
  storing_map fun _ => .int _

theorem identity_frozen {value result : PyValue} (accepted : identity name value = .ok result) :
    Frozen result := by
  unfold identity at accepted
  split at accepted
  · obtain ⟨string, -, isResult⟩ := map_ok accepted
    rw [← isResult]
    exact .str string
  · obtain ⟨number, -, isResult⟩ := map_ok accepted
    rw [← isResult]
    exact .int number

theorem pathComponent_frozen {value result : PyValue}
    (accepted : pathComponent value = .ok result) : Frozen result := by
  unfold pathComponent at accepted
  split at accepted
  · obtain ⟨string, -, isResult⟩ := map_ok accepted
    rw [← isResult]
    exact .str string
  · obtain ⟨number, -, isResult⟩ := map_ok accepted
    rw [← isResult]
    exact .int number

theorem float_frozen {value : PyValue} {result : Binary64} (accepted : float name value = .ok result) :
    Frozen (.float result) :=
  .float (nonNegativeFinite_ok (float_ok accepted)).2

theorem storing_mapping : Storing (mapping name) := by
  intro value result accepted usable
  have frozen : freezeJson value = .ok result := by
    unfold mapping at accepted
    split at accepted
    · exact accepted
    · exact accepted
    · cases accepted
  exact .frozen (usable.freezes frozen)

theorem storing_contractValue : Storing contractValue := by
  intro value result accepted usable
  unfold contractValue at accepted
  split at accepted
  · rename_i type fields
    cases accepted
    have isRuntime : (PyValue.runtime type fields).isA type = true := by simp [PyValue.isA]
    exact usable.stored_of_isA isRuntime
  · exact .frozen (usable.freezes accepted)

theorem storing_runtimeValue {expected : ValueType} {suffix : String} :
    Storing (runtimeValue name expected suffix) := by
  intro value result accepted usable
  rw [runtimeValue_same accepted]
  unfold runtimeValue at accepted
  split at accepted
  · exact usable.stored_of_isA (by assumption)
  · cases accepted

theorem storing_runtimeItem {expected : ValueType} : Storing (runtimeItem name expected) := by
  intro value result accepted usable
  rw [runtimeItem_same accepted]
  unfold runtimeItem at accepted
  split at accepted
  · exact usable.stored_of_isA (by assumption)
  · cases accepted

theorem storing_spaValue : Storing (spaValue name) := by
  intro value result accepted usable
  rw [spaValue_same accepted]
  unfold spaValue at accepted
  split at accepted
  · rename_i allowed
    simp only [Bool.or_eq_true] at allowed
    rcases allowed with (isNone | isId) | isChoice
    · cases value <;> first | exact .frozen .none | cases isNone
    · exact usable.stored_of_isA isId
    · exact usable.stored_of_isA isChoice
  · cases accepted

theorem storing_identifierOrChoice : Storing (identifierOrChoice name) := by
  intro value result accepted usable
  unfold identifierOrChoice at accepted
  split at accepted
  · rename_i allowed
    cases accepted
    simp only [Bool.or_eq_true] at allowed
    rcases allowed with isNone | isChoice
    · cases value <;> first | exact .frozen .none | cases isNone
    · exact usable.stored_of_isA isChoice
  · exact storing_identifier accepted usable

theorem storing_enumeration {members : List PyString} {problem : PyValue → Message} :
    Storing (enumeration members problem) := by
  intro value result accepted usable
  unfold enumeration at accepted
  split at accepted
  · split at accepted
    · cases accepted
      exact .frozen (.str _)
    · cases accepted
  · cases accepted

theorem storing_predicateValues : Storing (predicateValues name) := by
  intro value result accepted usable
  unfold predicateValues at accepted
  split at accepted
  · cases accepted
  · exact storing_sequenceOf storing_runtimeItem accepted usable

/-- Every check stores what it makes of a usable argument. -/
theorem FieldKind.normalize_storing (kind : FieldKind) (name : PyString) :
    Storing (kind.normalize name) := by
  cases kind with
  | requiredString => exact storing_string
  | optionalString => exact storing_optional storing_string
  | strings => exact storing_sequenceOf storing_string
  | integer => exact storing_map fun _ => .int _
  | identifier => exact storing_identifier
  | optionalIdentifier => exact storing_optional storing_identifier
  | identifiers => exact storing_sequenceOf storing_identifier
  | identity => exact fun accepted _ => .frozen (identity_frozen accepted)
  | boolean => exact storing_map fun _ => .bool _
  | optionalBoolean => exact storing_optional (storing_map fun _ => .bool _)
  | optionalFloat => exact storing_optional (storing_map float_frozen)
  | floats => exact storing_sequenceOf (storing_map float_frozen)
  | mapping => exact storing_mapping
  | contractValue => exact storing_contractValue
  | contractValues => exact storing_sequenceOf storing_contractValue
  | runtimeValue => exact storing_runtimeValue
  | optionalRuntimeValue => exact storing_optional storing_runtimeValue
  | runtimeValues => exact storing_sequenceOf storing_runtimeItem
  | predicateValues => exact storing_predicateValues
  | spaValue => exact storing_spaValue
  | identifierOrChoice => exact storing_identifierOrChoice
  | enumeration => exact storing_enumeration
  | optionalEnumeration => exact storing_optional storing_enumeration
  | timestamp => exact storing_map fun _ => .str _
  | namedTimestamp => exact storing_map fun _ => .str _
  | path => exact storing_sequenceOf fun accepted _ => .frozen (pathComponent_frozen accepted)

end Normalize

section Steps

variable {record after : Record}

theorem predicateTolerance_frozen {operator expected tolerance bound : PyValue}
    (accepted : predicateTolerance operator expected tolerance = .ok bound) : Frozen bound := by
  obtain ⟨passed, -, chosen⟩ := bind_ok accepted
  split at chosen
  · obtain ⟨passed, -, converted⟩ := bind_ok chosen
    unfold approximateTolerance at converted
    split at converted
    · cases converted
    · obtain ⟨value, -, checked⟩ := bind_ok converted
      obtain ⟨passed, boundOk, isBound⟩ := bind_ok checked
      rw [← Except.ok.inj isBound]
      unfold requireValue at boundOk
      split at boundOk
      · rename_i finite
        exact .float (Bool.and_eq_true_iff.mp finite).1
      · cases boundOk
  · obtain ⟨passed, absent, isBound⟩ := bind_ok chosen
    rw [← Except.ok.inj isBound]
    unfold requireValue at absent
    split at absent
    · rename_i isNone
      cases tolerance <;> first | exact .none | cases isNone
    · cases absent

theorem Missing.value_stored {missing : Missing} {value : PyValue}
    (made : missing.value = .ok value) : Stored value := by
  obtain ⟨record, isValue, settled, scalars⟩ := value_scalars made
  rw [isValue]
  refine .runtime .unresolvedRelationship record settled fun name member => ?_
  rcases scalars name member with ⟨string, isString⟩ | ⟨number, isNumber⟩
  · exact isString ▸ .frozen (.str string)
  · exact isNumber ▸ .frozen (.int number)

/-- A snapshot's relationships are values made from its contents. -/
theorem Contents.resolveRelationships_made {snapshot : Contents} {supplied result : PyValue}
    (accepted : snapshot.resolveRelationships supplied = .ok result) :
    ∃ computed, result = .tuple computed ∧
      ∀ value ∈ computed, ∃ missing : Missing, missing.value = .ok value := by
  obtain ⟨suppliedItems, -, afterSupplied⟩ := bind_ok accepted
  obtain ⟨indexed, -, afterIndexes⟩ := bind_ok afterSupplied
  obtain ⟨computed, computedOk, afterComputed⟩ := bind_ok afterIndexes
  obtain ⟨passed, -, isResult⟩ := bind_ok afterComputed
  refine ⟨computed, (Except.ok.inj isResult).symm, fun value member => ?_⟩
  obtain ⟨origin, -, originMade⟩ := exists_of_mem_mapM computedOk member
  exact ⟨origin, originMade⟩

/-- What a step assigns is stored. -/
theorem Check.target_stored {check : Check} {name : FieldName}
    (finished : check.step.run record = .ok after)
    (isTarget : check.step.target = some name) (usable : Usable (record name)) :
    Stored (after name) := by
  cases check with
  | field target kind =>
      cases isTarget
      obtain ⟨normalized, checked, updated⟩ := map_ok finished
      rw [← updated, Function.update_self]
      exact kind.normalize_storing _ checked usable
  | rule1 | rule2 | rule3 => cases isTarget
  | tolerance =>
      cases isTarget
      obtain ⟨normalized, checked, updated⟩ := map_ok finished
      rw [← updated, Function.update_self]
      exact .frozen (predicateTolerance_frozen checked)
  | relationships =>
      cases isTarget
      obtain ⟨normalized, checked, updated⟩ := map_ok finished
      rw [← updated, Function.update_self]
      obtain ⟨computed, isTuple, made⟩ := Contents.resolveRelationships_made checked
      rw [isTuple]
      refine .tuple fun value member => ?_
      obtain ⟨missing, missingMade⟩ := made value member
      exact missing.value_stored missingMade

theorem Check.usable {check : Check} (finished : check.step.run record = .ok after)
    (usable : ∀ name, Usable (record name)) : ∀ name, Usable (after name) := by
  intro name
  by_cases isTarget : check.step.target = some name
  · exact .stored (target_stored finished isTarget (usable name))
  · rw [Step.run_frame finished isTarget]
    exact usable name

/-- A constructor makes a value in normal form from usable arguments. -/
theorem construct_stored {type : ValueType} {arguments : List (FieldName × PyValue)}
    {value : PyValue}
    (defaults : ∀ spec ∈ fieldSpecs type, ∀ default, spec.default = some default → Usable default)
    (usable : ∀ argument ∈ arguments, Usable argument.2)
    (made : construct type arguments = .ok value) : Stored value := by
  obtain ⟨record, finished, isValue⟩ := construct_ok made
  have initially : ∀ name, Usable (initialRecord type arguments name) := by
    intro name
    unfold initialRecord
    cases given : arguments.lookup name with
    | some argument =>
        obtain ⟨before, after, split, -⟩ := List.lookup_eq_some_iff.mp given
        exact usable (name, argument) (by simp [split])
    | none =>
        cases found : (fieldSpecs type).find? fun spec => spec.name = name with
        | none => exact .stored (.frozen .none)
        | some spec =>
            cases hasDefault : spec.default with
            | none => simpa [hasDefault] using Usable.stored (.frozen .none)
            | some default =>
                simpa [hasDefault] using
                  defaults spec (List.mem_of_find?_eq_some found) default hasDefault
  have afterwards : ∀ name, Usable (record name) := by
    refine runSteps_invariant (fun current => ∀ name, Usable (current name)) ?_ finished initially
    intro step member before after stepped usableBefore
    obtain ⟨check, -, isStep⟩ := List.mem_map.mp member
    rw [← isStep] at stepped
    exact Check.usable stepped usableBefore
  have settled := runSteps_settled (steps_ordered type) finished
  rw [isValue]
  refine .runtime type record settled fun name member => ?_
  obtain ⟨check, inChecks, isTarget⟩ := checks_cover type name member
  exact Check.target_stored (settled _ (List.mem_map_of_mem inChecks)) isTarget (afterwards name)

end Steps

section Constructible

/-- Scalars and empty containers, the defaults of all fields but one. -/
def isPlainDefault : PyValue → Bool
  | .none | .bool _ | .int _ | .str _ => true
  | .tuple items => items.isEmpty
  | .frozenDict items => items.isEmpty
  | _ => false

theorem usable_of_isPlainDefault {value : PyValue} (isPlain : isPlainDefault value = true) :
    Usable value := by
  refine .stored (.frozen ?_)
  cases value with
  | none => exact .none
  | bool value => exact .bool value
  | int value => exact .int value
  | str value => exact .str value
  | tuple items =>
      rw [List.isEmpty_iff.mp isPlain]
      exact .tuple (by simp)
  | frozenDict items =>
      rw [List.isEmpty_iff.mp isPlain]
      exact .frozenDict (by simp) (by simp)
  | float | bytes | datetime | list | dict | runtime | other => cases isPlain

theorem plainDefaults (type : ValueType) : ∀ spec ∈ fieldSpecs type,
    spec.default.all isPlainDefault = true ∨ spec.default = some emptyDefaults := by
  have ofEach : ∀ spec ∈ fieldSpecs type, spec.default.all isPlainDefault = true ∨
      type = .runtimeSnapshot ∧ spec.name = .defaults := by
    cases type <;> decide
  intro spec member
  rcases ofEach spec member with isPlain | ⟨isSnapshot, isDefaults⟩
  · exact .inl isPlain
  · subst isSnapshot
    right
    simp only [fieldSpecs, List.mem_cons, List.not_mem_nil, or_false] at member
    rcases member with h | h | h | h | h | h | h | h | h | h | h | h | h | h <;>
      subst h <;> first | rfl | cases isDefaults

theorem emptyDefaults_stored : Stored emptyDefaults := by
  have made : construct .defaults [] = .ok emptyDefaults := rfl
  refine construct_stored ?_ (by simp) made
  intro spec member default isDefault
  have isPlain : ∀ spec ∈ fieldSpecs .defaults, spec.default.all isPlainDefault = true := by
    decide
  have allPlain := isPlain spec member
  rw [isDefault] at allPlain
  exact usable_of_isPlainDefault allPlain

theorem defaults_usable (type : ValueType) : ∀ spec ∈ fieldSpecs type, ∀ default,
    spec.default = some default → Usable default := by
  intro spec member default isDefault
  rcases plainDefaults type spec member with isPlain | isEmptyDefaults
  · rw [isDefault] at isPlain
    exact usable_of_isPlainDefault isPlain
  · rw [isDefault] at isEmptyDefaults
    rw [Option.some.inj isEmptyDefaults]
    exact .stored emptyDefaults_stored

theorem Constructible.usable {value : PyValue} (constructible : Constructible value) :
    Usable value := by
  induction constructible with
  | none => exact .stored (.frozen .none)
  | bool value => exact .stored (.frozen (.bool value))
  | int value => exact .stored (.frozen (.int value))
  | str value => exact .stored (.frozen (.str value))
  | float value =>
      refine .plain ?_ rfl fun _ => rfl
      intro frozen accepted
      unfold freezeJson at accepted
      split at accepted
      · rename_i finite
        cases accepted
        exact .float finite
      · cases accepted
  | bytes | datetime | other => exact .plain (fun frozen accepted => by cases accepted) rfl fun _ => rfl
  | list items_ok inductionHypothesis => exact .list inductionHypothesis
  | tuple items_ok inductionHypothesis => exact .tuple inductionHypothesis
  | dict distinct items_ok inductionHypothesis =>
      refine .plain ?_ rfl fun _ => rfl
      intro frozen accepted
      obtain ⟨frozenItems, made, isFrozen⟩ := map_ok accepted
      rw [← isFrozen]
      exact frozen_items distinct
        (fun item member frozen => (inductionHypothesis item member).freezes) made
  | frozenDict distinct items_ok made inductionHypothesis =>
      obtain ⟨frozenItems, itemsMade, isValue⟩ := map_ok made
      rw [← isValue]
      exact .stored (.frozen (frozen_items distinct
        (fun item member frozen => (inductionHypothesis item member).freezes) itemsMade))
  | runtime arguments_ok made inductionHypothesis =>
      exact .stored (construct_stored (defaults_usable _) inductionHypothesis made)

/-- A runtime value that a program can build is in normal form. -/
theorem Constructible.stored {type : ValueType} {fields : List (FieldName × PyValue)}
    (constructible : Constructible (.runtime type fields)) : Stored (.runtime type fields) := by
  have isRuntime : (PyValue.runtime type fields).isA type = true := by simp [PyValue.isA]
  exact constructible.usable.stored_of_isA isRuntime

end Constructible

section Equality

theorem lookup_of_mem {items : List (PyString × PyValue)}
    (distinct : (items.map Prod.fst).Nodup) {item : PyString × PyValue} (member : item ∈ items) :
    items.lookup item.1 = some item.2 := by
  induction items with
  | nil => simp at member
  | cons first rest inductionHypothesis =>
      rw [List.map_cons, List.nodup_cons] at distinct
      rcases List.mem_cons.mp member with isFirst | inRest
      · obtain ⟨name, value⟩ := first
        rw [isFirst]
        exact List.lookup_cons_self
      · have different : item.1 ≠ first.1 := by
          intro same
          exact distinct.1 (same ▸ List.mem_map_of_mem inRest)
        rw [List.lookup_cons, inductionHypothesis distinct.2 inRest]
        simp [beq_eq_false_iff_ne.mpr different]

theorem Frozen.eq_self {value : PyValue} (frozen : Frozen value) : value.eq value = true := by
  induction frozen with
  | none => rfl
  | bool value => cases value <;> rfl
  | int value => simp [PyValue.eq, PyValue.intEq, PyValue.integral?]
  | float finite => simp [PyValue.eq, PyValue.floatEq, Binary64.eq_self finite]
  | str value => simp [PyValue.eq]
  | tuple frozen inductionHypothesis =>
      rw [PyValue.eq]
      exact eqAll_self inductionHypothesis
  | @frozenDict items distinct frozen inductionHypothesis =>
      have ofSublist : ∀ {some : List (PyString × PyValue)}, (∀ item ∈ some, item ∈ items) →
          PyValue.eqItems some items = true := by
        intro some
        induction some with
        | nil => intro _; rfl
        | cons item rest restHypothesis =>
            intro inItems
            have member := inItems item List.mem_cons_self
            have found : items.lookup item.1 = .some item.2 :=
              lookup_of_mem distinct member
            simp [PyValue.eqItems, found, inductionHypothesis item member,
              restHypothesis fun other otherMember =>
                inItems other (List.mem_cons_of_mem _ otherMember)]
      simp [PyValue.eq, PyValue.mapping?, ofSublist fun item member => member]

/-- A value in normal form equals itself. -/
theorem Stored.eq_self {value : PyValue} (stored : Stored value) : value.eq value = true := by
  induction stored with
  | frozen frozen => exact frozen.eq_self
  | tuple stored inductionHypothesis =>
      rw [PyValue.eq]
      exact eqAll_self inductionHypothesis
  | runtime type record settled stored inductionHypothesis =>
      simp [toRuntime, PyValue.eq, eqFields_self inductionHypothesis]

end Equality

end WyrePlumber.Runtime
