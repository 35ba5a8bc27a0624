import Mathlib.Data.List.Perm.Basic
import WyrePlumber.Runtime.Arguments
import WyrePlumber.Runtime.Constructible
import WyrePlumber.Runtime.Decode

/-!
# The round trip of runtime values

A runtime value is restored from its serialized form exactly when no frozen
mapping inside it holds both tags of an envelope.  Such a mapping is decoded as
a runtime value, which no field and no frozen mapping holds in its place.
-/

set_option autoImplicit false
set_option linter.constructorNameAsVariable false

namespace WyrePlumber.Runtime

open Python RecordValidation Results

/-! Whether some frozen mapping, at any depth, holds both tags. -/

mutual

def tagged (value : PyValue) : Bool :=
  match value with
  | .tuple items => taggedAll items
  | .frozenDict items => isEnvelope items || taggedItems items
  | .runtime _ fields => taggedFields fields
  | _ => false
termination_by structural value

def taggedAll (items : List PyValue) : Bool :=
  match items with
  | [] => false
  | item :: rest => tagged item || taggedAll rest
termination_by structural items

def taggedItems (items : List (PyString × PyValue)) : Bool :=
  match items with
  | [] => false
  | (_, item) :: rest => tagged item || taggedItems rest
termination_by structural items

def taggedFields (fields : List (FieldName × PyValue)) : Bool :=
  match fields with
  | [] => false
  | (_, value) :: rest => tagged value || taggedFields rest
termination_by structural fields

end

/-- `runtime_value_from_dict(value.to_dict())` succeeds with a value of the same
class that equals the value. -/
def RoundTrips (order : SetOrder) (value : PyValue) : Prop :=
  ∃ document restored, toDict value = .ok document ∧
    runtimeValueFromDict order document = .ok restored ∧
    (∃ type, value.isA type = true ∧ restored.isA type = true) ∧ restored.eq value = true

section Mangled

/-- `Mangled restored original`: somewhere in `restored` a runtime value stands
for a frozen mapping of `original`. -/
inductive Mangled : PyValue → PyValue → Prop where
  | envelope (type : ValueType) (fields : List (FieldName × PyValue))
      (items : List (PyString × PyValue)) : Mangled (.runtime type fields) (.frozenDict items)
  | head {restored original : PyValue} (items originals : List PyValue)
      (mangled : Mangled restored original) :
      Mangled (.tuple (restored :: items)) (.tuple (original :: originals))
  | tail {items originals : List PyValue} (restored original : PyValue)
      (mangled : Mangled (.tuple items) (.tuple originals)) :
      Mangled (.tuple (restored :: items)) (.tuple (original :: originals))
  | field {type : ValueType} {restored original : Record} {name : FieldName}
      (member : name ∈ fieldNames type) (mangled : Mangled (restored name) (original name)) :
      Mangled (toRuntime type (fieldNames type) restored)
        (toRuntime type (fieldNames type) original)

variable {restored original : PyValue}

/-- A mangled object differs from the original. -/
theorem Mangled.eq_false (mangled : Mangled restored original) : restored.eq original = false := by
  induction mangled with
  | envelope => rfl
  | head items originals mangled inductionHypothesis =>
      rw [PyValue.eq, PyValue.eqAll, inductionHypothesis]
      rfl
  | tail restored original mangled inductionHypothesis =>
      rw [PyValue.eq] at inductionHypothesis
      rw [PyValue.eq, PyValue.eqAll, inductionHypothesis, Bool.and_false]
  | @field type restored original name member mangled inductionHypothesis =>
      have ofNames : ∀ names : List FieldName, name ∈ names →
          PyValue.eqFields (names.map fun name => (name, restored name))
            (names.map fun name => (name, original name)) = false := by
        intro names
        induction names with
        | nil => simp
        | cons first rest restHypothesis =>
            intro inNames
            rw [List.map_cons, List.map_cons, PyValue.eqFields]
            rcases List.mem_cons.mp inNames with isFirst | inRest
            · rw [← isFirst, inductionHypothesis, Bool.false_and]
            · rw [restHypothesis inRest, Bool.and_false]
      rw [toRuntime, toRuntime, PyValue.eq, ofNames _ member, Bool.and_false]

/-- A mangled object is a runtime value or a tuple. -/
theorem Mangled.shape (mangled : Mangled restored original) :
    (∃ type fields, restored = .runtime type fields) ∨ ∃ items, restored = .tuple items := by
  cases mangled with
  | envelope type fields => exact .inl ⟨type, fields, rfl⟩
  | head | tail => exact .inr ⟨_, rfl⟩
  | field => exact .inl ⟨_, _, rfl⟩

/-- A mangled object is no frozen JSON. -/
theorem Mangled.not_frozen (mangled : Mangled restored original) {frozen : PyValue} :
    freezeJson restored ≠ .ok frozen := by
  induction mangled generalizing frozen with
  | envelope => intro accepted; cases accepted
  | field => intro accepted; cases accepted
  | head items originals mangled inductionHypothesis =>
      intro accepted
      obtain ⟨values, traversed, -⟩ := map_ok accepted
      obtain ⟨first, firstOk, -⟩ := bind_ok traversed
      exact inductionHypothesis firstOk
  | tail restored original mangled inductionHypothesis =>
      intro accepted
      obtain ⟨values, traversed, -⟩ := map_ok accepted
      obtain ⟨first, -, continued⟩ := bind_ok traversed
      obtain ⟨others, othersOk, -⟩ := bind_ok continued
      exact inductionHypothesis (by rw [freezeJson, othersOk]; rfl)

/-- A check leaves a mangled argument mangled, or refuses it. -/
def Mangling (check : PyValue → Except PyError PyValue) : Prop :=
  ∀ ⦃restored result original⦄, check restored = .ok result → Mangled restored original →
    Mangled result original

theorem mangling_of_same {check : PyValue → Except PyError PyValue}
    (same : ∀ {value result}, check value = .ok result → result = value) : Mangling check := by
  intro restored result original accepted mangled
  rw [same accepted]
  exact mangled

theorem mangling_of_scalar {check : PyValue → Except PyError PyValue}
    (noRuntime : ∀ type fields result, check (.runtime type fields) ≠ .ok result)
    (noTuple : ∀ items result, check (.tuple items) ≠ .ok result) : Mangling check := by
  intro restored result original accepted mangled
  rcases mangled.shape with ⟨type, fields, isRuntime⟩ | ⟨items, isTuple⟩
  · rw [isRuntime] at accepted
    exact absurd accepted (noRuntime type fields result)
  · rw [isTuple] at accepted
    exact absurd accepted (noTuple items result)

theorem mangling_optional {check : PyValue → Except PyError PyValue} (mangling : Mangling check) :
    Mangling (optional check) := by
  intro restored result original accepted mangled
  unfold optional at accepted
  split at accepted
  · cases mangled
  · exact mangling accepted mangled

/-- The items of a mangled tuple after a check. -/
theorem mangled_tuple {check : PyValue → Except PyError PyValue} (mangling : Mangling check)
    {items originals values : List PyValue} (mangled : Mangled (.tuple items) (.tuple originals))
    (traversed : items.mapM check = .ok values) : Mangled (.tuple values) (.tuple originals) := by
  induction items generalizing originals values with
  | nil => cases mangled
  | cons item rest inductionHypothesis =>
      rw [List.mapM_cons] at traversed
      obtain ⟨first, firstOk, continued⟩ := bind_ok traversed
      obtain ⟨others, othersOk, whole⟩ := bind_ok continued
      rw [← Except.ok.inj whole]
      cases mangled with
      | head items originals ofItem => exact .head _ _ (mangling firstOk ofItem)
      | tail restored original ofRest => exact .tail _ _ (inductionHypothesis ofRest othersOk)

theorem mangling_sequenceOf {name : PyString} {problem : String}
    {check : PyValue → Except PyError PyValue} (mangling : Mangling check) :
    Mangling (sequenceOf name problem check) := by
  intro restored result original accepted mangled
  unfold sequenceOf at accepted
  split at accepted
  · rename_i items isSequence
    obtain ⟨values, traversed, isResult⟩ := map_ok accepted
    rw [← isResult]
    cases mangled with
    | envelope => cases isSequence
    | field => cases isSequence
    | head =>
        cases isSequence
        rename_i ofItem
        exact mangled_tuple mangling (.head _ _ ofItem) traversed
    | tail =>
        cases isSequence
        rename_i ofRest
        exact mangled_tuple mangling (.tail _ _ ofRest) traversed
  · cases accepted

theorem mangling_contractValue : Mangling contractValue := by
  intro restored result original accepted mangled
  unfold contractValue at accepted
  split at accepted
  · cases accepted
    exact mangled
  · exact absurd accepted mangled.not_frozen

/-- Every check leaves a mangled argument mangled, or refuses it. -/
theorem FieldKind.normalize_mangling (kind : FieldKind) (name : PyString) :
    Mangling (kind.normalize name) := by
  have ofString {name : PyString} {allowEmpty : Bool} :
      Mangling fun value => (Runtime.requiredString name allowEmpty value).map .str :=
    mangling_of_scalar (fun _ _ _ => error_ne_ok) (fun _ _ => error_ne_ok)
  have ofIdentifier {name : PyString} : Mangling fun value => (Runtime.identifier name value).map .int :=
    mangling_of_scalar (fun _ _ _ => error_ne_ok) (fun _ _ => error_ne_ok)
  have ofFloat {name : PyString} : Mangling fun value => (Runtime.float name value).map .float :=
    mangling_of_scalar (fun _ _ _ => error_ne_ok) (fun _ _ => error_ne_ok)
  have ofBoolean : Mangling fun value => (Runtime.boolean name value).map .bool :=
    mangling_of_scalar (fun _ _ _ => error_ne_ok) (fun _ _ => error_ne_ok)
  cases kind with
  | requiredString => exact ofString
  | optionalString => exact mangling_optional ofString
  | strings => exact mangling_sequenceOf ofString
  | integer => exact mangling_of_scalar (fun _ _ _ => error_ne_ok) (fun _ _ => error_ne_ok)
  | identifier => exact ofIdentifier
  | optionalIdentifier => exact mangling_optional ofIdentifier
  | identifiers => exact mangling_sequenceOf ofIdentifier
  | identity => exact mangling_of_same identity_same
  | boolean => exact ofBoolean
  | optionalBoolean => exact mangling_optional ofBoolean
  | optionalFloat => exact mangling_optional ofFloat
  | floats => exact mangling_sequenceOf ofFloat
  | mapping => exact mangling_of_scalar (fun _ _ _ => error_ne_ok) (fun _ _ => error_ne_ok)
  | contractValue => exact mangling_contractValue
  | contractValues => exact mangling_sequenceOf mangling_contractValue
  | runtimeValue => exact mangling_of_same runtimeValue_same
  | optionalRuntimeValue => exact mangling_optional (mangling_of_same runtimeValue_same)
  | runtimeValues => exact mangling_sequenceOf (mangling_of_same runtimeItem_same)
  | predicateValues =>
      intro restored result original accepted mangled
      simp only [FieldKind.normalize, Runtime.predicateValues] at accepted
      split at accepted
      · cases accepted
      · exact mangling_sequenceOf (mangling_of_same runtimeItem_same) accepted mangled
  | spaValue => exact mangling_of_same spaValue_same
  | identifierOrChoice => exact mangling_of_same identifierOrChoice_same
  | enumeration => exact mangling_of_same enumeration_same
  | optionalEnumeration => exact mangling_optional (mangling_of_same enumeration_same)
  | timestamp => exact mangling_of_scalar (fun _ _ _ => error_ne_ok) (fun _ _ => error_ne_ok)
  | namedTimestamp => exact mangling_of_scalar (fun _ _ _ => error_ne_ok) (fun _ _ => error_ne_ok)
  | path => exact mangling_sequenceOf (mangling_of_same pathComponent_same)

end Mangled

section Steps

theorem predicateTolerance_scalar {operator expected tolerance bound original : PyValue}
    (accepted : predicateTolerance operator expected tolerance = .ok bound) :
    ¬ Mangled tolerance original := by
  intro mangled
  obtain ⟨passed, -, chosen⟩ := bind_ok accepted
  rcases mangled.shape with ⟨type, fields, isRuntime⟩ | ⟨items, isTuple⟩
  · subst isRuntime
    split at chosen
    · obtain ⟨passed, -, converted⟩ := bind_ok chosen
      cases converted
    · cases chosen
  · subst isTuple
    split at chosen
    · obtain ⟨passed, -, converted⟩ := bind_ok chosen
      cases converted
    · cases chosen

/-- A step leaves a mangled field mangled; only the relationships of a snapshot
are computed anew. -/
theorem Check.mangled {check : Check} {record after : Record} {name : FieldName}
    {original : PyValue} (finished : check.step.run record = .ok after)
    (notComputed : name ≠ .unresolvedRelationships) (mangled : Mangled (record name) original) :
    Mangled (after name) original := by
  by_cases isTarget : check.step.target = some name
  · cases check with
    | field target kind =>
        cases isTarget
        obtain ⟨normalized, checked, updated⟩ := map_ok finished
        rw [← updated, Function.update_self]
        exact kind.normalize_mangling _ checked mangled
    | rule1 | rule2 | rule3 => cases isTarget
    | tolerance =>
        cases isTarget
        obtain ⟨normalized, checked, -⟩ := map_ok finished
        exact absurd mangled (predicateTolerance_scalar checked)
    | relationships =>
        cases isTarget
        exact absurd rfl notComputed
  · rw [Step.run_frame finished isTarget]
    exact mangled

theorem taggedFields_map (record : Record) (names : List FieldName) :
    taggedFields (names.map fun name => (name, record name)) =
      names.any fun name => tagged (record name) := by
  induction names with
  | nil => rfl
  | cons name rest inductionHypothesis =>
      rw [List.map_cons, taggedFields, inductionHypothesis, List.any_cons]

/-- The relationships of a snapshot hold no frozen mapping. -/
theorem untagged_relationships {type : ValueType} {record : Record}
    (member : FieldName.unresolvedRelationships ∈ fieldNames type)
    (settled : ∀ step ∈ steps type, step.run record = .ok record) :
    tagged (record .unresolvedRelationships) = false := by
  have isSnapshot : type = .runtimeSnapshot := by
    revert member
    cases type <;> decide
  subst isSnapshot
  have inChecks : Check.relationships ∈ checks .runtimeSnapshot := by simp [checks]
  obtain ⟨computed, resolved, updated⟩ := map_ok (settled _ (List.mem_map_of_mem inChecks))
  have unchanged : computed = record .unresolvedRelationships := by
    rw [← congrFun updated .unresolvedRelationships, Function.update_self]
  obtain ⟨values, isTuple, made⟩ := Contents.resolveRelationships_made resolved
  rw [← unchanged, isTuple, tagged]
  clear isTuple unchanged updated resolved
  induction values with
  | nil => rfl
  | cons value rest inductionHypothesis =>
      obtain ⟨missing, valueMade⟩ := made value List.mem_cons_self
      obtain ⟨fields, isValue, -, scalars⟩ := missing.value_scalars valueMade
      have untagged : tagged value = false := by
        rw [isValue, toRuntime, tagged, taggedFields_map, List.any_eq_false]
        intro name inNames
        rcases scalars name inNames with ⟨string, isString⟩ | ⟨number, isNumber⟩
        · simp [isString, tagged]
        · simp [isNumber, tagged]
      rw [taggedAll, untagged, inductionHypothesis fun other inRest =>
        made other (List.mem_cons_of_mem _ inRest)]
      rfl

end Steps

section Translation

variable {order : SetOrder}

/-- What decoding the document of a value gives: the value when nothing inside
it is tagged, and otherwise a mangled one or an error. -/
def Translates (order : SetOrder) (value document : PyValue) : Prop :=
  ∀ path, (tagged value = false → deserialize order path document = .ok value) ∧
    (tagged value = true → ∀ restored, deserialize order path document = .ok restored →
      Mangled restored value)

/-- The documents of a list of values. -/
theorem exists_documents {values : List PyValue} {write : PyValue → Except PyError PyValue}
    (each : ∀ value ∈ values, ∃ document, write value = .ok document ∧
      Translates order value document) :
    ∃ documents, values.mapM write = .ok documents ∧
      List.Forall₂ (Translates order) values documents := by
  induction values with
  | nil => exact ⟨[], rfl, .nil⟩
  | cons value rest inductionHypothesis =>
      obtain ⟨document, written, translates⟩ := each value List.mem_cons_self
      obtain ⟨documents, restWritten, restTranslates⟩ :=
        inductionHypothesis fun other member => each other (List.mem_cons_of_mem _ member)
      refine ⟨document :: documents, ?_, .cons translates restTranslates⟩
      rw [List.mapM_cons, written, restWritten]
      rfl

theorem translates_all {values documents : List PyValue}
    (translates : List.Forall₂ (Translates order) values documents) (path : PyString) (index : Nat) :
    (taggedAll values = false → deserializeAll order path index documents = .ok values) ∧
      (taggedAll values = true → ∀ restored, deserializeAll order path index documents = .ok restored →
        Mangled (.tuple restored) (.tuple values)) := by
  induction translates generalizing index with
  | nil => exact ⟨fun _ => rfl, fun isTagged => by cases isTagged⟩
  | @cons value document values documents ofFirst ofRest inductionHypothesis =>
      obtain ⟨restUntagged, restTagged⟩ := inductionHypothesis (index + 1)
      obtain ⟨untagged, isTagged⟩ :=
        ofFirst (path ++ text "[" ++ text (toString index) ++ text "]")
      constructor
      · intro noTag
        rw [taggedAll, Bool.or_eq_false_iff] at noTag
        rw [deserializeAll, untagged noTag.1, restUntagged noTag.2]
        rfl
      · intro someTag restored finished
        rw [deserializeAll] at finished
        obtain ⟨first, firstOk, continued⟩ := bind_ok finished
        obtain ⟨others, othersOk, whole⟩ := bind_ok continued
        rw [← Except.ok.inj whole]
        cases firstTag : tagged value with
        | true => exact .head _ _ (isTagged firstTag first firstOk)
        | false =>
            rw [taggedAll, firstTag, Bool.false_or] at someTag
            exact .tail _ _ (restTagged someTag others othersOk)

theorem translates_tuple {values documents : List PyValue}
    (translates : List.Forall₂ (Translates order) values documents) :
    Translates order (.tuple values) (.list documents) := by
  intro path
  obtain ⟨untagged, isTagged⟩ := translates_all translates path 0
  constructor
  · intro noTag
    rw [deserialize, untagged (by rw [← noTag, tagged])]
    rfl
  · intro someTag restored finished
    rw [deserialize] at finished
    obtain ⟨items, itemsOk, isRestored⟩ := map_ok finished
    rw [← isRestored]
    exact isTagged (by rw [← someTag, tagged]) items itemsOk

/-- The items of a mapping and of its document: the same keys, item by item. -/
def TranslatesItem (order : SetOrder) (item document : PyString × PyValue) : Prop :=
  item.1 = document.1 ∧ Translates order item.2 document.2

theorem exists_items {items : List (PyString × PyValue)}
    (each : ∀ item ∈ items, ∃ document, thawJson item.2 = .ok document ∧
      Translates order item.2 document) :
    ∃ documents, thawItems items = .ok documents ∧
      List.Forall₂ (TranslatesItem order) items documents := by
  induction items with
  | nil => exact ⟨[], rfl, .nil⟩
  | cons item rest inductionHypothesis =>
      obtain ⟨document, written, translates⟩ := each item List.mem_cons_self
      obtain ⟨documents, restWritten, restTranslates⟩ :=
        inductionHypothesis fun other member => each other (List.mem_cons_of_mem _ member)
      refine ⟨(item.1, document) :: documents, ?_, .cons ⟨rfl, translates⟩ restTranslates⟩
      simp only [thawItems, written, restWritten]
      rfl

theorem isEnvelope_documents {items documents : List (PyString × PyValue)}
    (translates : List.Forall₂ (TranslatesItem order) items documents) :
    isEnvelope documents = isEnvelope items := by
  have sameLookup (key : PyString) :
      (documents.lookup key).isSome = (items.lookup key).isSome := by
    induction translates with
    | nil => rfl
    | @cons item document items documents ofFirst ofRest inductionHypothesis =>
        rw [List.lookup_cons, List.lookup_cons, ← ofFirst.1]
        cases key == item.1 with
        | true => rfl
        | false => exact inductionHypothesis
  rw [isEnvelope, isEnvelope, sameLookup, sameLookup]

/-- The decoded items of a mapping that is no envelope. -/
def collected (order : SetOrder) (path : PyString) (documents : List (PyString × PyValue)) :
    Except PyError (List (PyString × PyValue)) :=
  (deserializeItems order path documents).mapM fun entry => entry.2.map fun value => (entry.1, value)

theorem translates_items {items documents : List (PyString × PyValue)}
    (translates : List.Forall₂ (TranslatesItem order) items documents) (path : PyString) :
    (taggedItems items = false → collected order path documents = .ok items) ∧
      (taggedItems items = true → ∀ restored frozen,
        collected order path documents = .ok restored → freezeItems restored ≠ .ok frozen) := by
  induction translates with
  | nil => exact ⟨fun _ => rfl, fun isTagged => by cases isTagged⟩
  | @cons item document items documents ofFirst ofRest inductionHypothesis =>
      obtain ⟨restUntagged, restTagged⟩ := inductionHypothesis
      obtain ⟨sameKey, translatesFirst⟩ := ofFirst
      obtain ⟨untagged, isTagged⟩ := translatesFirst (path ++ text "." ++ document.1)
      have unfolded : collected order path (document :: documents) =
          ((deserialize order (path ++ text "." ++ document.1) document.2).map
            fun value => (document.1, value)) >>= fun first =>
          collected order path documents >>= fun others => .ok (first :: others) := by
        rw [collected, deserializeItems, List.mapM_cons]
        rfl
      rw [unfolded]
      constructor
      · intro noTag
        rw [taggedItems, Bool.or_eq_false_iff] at noTag
        rw [untagged noTag.1, restUntagged noTag.2, ← sameKey]
        rfl
      · intro someTag restored frozen finished frozenOk
        obtain ⟨first, firstOk, continued⟩ := bind_ok finished
        obtain ⟨value, valueOk, isFirst⟩ := map_ok firstOk
        obtain ⟨others, othersOk, whole⟩ := bind_ok continued
        rw [← Except.ok.inj whole, ← isFirst, freezeItems] at frozenOk
        obtain ⟨frozenFirst, frozenFirstOk, frozenContinued⟩ := bind_ok frozenOk
        obtain ⟨frozenRest, frozenRestOk, -⟩ := bind_ok frozenContinued
        cases firstTag : tagged item.2 with
        | true => exact (isTagged firstTag value valueOk).not_frozen frozenFirstOk
        | false =>
            rw [taggedItems, firstTag, Bool.false_or] at someTag
            exact restTagged someTag others frozenRest othersOk frozenRestOk

theorem translates_frozenDict {items documents : List (PyString × PyValue)}
    (frozen : ∀ item ∈ items, Frozen item.2)
    (translates : List.Forall₂ (TranslatesItem order) items documents) :
    Translates order (.frozenDict items) (.dict documents) := by
  intro path
  obtain ⟨untagged, isTagged⟩ := translates_items translates (itemsPath path documents)
  rw [deserialize, decodeMapping, isEnvelope_documents translates]
  constructor
  · intro noTag
    rw [tagged, Bool.or_eq_false_iff] at noTag
    have frozenItems : freezeItems items = .ok items := by
      rw [freezeItems_eq]
      refine mapM_ok_self fun item member => ?_
      rw [(frozen item member).freezeJson_self]
      rfl
    have values : collected order (itemsPath path documents) documents = .ok items := untagged noTag.2
    rw [collected] at values
    rw [noTag.1, if_neg Bool.false_ne_true, values]
    simp only [bind, Except.bind, freezeJson, frozenItems]
    rfl
  · intro someTag restored finished
    cases envelope : isEnvelope items with
    | true =>
        rw [envelope, if_pos rfl] at finished
        obtain ⟨type, fields, isRestored⟩ := decodeEnvelope_runtime (atPath_ok finished)
        rw [isRestored]
        exact .envelope type fields items
    | false =>
        rw [envelope, if_neg Bool.false_ne_true] at finished
        obtain ⟨values, valuesOk, frozenOk⟩ := bind_ok (asInvalidJson_ok finished)
        obtain ⟨frozenItems, frozenItemsOk, -⟩ := map_ok frozenOk
        rw [tagged, envelope, Bool.false_or] at someTag
        exact absurd frozenItemsOk (isTagged someTag values frozenItems valuesOk)

theorem serialize_frozen {value : PyValue} (frozen : Frozen value) :
    serialize value = thawJson value := by
  induction frozen with
  | none | bool | int | float | str | frozenDict => rfl
  | @tuple items frozen inductionHypothesis =>
      rw [serialize, thawJson, serializeAll_eq, thawAll_eq]
      congr 1
      clear frozen
      induction items with
      | nil => rfl
      | cons item rest restHypothesis =>
          rw [List.mapM_cons, List.mapM_cons, inductionHypothesis item List.mem_cons_self,
            restHypothesis fun other member =>
              inductionHypothesis other (List.mem_cons_of_mem _ member)]

theorem frozen_translates {value : PyValue} (frozen : Frozen value) :
    ∃ document, thawJson value = .ok document ∧ Translates order value document := by
  induction frozen with
  | none =>
      exact ⟨.none, rfl, fun path => ⟨fun _ => rfl, fun isTagged => by cases isTagged⟩⟩
  | bool value =>
      exact ⟨.bool value, rfl, fun path => ⟨fun _ => rfl, fun isTagged => by cases isTagged⟩⟩
  | int value =>
      exact ⟨.int value, rfl, fun path => ⟨fun _ => rfl, fun isTagged => by cases isTagged⟩⟩
  | str value =>
      exact ⟨.str value, rfl, fun path => ⟨fun _ => rfl, fun isTagged => by cases isTagged⟩⟩
  | @float value finite =>
      refine ⟨.float value, rfl, fun path => ⟨fun _ => ?_, fun isTagged => by cases isTagged⟩⟩
      have frozenOk : freezeJson (.float value) = .ok (.float value) := by
        rw [freezeJson, if_pos finite]
      show asInvalidJson path (freezeJson (.float value)) = .ok (.float value)
      rw [frozenOk]
      rfl
  | tuple frozen inductionHypothesis =>
      obtain ⟨documents, written, translates⟩ := exists_documents inductionHypothesis
      refine ⟨.list documents, ?_, translates_tuple translates⟩
      rw [thawJson, thawAll_eq, written]
      rfl
  | frozenDict distinct frozen inductionHypothesis =>
      obtain ⟨documents, written, translates⟩ := exists_items inductionHypothesis
      refine ⟨.dict documents, ?_, translates_frozenDict frozen translates⟩
      rw [thawJson, written]
      rfl

end Translation

section Envelopes

variable {type : ValueType} {record : Record}

/-- The items of the document of a value whose fields have the given documents. -/
def envelopeItems (type : ValueType) (record : Record) (document : FieldName → PyValue) :
    List (PyString × PyValue) :=
  tags type ++ (writtenNames type record).map fun name => (name.text, document name)

def fieldPath (name : FieldName) : PyString := text "$" ++ text "." ++ name.text

theorem serialize_runtime {document : FieldName → PyValue}
    (written : ∀ name ∈ fieldNames type, serialize (record name) = .ok (document name)) :
    serialize (toRuntime type (fieldNames type) record) =
      .ok (.dict (envelopeItems type record document)) := by
  have ofNames : ∀ names : List FieldName,
      (∀ name ∈ names, serialize (record name) = .ok (document name)) →
      serializeFields type (names.map fun name => (name, record name)) =
        .ok ((names.filter fun name => !(omitsNone type name && (record name).isNone)).map
          fun name => (name.text, document name)) := by
    intro names
    induction names with
    | nil => intro _; rfl
    | cons name rest inductionHypothesis =>
        intro each
        have ofRest := inductionHypothesis fun other member =>
          each other (List.mem_cons_of_mem _ member)
        rw [List.map_cons, serializeFields, ofRest, each name List.mem_cons_self]
        cases omitted : omitsNone type name && (record name).isNone with
        | true =>
            rw [if_pos rfl, List.filter_cons_of_neg (by simp [omitted])]
        | false =>
            rw [if_neg Bool.false_ne_true, List.filter_cons_of_pos (by simp [omitted])]
            rfl
  rw [toRuntime, serialize, ofNames _ written]
  rfl

theorem isEnvelope_items (document : FieldName → PyValue) :
    isEnvelope (envelopeItems type record document) = true := by
  have different : (valueTypeKey == schemaVersionKey) = false := by decide
  simp [isEnvelope, envelopeItems, tags, List.lookup_cons, different]

theorem checkSchemaVersion_items (document : FieldName → PyValue) :
    checkSchemaVersion (envelopeItems type record document) = .ok () := by
  have found : (envelopeItems type record document).lookup schemaVersionKey =
      some (.int schemaVersion) := by
    simp [envelopeItems, tags]
  have same : (PyValue.int schemaVersion).eq (.int schemaVersion) = true := by decide
  simp [checkSchemaVersion, found, same]

theorem checkValueType_items (document : FieldName → PyValue) :
    checkValueType (envelopeItems type record document) = .ok type := by
  have different : (valueTypeKey == schemaVersionKey) = false := by decide
  have found : (envelopeItems type record document).lookup valueTypeKey =
      some (.str type.text) := by
    simp [envelopeItems, tags, List.lookup_cons, different]
  simp [checkValueType, found, valueTypeOf_text]

theorem checkNames_items (document : FieldName → PyValue) :
    checkNames type (envelopeItems type record document) = .ok () := by
  have allKnown : unknownNames type (envelopeItems type record document) = [] := by
    rw [unknownNames, List.filter_eq_nil_iff]
    intro key member
    simp only [envelopeItems, tags, List.map_append, List.map_cons, List.map_nil, List.map_map,
      List.mem_append, List.mem_cons, List.not_mem_nil, or_false, List.mem_map,
      Function.comp_apply] at member
    rcases member with (isVersion | isType) | ⟨name, inNames, isText⟩
    · simp [isVersion, isTag]
    · simp [isType, isTag]
    · rw [← isText, fieldOf_text (List.mem_filter.mp inNames).1]
      simp
  simp [checkNames, allKnown]

theorem envelopeItems_distinct (document : FieldName → PyValue) :
    ((envelopeItems type record document).map Prod.fst).Nodup := by
  have keys : (envelopeItems type record document).map Prod.fst =
      schemaVersionKey :: valueTypeKey :: (writtenNames type record).map FieldName.text := by
    simp [envelopeItems, tags]
  have written : ((writtenNames type record).map FieldName.text).Sublist
      ((fieldNames type).map FieldName.text) := List.filter_sublist.map FieldName.text
  rw [keys]
  exact ((written.cons_cons _).cons_cons _).nodup (envelopeKeys_nodup type)

theorem documentFields_items (document : FieldName → PyValue) :
    documentFields type (envelopeItems type record document) =
      (writtenNames type record).map fun name => (name, document name) := by
  have ofNames : ∀ names : List FieldName, (∀ name ∈ names, name ∈ fieldNames type) →
      documentFields type (names.map fun name => (name.text, document name)) =
        names.map fun name => (name, document name) := by
    intro names
    induction names with
    | nil => intro _; rfl
    | cons name rest inductionHypothesis =>
        intro known
        have ofRest := inductionHypothesis fun other member =>
          known other (List.mem_cons_of_mem _ member)
        rw [documentFields] at ofRest
        rw [documentFields, List.map_cons, List.filterMap_cons,
          fieldOf_text (known name List.mem_cons_self), ofRest]
        rfl
  obtain ⟨noVersion, noType⟩ := fieldOf_tags type
  have ofTags : documentFields type (tags type) = [] := by
    simp only [documentFields, tags, List.filterMap_cons, noVersion, noType, Option.map_none,
      List.filterMap_nil]
  rw [envelopeItems, documentFields_append, ofTags, List.nil_append]
  exact ofNames _ fun name member => (List.mem_filter.mp member).1

/-- The decoding of the document of a runtime value, which takes the written fields
in some order. -/
theorem deserialize_envelope (order : SetOrder) (document : FieldName → PyValue) :
    ∃ names : List FieldName, names.Perm (writtenNames type record) ∧ ∀ path,
      deserialize order path (.dict (envelopeItems type record document)) =
        atPath path ((names.mapM fun name =>
          (deserialize order (fieldPath name) (document name)).map fun value => (name, value)) >>=
            decodeConstruct type) := by
  have walked : (fieldItems order type (envelopeItems type record document)).Perm
      (documentFields type (envelopeItems type record document)) :=
    fieldItems_perm order (envelopeItems_distinct document)
  rw [documentFields_items] at walked
  obtain ⟨names, isFields, reordered⟩ :=
    (congrFun₂ (List.eq_map_comp_perm fun name => (name, document name)) _ _).mpr walked
  refine ⟨names, reordered, fun path => ?_⟩
  have arguments : payload order type
      (deserializeItems order (text "$") (envelopeItems type record document)) =
      names.mapM fun name =>
        (deserialize order (fieldPath name) (document name)).map fun value => (name, value) := by
    rw [payload_deserializeItems, isFields, List.mapM_map]
    rfl
  rw [deserialize, decodeMapping, itemsPath, isEnvelope_items, if_pos rfl, if_pos rfl,
    decodeEnvelope, checkSchemaVersion_items, checkValueType_items]
  simp only [bind, Except.bind, checkNames_items, arguments]

end Envelopes

section RoundTrip

variable {order : SetOrder}

/-- The document of a value in normal form translates the value. -/
theorem stored_translates {value : PyValue} (stored : Stored value) :
    ∃ document, serialize value = .ok document ∧ Translates order value document := by
  induction stored with
  | frozen frozen =>
      obtain ⟨document, written, translates⟩ := frozen_translates frozen
      exact ⟨document, (serialize_frozen frozen).trans written, translates⟩
  | tuple stored inductionHypothesis =>
      obtain ⟨documents, written, translates⟩ := exists_documents inductionHypothesis
      refine ⟨.list documents, ?_, translates_tuple translates⟩
      rw [serialize, serializeAll_eq, written]
      rfl
  | runtime type record settled stored inductionHypothesis =>
      have each : ∀ name, ∃ document, name ∈ fieldNames type →
          serialize (record name) = .ok document ∧ Translates order (record name) document := by
        intro name
        by_cases member : name ∈ fieldNames type
        · obtain ⟨document, written, translates⟩ := inductionHypothesis name member
          exact ⟨document, fun _ => ⟨written, translates⟩⟩
        · exact ⟨.none, fun isMember => absurd isMember member⟩
      choose document documentOk using each
      refine ⟨_, serialize_runtime fun name member => (documentOk name member).1, fun path => ?_⟩
      have ofWritten : ∀ name ∈ writtenNames type record,
          Translates order (record name) (document name) :=
        fun name member => (documentOk name (List.mem_filter.mp member).1).2
      obtain ⟨names, reordered, decodes⟩ :=
        @deserialize_envelope type record order document
      have sameCall (values : Record) : construct type (argumentsOf names values) =
          construct type (argumentsOf (writtenNames type record) values) :=
        construct_perm (argumentsOf_nodup values) (reordered.symm.map _)
      rw [decodes, toRuntime, tagged, taggedFields_map]
      constructor
      · intro noTag
        have restored : (names.mapM fun name =>
            (deserialize order (fieldPath name) (document name)).map fun value => (name, value)) =
            .ok (argumentsOf names record) := by
          refine mapM_ok_iff.mpr (List.forall₂_map_right_iff.mpr (List.forall₂_same.mpr ?_))
          intro name inWalk
          have member := reordered.subset inWalk
          have untagged : tagged (record name) = false := by
            simpa using List.any_eq_false.mp noTag name (List.mem_filter.mp member).1
          rw [(ofWritten name member (fieldPath name)).1 untagged]
          rfl
        rw [restored]
        simp only [bind, Except.bind, decodeConstruct, sameCall, construct_settled settled]
        rfl
      · intro someTag restored finished
        obtain ⟨arguments, argumentsOk, constructed⟩ := bind_ok (atPath_ok finished)
        obtain ⟨values, valuesOk, isArguments⟩ := exists_values argumentsOk
        rw [isArguments] at constructed
        have made := decodeConstruct_ok constructed
        rw [sameCall] at made
        obtain ⟨after, ran, isRestored⟩ := construct_ok made
        obtain ⟨name, member, isTagged⟩ := List.any_eq_true.mp someTag
        have notComputed : name ≠ .unresolvedRelationships := by
          intro isComputed
          subst isComputed
          rw [untagged_relationships member settled] at isTagged
          cases isTagged
        have isWritten : name ∈ writtenNames type record := by
          refine List.mem_filter.mpr ⟨member, ?_⟩
          cases held : record name with
          | none => simp [held, tagged] at isTagged
          | _ => simp [PyValue.isNone]
        have initially : Mangled (initialRecord type
            (argumentsOf (writtenNames type record) values) name) (record name) := by
          rw [initialRecord_arguments member, if_pos isWritten]
          exact (ofWritten name isWritten (fieldPath name)).2 isTagged _
            (valuesOk name (reordered.symm.subset isWritten))
        have afterwards : Mangled (after name) (record name) := by
          refine runSteps_invariant (fun current => Mangled (current name) (record name))
            ?_ ran initially
          intro step inSteps before next stepped mangled
          obtain ⟨check, -, isStep⟩ := List.mem_map.mp inSteps
          rw [← isStep] at stepped
          exact Check.mangled stepped notComputed mangled
        rw [isRestored]
        exact .field member afterwards

/-- `runtime_value_from_dict` of an envelope is what `_deserialize` makes of it. -/
theorem runtimeValueFromDict_ok {items : List (PyString × PyValue)} {value : PyValue}
    (envelope : isEnvelope items = true) :
    runtimeValueFromDict order (.dict items) = .ok value ↔
      deserialize order (text "$") (.dict items) = .ok value := by
  rw [runtimeValueFromDict, deserialize, decodeMapping, itemsPath, envelope, if_pos rfl,
    if_pos rfl]
  simp only [PyValue.mapping?]
  constructor
  · intro finished
    rw [finished]
    rfl
  · exact atPath_ok

theorem Stored.roundTrips_iff {type : ValueType} {fields : List (FieldName × PyValue)}
    (stored : Stored (.runtime type fields)) :
    RoundTrips order (.runtime type fields) ↔ tagged (.runtime type fields) = false := by
  obtain ⟨document, written, translates⟩ := stored_translates stored
  obtain ⟨untagged, isTagged⟩ := translates (text "$")
  have isEnvelopeDocument : ∃ items, document = .dict items ∧ isEnvelope items = true := by
    rw [serialize] at written
    obtain ⟨items, -, isDocument⟩ := map_ok written
    have different : (valueTypeKey == schemaVersionKey) = false := by decide
    exact ⟨_, isDocument.symm, by simp [isEnvelope, tags, List.lookup_cons, different]⟩
  obtain ⟨items, isDocument, envelope⟩ := isEnvelopeDocument
  subst isDocument
  constructor
  · rintro ⟨other, restored, otherWritten, finished, -, same⟩
    rw [toDict, written] at otherWritten
    cases otherWritten
    by_contra notUntagged
    have mangled := isTagged (by simpa using notUntagged) restored
      ((runtimeValueFromDict_ok envelope).mp finished)
    rw [mangled.eq_false] at same
    cases same
  · intro noTag
    have isType : (PyValue.runtime type fields).isA type = true := by simp [PyValue.isA]
    exact ⟨.dict items, _, written, (runtimeValueFromDict_ok envelope).mpr (untagged noTag),
      ⟨type, isType, isType⟩, stored.eq_self⟩

/-- A runtime value that a program can build round-trips exactly when no frozen
mapping inside it, at any depth, holds both tags of an envelope, whatever the order
in which its fields are decoded. -/
theorem constructible_roundTrips_iff (order : SetOrder) {type : ValueType} {fields : List (FieldName × PyValue)}
    (constructible : Constructible (.runtime type fields)) :
    RoundTrips order (.runtime type fields) ↔ tagged (.runtime type fields) = false :=
  constructible.stored.roundTrips_iff

/-- The serialized form of a node. -/
def nodeDocument : PyValue :=
  .dict [(schemaVersionKey, .int 1), (valueTypeKey, .str (text "node")), (text "id", .int 7)]

/-- The state of a node with its properties. -/
def nodeState : PyValue :=
  .dict [(text "id", .int 7), (text "properties", .dict
    [(text "media.class", .str (text "Audio/Sink")),
      (text "ports", .list [.int 8, .dict [(schemaVersionKey, .int 1)]])])]

/-- The event that a node has changed to a state. -/
def nodeEvent (current : PyValue) : List (FieldName × PyValue) :=
  [(.generation, .int 1), (.sequence, .int 1),
    (.occurredAt, .str (text "2026-01-01T00:00:00Z")),
    (.kind, .member RuntimeEventKind.objectChanged),
    (.objectKind, .member RuntimeObjectKind.node), (.objectId, .int 7), (.current, current)]

theorem nodeEvent_constructible {current : PyValue} (ofCurrent : Constructible current) :
    ∀ argument ∈ nodeEvent current, Constructible argument.2 := by
  intro argument member
  simp only [nodeEvent, List.mem_cons, List.not_mem_nil, or_false] at member
  rcases member with h | h | h | h | h | h | h
  · exact h ▸ .int 1
  · exact h ▸ .int 1
  · exact h ▸ .str _
  · exact h ▸ .str _
  · exact h ▸ .str _
  · exact h ▸ .int 7
  · exact h ▸ ofCurrent

theorem nodeDocument_constructible : Constructible nodeDocument := by
  refine .dict (by decide) fun item member => ?_
  simp only [List.mem_cons, List.not_mem_nil, or_false] at member
  rcases member with isVersion | isType | isId
  · exact isVersion ▸ .int 1
  · exact isType ▸ .str _
  · exact isId ▸ .int 7

theorem nodeState_constructible : Constructible nodeState := by
  have ofVersion : Constructible (.dict [(schemaVersionKey, .int 1)]) := by
    refine .dict (by decide) fun item member => ?_
    exact List.mem_singleton.mp member ▸ .int 1
  have ofProperties : Constructible (.dict [(text "media.class", .str (text "Audio/Sink")),
      (text "ports", .list [.int 8, .dict [(schemaVersionKey, .int 1)]])]) := by
    refine .dict (by decide) fun item member => ?_
    simp only [List.mem_cons, List.not_mem_nil, or_false] at member
    rcases member with isClass | isPorts
    · exact isClass ▸ .str _
    · rw [isPorts]
      refine .list fun item member => ?_
      simp only [List.mem_cons, List.not_mem_nil, or_false] at member
      rcases member with isPort | isVersion
      · exact isPort ▸ .int 8
      · exact isVersion ▸ ofVersion
  refine .dict (by decide) fun item member => ?_
  simp only [List.mem_cons, List.not_mem_nil, or_false] at member
  rcases member with isId | isProperties
  · exact isId ▸ .int 7
  · exact isProperties ▸ ofProperties

def isTagged : Except PyError PyValue → Option Bool
  | .ok value => some (tagged value)
  | .error _ => none

/-- The event of a state that holds one of the tags, deep inside, is restored. -/
theorem nodeState_roundTrips : ∃ fields,
    construct .runtimeEvent (nodeEvent nodeState) = .ok (.runtime .runtimeEvent fields) ∧
      ∀ order, RoundTrips order (.runtime .runtimeEvent fields) := by
  have evaluated : isTagged (construct .runtimeEvent (nodeEvent nodeState)) = some false := by
    decide +kernel
  unfold isTagged at evaluated
  split at evaluated
  · rename_i value made
    have constructible : Constructible value :=
      .runtime (nodeEvent_constructible nodeState_constructible) made
    obtain ⟨record, -, isValue⟩ := construct_ok made
    rw [isValue, toRuntime] at constructible evaluated
    refine ⟨_, made.trans (congrArg Except.ok isValue), fun order => ?_⟩
    exact (constructible_roundTrips_iff order constructible).mpr (Option.some.inj evaluated)
  · cases evaluated

/-- Decoding restores the event of a serialized node with a `NodeValue` for its mapping. -/
theorem nodeDocumentEvent_not_restored :
    ¬ ∀ (type : ValueType) (fields : List (FieldName × PyValue)),
      Constructible (.runtime type fields) → RoundTrips SetOrder.document (.runtime type fields) := by
  intro roundTrips
  have evaluated : isTagged (construct .runtimeEvent (nodeEvent nodeDocument)) = some true := by
    decide +kernel
  unfold isTagged at evaluated
  split at evaluated
  · rename_i value made
    have constructible : Constructible value :=
      .runtime (nodeEvent_constructible nodeDocument_constructible) made
    obtain ⟨record, -, isValue⟩ := construct_ok made
    rw [isValue, toRuntime] at constructible evaluated
    have untagged := constructible.stored.roundTrips_iff.mp (roundTrips _ _ constructible)
    rw [Option.some.inj evaluated] at untagged
    cases untagged
  · cases evaluated

end RoundTrip

end WyrePlumber.Runtime
