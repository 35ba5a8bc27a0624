import WyrePlumber.Runtime.FieldChecks

/-!
# Serialization and predicates

`to_dict` of the runtime values, and the evaluation of a confirmation predicate
against an observed value, which looks into the serialized form.
-/

set_option autoImplicit false

namespace WyrePlumber.Runtime

open Python Results

def schemaVersion : Int := 1

def schemaVersionKey : PyString := text "schema_version"

def valueTypeKey : PyString := text "value_type"

/-- The two tags of an envelope. -/
def tags (type : ValueType) : List (PyString × PyValue) :=
  [(schemaVersionKey, .int schemaVersion), (valueTypeKey, .str type.text)]

/-- The fields with the metadata `omit_none`. -/
def omitsNone (type : ValueType) (field : FieldName) : Bool :=
  type = .confirmationPredicate && field = .tolerance

section Serialize

/-! `_serialize`; on a runtime value it is `to_dict`. -/

mutual

def serialize : PyValue → Except PyError PyValue
  | .runtime type fields =>
      (serializeFields type fields).map fun items => .dict (tags type ++ items)
  | .frozenDict items => thawJson (.frozenDict items)
  | .tuple items => (serializeAll items).map .list
  | .none => .ok .none
  | .bool value => .ok (.bool value)
  | .int value => .ok (.int value)
  | .float value => .ok (.float value)
  | .str value => .ok (.str value)
  | value => .error (.typeError (.text (text "cannot serialize runtime field of type ") ::
      [.repr (.str value.typeName)]))

def serializeAll : List PyValue → Except PyError (List PyValue)
  | [] => .ok []
  | item :: rest => do
      let serialized ← serialize item
      let others ← serializeAll rest
      .ok (serialized :: others)

def serializeFields (type : ValueType) :
    List (FieldName × PyValue) → Except PyError (List (PyString × PyValue))
  | [] => .ok []
  | (field, value) :: rest =>
      if omitsNone type field && value.isNone then serializeFields type rest
      else do
        let serialized ← serialize value
        let others ← serializeFields type rest
        .ok ((field.text, serialized) :: others)

end

def toDict (value : PyValue) : Except PyError PyValue := serialize value

theorem serializeAll_eq (items : List PyValue) : serializeAll items = items.mapM serialize := by
  induction items with
  | nil => rfl
  | cons item rest inductionHypothesis =>
      rw [List.mapM_cons, ← inductionHypothesis]
      rfl

end Serialize

section Predicates

/-- `_resolve_path`; none when a component is not found. -/
def resolvePath : PyValue → List PyValue → Option PyValue
  | current, [] => some current
  | current, .str key :: rest =>
      match current.mapping?.bind (List.lookup key) with
      | some next => resolvePath next rest
      | none => none
  | current, .int index :: rest =>
      match current.sequence?.bind (·[index.toNat]?) with
      | some next => resolvePath next rest
      | none => none
  | _, _ => none

def comparable (value : PyValue) : Except PyError PyValue :=
  match value with
  | .runtime _ _ => do
      let document ← toDict value
      freezeJson document
  | _ => freezeJson value

def observed (observation : PyValue) : Except PyError PyValue :=
  match observation with
  | .runtime _ _ => toDict observation
  | _ => .ok observation

/-- `abs(float(value) - float(expected)) <= tolerance`, for a number. -/
def approximatelyEqual (value expected tolerance : PyValue) : Except PyError Bool :=
  match toFloat? value, toFloat? expected, tolerance with
  | some left, some right, .float bound => do
      let left ← left
      let right ← right
      .ok ((left.sub right).abs.le bound)
  | _, _, _ => .ok false

/-- `ConfirmationPredicateValue.matches`. -/
def predicateMatches (predicate observation : PyValue) : Except PyError Bool := do
  let value ← observed observation
  let operator := predicate.get .operator
  let found := resolvePath value ((predicate.get .path).sequence?.getD [])
  if operator.isMember ConfirmationOperator.present then .ok (found.any fun value => !value.isNone)
  else if operator.isMember ConfirmationOperator.absent then .ok (found.all PyValue.isNone)
  else
    match found with
    | none => .ok false
    | some value =>
        if operator.isMember ConfirmationOperator.approximatelyEquals then
          approximatelyEqual value (predicate.get .expected) (predicate.get .tolerance)
        else do
          let left ← comparable value
          let right ← comparable (predicate.get .expected)
          .ok (left.eq right)

end Predicates

end WyrePlumber.Runtime
