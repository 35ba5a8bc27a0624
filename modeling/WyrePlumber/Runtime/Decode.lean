import WyrePlumber.Library.Dictionary
import WyrePlumber.Runtime.Classes

/-!
# Decoding of runtime values

`runtime_value_from_dict` and `_deserialize`.  A mapping that holds both tags is
an envelope of a runtime value wherever it stands.  The fields of an envelope are
decoded in the order of a set, which the hashes of the process decide; everything
here is for an arbitrary such order.
-/

set_option autoImplicit false
set_option linter.constructorNameAsVariable false

namespace WyrePlumber.Runtime

open Python Results

section Printing

/-! Whether `repr` of an object succeeds: it refuses integers of too many digits. -/

mutual

def printable (value : PyValue) : Bool :=
  match value with
  | .int number => number.natAbs < 10 ^ maxStrDigits
  | .list items => printableAll items
  | .tuple items => printableAll items
  | .dict items => printableItems items
  | .frozenDict items => printableItems items
  | .runtime _ fields => printableFields fields
  | _ => true
termination_by structural value

def printableAll (items : List PyValue) : Bool :=
  match items with
  | [] => true
  | item :: rest => printable item && printableAll rest
termination_by structural items

def printableItems (items : List (PyString × PyValue)) : Bool :=
  match items with
  | [] => true
  | (_, item) :: rest => printable item && printableItems rest
termination_by structural items

def printableFields (fields : List (FieldName × PyValue)) : Bool :=
  match fields with
  | [] => true
  | (_, value) :: rest => printable value && printableFields rest
termination_by structural fields

end

/-- The error that speaks of an object by its `repr`; the `repr` may fail first. -/
def describing (value : PyValue) (error : PyError) : PyError :=
  if printable value then error
  else digitLimit

end Printing

section Envelope

def isEnvelope (items : List (PyString × PyValue)) : Bool :=
  (items.lookup schemaVersionKey).isSome && (items.lookup valueTypeKey).isSome

def isTag (key : PyString) : Bool := key = schemaVersionKey || key = valueTypeKey

def fieldOf (type : ValueType) (key : PyString) : Option FieldName :=
  (fieldNames type).find? fun name => name.text = key

def valueTypeOf (string : PyString) : Option ValueType :=
  ValueType.all.find? fun type => type.text = string

def checkSchemaVersion (items : List (PyString × PyValue)) : Except PyError Unit :=
  let version := (items.lookup schemaVersionKey).getD .none
  let isBool := match version with | .bool _ => true | _ => false
  if !version.eq (.int schemaVersion) || isBool then
    .error (describing version
      (.decodeError (text "unsupported_schema_version") (text "$.schema_version")
        [.text (text "expected 1, received "), .repr version]))
  else .ok ()

def checkValueType (items : List (PyString × PyValue)) : Except PyError ValueType :=
  let name := (items.lookup valueTypeKey).getD .none
  match (match name with | .str string => valueTypeOf string | _ => none) with
  | some type => .ok type
  | none => .error (describing name
      (.decodeError (text "unsupported_value_type") (text "$.value_type")
        [.text (text "unknown runtime value type "), .repr name]))

/-- The names that are neither a tag nor a field of the class. -/
def unknownNames (type : ValueType) (items : List (PyString × PyValue)) : List PyString :=
  (items.map Prod.fst).filter fun key => !isTag key && (fieldOf type key).isNone

def checkNames (type : ValueType) (items : List (PyString × PyValue)) : Except PyError Unit :=
  if (unknownNames type items).isEmpty then .ok ()
  else .error (.decodeError (text "unknown_fields") (text "$")
    [.text (text "unknown field(s): " ++ (text ", ").intercalate
      ((unknownNames type items).mergeSort fun left right => decide (left ≤ right)))])

/-- The order in which the interpreter walks the set of some names. -/
structure SetOrder where
  walk : List PyString → List PyString
  perm : ∀ names, (walk names).Perm names

/-- The names in the order of the document, one of the orders. -/
def SetOrder.document : SetOrder := ⟨id, fun _ => .refl _⟩

section Fields

variable {Item : Type}

/-- `set(value) - {"schema_version", "value_type"}`. -/
def suppliedNames (items : List (PyString × Item)) : List PyString :=
  (items.map Prod.fst).filter fun key => !isTag key

def fieldItem (type : ValueType) (items : List (PyString × Item)) (key : PyString) :
    Option (FieldName × Item) :=
  (fieldOf type key).bind fun name => (items.lookup key).map fun item => (name, item)

/-- The items of an envelope that are fields of its class, in the order of the walk. -/
def fieldItems (order : SetOrder) (type : ValueType) (items : List (PyString × Item)) :
    List (FieldName × Item) :=
  (order.walk (suppliedNames items)).filterMap (fieldItem type items)

end Fields

/-- The arguments of the class, from the decoded items. -/
def payload (order : SetOrder) (type : ValueType)
    (decoded : List (PyString × Except PyError PyValue)) :
    Except PyError (List (FieldName × PyValue)) :=
  (fieldItems order type decoded).mapM fun entry => entry.2.map fun value => (entry.1, value)

/-- The call of the class; its `TypeError` or `ValueError` is an invalid value. -/
def decodeConstruct (type : ValueType) (arguments : List (FieldName × PyValue)) :
    Except PyError PyValue :=
  match construct type arguments with
  | .error (.typeError message) =>
      .error (.decodeError (text "invalid_value") (text "$") message)
  | .error (.valueError message) =>
      .error (.decodeError (text "invalid_value") (text "$") message)
  | result => result

/-- The decoding of an envelope whose items are decoded already.  Of several
fields that fail, the first in the order of the walk decides what is raised: a
decoding error or an overflow that escapes. -/
def decodeEnvelope (order : SetOrder) (items : List (PyString × PyValue))
    (decoded : List (PyString × Except PyError PyValue)) : Except PyError PyValue := do
  checkSchemaVersion items
  let type ← checkValueType items
  checkNames type items
  let arguments ← payload order type decoded
  decodeConstruct type arguments

/-- An error of a nested envelope is reported at the path of the envelope. -/
def atPath (path : PyString) : Except PyError PyValue → Except PyError PyValue
  | .error (.decodeError code _ message) => .error (.decodeError code path message)
  | result => result

/-- `TypeError` and `ValueError` of a JSON value as a decoding error. -/
def asInvalidJson (path : PyString) : Except PyError PyValue → Except PyError PyValue
  | .error error =>
      if error.isTypeOrValueError then
        .error (.decodeError (text "invalid_json_value") path error.message)
      else .error error
  | result => result

end Envelope

section Deserialize

variable (order : SetOrder)

def decodeMapping (path : PyString) (items : List (PyString × PyValue))
    (decoded : List (PyString × Except PyError PyValue)) : Except PyError PyValue :=
  if isEnvelope items then atPath path (decodeEnvelope order items decoded)
  else asInvalidJson path do
    let values ← decoded.mapM fun entry => entry.2.map fun value => (entry.1, value)
    freezeJson (.dict values)

/-- The path of the items of a mapping: the fields of an envelope start anew. -/
def itemsPath (path : PyString) (items : List (PyString × PyValue)) : PyString :=
  if isEnvelope items then text "$" else path

mutual

def deserialize (path : PyString) (value : PyValue) : Except PyError PyValue :=
  match value with
  | .dict items =>
      decodeMapping order path items (deserializeItems (itemsPath path items) items)
  | .frozenDict items =>
      decodeMapping order path items (deserializeItems (itemsPath path items) items)
  | .list items => (deserializeAll path 0 items).map .tuple
  | value => asInvalidJson path (freezeJson value)
termination_by structural value

def deserializeAll (path : PyString) (index : Nat) (items : List PyValue) :
    Except PyError (List PyValue) :=
  match items with
  | [] => .ok []
  | item :: rest => do
      let first ← deserialize (path ++ text "[" ++ text (toString index) ++ text "]") item
      let others ← deserializeAll path (index + 1) rest
      .ok (first :: others)
termination_by structural items

def deserializeItems (path : PyString) (items : List (PyString × PyValue)) :
    List (PyString × Except PyError PyValue) :=
  match items with
  | [] => []
  | (key, item) :: rest =>
      (key, deserialize (path ++ text "." ++ key) item) :: deserializeItems path rest
termination_by structural items

end

def runtimeValueFromDict (value : PyValue) : Except PyError PyValue :=
  match value.mapping? with
  | some items => decodeEnvelope order items (deserializeItems order (text "$") items)
  | none => .error (.decodeError (text "invalid_envelope") (text "$")
      (plain "runtime value must be an object"))

theorem deserializeItems_eq (path : PyString) (items : List (PyString × PyValue)) :
    deserializeItems order path items =
      items.map fun item => (item.1, deserialize order (path ++ text "." ++ item.1) item.2) := by
  induction items with
  | nil => rfl
  | cons item rest inductionHypothesis => rw [List.map_cons, ← inductionHypothesis]; rfl

theorem valueTypeOf_text (type : ValueType) : valueTypeOf type.text = some type := by
  have distinct : (ValueType.all.map ValueType.text).Nodup := by decide +kernel
  exact Dictionary.find?_of_nodup distinct type.mem_all

theorem fieldOf_tags (type : ValueType) :
    fieldOf type schemaVersionKey = none ∧ fieldOf type valueTypeKey = none := by
  obtain ⟨noVersion, distinct⟩ := List.nodup_cons.mp (envelopeKeys_nodup type)
  obtain ⟨noType, -⟩ := List.nodup_cons.mp distinct
  have unnamed : ∀ key ∉ (fieldNames type).map FieldName.text, fieldOf type key = none := by
    intro key absent
    rw [fieldOf, List.find?_eq_none]
    intro name member isKey
    exact absent (List.mem_map.mpr ⟨name, member, of_decide_eq_true isKey⟩)
  exact ⟨unnamed _ fun member => noVersion (List.mem_cons_of_mem _ member), unnamed _ noType⟩

theorem fieldOf_text {type : ValueType} {name : FieldName} (member : name ∈ fieldNames type) :
    fieldOf type name.text = some name :=
  Dictionary.find?_of_nodup (envelopeKeys_nodup type).of_cons.of_cons member

end Deserialize

section Walk

variable {Item Other : Type} {type : ValueType} {items : List (PyString × Item)}

theorem fieldOf_some {key : PyString} {name : FieldName} (found : fieldOf type key = some name) :
    name.text = key := by
  simpa using List.find?_some found

theorem fieldItem_some {key : PyString} {entry : FieldName × Item}
    (found : fieldItem type items key = some entry) :
    entry.1.text = key ∧ items.lookup key = some entry.2 := by
  obtain ⟨name, isField, held⟩ := Option.bind_eq_some_iff.mp found
  obtain ⟨item, isItem, isEntry⟩ := Option.map_eq_some_iff.mp held
  rw [← isEntry]
  exact ⟨fieldOf_some isField, isItem⟩

theorem mem_of_fieldItems {order : SetOrder} {entry : FieldName × Item}
    (member : entry ∈ fieldItems order type items) : (entry.1.text, entry.2) ∈ items := by
  obtain ⟨key, -, found⟩ := List.mem_filterMap.mp member
  obtain ⟨isKey, held⟩ := fieldItem_some found
  obtain ⟨before, after, split, -⟩ := List.lookup_eq_some_iff.mp held
  rw [split, isKey]
  exact List.mem_append_right _ List.mem_cons_self

theorem lookup_map (change : PyString → Item → Other) (key : PyString) :
    (items.map fun item => (item.1, change item.1 item.2)).lookup key =
      (items.lookup key).map (change key) := by
  induction items with
  | nil => rfl
  | cons item rest inductionHypothesis =>
      rw [List.map_cons, List.lookup_cons, List.lookup_cons, inductionHypothesis]
      cases same : key == item.1 with
      | true => simp [eq_of_beq same]
      | false => rfl

/-- The walk does not look at the items. -/
theorem fieldItems_map (order : SetOrder) (type : ValueType) (items : List (PyString × Item))
    (change : PyString → Item → Other) :
    fieldItems order type (items.map fun item => (item.1, change item.1 item.2)) =
      (fieldItems order type items).map fun entry => (entry.1, change entry.1.text entry.2) := by
  have sameNames : suppliedNames (items.map fun item => (item.1, change item.1 item.2)) =
      suppliedNames items := by
    rw [suppliedNames, suppliedNames, List.map_map]
    rfl
  have sameItem (key : PyString) :
      fieldItem type (items.map fun item => (item.1, change item.1 item.2)) key =
        (fieldItem type items key).map fun entry => (entry.1, change entry.1.text entry.2) := by
    unfold fieldItem
    rw [lookup_map]
    cases found : fieldOf type key with
    | none => rfl
    | some name => cases items.lookup key <;> simp [fieldOf_some found]
  rw [fieldItems, fieldItems, sameNames, List.map_filterMap]
  exact congrArg (List.filterMap · _) (funext sameItem)

def documentFields (type : ValueType) (items : List (PyString × Item)) :
    List (FieldName × Item) :=
  items.filterMap fun item => (fieldOf type item.1).map fun name => (name, item.2)

theorem documentFields_append (type : ValueType) (first second : List (PyString × Item)) :
    documentFields type (first ++ second) =
      documentFields type first ++ documentFields type second := by
  rw [documentFields, List.filterMap_append]
  rfl

theorem documentFields_names (distinct : (items.map Prod.fst).Nodup) :
    ((documentFields type items).map Prod.fst).Nodup := by
  induction items with
  | nil => exact List.nodup_nil
  | cons item rest inductionHypothesis =>
      rw [List.map_cons, List.nodup_cons] at distinct
      have restDistinct := inductionHypothesis distinct.2
      rw [documentFields, List.filterMap_cons]
      cases isField : fieldOf type item.1 with
      | none => exact restDistinct
      | some name =>
          refine List.nodup_cons.mpr ⟨fun member => ?_, restDistinct⟩
          obtain ⟨entry, inFields, isName⟩ := List.mem_map.mp member
          obtain ⟨other, inRest, isEntry⟩ := List.mem_filterMap.mp inFields
          obtain ⟨otherName, otherField, same⟩ := Option.map_eq_some_iff.mp isEntry
          have sameName : otherName = name := by
            rw [← same] at isName
            exact isName
          refine distinct.1 (List.mem_map.mpr ⟨other, inRest, ?_⟩)
          rw [← fieldOf_some isField, ← fieldOf_some otherField, sameName]

/-- Every walk meets the fields of the document, each once. -/
theorem fieldItems_perm (order : SetOrder) (distinct : (items.map Prod.fst).Nodup) :
    (fieldItems order type items).Perm (documentFields type items) := by
  have inDocument : (suppliedNames items).filterMap (fieldItem type items) =
      documentFields type items := by
    have each : ∀ item ∈ items, fieldItem type items item.1 =
        (fieldOf type item.1).map fun name => (name, item.2) := by
      intro item member
      have found : items.lookup item.1 = some item.2 := by
        obtain ⟨before, after, split⟩ := List.append_of_mem member
        refine List.lookup_eq_some_iff.mpr ⟨before, after, split, fun other earlier => ?_⟩
        rw [split, List.map_append, List.map_cons, List.nodup_append] at distinct
        exact bne_iff_ne.mpr (distinct.2.2 _ (List.mem_map_of_mem earlier) _ List.mem_cons_self).symm
      unfold fieldItem
      rw [found]
      cases fieldOf type item.1 <;> rfl
    rw [suppliedNames, List.filterMap_filter, List.filterMap_map, documentFields]
    refine List.filterMap_congr fun item member => ?_
    cases tag : isTag item.1 with
    | false => simpa [tag] using each item member
    | true =>
        have noField : fieldOf type item.1 = none := by
          rw [isTag, Bool.or_eq_true, decide_eq_true_eq, decide_eq_true_eq] at tag
          rcases tag with isVersion | isType
          · exact isVersion ▸ (fieldOf_tags type).1
          · exact isType ▸ (fieldOf_tags type).2
        simp [tag, noField]
  rw [← inDocument]
  exact (order.perm _).filterMap _

theorem payload_deserializeItems (order : SetOrder) (type : ValueType) (path : PyString)
    (items : List (PyString × PyValue)) :
    payload order type (deserializeItems order path items) =
      (fieldItems order type items).mapM fun entry =>
        (deserialize order (path ++ text "." ++ entry.1.text) entry.2).map fun value =>
          (entry.1, value) := by
  rw [payload, deserializeItems_eq, fieldItems_map order type items fun key item =>
    deserialize order (path ++ text "." ++ key) item, List.mapM_map]
  rfl

end Walk

section Success

theorem decodeConstruct_ok {type : ValueType} {arguments : List (FieldName × PyValue)}
    {value : PyValue} (decoded : decodeConstruct type arguments = .ok value) :
    construct type arguments = .ok value := by
  unfold decodeConstruct at decoded
  split at decoded
  · cases decoded
  · cases decoded
  · exact decoded

theorem atPath_ok {path : PyString} {result : Except PyError PyValue} {value : PyValue}
    (finished : atPath path result = .ok value) : result = .ok value := by
  unfold atPath at finished
  split at finished
  · cases finished
  · exact finished

theorem asInvalidJson_ok {path : PyString} {result : Except PyError PyValue} {value : PyValue}
    (finished : asInvalidJson path result = .ok value) : result = .ok value := by
  unfold asInvalidJson at finished
  split at finished
  · split at finished
    · cases finished
    · cases finished
  · exact finished

/-- An envelope decodes to a runtime value. -/
theorem decodeEnvelope_runtime {order : SetOrder} {items : List (PyString × PyValue)}
    {decoded : List (PyString × Except PyError PyValue)} {value : PyValue}
    (finished : decodeEnvelope order items decoded = .ok value) :
    ∃ type fields, value = .runtime type fields := by
  obtain ⟨version, -, afterVersion⟩ := bind_ok finished
  obtain ⟨type, -, afterType⟩ := bind_ok afterVersion
  obtain ⟨names, -, afterNames⟩ := bind_ok afterType
  obtain ⟨arguments, -, constructed⟩ := bind_ok afterNames
  obtain ⟨record, -, isValue⟩ := construct_ok (decodeConstruct_ok constructed)
  exact ⟨type, _, isValue⟩

end Success

end WyrePlumber.Runtime
