import WyrePlumber.Library.Binary32
import WyrePlumber.Spa.Conversions
import WyrePlumber.Spa.Objects

/-!
# Building pods

`build_spa_pod` and the functions it calls.  `display` is `str` of a value other
than a string, which the builder applies to the entries of string maps only.
-/

set_option autoImplicit false
set_option linter.constructorNameAsVariable false

namespace WyrePlumber.Spa

open Python

section Types

/-- The pod type that a Python object equals. -/
def podTypeOf? (value : SpaValue) : Option PodType :=
  [.none, .bool, .id, .int, .long, .float, .double, .string, .bytes, .rectangle, .fraction, .bitmap,
    .array, .struct, .object, .sequence, .pointer, .fd, .choice, .pod].find?
    fun podType : PodType => equalsNumber podType.code value

/-- `items[name]` where it is an `int`. -/
def intField (items : List (SpaKey × SpaValue)) (name : String) : Option SpaValue :=
  (getField items name).filter fun value => value.integral?.isSome

def explicitPodType (value : SpaValue) : Option SpaValue :=
  match value.mapping? with
  | some items => (intField items "_pod_type").orElse fun _ => intField items "pod_type"
  | none => none

def hasField (items : List (SpaKey × SpaValue)) (name : String) : Bool :=
  (getField items name).isSome

def cannotInfer (className : PyString) : Except SpaError PodType :=
  .error (.raised (text "Cannot infer SPA type for value: <class '" ++ className ++ text "'>"))

def inferMappingType (items : List (SpaKey × SpaValue)) : Except SpaError PodType :=
  if hasField items "width" && hasField items "height" then .ok .rectangle
  else if hasField items "num" && hasField items "denom" then .ok .fraction
  else if hasField items "choice_type" then .ok .choice
  else if hasField items "controls" then .ok .sequence
  else if hasField items "pointer_type" then .ok .pointer
  else if hasField items "object_type" || hasField items "_object_type" ||
      hasField items "object_id" || hasField items "_object_id" || hasField items "properties" then
    .ok .object
  else if hasField items "pod" then .ok .pod
  else if hasField items "values" && hasField items "child_type" then .ok .array
  else if hasField items "values" then .ok .struct
  else cannotInfer (text "dict")

/-- `_infer_spa_type` of an object without an explicit type. -/
def inferType : SpaValue → Except SpaError PodType
  | .object _ _ => .ok .object
  | .none => .ok .none
  | .bool _ => .ok .bool
  | .member _ _ => .ok .id
  | .int value => .ok (if -2147483648 ≤ value ∧ value ≤ 2147483647 then .int else .long)
  | .float _ => .ok .float
  | .str _ => .ok .string
  | .bytes _ => .ok .bytes
  | .dict items => inferMappingType items
  | .list _ => .ok .struct
  | .other className => cannotInfer className

def inferSpaType (value : SpaValue) : Except SpaError SpaValue :=
  match explicitPodType value with
  | some explicit => .ok explicit
  | none => (inferType value).map fun podType => .int podType.code

end Types

section Prepare

variable (display : SpaValue → PyString)

def pyStr : SpaValue → PyString
  | .str string => string
  | value => display value

def structOf (items : List SpaValue) : SpaValue :=
  .dict [field "_pod_type" (.int PodType.struct.code), field "values" (.list items)]

def arrayOf (childType : PodType) (items : List SpaValue) : SpaValue :=
  .dict [field "_pod_type" (.int PodType.array.code), field "child_type" (.int childType.code),
    field "values" (.list items)]

/-- The items of a mapping that is not in the form of a struct pod yet. -/
def unstructured? (value : SpaValue) : Option (List (SpaKey × SpaValue)) :=
  value.mapping?.filter fun items => !hasPodType items .struct

def dictInfoToStruct (value : SpaValue) : SpaValue :=
  match unstructured? value with
  | some items =>
      structOf (.int items.length :: items.flatMap fun item =>
        [.str (pyStr display item.1.value), .str (pyStr display item.2)])
  | none => value

def paramsToStruct (value : SpaValue) : SpaValue :=
  match unstructured? value with
  | some items =>
      structOf (items.flatMap fun item => [.str (pyStr display item.1.value), item.2])
  | none => value

def labelEntry (entry : SpaValue) : Option (List SpaValue) :=
  match entry.mapping? with
  | some items =>
      some [(getField items "value").getD .none, (getField items "label").getD .none]
  | none => (anySequence? entry).filter fun items => items.length = 2

def labelsToStruct (value : SpaValue) : SpaValue :=
  match value.sequence? with
  | some entries =>
      match entries.mapM labelEntry with
      | some items => structOf items.flatten
      | none => value
  | none => value

def profileClassEntry (items : List (SpaKey × SpaValue)) : Except SpaError SpaValue := do
  let count ← pyInt ((getField items "count").getD (.int 0))
  let devices ← pyList ((getField items "devices").getD (.list []))
  .ok (structOf [.str (pyStr display ((getField items "class").getD .none)), .int count,
    .str (pyStr display ((getField items "property").getD .none)), arrayOf .int devices])

/-- `_profile_classes_to_struct`; an entry that is no mapping gives the value back. -/
def profileClassEntries : List SpaValue → Except SpaError (Option (List SpaValue))
  | [] => .ok (some [])
  | entry :: rest =>
      match entry.mapping? with
      | none => .ok none
      | some items => do
          let first ← profileClassEntry display items
          let others ← profileClassEntries rest
          .ok (others.map (first :: ·))

def profileClassesToStruct (value : SpaValue) : Except SpaError SpaValue :=
  match value.sequence? with
  | some entries => do
      let converted ← profileClassEntries display entries
      match converted with
      | some items => .ok (structOf (.int entries.length :: items))
      | none => .ok value
  | none => .ok value

def ensureObjectValue (value : SpaValue) (objectType objectId : Int) : SpaValue :=
  match value with
  | .dict items =>
      if hasField items "object_type" || hasField items "_object_type" ||
          hasField items "object_id" || hasField items "_object_id" then value
      else
        match objectClassesById.lookup objectId with
        | some objectClass =>
            (SpaPodObject.init
              { objectClass, objectType, objectId
                objectName := objectIdToName.lookup objectClass.objectId
                propertyFlags := []
                propertyKeys := [] } items).value
        | none =>
            .dict [field "_pod_type" (.int PodType.object.code),
              field "_object_type" (.int objectType), field "_object_id" (.int objectId),
              field "object_type" (.int objectType), field "object_id" (.int objectId),
              field "properties" (.dict items), field "property_flags" (.dict []),
              field "property_keys" (.dict [])]
  | _ => value

def setDefault (items : List (SpaKey × SpaValue)) (name : String) (podType : PodType) :
    List (SpaKey × SpaValue) :=
  if hasField items name then items else items ++ [field name (.int podType.code)]

/-- The shape of a known property written out as a pod in its generic form. -/
def prepareShape (shape : Shape) (value : SpaValue) : Except SpaError SpaValue :=
  match shape with
  | .dictInfo => .ok (dictInfoToStruct display value)
  | .params => .ok (paramsToStruct display value)
  | .labels => .ok (labelsToStruct value)
  | .profileClasses => profileClassesToStruct display value
  | .arrayInt => (pyList value).map (arrayOf .int)
  | .arrayFloat => (pyList value).map (arrayOf .float)
  | .arrayId => (pyList value).map (arrayOf .id)
  | .objectProps => .ok (ensureObjectValue value 0x40002 2)
  | .objectFormat => .ok (ensureObjectValue value 0x40003 4)

/-- A choice with the child type that its property declares. -/
def prepareChoice (spec : PropertySpec) (items : List (SpaKey × SpaValue)) : SpaValue :=
  match spec.podType, spec.enumClass with
  | some podType, _ => .dict (setDefault items "child_type" podType)
  | none, some _ => .dict (setDefault items "child_type" .id)
  | none, none => .dict items

def preparePropertyValue (objectId key : Int) (value : SpaValue) : Except SpaError SpaValue :=
  match propertySpecByKey objectId key with
  | none => .ok value
  | some spec =>
      match value.mapping?.filter fun items => hasPodType items .choice with
      | some items => .ok (prepareChoice spec items)
      | none =>
          match spec.shape with
          | some shape => prepareShape display shape value
          | none => .ok value

end Prepare

section Build

-- `build` is `build_spa_pod` of a contained value
variable (display : SpaValue → PyString)
  (build : SpaValue → Option SpaValue → Except SpaError Bytes)

def pairParts (first second : String) (problem : String) (value : SpaValue) :
    Except SpaError (Int × Int) :=
  match value.mapping? with
  | some items => do
      let left ← orElseRaise .keyError (getField items first)
      let right ← orElseRaise .keyError (getField items second)
      .ok (← pyInt left, ← pyInt right)
  | none =>
      match anySequence? value with
      | some [left, right] => do .ok (← pyInt left, ← pyInt right)
      | _ => raise problem

def buildPair (podType : PodType) (first second problem : String) (value : SpaValue) :
    Except SpaError Bytes := do
  let (left, right) ← pairParts first second problem value
  packPod podType ((← packUnsigned 4 left) ++ (← packUnsigned 4 right))

/-- The bodies of equally sized items of one type, with the size they have. -/
def buildItems (childType : SpaValue) (noun : String) :
    Option SpaValue → List SpaValue → Except SpaError (Option SpaValue × List Bytes)
  | childSize, [] => .ok (childSize, [])
  | childSize, item :: rest => do
      let pod ← build item (some childType)
      let size := Bytes.toNat (Bytes.slice pod 0 4)
      let itemType := Bytes.toNat (Bytes.slice pod 4 4)
      if equalsNumber itemType childType then
        let known := childSize.getD (.int size)
        if equalsNumber size known then do
          let (finalSize, bodies) ← buildItems childType noun (some known) rest
          .ok (finalSize, Bytes.slice pod 8 size :: bodies)
        else .error (.raised (text noun ++ text " must all use the same child size"))
      else .error (.raised (text noun ++ text " must all use the same child type"))

def notNone : Option SpaValue → Option SpaValue
  | some .none => none
  | value => value

/-- The type of the children: the given one, or the type of the first value. -/
def childTypeOf (childType : Option SpaValue) (values : List SpaValue) (problem : String) :
    Except SpaError SpaValue :=
  match childType, values with
  | some childType, _ => .ok childType
  | none, first :: _ => inferSpaType first
  | none, [] => raise problem

/-- The values of an array or a struct, given as a mapping or as themselves. -/
def containedValues (value : SpaValue) : Except SpaError (List SpaValue) :=
  match value.mapping? with
  | some items => pyList ((getField items "values").getD (.list []))
  | none => pyList value

/-- A field that the mapping form of a pod may give. -/
def givenField (value : SpaValue) (name : String) : Option SpaValue :=
  notNone (value.mapping?.bind (getField · name))

def buildArrayPod (value : SpaValue) : Except SpaError Bytes := do
  let values ← containedValues value
  let childType ← childTypeOf (givenField value "child_type") values
    "Array pods require 'child_type' when empty"
  let (childSize, bodies) ← buildItems build childType "Array items"
    (givenField value "child_size") values
  let size ← packUnsigned 4 (← pyInt (childSize.getD (.int 0)))
  let code ← packUnsigned 4 (← pyInt childType)
  packPod .array (size ++ code ++ bodies.flatten)

def buildStructPod (value : SpaValue) : Except SpaError Bytes := do
  let values ← containedValues value
  let pods ← values.mapM (build · none)
  packPod .struct pods.flatten

def choiceValues (items : List (SpaKey × SpaValue)) : Except SpaError (List SpaValue) := do
  let values ← pyList ((getField items "values").getD (.list []))
  match values, getField items "value" with
  | [], some value => .ok [value]
  | values, _ => .ok values

def buildChoicePod (value : SpaValue) : Except SpaError Bytes :=
  match value.mapping? with
  | none => raise "Choice pods require a mapping with choice metadata"
  | some items => do
      let values ← choiceValues items
      let choiceType ← pyInt ((getField items "choice_type").getD (.int 0))
      let flags ← pyInt ((getField items "flags").getD (.int 0))
      let childType ← childTypeOf (notNone (getField items "child_type")) values
        "Choice pods require 'child_type' when empty"
      let (childSize, bodies) ← buildItems build childType "Choice values"
        (notNone (getField items "child_size")) values
      let head ← packUnsigned 4 choiceType
      let flagBytes ← packUnsigned 4 flags
      let size ← packUnsigned 4 (← pyInt (childSize.getD (.int 0)))
      let code ← packUnsigned 4 (← pyInt childType)
      packPod .choice (head ++ flagBytes ++ size ++ code ++ bodies.flatten)

def resolveKey (objectId : Int) (propertyKeys : List (SpaKey × SpaValue)) (key : SpaKey) :
    Except SpaError (SpaValue × Option PropertySpec) :=
  match key with
  | .number number => .ok (.int number, propertySpecByKey objectId number)
  | .name name =>
      let spec := propertySpecByName objectId name
      match notNone (propertyKeys.lookup key), spec with
      | some given, _ => .ok (given, spec)
      | none, some spec => .ok (.int spec.key, some spec)
      | none, none =>
          .error (.raised (text "Unknown SPA object property '" ++ name ++
            text "' for object id " ++ text (toString objectId)))

/-- One round of the loop of `_build_object_pod`: the key, the flags and the pod of
a property. -/
def buildProperty (objectId : Int) (propertyFlags propertyKeys : List (SpaKey × SpaValue))
    (item : SpaKey × SpaValue) : Except SpaError Bytes := do
  let (given, spec) ← resolveKey objectId propertyKeys item.1
  let key ← pyInt given
  let prepared ← preparePropertyValue display objectId key item.2
  let nestedType := (explicitPodType prepared).orElse fun _ =>
    (spec.bind PropertySpec.podType).map fun podType => .int podType.code
  let pod ← build prepared nestedType
  let flags ← pyInt ((propertyFlags.lookup item.1).getD (.int 0))
  .ok ((← packUnsigned 4 key) ++ (← packUnsigned 4 flags) ++ pod)

def buildObject (objectType objectId : Int)
    (properties propertyFlags propertyKeys : List (SpaKey × SpaValue)) : Except SpaError Bytes := do
  let head ← packUnsigned 4 objectType
  let identity ← packUnsigned 4 objectId
  let chunks ← properties.mapM (buildProperty display build objectId propertyFlags propertyKeys)
  packPod .object (head ++ identity ++ chunks.flatten)

/-- A side table of a typed object as a Python mapping. -/
def intTable (table : List (SpaKey × Int)) : List (SpaKey × SpaValue) :=
  table.map fun item => (item.1, .int item.2)

def mappingOrEmpty (value : Option SpaValue) : List (SpaKey × SpaValue) :=
  (value.bind SpaValue.mapping?).getD []

def eitherField (items : List (SpaKey × SpaValue)) (first second : String) : Option SpaValue :=
  notNone ((getField items first).orElse fun _ => getField items second)

def objectIdOf (items : List (SpaKey × SpaValue)) : Except SpaError Int :=
  match eitherField items "object_id" "_object_id" with
  | some objectId => pyInt objectId
  | none => raise "Object pod requires 'object_id'"

def objectTypeOf (items : List (SpaKey × SpaValue)) (objectId : Int) : Except SpaError Int :=
  match eitherField items "object_type" "_object_type" with
  | some objectType => pyInt objectType
  | none =>
      match objectIdToType.lookup objectId with
      | some objectType => .ok objectType
      | none => raise "Object pod requires 'object_type'"

def propertiesOf (items : List (SpaKey × SpaValue)) :
    Except SpaError (List (SpaKey × SpaValue)) :=
  match ((getField items "properties").getD (.dict [])).mapping? with
  | some properties => .ok properties
  | none => raise "Object pod 'properties' must be a mapping"

def buildObjectPod (value : SpaValue) : Except SpaError Bytes :=
  match value with
  | .object header properties =>
      buildObject display build header.objectType header.objectId properties
        (intTable header.propertyFlags) (intTable header.propertyKeys)
  | .dict items => do
      let objectId ← objectIdOf items
      let objectType ← objectTypeOf items objectId
      let properties ← propertiesOf items
      buildObject display build objectType objectId properties
        (mappingOrEmpty (getField items "property_flags"))
        (mappingOrEmpty (getField items "property_keys"))
  | _ => raise "Object pods require a mapping"

def buildControl (control : SpaValue) : Except SpaError Bytes :=
  match control.mapping? with
  | none => raise "Sequence control entries must be mappings"
  | some items => do
      let pod ← build ((getField items "value").getD .none) none
      let offset ← packUnsigned 4 (← pyInt ((getField items "offset").getD (.int 0)))
      let code ← packUnsigned 4 (← pyInt ((getField items "type").getD (.int 0)))
      .ok (offset ++ code ++ pod)

def buildSequencePod (value : SpaValue) : Except SpaError Bytes :=
  match value.mapping? with
  | none => raise "Sequence pods require a mapping"
  | some items => do
      let unit ← pyInt ((getField items "unit").getD (.int 0))
      match anySequence? ((getField items "controls").getD (.list [])) with
      | none => raise "Sequence pods require a 'controls' sequence"
      | some controls => do
          let head ← packUnsigned 4 unit
          let chunks ← controls.mapM (buildControl build)
          packPod .sequence (head ++ Bytes.ofNat 4 0 ++ chunks.flatten)

def buildPointerPod (value : SpaValue) : Except SpaError Bytes :=
  match value.mapping? with
  | none => raise "Pointer pods require a mapping"
  | some items => do
      let pointerType ← pyInt ((getField items "pointer_type").getD (.int 0))
      let pointerValue ← pyInt ((getField items "value").getD (.int 0))
      packPod .pointer ((← packUnsigned 4 pointerType) ++ Bytes.ofNat 4 0 ++
        (← packUnsigned 8 pointerValue))

def embeddedBytes (value : SpaValue) : Except SpaError Bytes :=
  match value with
  | .bytes data => .ok data
  | _ => build value none

def buildEmbeddedPod (value : SpaValue) : Except SpaError Bytes := do
  let pod ← embeddedBytes build <| match value.mapping? with
    | some items => (getField items "pod").getD .none
    | none => value
  if pod.length < headerSize then raise "Data too short for SPA pod header"
  else packPod .pod (pod.take (align (headerSize + Bytes.toNat (Bytes.slice pod 0 4))))

/-- The type to build: the given one, the one the value names, or one for its kind. -/
def chosenType (value : SpaValue) (given : Option SpaValue) : Except SpaError SpaValue :=
  match (notNone given).orElse fun _ => explicitPodType value with
  | some podType => .ok podType
  | none => inferSpaType value

/-- `build_spa_pod`, with the call for contained values as a parameter. -/
def buildPod (value : SpaValue) (given : Option SpaValue) : Except SpaError Bytes := do
  let podType ← chosenType value given
  match podTypeOf? podType with
  | some .none => packPod .none []
  | some .bool => packPod .bool (Bytes.ofNat 4 (if pyBool value then 1 else 0))
  | some .id => packPod .id (← packUnsigned 4 (← pyInt value))
  | some .int => packPod .int (← packSigned 4 (← pyInt value))
  | some .long => packPod .long (← packSigned 8 (← pyInt value))
  | some .float => do
      let word ← orElseRaise .overflowError (Binary32.pack? (← pyFloat value))
      packPod .float (Bytes.ofNat 4 word)
  | some .double => packPod .double (Bytes.ofNat 8 (← pyFloat value).word.toNat)
  | some .string => do
      let encoded ← orElseRaise .valueError (Utf8.encode? (pyStr display value))
      packPod .string (encoded ++ [0])
  | some .bytes => packPod .bytes (← pyBytes value)
  | some .rectangle =>
      buildPair .rectangle "width" "height"
        "Rectangle pod expects \x7b'width', 'height'\x7d or a 2-item sequence" value
  | some .fraction =>
      buildPair .fraction "num" "denom"
        "Fraction pod expects \x7b'num', 'denom'\x7d or a 2-item sequence" value
  | some .bitmap => do
      let body := match value.mapping? with
        | some items => (getField items "data").getD .none
        | none => value
      packPod .bitmap (← pyBytes body)
  | some .array => buildArrayPod build value
  | some .struct => buildStructPod build value
  | some .object => buildObjectPod display build value
  | some .sequence => buildSequencePod build value
  | some .pointer => buildPointerPod value
  | some .fd => packPod .fd (← packSigned 8 (← pyInt value))
  | some .choice => buildChoicePod build value
  | some .pod => buildEmbeddedPod build value
  | none =>
      .error (.raised (text "Unsupported SPA type for building: " ++ pyStr display podType))

end Build

/-- `build_spa_pod`; the fuel bounds the nesting of the values it builds. -/
def buildSpaPod (display : SpaValue → PyString) :
    Nat → SpaValue → Option SpaValue → Except SpaError Bytes
  | 0, _, _ => .error .exhausted
  | fuel + 1, value, podType => buildPod display (buildSpaPod display fuel) value podType

end WyrePlumber.Spa
