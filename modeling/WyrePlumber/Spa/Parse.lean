import WyrePlumber.Library.Binary32
import WyrePlumber.Library.Gathering
import WyrePlumber.Spa.Specialize

/-!
# Parsing pods

`parse_spa_pod` and the functions it calls.  `parse` stands for the call for a
contained pod; the fuel of the outermost definition bounds the nesting of pods.
-/

set_option autoImplicit false
set_option linter.constructorNameAsVariable false

namespace WyrePlumber.Spa

open Python Gathering

section Fields

def unpackUnsigned (data : Bytes) (offset width : Nat) : Except SpaError Nat :=
  orElseRaise .structError (Bytes.readNat data offset width)

def unpackSigned (data : Bytes) (offset width : Nat) : Except SpaError Int :=
  (unpackUnsigned data offset width).map (Bytes.signed (8 * width))

def parsePodHeader (data : Bytes) (offset : Nat) : Except SpaError (Nat × Nat) :=
  if data.length < offset + 8 then raise "Data too short for SPA pod header"
  else .ok (Bytes.toNat (Bytes.slice data offset 4), Bytes.toNat (Bytes.slice data (offset + 4) 4))

def ensureAvailable (data : Bytes) (offset size : Nat) : Except SpaError Unit :=
  if data.length < offset + size then raise "Data too short for SPA pod body" else .ok ()

def podDict (podType : PodType) (items : List (SpaKey × SpaValue)) : SpaValue :=
  .dict (field "_pod_type" (.int podType.code) :: items)

def natField (name : String) (number : Nat) : SpaKey × SpaValue := field name (.int number)

/-- `string_data.split(b"\x00", 1)[0]`. -/
def untilNul (data : Bytes) : Bytes := data.takeWhile (· ≠ 0)

end Fields

section Containers

variable (parse : Bytes → Nat → Except SpaError SpaValue)

/-- The next of equally sized items without headers of their own. -/
def itemStep (data : Bytes) (finish childSize childType current : Nat) :
    Except SpaError (Option (SpaValue × Nat)) :=
  if current + childSize ≤ finish then
    (parse (Bytes.ofNat 4 childSize ++ Bytes.ofNat 4 childType ++
      Bytes.slice data current childSize) 0).map fun value => some (value, current + childSize)
  else .ok none

/-- The items of an array or a choice; those of no size are left out. -/
def parseItems (data : Bytes) (start finish childSize childType : Nat) :
    Except SpaError (List SpaValue) :=
  if childSize = 0 then .ok []
  else gather .exhausted (itemStep parse data finish childSize childType) (finish - start + 1) start

def parseArray (data : Bytes) (offset size : Nat) : Except SpaError SpaValue :=
  if size < 8 then
    .ok (podDict .array [natField "child_size" 0, natField "child_type" PodType.none.code,
      field "values" (.list [])])
  else do
    let childSize ← unpackUnsigned data offset 4
    let childType ← unpackUnsigned data (offset + 4) 4
    let values ← parseItems parse data (offset + 8) (offset + size) childSize childType
    .ok (podDict .array [natField "child_size" childSize, natField "child_type" childType,
      field "values" (.list values)])

/-- A contained pod with the position after it; none where it does not fit. -/
def containedPod (data : Bytes) (finish current : Nat) :
    Except SpaError (Option (SpaValue × Nat)) := do
  let (podSize, _) ← parsePodHeader data current
  if finish < current + align (8 + podSize) then .ok none
  else (parse data current).map fun value => some (value, current + align (8 + podSize))

def structStep (data : Bytes) (finish current : Nat) :
    Except SpaError (Option (SpaValue × Nat)) :=
  if current + 8 ≤ finish then containedPod parse data finish current else .ok none

def parseStruct (data : Bytes) (offset size : Nat) : Except SpaError SpaValue :=
  (gather .exhausted (structStep parse data (offset + size)) (size + 1) offset).map fun values =>
    podDict .struct [field "values" (.list values)]

/-- A property of an object as the parser reads it. -/
structure ParsedProperty where
  target : SpaKey
  key : Nat
  value : SpaValue
  flags : Nat

/-- The key of the target dictionary and the value under it. -/
def parsedProperty (objectId key flags : Nat) (value : SpaValue) : Except SpaError ParsedProperty :=
  match propertySpecByKey objectId key with
  | some spec =>
      (specializePropertyValue objectId key value).map fun value =>
        ⟨.name spec.name, key, value, flags⟩
  | none => .ok ⟨.number key, key, value, flags⟩

def objectStep (data : Bytes) (finish objectId current : Nat) :
    Except SpaError (Option (ParsedProperty × Nat)) :=
  if current + 16 ≤ finish then do
    let key ← unpackUnsigned data current 4
    let flags ← unpackUnsigned data (current + 4) 4
    let found ← containedPod parse data finish (current + 8)
    match found with
    | some (value, next) =>
        (parsedProperty objectId key flags value).map fun property => some (property, next)
    | none => .ok none
  else .ok none

/-- `property_keys`: the numbers of the properties stored by name. -/
def parsedKeys (parsed : List ParsedProperty) : List (SpaKey × Int) :=
  Dictionary.ofItems (parsed.filterMap fun property =>
    match property.target with
    | .name name => some (.name name, (property.key : Int))
    | .number _ => none)

def parsedFlags (parsed : List ParsedProperty) : List (SpaKey × Int) :=
  Dictionary.ofItems (parsed.map fun property => (property.target, (property.flags : Int)))

def parsedValues (parsed : List ParsedProperty) : List (SpaKey × SpaValue) :=
  Dictionary.ofItems (parsed.map fun property => (property.target, property.value))

def intDict (table : List (SpaKey × Int)) : SpaValue :=
  .dict (table.map fun item => (item.1, .int item.2))

def objectDict (objectType objectId : Int) (properties : List (SpaKey × SpaValue))
    (propertyFlags propertyKeys : List (SpaKey × Int)) : SpaValue :=
  podDict .object ([field "_object_type" (.int objectType), field "_object_id" (.int objectId),
    field "object_type" (.int objectType), field "object_id" (.int objectId),
    field "properties" (.dict properties), field "property_flags" (intDict propertyFlags),
    field "property_keys" (intDict propertyKeys)] ++
    ((objectIdToName.lookup objectId).map fun name => field "object_name" (.str name)).toList)

/-- The typed object of a known object id, and the mapping form of any other. -/
def objectOf (objectType objectId : Int) (parsed : List ParsedProperty) : SpaValue :=
  match objectClassesById.lookup objectId with
  | some objectClass =>
      (SpaPodObject.init
        { objectClass, objectType, objectId
          objectName := (objectIdToName.lookup objectId).orElse fun _ =>
            objectIdToName.lookup objectClass.objectId
          propertyFlags := parsedFlags parsed
          propertyKeys := parsedKeys parsed } (parsedValues parsed)).value
  | none =>
      objectDict objectType objectId (parsedValues parsed) (parsedFlags parsed) (parsedKeys parsed)

def parseObject (data : Bytes) (offset size : Nat) : Except SpaError SpaValue :=
  if size < 8 then
    .ok (podDict .object [natField "_object_type" 0, natField "_object_id" 0,
      natField "object_type" 0, natField "object_id" 0, field "properties" (.dict []),
      field "property_flags" (.dict []), field "property_keys" (.dict [])])
  else do
    let objectType ← unpackUnsigned data offset 4
    let objectId ← unpackUnsigned data (offset + 4) 4
    let parsed ← gather .exhausted (objectStep parse data (offset + size) objectId) (size + 1)
      (offset + 8)
    .ok (objectOf objectType objectId parsed)

/-- The fields that a choice of a kind has beside its values; none where the values
are too few. -/
def derivedFields : ChoiceType → List SpaValue → List (SpaKey × SpaValue)
  | .range, default :: minimum :: maximum :: _ =>
      [field "default" default, field "min" minimum, field "max" maximum]
  | .step, default :: minimum :: maximum :: step :: _ =>
      [field "default" default, field "min" minimum, field "max" maximum, field "step" step]
  | .enum, default :: alternatives =>
      [field "default" default, field "alternatives" (.list alternatives)]
  | .flags, default :: others =>
      [field "default" default, field "flags_values" (.list others)]
  | .none, value :: _ => [field "value" value]
  | _, _ => []

/-- The fields of a choice type by its number; none for an unknown one. -/
def choiceTypeFields (choiceType : Nat) (values : List SpaValue) : List (SpaKey × SpaValue) :=
  match ChoiceType.ofCode? choiceType with
  | some kind => derivedFields kind values
  | none => []

theorem choiceTypeFields_code (kind : ChoiceType) (values : List SpaValue) :
    choiceTypeFields kind.code values = derivedFields kind values := by
  cases kind <;> rfl

/-- A choice in its mapping form, with the fields its type names. -/
def choiceItems (choiceType flags childSize childType : Nat) (values : List SpaValue) :
    List (SpaKey × SpaValue) :=
  [field "_pod_type" (.int PodType.choice.code), natField "choice_type" choiceType,
    natField "flags" flags, natField "child_size" childSize, natField "child_type" childType,
    field "values" (.list values)] ++ choiceTypeFields choiceType values

def choiceDict (choiceType flags childSize childType : Nat) (values : List SpaValue) : SpaValue :=
  .dict (choiceItems choiceType flags childSize childType values)

def parseChoice (data : Bytes) (offset size : Nat) : Except SpaError SpaValue :=
  if size < 16 then
    .ok (podDict .choice [natField "choice_type" ChoiceType.none.code, natField "flags" 0,
      natField "child_size" 0, natField "child_type" PodType.none.code,
      field "values" (.list [])])
  else do
    let choiceType ← unpackUnsigned data offset 4
    let flags ← unpackUnsigned data (offset + 4) 4
    let childSize ← unpackUnsigned data (offset + 8) 4
    let childType ← unpackUnsigned data (offset + 12) 4
    let values ← parseItems parse data (offset + 16) (offset + size) childSize childType
    .ok (choiceDict choiceType flags childSize childType values)

def controlStep (data : Bytes) (finish current : Nat) :
    Except SpaError (Option (SpaValue × Nat)) :=
  if current + 16 ≤ finish then do
    let controlOffset ← unpackUnsigned data current 4
    let controlType ← unpackUnsigned data (current + 4) 4
    let found ← containedPod parse data finish (current + 8)
    .ok (found.map fun pair =>
      (.dict [natField "offset" controlOffset, natField "type" controlType,
        field "value" pair.1], pair.2))
  else .ok none

def parseSequence (data : Bytes) (offset size : Nat) : Except SpaError SpaValue :=
  if size < 8 then
    .ok (podDict .sequence [natField "unit" 0, field "controls" (.list [])])
  else do
    let unit ← unpackUnsigned data offset 4
    let controls ← gather .exhausted (controlStep parse data (offset + size)) (size + 1)
      (offset + 8)
    .ok (podDict .sequence [natField "unit" unit, field "controls" (.list controls)])

def parsePointer (data : Bytes) (offset size : Nat) : Except SpaError SpaValue :=
  if size < 8 then
    .ok (podDict .pointer [natField "pointer_type" 0, natField "value" 0])
  else do
    let pointerType ← unpackUnsigned data offset 4
    let pointerValue ← if 16 ≤ size then unpackUnsigned data (offset + 8) 8
      else if 12 ≤ size then unpackUnsigned data (offset + 8) 4
      else .ok 0
    .ok (podDict .pointer [natField "pointer_type" pointerType, natField "value" pointerValue])

def parseEmbeddedPod (data : Bytes) (offset size : Nat) : Except SpaError SpaValue :=
  if size < 8 then .ok (podDict .pod [field "pod" .none])
  else do
    let (podSize, _) ← parsePodHeader data offset
    if size < align (8 + podSize) then raise "Embedded SPA pod exceeds container size"
    else (parse data offset).map fun value => podDict .pod [field "pod" value]

end Containers

section Pods

variable (parse : Bytes → Nat → Except SpaError SpaValue)

/-- The body of a pod of a known type. -/
def parseBody (data : Bytes) (offset size : Nat) : PodType → Except SpaError SpaValue
  | .none => .ok .none
  | .bool => (unpackSigned data offset 4).map fun number => .bool (number ≠ 0)
  | .id => (unpackUnsigned data offset 4).map fun number => .int number
  | .int => (unpackSigned data offset 4).map .int
  | .long => (unpackSigned data offset 8).map .int
  | .float => (unpackUnsigned data offset 4).map fun word => .float (Binary32.unpack word)
  | .double => (unpackUnsigned data offset 8).map fun word => .float ⟨BitVec.ofNat 64 word⟩
  | .string => .ok (.str (Utf8.decodeReplace (untilNul (Bytes.slice data offset size))))
  | .bytes => .ok (.bytes (Bytes.slice data offset size))
  | .rectangle => do
      let width ← unpackUnsigned data offset 4
      let height ← unpackUnsigned data (offset + 4) 4
      .ok (podDict .rectangle [natField "width" width, natField "height" height])
  | .fraction => do
      let num ← unpackUnsigned data offset 4
      let denom ← unpackUnsigned data (offset + 4) 4
      .ok (podDict .fraction [natField "num" num, natField "denom" denom])
  | .bitmap => .ok (podDict .bitmap [field "data" (.bytes (Bytes.slice data offset size))])
  | .array => parseArray parse data offset size
  | .struct => parseStruct parse data offset size
  | .object => parseObject parse data offset size
  | .sequence => parseSequence parse data offset size
  | .pointer => parsePointer data offset size
  | .fd => (unpackSigned data offset 8).map .int
  | .choice => parseChoice parse data offset size
  | .pod => parseEmbeddedPod parse data offset size

def unknownPod (podType size : Nat) (data : Bytes) : SpaValue :=
  .dict [natField "_pod_type" podType, natField "_type" podType, natField "_size" size,
    field "_data" (.bytes data)]

/-- `parse_spa_pod`, with the call for contained pods as a parameter. -/
def parsePod (data : Bytes) (offset : Nat) : Except SpaError SpaValue := do
  let (size, podType) ← parsePodHeader data offset
  ensureAvailable data (offset + 8) size
  match PodType.ofCode? podType with
  | some podType => parseBody parse data (offset + 8) size podType
  | none => .ok (unknownPod podType size (Bytes.slice data (offset + 8) size))

end Pods

/-- `parse_spa_pod`; the fuel bounds the nesting of pods. -/
def parseSpaPod : Nat → Bytes → Nat → Except SpaError SpaValue
  | 0, _, _ => .error .exhausted
  | fuel + 1, data, offset => parsePod (parseSpaPod fuel) data offset

end WyrePlumber.Spa
