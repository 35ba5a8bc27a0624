import WyrePlumber.Library.Base64
import WyrePlumber.Runtime.Classes
import WyrePlumber.Spa.Conversions

/-!
# Normalized SPA parameters

`normalize.py`: parsed SPA values as contract JSON and as the runtime values of
audio properties, formats, profiles and routes.
-/

set_option autoImplicit false
set_option linter.constructorNameAsVariable false

namespace WyrePlumber.Runtime

open Python Spa

/-- `str.lower` and `str.upper` with the Unicode tables of the interpreter. -/
structure CaseTables where
  lower : PyString → PyString
  upper : PyString → PyString

section Json

/-- `_object_id` of a mapping that is no typed object. -/
def dictObjectId (items : List (SpaKey × SpaValue)) : Option Int :=
  match (getField items "object_id").getD ((getField items "_object_id").getD .none) with
  | .int number => some number
  | .member _ number => some number
  | _ => none

/-- `_object_id`; a typed object has its id as an attribute. -/
def objectId : SpaValue → Option Int
  | .object header _ => some header.objectId
  | .dict items => dictObjectId items
  | _ => none

def propertyName (key : SpaKey) (objectId : Option Int) : Except PyError PyString :=
  match key with
  | .name name => .ok name
  | .number number =>
      match objectId.bind (propertySpecByKey · number) with
      | some spec => .ok spec.name
      | none => pyIntText number

def memberJson (enumClass : EnumClass) (value : Int) : PyValue :=
  .dict [(text "id", .int value), (text "name", .str ((enumClass.nameOf? value).getD [])),
    (text "namespace", .str enumClass.name)]

def bytesJson (data : Bytes) : PyValue :=
  .dict [(text "encoding", .str (text "base64")), (text "data", .str (Base64.encode data))]

mutual

def normalizeSpaJson : SpaValue → Except PyError PyValue
  | .member enumClass value => .ok (memberJson enumClass value)
  | .none => .ok .none
  | .bool value => .ok (.bool value)
  | .int value => .ok (.int value)
  | .float value => .ok (.float value)
  | .str value => .ok (.str value)
  | .bytes data => .ok (bytesJson data)
  | .dict items =>
      (normalizeItems (dictObjectId items) items).map fun items =>
        .dict (Dictionary.ofItems items)
  | .object header properties =>
      (normalizeItems (some header.objectId) properties).map fun items =>
        .dict (Dictionary.ofItems items)
  | .list items => (normalizeAll items).map .list
  | .other className =>
      .error (.typeError (.text (text "SPA value of type ") :: .repr (.str className) ::
        plain " is not normalizable"))

def normalizeAll : List SpaValue → Except PyError (List PyValue)
  | [] => .ok []
  | item :: rest => do
      let normalized ← normalizeSpaJson item
      let others ← normalizeAll rest
      .ok (normalized :: others)

def normalizeItems (objectId : Option Int) :
    List (SpaKey × SpaValue) → Except PyError (List (PyString × PyValue))
  | [] => .ok []
  | (key, item) :: rest => do
      let normalized ← normalizeSpaJson item
      let name ← propertyName key objectId
      let others ← normalizeItems objectId rest
      .ok ((name, normalized) :: others)

end

end Json

section Fields

def mustBe (name kind : String) : PyError := .typeError (plain (name ++ " must be " ++ kind))

def intOf (name : String) : SpaValue → Except PyError Int
  | .member _ value => .ok value
  | .int value => .ok value
  | _ => .error (mustBe name "an integer")

def floatOfInt (value : Int) : Except PyError Binary64 :=
  match Binary64.ofInt? value with
  | some number => .ok number
  | none => .error (.overflowError (plain "int too large to convert to float"))

def numberOf (name : String) : SpaValue → Except PyError PyValue
  | .float value => .ok (.float value)
  | .int value => (floatOfInt value).map .float
  | .member _ value => (floatOfInt value).map .float
  | _ => .error (mustBe name "a number")

def boolOf (name : String) : SpaValue → Except PyError PyValue
  | .bool value => .ok (.bool value)
  | _ => .error (mustBe name "a boolean")

def strOf (name : String) : SpaValue → Except PyError PyValue
  | .str value => .ok (.str value)
  | _ => .error (mustBe name "a string")

def isChoiceItems (items : List (SpaKey × SpaValue)) : Bool :=
  (getField items "choice_type").isSome || (getField items "kind").isSome ||
    hasPodType items .choice

def isChoice (value : SpaValue) : Bool := value.mapping?.any isChoiceItems

def notASequence : PyError := .typeError (plain "SPA array value must be a sequence")

/-- The members of a mapping that is no choice. -/
def arrayMembers (items : List (SpaKey × SpaValue)) : Except PyError (List SpaValue) :=
  match getField items "values" with
  | some (.list values) => .ok values
  | some _ => .error notASequence
  | none => .error (.typeError (plain "SPA array mapping must contain values"))

/-- The array of the default, of the value or of the first candidate of a choice. -/
def selectedValues (each : List (SpaKey × Except PyError (List SpaValue)))
    (first : Option (Except PyError (List SpaValue))) : Except PyError (List SpaValue) :=
  match each.lookup (.name (text "default")), each.lookup (.name (text "value")), first with
  | some selected, _, _ => selected
  | none, some selected, _ => selected
  | none, none, some selected => selected
  | none, none, none => .ok []

mutual

/-- `_array_values`; a choice stands for the value it selects. -/
def arrayValues : SpaValue → Except PyError (List SpaValue)
  | .list items => .ok items
  | .dict items =>
      if isChoiceItems items then selectedValues (eachArrayValues items) (firstArrayValues items)
      else arrayMembers items
  | .object _ items =>
      if isChoiceItems items then selectedValues (eachArrayValues items) (firstArrayValues items)
      else arrayMembers items
  | _ => .error notASequence

def eachArrayValues : List (SpaKey × SpaValue) → List (SpaKey × Except PyError (List SpaValue))
  | [] => []
  | (key, item) :: rest => (key, arrayValues item) :: eachArrayValues rest

def firstArrayValues : List (SpaKey × SpaValue) → Option (Except PyError (List SpaValue))
  | [] => none
  | (key, item) :: rest =>
      if key = .name (text "values") then headArrayValues item else firstArrayValues rest

def headArrayValues : SpaValue → Option (Except PyError (List SpaValue))
  | .list (first :: _) => some (arrayValues first)
  | .str (_ :: _) => some (.error notASequence)
  | .bytes (_ :: _) => some (.error notASequence)
  | _ => none

end

end Fields

section Values

variable (cases : CaseTables)

/-- The number of an enumeration name or of a decimal text. -/
def namedNumber (enumClass : EnumClass) (name : PyString) (string : PyString) :
    Except PyError Int :=
  match enumClass.valueOf? (cases.upper string) with
  | some number => .ok number
  | none =>
      match parseInt string with
      | some number => .ok number
      | none =>
          .error (.valueError [.text (text "invalid " ++ name ++ text " value "),
            .repr (.str string)])

def spaIdNumber (enumClass : EnumClass) : SpaValue → Except PyError Int
  | .str string => namedNumber cases enumClass enumClass.name string
  | .member _ value => .ok value
  | .int value => .ok value
  | _ => .error (.typeError [.text (enumClass.name ++ text " must be an integer")])

def optionalStr : Option PyString → PyValue
  | some string => .str string
  | none => .none

/-- `_spa_id`; the namespace is the name of the enumeration. -/
def spaId (enumClass : EnumClass) (value : SpaValue) : Except PyError PyValue := do
  let number ← spaIdNumber cases enumClass value
  construct .spaId [(.spaNamespace, .str enumClass.name), (.id, .int number),
    (.name, optionalStr (enumClass.nameOf? number))]

def intItem (name : String) (value : SpaValue) : Except PyError PyValue :=
  (intOf name value).map .int

def choiceNames : List (Int × PyString) :=
  [(0, text "none"), (1, text "range"), (2, text "step"), (3, text "enum"), (4, text "flags")]

/-- The kind of a choice; the text of an unknown number is made in any case. -/
def choiceKind (raw : SpaValue) : Except PyError PyString :=
  match raw with
  | .str string => .ok (cases.lower string)
  | _ => do
      let number ← intOf "choice type" raw
      let digits ← pyIntText number
      .ok ((choiceNames.lookup number).getD (text "unknown:" ++ digits))

def optionalItem (normalizer : SpaValue → Except PyError PyValue) :
    SpaValue → Except PyError PyValue
  | .none => .ok .none
  | value => normalizer value

/-- An item of the sequence of values for the kinds that have it. -/
def positional (values : List SpaValue) (position : Nat) (applies : Bool) : SpaValue :=
  if applies then values.getD position .none else .none

structure ChoiceFields where
  kind : Option SpaValue
  choiceType : Option SpaValue
  flags : Option SpaValue
  values : Option SpaValue
  default : Option SpaValue
  minimum : Option SpaValue
  maximum : Option SpaValue
  step : Option SpaValue
  alternatives : Option SpaValue

def choiceFields (items : List (SpaKey × SpaValue)) : ChoiceFields where
  kind := getField items "kind"
  choiceType := getField items "choice_type"
  flags := getField items "flags"
  values := getField items "values"
  default := getField items "default"
  minimum := getField items "min"
  maximum := getField items "max"
  step := getField items "step"
  alternatives := getField items "alternatives"

/-- The items of a choice that are no field of it. -/
def choiceExtra (items : List (SpaKey × SpaValue)) : List (SpaKey × SpaValue) :=
  items.filter fun item => item.1 ∉ (["choice_type", "kind", "_pod_type", "flags", "child_size",
    "child_type", "values", "default", "min", "max", "step", "alternatives"].map
    fun name => SpaKey.name (text name))

/-- The items of a choice: the named ones, else those at the positions of its kind. -/
structure ChoiceSelection where
  default : SpaValue
  minimum : SpaValue
  maximum : SpaValue
  step : SpaValue
  alternatives : SpaValue

def selectItems (kind : PyString) (sequence : List SpaValue) (fields : ChoiceFields) :
    ChoiceSelection where
  default := fields.default.getD (positional sequence 0 true)
  minimum := fields.minimum.getD
    (positional sequence 1 (kind = text "range" ∨ kind = text "step"))
  maximum := fields.maximum.getD
    (positional sequence 2 (kind = text "range" ∨ kind = text "step"))
  step := fields.step.getD (positional sequence 3 (kind = text "step"))
  alternatives := fields.alternatives.getD
    (.list (if kind = text "enum" ∨ kind = text "flags" then sequence.drop 1 else []))

def normalizeAlternatives (normalizer : SpaValue → Except PyError PyValue) (value : SpaValue) :
    Except PyError (List PyValue) := do
  let items ← arrayValues value
  items.mapM normalizer

/-- The arguments of the choice value but the last, in the order they are made. -/
def choiceArguments (normalizer : SpaValue → Except PyError PyValue) (kind : PyString)
    (flags : Option SpaValue) (selection : ChoiceSelection) :
    Except PyError (List (FieldName × PyValue)) := do
  let default ← optionalItem normalizer selection.default
  let minimum ← optionalItem normalizer selection.minimum
  let maximum ← optionalItem normalizer selection.maximum
  let step ← optionalItem normalizer selection.step
  let alternatives ← normalizeAlternatives normalizer selection.alternatives
  let flags ← intOf "choice flags" (flags.getD (.int 0))
  .ok [(.kind, .str kind), (.default, default), (.minimum, minimum), (.maximum, maximum),
    (.step, step), (.alternatives, .tuple alternatives), (.flags, .int flags)]

def choiceParts (normalizer : SpaValue → Except PyError PyValue) (fields : ChoiceFields) :
    Except PyError (List (FieldName × PyValue)) := do
  let kind ← choiceKind cases (fields.kind.getD (fields.choiceType.getD (.int 0)))
  let sequence ← arrayValues (fields.values.getD (.list []))
  choiceArguments normalizer kind fields.flags (selectItems kind sequence fields)

def choice (normalizer : SpaValue → Except PyError PyValue) (items : List (SpaKey × SpaValue)) :
    Except PyError PyValue := do
  let parts ← choiceParts cases normalizer (choiceFields items)
  let extra ← normalizeSpaJson (.dict (choiceExtra items))
  construct .spaChoice (parts ++ [(.extra, extra)])

def choiceOr (normalizer : SpaValue → Except PyError PyValue) (value : SpaValue) :
    Except PyError PyValue :=
  match value.mapping?.filter isChoiceItems with
  | some items => choice cases normalizer items
  | none => normalizer value

def choiceOrId (enumClass : EnumClass) (value : SpaValue) : Except PyError PyValue :=
  choiceOr cases (spaId cases enumClass) value

def choiceOrInt (name : String) (value : SpaValue) : Except PyError PyValue :=
  choiceOr cases (intItem name) value

end Values

section Parameters

variable (cases : CaseTables)

/-- The keys that describe an object and are no property of it. -/
def descriptiveKeys : List SpaKey :=
  ["_pod_type", "_object_type", "_object_id", "object_type", "object_id"].map
    fun name => .name (text name)

def spaProperties (value : SpaValue) : Except PyError (List (SpaKey × SpaValue)) :=
  match value.mapping? with
  | some items => do
      let source := ((getField items "properties").bind SpaValue.mapping?).getD items
      let named ← (source.filter fun item => item.1 ∉ descriptiveKeys).mapM fun item =>
        (propertyName item.1 (objectId value)).map fun name => (SpaKey.name name, item.2)
      .ok (Dictionary.ofItems named)
  | none => .error (.typeError (plain "SPA object must be a mapping or SpaPodObject"))

/-- `_take`: the first of the names that is there, with the remaining items. -/
def take (items : List (SpaKey × SpaValue)) (names : List String) :
    Option SpaValue × List (SpaKey × SpaValue) :=
  match names.find? fun name => (getField items name).isSome with
  | some name => (getField items name, Dictionary.erase items (.name (text name)))
  | none => (none, items)

def requiredField (items : List (SpaKey × SpaValue)) (name : String) :
    Except PyError (SpaValue × List (SpaKey × SpaValue)) :=
  match take items [name] with
  | (some value, items) => .ok (value, items)
  | (none, _) =>
      .error (.valueError (.text (text "SPA value is missing required field ") ::
        [.repr (.str (text name))]))

def optionally (normalizer : SpaValue → Except PyError PyValue) (missing : PyValue) :
    Option SpaValue → Except PyError PyValue
  | some value => normalizer value
  | none => .ok missing

def eachOf (normalizer : SpaValue → Except PyError PyValue) :
    Option SpaValue → Except PyError PyValue
  | some value => do
      let items ← arrayValues value
      let normalized ← items.mapM normalizer
      .ok (.tuple normalized)
  | none => .ok (.tuple [])

def normalizeAudioProperties (value : SpaValue) : Except PyError PyValue := do
  let items ← spaProperties value
  let (volume, items) := take items ["volume"]
  let (mute, items) := take items ["mute"]
  let (channelVolumes, items) := take items ["channelVolumes", "channel_volumes"]
  let (channelMap, items) := take items ["channelMap", "channel_map"]
  let (monitorMute, items) := take items ["monitorMute", "monitor_mute"]
  let (monitorVolumes, items) := take items ["monitorVolumes", "monitor_volumes"]
  let (softMute, items) := take items ["softMute", "soft_mute"]
  let (softVolumes, items) := take items ["softVolumes", "soft_volumes"]
  let volume ← optionally (numberOf "volume") .none volume
  let mute ← optionally (boolOf "mute") .none mute
  let channelVolumes ← eachOf (numberOf "channel volume") channelVolumes
  let channelPositions ← eachOf (spaId cases .audioChannel) channelMap
  let monitorMute ← optionally (boolOf "monitor mute") .none monitorMute
  let monitorVolumes ← eachOf (numberOf "monitor volume") monitorVolumes
  let softMute ← optionally (boolOf "soft mute") .none softMute
  let softVolumes ← eachOf (numberOf "soft volume") softVolumes
  let extra ← normalizeSpaJson (.dict items)
  construct .audioProperties [(.volume, volume), (.mute, mute),
    (.channelVolumes, channelVolumes), (.channelPositions, channelPositions),
    (.monitorMute, monitorMute), (.monitorVolumes, monitorVolumes), (.softMute, softMute),
    (.softVolumes, softVolumes), (.extra, extra)]

def normalizeAudioFormat (value : SpaValue) : Except PyError PyValue := do
  let items ← spaProperties value
  let (mediaType, items) := take items ["mediaType", "media_type"]
  let (mediaSubtype, items) := take items ["mediaSubtype", "media_subtype"]
  let (sampleFormat, items) := take items ["audio_format", "format"]
  let (rate, items) := take items ["audio_rate", "rate"]
  let (channels, items) := take items ["audio_channels", "channels"]
  let (positions, items) := take items ["audio_position", "position", "positions"]
  let (iec958Codec, items) := take items ["audio_iec958Codec", "iec958Codec", "iec958_codec"]
  let mediaType ← optionally (choiceOrId cases .mediaType) .none mediaType
  let mediaSubtype ← optionally (choiceOrId cases .mediaSubtype) .none mediaSubtype
  let sampleFormat ← optionally (choiceOrId cases .audioFormat) .none sampleFormat
  let rate ← optionally (choiceOrInt cases "rate") .none rate
  let channels ← optionally (choiceOrInt cases "channels") .none channels
  let positions ← eachOf (spaId cases .audioChannel) positions
  let iec958Codec ← optionally (choiceOrId cases .audioIec958Codec) .none iec958Codec
  let extra ← normalizeSpaJson (.dict items)
  construct .audioFormat [(.mediaType, mediaType), (.mediaSubtype, mediaSubtype),
    (.sampleFormat, sampleFormat), (.rate, rate), (.channels, channels),
    (.positions, positions), (.iec958Codec, iec958Codec), (.extra, extra)]

/-- A number or the text of one, as a member of an enumeration of strings. -/
def namedMember {Member : Type} [StringEnum Member] (name : String) (ofNumber : Int → Member)
    (value : SpaValue) : Except PyError PyValue :=
  match value with
  | .str string =>
      if cases.lower string ∈ StringEnum.texts Member then .ok (.str (cases.lower string))
      else
        match parseInt string with
        | some number => .ok (.member (ofNumber number))
        | none =>
            .error (.valueError (.text (text ("invalid " ++ name ++ " ")) ::
              [.repr (.str string)]))
  | _ => (intOf name value).map fun number => .member (ofNumber number)

def availabilityOf (value : SpaValue) : Except PyError PyValue :=
  namedMember cases "availability"
    (fun number =>
      if number = 2 then Availability.yes else if number = 1 then .no else .unknown) value

def directionOf (value : SpaValue) : Except PyError PyValue :=
  namedMember cases "direction"
    (fun number =>
      if number = 0 then PortDirection.input else if number = 1 then .output else .unknown) value

def nonemptyString? : SpaValue → Option PyString
  | .str [] => none
  | .str string => some string
  | _ => none

def firstMember? : SpaValue → Option SpaValue
  | .list items => items.head?
  | _ => none

/-- The media class in a mapping: under one of its names, or first in a struct. -/
def mediaClassOf (items : List (SpaKey × SpaValue)) : Option PyString :=
  match ["name", "media.class", "media_class", "class"].findSome? fun name =>
      (getField items name).bind nonemptyString? with
  | some name => some name
  | none =>
      if hasPodType items .struct then
        ((getField items "values").bind firstMember?).bind nonemptyString?
      else none

def className : SpaValue → PyString
  | .none => text "NoneType"
  | .bool _ => text "bool"
  | .int _ => text "int"
  | .member enumClass _ => enumClass.name
  | .float _ => text "float"
  | .str _ => text "str"
  | .bytes _ => text "bytes"
  | .list _ => text "list"
  | .dict _ => text "dict"
  | .object header _ => header.objectClass.name
  | .other className => className

/-- `_profile_class`; the error names the refused value by its class. -/
def profileClassName (value : SpaValue) : Except PyError PyValue :=
  match value with
  | .str string => .ok (.str string)
  | _ =>
      match value.mapping?.bind mediaClassOf with
      | some name => .ok (.str name)
      | none =>
          .error (.typeError [.text (text "invalid profile class "),
            .repr (.other (className value) 0)])

def normalizeProfile (deviceId : PyValue) (active : Bool) (value : SpaValue) :
    Except PyError PyValue := do
  let items ← spaProperties value
  let (index, items) ← requiredField items "index"
  let (name, items) ← requiredField items "name"
  let (description, items) := take items ["description"]
  let (priority, items) := take items ["priority"]
  let (available, items) := take items ["available"]
  let (classes, items) := take items ["classes"]
  let index ← intOf "profile index" index
  let name ← strOf "profile name" name
  let description ← optionally (strOf "profile description") .none description
  let priority ← optionally (intItem "profile priority") (.int 0) priority
  let available ← optionally (availabilityOf cases) (.member Availability.unknown) available
  let classes ← eachOf profileClassName classes
  let properties ← normalizeSpaJson (.dict items)
  construct .profile [(.deviceId, deviceId), (.index, .int index), (.name, name),
    (.description, description), (.priority, priority), (.available, available),
    (.active, .bool active), (.classes, classes), (.properties, properties)]

/-- `AudioPropertiesValue()` or the normalized `props` of a route. -/
def routeAudio (props : Option SpaValue) : Except PyError PyValue :=
  match props with
  | some props => normalizeAudioProperties cases props
  | none => construct .audioProperties []

/-- The device index of a route among its properties. -/
def withDeviceIndex (items : List (SpaKey × SpaValue)) :
    Option SpaValue → Except PyError (List (SpaKey × SpaValue))
  | some device => do
      let index ← intOf "route SPA device index" device
      .ok (Dictionary.set items (.name (text "spa_device_index")) (.int index))
  | none => .ok items

/-- The properties of a route, with what its audio properties hold besides. -/
def routeProperties (properties extra : PyValue) : Except PyError PyValue :=
  match properties, extra with
  | .dict items, .frozenDict (first :: rest) => do
      let thawed ← thawJson (.frozenDict (first :: rest))
      .ok (.dict (Dictionary.set items (text "audio_extra") thawed))
  | properties, _ => .ok properties

def normalizeRoute (deviceId : PyValue) (active : Bool) (value : SpaValue) :
    Except PyError PyValue := do
  let items ← spaProperties value
  let (index, items) ← requiredField items "index"
  let (direction, items) ← requiredField items "direction"
  let (name, items) ← requiredField items "name"
  let (description, items) := take items ["description"]
  let (priority, items) := take items ["priority"]
  let (available, items) := take items ["available"]
  let (profiles, items) := take items ["profiles"]
  let (props, items) := take items ["props"]
  let (device, items) := take items ["device"]
  let audio ← routeAudio cases props
  let items ← withDeviceIndex items device
  let index ← intOf "route index" index
  let direction ← directionOf cases direction
  let name ← strOf "route name" name
  let description ← optionally (strOf "route description") .none description
  let priority ← optionally (intItem "route priority") (.int 0) priority
  let available ← optionally (availabilityOf cases) (.member Availability.unknown) available
  let profileIds ← eachOf (intItem "route profile index") profiles
  let normalized ← normalizeSpaJson (.dict items)
  let properties ← routeProperties normalized (audio.get .extra)
  construct .route [(.deviceId, deviceId), (.index, .int index), (.direction, direction),
    (.name, name), (.description, description), (.priority, priority),
    (.available, available), (.active, .bool active), (.profileIds, profileIds),
    (.volume, audio.get .volume), (.mute, audio.get .mute),
    (.channelVolumes, audio.get .channelVolumes),
    (.channelPositions, audio.get .channelPositions), (.properties, properties)]

/-- The normalizer of one value of a parameter, by the id of the parameter. -/
def parameterNormalizer (ownerId : PyValue) (parameterId : PyString) :
    SpaValue → Except PyError PyValue :=
  if parameterId = text "Props" then normalizeAudioProperties cases
  else if parameterId = text "Format" ∨ parameterId = text "EnumFormat" then
    normalizeAudioFormat cases
  else if parameterId = text "Profile" ∨ parameterId = text "EnumProfile" then
    normalizeProfile cases ownerId (parameterId = text "Profile")
  else if parameterId = text "Route" ∨ parameterId = text "EnumRoute" then
    normalizeRoute cases ownerId (parameterId = text "Route")
  else normalizeSpaJson

def normalizeSpaParameter (ownerType : PyString) (ownerId : PyValue)
    (parameterId permissions : PyString) (values : List SpaValue) : Except PyError PyValue := do
  let normalized ← values.mapM (parameterNormalizer cases ownerId parameterId)
  construct .parameter [(.ownerType, .str ownerType), (.ownerId, ownerId),
    (.id, .str parameterId), (.permissions, .str permissions), (.values, .tuple normalized)]

end Parameters

end WyrePlumber.Runtime
