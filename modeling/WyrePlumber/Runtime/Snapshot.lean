import WyrePlumber.Library.Json
import WyrePlumber.Runtime.Decode
import WyrePlumber.Runtime.Normalize
import WyrePlumber.Spa.Termination

/-!
# Native payloads

`snapshot.py`: the primitive payload of the native layer as an immutable snapshot.  The
readers of fields have the names of the ones in `models.py`, and other exceptions.
-/

set_option autoImplicit false
set_option linter.constructorNameAsVariable false

namespace WyrePlumber.Runtime.Snapshot

open Python Spa Json

abbrev Record := List (SpaKey × SpaValue)

section Errors

/-- `RuntimePayloadError`; its fields and its text are those of the other decoding error. -/
def payloadError (code : String) (path : PyString) (message : Message) : PyError :=
  .decodeError (text code) path message

/-- `except (TypeError, ValueError) as error`, raising a payload error with its text. -/
def wrapping {Value : Type} (code : String) (path : PyString) (result : Except PyError Value) :
    Except PyError Value :=
  match result with
  | .ok value => .ok value
  | .error error =>
      if error.isTypeOrValueError then .error (payloadError code path error.message)
      else .error error

def itemPath (path : PyString) (index : Nat) : PyString :=
  path ++ text "[" ++ text (toString index) ++ text "]"

def fieldPath (path : PyString) (name : String) : PyString := path ++ text ("." ++ name)

end Errors

section Raw

mutual

/-- A detached value as the argument of a runtime class. -/
def rawValue : SpaValue → PyValue
  | .none => .none
  | .bool value => .bool value
  | .int value => .int value
  | .member _ value => .int value
  | .float value => .float value
  | .str value => .str value
  | .bytes data => .bytes data
  | .list items => .list (rawAll items)
  | .dict items => .dict (rawItems items)
  | .object _ properties => .dict (rawItems properties)
  | .other className => .other className 0

def rawAll : List SpaValue → List PyValue
  | [] => []
  | item :: rest => rawValue item :: rawAll rest

/-- The items under names; the validation of a payload leaves no others. -/
def rawItems : List (SpaKey × SpaValue) → List (PyString × PyValue)
  | [] => []
  | (.name name, item) :: rest => (name, rawValue item) :: rawItems rest
  | (.number _, _) :: rest => rawItems rest

end

def isName : SpaKey → Bool
  | .name _ => true
  | .number _ => false

mutual

def validateDetached (path : PyString) : SpaValue → Except PyError Unit
  | .list items => validateAll path 0 items
  | .dict items => validateItems path items
  | .object _ properties => validateItems path properties
  | .other className => .error (payloadError "native_object_leak" path
      [.text (text "payload contains unsupported object " ++ className)])
  | .none | .bool _ | .int _ | .member _ _ | .float _ | .str _ | .bytes _ => .ok ()

def validateAll (path : PyString) (index : Nat) : List SpaValue → Except PyError Unit
  | [] => .ok ()
  | item :: rest => do
      validateDetached (itemPath path index) item
      validateAll path (index + 1) rest

def validateItems (path : PyString) : List (SpaKey × SpaValue) → Except PyError Unit
  | [] => .ok ()
  | (.name name, item) :: rest => do
      validateDetached (path ++ text "." ++ name) item
      validateItems path rest
  | (.number _, _) :: _ => .error (payloadError "native_object_leak" path
      (plain "payload mappings must use string keys"))

end

end Raw

section Readers

def mapping (value : SpaValue) (path : PyString) : Except PyError Record :=
  match value.mapping? with
  | some items =>
      if items.all fun item => isName item.1 then .ok items
      else .error (payloadError "invalid_mapping" path (plain "expected a string-keyed mapping"))
  | none => .error (payloadError "invalid_mapping" path (plain "expected a string-keyed mapping"))

def sequence (value : SpaValue) (path : PyString) : Except PyError (List SpaValue) :=
  match value.sequence? with
  | some items => .ok items
  | none => .error (payloadError "invalid_sequence" path (plain "expected a sequence"))

def string (value : SpaValue) (path : PyString) (allowEmpty : Bool) : Except PyError PyString :=
  match value with
  | .str string =>
      if !allowEmpty && string.isEmpty then
        .error (payloadError "invalid_string" path (plain "string must not be empty"))
      else .ok string
  | _ => .error (payloadError "invalid_string" path (plain "expected a string"))

def optionalString (value : SpaValue) (path : PyString) : Except PyError PyValue :=
  match value with
  | .none => .ok .none
  | value => (string value path true).map .str

def integer (value : SpaValue) (path : PyString) : Except PyError Int :=
  match value with
  | .int number => .ok number
  | .member _ number => .ok number
  | _ => .error (payloadError "invalid_integer" path (plain "expected an integer"))

def number (value : SpaValue) (path : PyString) : Except PyError Binary64 :=
  match value with
  | .float number => .ok number
  | .int number => floatOfInt number
  | .member _ number => floatOfInt number
  | _ => .error (payloadError "invalid_number" path (plain "expected a number"))

def boolean (value : SpaValue) (path : PyString) : Except PyError Bool :=
  match value with
  | .bool value => .ok value
  | _ => .error (payloadError "invalid_boolean" path (plain "expected a boolean"))

def identifier (value : SpaValue) (path : PyString) : Except PyError Int := do
  let result ← integer value path
  if result < 0 then
    .error (payloadError "invalid_identifier" path (plain "identifier must be non-negative"))
  else .ok result

/-- `record.get(name)`, or the default where the name is missing. -/
def getOr (record : Record) (name : String) (default : SpaValue) : SpaValue :=
  (getField record name).getD default

def required (record : Record) (name : String) (path : PyString) : Except PyError SpaValue :=
  match getField record name with
  | some value => .ok value
  | none => .error (payloadError "missing_field" path
      [.text (text "missing required field "), .repr (.str (text name))])

/-- Items that are read in order, with their indexes. -/
def eachIndexed {Item Value : Type} (read : Nat → Item → Except PyError Value) :
    Nat → List Item → Except PyError (List Value)
  | _, [] => .ok []
  | index, item :: rest => do
      let value ← read index item
      let values ← eachIndexed read (index + 1) rest
      .ok (value :: values)

def stringSequence (value : SpaValue) (path : PyString) : Except PyError (List PyString) := do
  let items ← sequence value path
  eachIndexed (fun index item => string item (itemPath path index) false) 0 items

def properties (record : Record) (path : PyString) : Except PyError Record :=
  mapping (getOr record "properties" (.dict [])) (fieldPath path "properties")

def string? : SpaValue → Option PyString
  | .str string => some string
  | _ => none

/-- `_property`: the first of the names that holds a string. -/
def property (properties : Record) (names : List String) : Option PyString :=
  names.findSome? fun name => (getField properties name).bind string?

def optionalInt : Option Int → PyValue
  | some number => .int number
  | none => .none

def propertyIdentifier (properties : Record) (name : String) (path : PyString) :
    Except PyError (Option Int) :=
  match (getField properties name).getD .none with
  | .none => .ok none
  | .str digits =>
      match parseInt digits with
      | some number => (identifier (.int number) path).map some
      | none => .error (payloadError "invalid_identifier" path
          [.text (text "expected an integer string, received "), .repr (.str digits)])
  | value => (identifier value path).map some

def strings (items : List PyString) : PyValue := .tuple (items.map .str)

def integers (items : List Int) : PyValue := .tuple (items.map .int)

def intField (value : PyValue) (name : FieldName) : Int := ((value.get name).integral?).getD 0

end Readers

section Health

def health (value : SpaValue) (generation : Int) : Except PyError PyValue := do
  let path := text "$.health"
  let record ← mapping value path
  let state ← required record "state" path
  let state ← string state (fieldPath path "state") false
  if state ∉ StringEnum.texts ConnectionState then
    .error (payloadError "invalid_health_state" (fieldPath path "state")
      [.text (text "unknown connection state "), .repr (.str state)])
  else do
    let observed ← required record "generation" path
    let observed ← identifier observed (fieldPath path "generation")
    if observed ≠ generation then
      .error (payloadError "mixed_generation" (fieldPath path "generation")
        (plain "health and payload generations differ"))
    else do
      let reason ← match getOr record "reason" .none with
        | .none => .ok .none
        | reason => (string reason (fieldPath path "reason") false).map .str
      let details ← mapping (getOr record "details" (.dict [])) (fieldPath path "details")
      construct .connectionHealth [(.state, .str state), (.generation, .int generation),
        (.reason, reason), (.details, .dict (rawItems details))]

end Health

section Parameters

variable (cases : CaseTables)

/-- `parse_spa_pod_dict(dict(value))`: the parsed pod, or the mapping itself. -/
def parsePodDict (items : Record) : SpaValue :=
  match getField items "data" with
  | some (.bytes data) =>
      match parseSpaPod (declaredSize data 0 + 1) data 0 with
      | .ok value => value
      | .error _ => .dict items
  | _ => .dict items

def parameterValue (path : PyString) (index : Nat) (value : SpaValue) : Except PyError SpaValue :=
  match value.mapping? with
  | some items => .ok (parsePodDict items)
  | none => .error (payloadError "invalid_parameter_value" (itemPath (fieldPath path "values") index)
      (plain "raw SPA value must be a mapping"))

def replaceProperties (parameter properties : PyValue) : Except PyError PyValue :=
  construct .parameter [(.ownerType, parameter.get .ownerType), (.ownerId, parameter.get .ownerId),
    (.id, parameter.get .id), (.permissions, parameter.get .permissions),
    (.values, parameter.get .values), (.properties, properties)]

/-- What the `try` of a parameter record holds. -/
def normalizeRecord (path : PyString) (record : Record) (values : List SpaValue) :
    Except PyError PyValue := do
  let ownerType ← required record "owner_type" path
  let ownerType ← string ownerType (fieldPath path "owner_type") false
  let ownerId ← required record "owner_id" path
  let ownerId ← identifier ownerId (fieldPath path "owner_id")
  let parameterId ← required record "id" path
  let parameterId ← string parameterId (fieldPath path "id") false
  let permissions ← required record "permissions" path
  let permissions ← string permissions (fieldPath path "permissions") true
  let parameter ← normalizeSpaParameter cases ownerType (.int ownerId) parameterId permissions values
  match getOr record "complete" (.bool true) with
  | .bool complete => replaceProperties parameter (.dict [(text "complete", .bool complete)])
  | _ => .error (.typeError (plain "complete must be a boolean"))

def parameter (index : Nat) (item : SpaValue) : Except PyError PyValue := do
  let path := itemPath (text "$.parameters") index
  let record ← mapping item path
  let values ← required record "values" path
  let values ← sequence values (fieldPath path "values")
  let parsed ← eachIndexed (parameterValue path) 0 values
  wrapping "parameter_normalization_failed" path (normalizeRecord cases path record parsed)

def parameters (value : SpaValue) : Except PyError (List PyValue) := do
  let records ← sequence value (text "$.parameters")
  eachIndexed (parameter cases) 0 records

def mixerExtra (mixer : Record) (path : PyString) (name : String) :
    Except PyError (List (PyString × PyValue)) :=
  match getOr mixer name .none with
  | .none => .ok []
  | value => (number value (fieldPath path name)).map fun observed => [(text name, .float observed)]

/-- What the `try` of a mixer holds. -/
def mixerParameter (path : PyString) (node mixer : Record) (extra : List (PyString × PyValue)) :
    Except PyError PyValue := do
  let mixerPath := fieldPath path "mixer"
  let ownerId ← required node "id" path
  let ownerId ← identifier ownerId (fieldPath path "id")
  let volume ← required mixer "volume" mixerPath
  let volume ← number volume (fieldPath mixerPath "volume")
  let mute ← required mixer "mute" mixerPath
  let mute ← boolean mute (fieldPath mixerPath "mute")
  let audio ← construct .audioProperties [(.volume, .float volume), (.mute, .bool mute),
    (.extra, .dict extra)]
  construct .parameter [(.ownerType, .str (text "node")), (.ownerId, .int ownerId),
    (.id, .str (text "Mixer")), (.permissions, .str (text "rw")), (.values, .tuple [audio]),
    (.properties, .dict [(text "complete", .bool true),
      (text "control", .str (text "wireplumber-mixer"))])]

/-- A record of `_mixer_parameters`; a node without a mixer gives none. -/
def mixerOf (index : Nat) (item : SpaValue) : Except PyError (List PyValue) := do
  let path := itemPath (text "$.nodes") index
  let node ← mapping item path
  match getOr node "mixer" .none with
  | .none => .ok []
  | value => do
      let mixerPath := fieldPath path "mixer"
      let mixer ← mapping value mixerPath
      let base ← mixerExtra mixer mixerPath "base"
      let step ← mixerExtra mixer mixerPath "step"
      let parameter ← wrapping "invalid_mixer_state" mixerPath (mixerParameter path node mixer
        ((text "control", .str (text "wireplumber-mixer")) :: base ++ step))
      .ok [parameter]

def mixerParameters (value : SpaValue) : Except PyError (List PyValue) := do
  let records ← sequence value (text "$.nodes")
  let found ← eachIndexed mixerOf 0 records
  .ok found.flatten

end Parameters

section Relations

abbrev ActiveKey := Int × Int

def activeKey (value : PyValue) : ActiveKey := (intField value .deviceId, intField value .index)

def mergeActive (values : List (ActiveKey × PyValue)) (value : PyValue) :
    List (ActiveKey × PyValue) :=
  match values.lookup (activeKey value) with
  | none => Dictionary.set values (activeKey value) value
  | some previous =>
      if (value.get .active).eq (.bool true) && !(previous.get .active).eq (.bool true) then
        Dictionary.set values (activeKey value) value
      else values

/-- The profiles or the routes among the values of the parameters. -/
def merged (type : ValueType) (parameters : List PyValue) : List (ActiveKey × PyValue) :=
  ((parameters.flatMap fun parameter => (parameter.get .values).items).filter
    (PyValue.isA type)).foldl mergeActive []

def indexesOf (keys : List ActiveKey) (deviceId : Int) : List Int :=
  (keys.filter fun key => key.1 = deviceId).map Prod.snd

/-- The ids of the ports of a node; a port of no known direction counts as an output. -/
def portIdsOf (ports : List PyValue) (isInput : Bool) (nodeId : Int) : List Int :=
  ((ports.filter fun port =>
    (port.get .direction).isMember PortDirection.input == isInput &&
      decide (intField port .nodeId = nodeId)).map fun port => intField port .id).mergeSort

end Relations

section Objects

def portDirection (number : Int) : PortDirection :=
  if number = 0 then .input else if number = 1 then .output else .unknown

def port (index : Nat) (item : SpaValue) : Except PyError PyValue := do
  let path := itemPath (text "$.ports") index
  let record ← mapping item path
  let held ← properties record path
  let direction ← required record "direction" path
  let direction ← integer direction (fieldPath path "direction")
  let nodeId ← propertyIdentifier held "node.id" (fieldPath path "properties.node.id")
  match nodeId with
  | none => .error (payloadError "missing_relationship" (fieldPath path "properties.node.id")
      (plain "port has no node.id property"))
  | some nodeId => do
      let id ← required record "id" path
      let id ← identifier id (fieldPath path "id")
      let parameterIds ← stringSequence (getOr record "parameter_ids" (.list []))
        (fieldPath path "parameter_ids")
      construct .port [(.id, .int id), (.nodeId, .int nodeId),
        (.direction, .member (portDirection direction)),
        (.name, optionalStr (property held ["port.name", "port.alias"])),
        (.channel, optionalStr (property held ["audio.channel"])),
        (.properties, .dict (rawItems held)), (.parameterIds, strings parameterIds)]

def ports (value : SpaValue) : Except PyError (List PyValue) := do
  let records ← sequence value (text "$.ports")
  eachIndexed port 0 records

def device (profileKeys routeKeys : List ActiveKey) (index : Nat) (item : SpaValue) :
    Except PyError PyValue := do
  let path := itemPath (text "$.devices") index
  let record ← mapping item path
  let id ← required record "id" path
  let id ← identifier id (fieldPath path "id")
  let held ← properties record path
  let parameterIds ← stringSequence (getOr record "parameter_ids" (.list []))
    (fieldPath path "parameter_ids")
  construct .device [(.id, .int id), (.name, optionalStr (property held ["device.name"])),
    (.description, optionalStr (property held ["device.description", "device.nick"])),
    (.mediaClass, optionalStr (property held ["media.class"])),
    (.properties, .dict (rawItems held)), (.parameterIds, strings parameterIds),
    (.profileIds, integers (indexesOf profileKeys id)),
    (.routeIds, integers (indexesOf routeKeys id))]

def devices (profileKeys routeKeys : List ActiveKey) (value : SpaValue) :
    Except PyError (List PyValue) := do
  let records ← sequence value (text "$.devices")
  eachIndexed (device profileKeys routeKeys) 0 records

/-- `_NODE_STATES.get(number, NodeState.UNKNOWN)`. -/
def nodeState (number : Int) : NodeState :=
  if number = -1 then .error
  else if number = 0 then .creating
  else if number = 1 then .suspended
  else if number = 2 then .idle
  else if number = 3 then .running
  else .unknown

def node (ports : List PyValue) (index : Nat) (item : SpaValue) : Except PyError PyValue := do
  let path := itemPath (text "$.nodes") index
  let record ← mapping item path
  let id ← required record "id" path
  let id ← identifier id (fieldPath path "id")
  let held ← properties record path
  let state ← integer (getOr record "state" (.int (-99))) (fieldPath path "state")
  let deviceId ← propertyIdentifier held "device.id" (fieldPath path "properties.device.id")
  let error ← optionalString (getOr record "error" .none) (fieldPath path "error")
  let parameterIds ← stringSequence (getOr record "parameter_ids" (.list []))
    (fieldPath path "parameter_ids")
  construct .node [(.id, .int id), (.deviceId, optionalInt deviceId),
    (.name, optionalStr (property held ["node.name"])),
    (.description, optionalStr (property held ["node.description", "node.nick"])),
    (.mediaClass, optionalStr (property held ["media.class"])),
    (.state, .member (nodeState state)), (.error, error),
    (.inputPortIds, integers (portIdsOf ports true id)),
    (.outputPortIds, integers (portIdsOf ports false id)),
    (.properties, .dict (rawItems held)), (.parameterIds, strings parameterIds)]

def nodes (ports : List PyValue) (value : SpaValue) : Except PyError (List PyValue) := do
  let records ← sequence value (text "$.nodes")
  eachIndexed (node ports) 0 records

def linkStates : List (Int × PyString) :=
  [(-2, text "error"), (-1, text "unlinked"), (0, text "init"), (1, text "negotiating"),
    (2, text "allocating"), (3, text "paused"), (4, text "active")]

/-- The state of a link; the text of an unknown number is made in any case. -/
def linkState (number : Int) : Except PyError PyString :=
  (pyIntText number).map fun digits =>
    (linkStates.lookup number).getD (text "unknown:" ++ digits)

def requiredIdentifier (record : Record) (name : String) (path : PyString) : Except PyError Int := do
  let value ← required record name path
  identifier value (fieldPath path name)

def link (index : Nat) (item : SpaValue) : Except PyError PyValue := do
  let path := itemPath (text "$.links") index
  let record ← mapping item path
  let held ← properties record path
  let state ← integer (getOr record "state" (.int (-99))) (fieldPath path "state")
  let id ← requiredIdentifier record "id" path
  let outputNodeId ← requiredIdentifier record "output_node_id" path
  let outputPortId ← requiredIdentifier record "output_port_id" path
  let inputNodeId ← requiredIdentifier record "input_node_id" path
  let inputPortId ← requiredIdentifier record "input_port_id" path
  let state ← linkState state
  construct .link [(.id, .int id), (.outputNodeId, .int outputNodeId),
    (.outputPortId, .int outputPortId), (.inputNodeId, .int inputNodeId),
    (.inputPortId, .int inputPortId), (.state, .str state),
    (.owner, optionalStr (property held ["open-cinema.owner"])),
    (.desiredId, optionalStr (property held ["open-cinema.desired-id"])),
    (.properties, .dict (rawItems held))]

def links (value : SpaValue) : Except PyError (List PyValue) := do
  let records ← sequence value (text "$.links")
  eachIndexed link 0 records

def metadataEntry (path : PyString) (index : Nat) (item : SpaValue) : Except PyError PyValue := do
  let path := itemPath (fieldPath path "entries") index
  let entry ← mapping item path
  let subject ← requiredIdentifier entry "subject" path
  let key ← required entry "key" path
  let key ← string key (fieldPath path "key") false
  let typeName ← optionalString (getOr entry "type" .none) (fieldPath path "type")
  let value ← optionalString (getOr entry "value" .none) (fieldPath path "value")
  construct .metadataEntry [(.subject, .int subject), (.key, .str key), (.typeName, typeName),
    (.value, value)]

def metadataOf (index : Nat) (item : SpaValue) : Except PyError PyValue := do
  let path := itemPath (text "$.metadata") index
  let record ← mapping item path
  let items ← sequence (getOr record "entries" (.list [])) (fieldPath path "entries")
  let entries ← eachIndexed (metadataEntry path) 0 items
  let id ← requiredIdentifier record "id" path
  let name ← optionalString (getOr record "name" .none) (fieldPath path "name")
  let held ← properties record path
  construct .metadata [(.id, .int id), (.name, name), (.properties, .dict (rawItems held)),
    (.entries, .tuple entries)]

def metadata (value : SpaValue) : Except PyError (List PyValue) := do
  let records ← sequence value (text "$.metadata")
  eachIndexed metadataOf 0 records

end Objects

section Defaults

structure KeyedEntry where
  key : PyString
  entry : Record

def jsonLoads (string : PyString) : Except PyError (Option JsonValue) :=
  match loads string with
  | .ok value => .ok (some value)
  | .error .syntaxError => .ok none
  | .error _ => .error (.valueError (plain "Exceeds the limit for integer string conversion"))

def decodedName : JsonValue → Option PyString
  | .str name => some name
  | .dict items =>
      match items.lookup (text "name") with
      | some (.str name) => some name
      | _ => none
  | _ => none

/-- The name that a stored text stands for; a text that is no JSON stands for itself. -/
def storedName (stored : PyString) : Except PyError (Option PyString) :=
  (jsonLoads stored).map fun decoded =>
    match decoded with
    | some value => decodedName value
    | none => some stored

def firstName : List Record → Except PyError (Option PyString)
  | [] => .ok none
  | entry :: rest =>
      match getField entry "value" with
      | some (.str (first :: stored)) => do
          let name ← storedName (first :: stored)
          match name with
          | some name => .ok (some name)
          | none => firstName rest
      | _ => firstName rest

def defaultName (entries : List Record) : Except PyError (Option PyString) :=
  firstName entries.reverse

def entriesOf (entries : List KeyedEntry) (key : PyString) : List Record :=
  (entries.filter fun entry => entry.key = key).map KeyedEntry.entry

/-- `nodes_by_name`; the last node of a name counts. -/
def nodesByName (nodes : List PyValue) : List (PyString × Int) :=
  Dictionary.ofItems (nodes.filterMap fun node =>
    match node.get .name with
    | .str (first :: name) => some (first :: name, intField node .id)
    | _ => none)

def orName (name other : Option PyString) : Option PyString :=
  match name with
  | some (first :: rest) => some (first :: rest)
  | _ => other

/-- The node of a name that is not empty. -/
def resolve (byName : List (PyString × Int)) : Option PyString → Option Int
  | some (first :: name) => byName.lookup (first :: name)
  | _ => none

/-- The `target` of `_defaults`; the key is without its `default.`. -/
def target (entries : List KeyedEntry) (byName : List (PyString × Int)) (mediaClass key : String) :
    Except PyError PyValue := do
  let actual ← defaultName (entriesOf entries (text ("default." ++ key)))
  let configured ← defaultName (entriesOf entries (text ("default.configured." ++ key)))
  match orName configured actual, actual with
  | none, none => .ok .none
  | configured, actual =>
      construct .defaultTarget [(.mediaClass, .str (text mediaClass)),
        (.configuredName, optionalStr configured),
        (.resolvedNodeId, optionalInt (resolve byName actual))]

/-- A default record with its key; the first identifier of a metadata object is kept. -/
def defaultEntry (index : Nat) (item : SpaValue) : Except PyError KeyedEntry := do
  let path := itemPath (text "$.defaults") index
  let entry ← mapping item path
  let key ← required entry "key" path
  let key ← string key (fieldPath path "key") false
  .ok ⟨key, entry⟩

/-- The records up to the one with a metadata id, and those after it. -/
def defaultEntries : Option Int → Nat → List SpaValue →
    Except PyError (Option Int × List KeyedEntry)
  | metadataId, _, [] => .ok (metadataId, [])
  | metadataId, index, item :: rest => do
      let entry ← defaultEntry index item
      let metadataId ← match metadataId, getOr entry.entry "metadata_id" .none with
        | none, .none => .ok none
        | none, value =>
            (identifier value (fieldPath (itemPath (text "$.defaults") index) "metadata_id")).map some
        | some known, _ => .ok (some known)
      let others ← defaultEntries metadataId (index + 1) rest
      .ok (others.1, entry :: others.2)

/-- The keys of the default entries, in the order of their first ones. -/
def defaultKeys (entries : List KeyedEntry) : List PyString :=
  (Dictionary.ofItems (entries.map fun entry => (entry.key, ()))).map Prod.fst

def defaultExtra (entries : List KeyedEntry) : Except PyError (List (PyString × PyValue)) :=
  (defaultKeys entries).mapM fun key => do
    let normalized ← (entriesOf entries key).mapM fun entry => normalizeSpaJson (.dict entry)
    .ok (key, .list normalized)

def defaults (value : SpaValue) (nodes : List PyValue) : Except PyError PyValue := do
  let items ← sequence value (text "$.defaults")
  let (metadataId, entries) ← defaultEntries none 0 items
  let byName := nodesByName nodes
  let extra ← defaultExtra entries
  let audioSink ← target entries byName "Audio/Sink" "audio.sink"
  let audioSource ← target entries byName "Audio/Source" "audio.source"
  let videoSource ← target entries byName "Video/Source" "video.source"
  construct .defaults [(.metadataId, optionalInt metadataId), (.audioSink, audioSink),
    (.audioSource, audioSource), (.videoSource, videoSource), (.extra, .dict extra)]

end Defaults

section Payloads

variable (cases : CaseTables)

def joinedNames (names : List PyString) : PyString :=
  (text ", ").intercalate (names.mergeSort fun left right => decide (left ≤ right))

def keyName? : SpaKey → Option PyString
  | .name name => some name
  | .number _ => none

/-- The items of a detached payload with exactly the required fields. -/
def payloadItems (noMapping kind : String) (requiredFields : List PyString) (payload : SpaValue) :
    Except PyError Record :=
  match payload.mapping? with
  | none => .error (payloadError noMapping (text "$") (plain "payload must be a mapping"))
  | some items => do
      validateDetached (text "$") payload
      let names := items.filterMap fun item => keyName? item.1
      let missing := requiredFields.filter (· ∉ names)
      let unknown := names.filter (· ∉ requiredFields)
      if missing ≠ [] then
        .error (payloadError "missing_fields" (text "$")
          [.text (text ("missing " ++ kind ++ " field(s): ") ++ joinedNames missing)])
      else if unknown ≠ [] then
        .error (payloadError "unknown_fields" (text "$")
          [.text (text ("unknown " ++ kind ++ " field(s): ") ++ joinedNames unknown)])
      else .ok items

def requiredPayloadFields : List PyString :=
  ["payload_version", "generation", "sequence", "captured_at", "health", "devices", "nodes", "ports",
    "links", "metadata", "parameters", "profiles", "routes", "defaults"].map text

def payloadField (items : Record) (name : String) : SpaValue := getOr items name .none

def checkVersion (items : Record) : Except PyError Unit := do
  let version ← integer (payloadField items "payload_version") (text "$.payload_version")
  if version ≠ 1 then do
    let digits ← pyIntText version
    .error (payloadError "unsupported_payload_version" (text "$.payload_version")
      [.text (text "expected 1, received " ++ digits)])
  else .ok ()

/-- Everything in a snapshot but its numbers, its time and its health. -/
structure Parts where
  parameters : List PyValue
  ports : List PyValue
  devices : List PyValue
  nodes : List PyValue
  links : List PyValue
  metadata : List PyValue
  defaults : PyValue

def Parts.profiles (parts : Parts) : List (ActiveKey × PyValue) := merged .profile parts.parameters

def Parts.routes (parts : Parts) : List (ActiveKey × PyValue) := merged .route parts.parameters

/-- The records of a payload in the order in which they are read. -/
def snapshotParts (items : Record) : Except PyError Parts := do
  let normalized ← parameters cases (payloadField items "parameters")
  let mixers ← mixerParameters (payloadField items "nodes")
  let parameters := normalized ++ mixers
  let ports ← ports (payloadField items "ports")
  let devices ← devices ((merged .profile parameters).map Prod.fst)
    ((merged .route parameters).map Prod.fst) (payloadField items "devices")
  let nodes ← nodes ports (payloadField items "nodes")
  let links ← links (payloadField items "links")
  let metadata ← metadata (payloadField items "metadata")
  let defaults ← defaults (payloadField items "defaults") nodes
  .ok { parameters, ports, devices, nodes, links, metadata, defaults }

/-- What the last `try` of the decoder holds. -/
def snapshotValue (items : Record) (generation sequence : Int) (health : PyValue) (parts : Parts) :
    Except PyError PyValue := do
  let capturedAt ← string (payloadField items "captured_at") (text "$.captured_at") false
  construct .runtimeSnapshot [(.generation, .int generation), (.sequence, .int sequence),
    (.capturedAt, .str capturedAt), (.health, health), (.devices, .tuple parts.devices),
    (.nodes, .tuple parts.nodes), (.ports, .tuple parts.ports), (.links, .tuple parts.links),
    (.metadata, .tuple parts.metadata), (.parameters, .tuple parts.parameters),
    (.profiles, .tuple (parts.profiles.map Prod.snd)),
    (.routes, .tuple (parts.routes.map Prod.snd)), (.defaults, parts.defaults)]

def runtimeSnapshotFromPayload (payload : SpaValue) : Except PyError PyValue := do
  let items ← payloadItems "invalid_payload" "payload" requiredPayloadFields payload
  checkVersion items
  let generation ← identifier (payloadField items "generation") (text "$.generation")
  let sequence ← identifier (payloadField items "sequence") (text "$.sequence")
  let health ← health (payloadField items "health") generation
  let parts ← snapshotParts cases items
  wrapping "invalid_snapshot" (text "$") (snapshotValue items generation sequence health parts)

end Payloads

end WyrePlumber.Runtime.Snapshot
