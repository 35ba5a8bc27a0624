import WyrePlumber.Library.Fallible
import WyrePlumber.Native.ManagedLinks
import WyrePlumber.Runtime.EventQueue
import WyrePlumber.Runtime.FieldChecks

/-!
# The callbacks of the event publication

`runtime_events.c`: how a notification of WirePlumber becomes a detached payload
and what `runtime_event_from_payload` makes of it.  Every Python object that is
made may fail, and a text that is not UTF-8 does.  What WirePlumber shows of an
object is in the object; a proxy that has lost its features shows no properties.
-/

set_option autoImplicit false
set_option linter.constructorNameAsVariable false

namespace WyrePlumber.Native.RuntimeEvents

open Python Fallible
open WyrePlumber.Runtime
open WyrePlumber.Runtime.EventQueue (RuntimeEvent)
open WyrePlumber.Native.ManagedLinks (Endpoints WpManagedLinkSpec WpProperties)

/-! ## Copying into Python objects -/

/-- A text by the code points it encodes; `none` is not UTF-8. -/
abbrev Text := Option PyString

def unicodeFromString (string : Text) : Copy PyString := do
  allocate
  owned string

abbrev Dict := List (PyString × PyValue)

/-- An entry keeps its place when it is overwritten. -/
def setItem (key : PyString) (value : PyValue) : Dict → Dict
  | [] => [(key, value)]
  | (other, kept) :: rest =>
      if other = key then (other, value) :: rest else (other, kept) :: setItem key value rest

def dictSetItemString (dict : Dict) (key : Text) (value : PyValue) : Copy Dict := do
  let name ← unicodeFromString key
  allocate
  pure (setItem name value dict)

/-- `PyDict_GetItemString`, which finds nothing where its key cannot be allocated. -/
def dictGetItemString (dict : Dict) (key : String) : Copy PyValue := do
  allocate
  owned (dict.lookup (text key))

def setOwned (dict : Dict) (key : String) (value : Copy PyValue) : Copy Dict := do
  let made ← value
  dictSetItemString dict (some (text key)) made

def longFrom (number : Int) : Copy PyValue := do
  allocate
  pure (.int number)

def boolFrom (value : Bool) : Copy PyValue := pure (.bool value)

def floatFrom (number : Binary64) : Copy PyValue := do
  allocate
  pure (.float number)

def strFrom (string : Text) : Copy PyValue := do
  let copied ← unicodeFromString string
  pure (.str copied)

def bytesFrom (data : List UInt8) : Copy PyValue := do
  allocate
  pure (.bytes data)

def optionalStr : Option Text → Copy PyValue
  | none => pure .none
  | some string => strFrom string

def buildValue : List (String × Copy PyValue) → Dict → Copy Dict
  | [], dict => pure dict
  | (key, value) :: rest, dict => do
      let extended ← setOwned dict key value
      buildValue rest extended

def append (items : List PyValue) (item : PyValue) : Copy (List PyValue) := do
  allocate
  pure (items ++ [item])

def copyItems : WpProperties → Dict → Copy Dict
  | [], dict => pure dict
  | (key, value) :: rest, dict => do
      let copied ← unicodeFromString value
      let extended ← dictSetItemString dict key (.str copied)
      copyItems rest extended

/-- Without properties the copy is empty. -/
def copyProperties (properties : Option WpProperties) : Copy PyValue := do
  allocate
  let items ← copyItems (properties.getD []) []
  pure (.dict items)

def copyNames : List Text → List PyValue → Copy (List PyValue)
  | [], copied => pure copied
  | name :: rest, copied => do
      let value ← strFrom name
      let extended ← append copied value
      copyNames rest extended

/-- Without a parameter info of the type `a\x7bss\x7d` the copy is empty. -/
def copyParameterIds (info : Option (List (Text × Text))) : Copy PyValue := do
  allocate
  let names ← copyNames ((info.getD []).map Prod.fst) []
  pure (.list names)

structure SpaPod where
  type : Nat
  size : Nat
  data : List UInt8

def copyPods : List (Option SpaPod) → List PyValue → Copy (List PyValue)
  | [], copied => pure copied
  | none :: rest, copied => copyPods rest copied
  | some pod :: rest, copied => do
      let data ← bytesFrom pod.data
      allocate
      let record ← buildValue
        [("type", longFrom pod.type), ("size", longFrom pod.size), ("data", pure data)] []
      let extended ← append copied (.dict record)
      copyPods rest extended

/-- `iterator` is `NULL` when the parameter cannot be enumerated. -/
def copyRawParameterValues (iterator : Option (List (Option SpaPod))) : Copy PyValue := do
  allocate
  let values ← copyPods (iterator.getD []) []
  pure (.list values)

structure MetadataItem where
  subject : Nat
  key : Option Text
  type : Option Text
  value : Option Text

def keyOrEmpty (key : Option Text) : Text := key.getD (some [])

/-- Items that cannot be extracted are skipped. -/
def copyEntries : List (Option MetadataItem) → List PyValue → Copy (List PyValue)
  | [], copied => pure copied
  | none :: rest, copied => copyEntries rest copied
  | some item :: rest, copied => do
      allocate
      let entry ← buildValue
        [("subject", longFrom item.subject), ("key", strFrom (keyOrEmpty item.key)),
          ("type", optionalStr item.type), ("value", optionalStr item.value)] []
      let extended ← append copied (.dict entry)
      copyEntries rest extended

/-! ## What WirePlumber shows -/

/-- What every PipeWire object shows. -/
structure PipewireObject where
  boundId : Nat
  properties : Option WpProperties
  paramInfo : Option (List (Text × Text))

structure MixerState where
  volume : Binary64
  mute : Bool
  base : Option Binary64
  step : Option Binary64

/-- `mixer` is absent without the mixer API or a complete state of it;
`iterator` without the metadata's data. -/
inductive NativeObject where
  | device (object : PipewireObject)
  | node (object : PipewireObject) (state : Int) (error : Option Text)
      (mixer : Option MixerState)
  | port (object : PipewireObject) (direction : Int)
  | link (object : PipewireObject) (endpoints : Endpoints) (state : Int) (error : Option Text)
  | metadata (boundId : Nat) (properties : Option WpProperties) (name : Option Text)
      (iterator : Option (List (Option MetadataItem)))

def NativeObject.kind : NativeObject → RuntimeObjectKind
  | .device _ => .device
  | .node .. => .node
  | .port .. => .port
  | .link .. => .link
  | .metadata .. => .metadata

def NativeObject.boundId : NativeObject → Nat
  | .device object | .node object .. | .port object _ | .link object .. => object.boundId
  | .metadata boundId .. => boundId

/-- The object still has the features its record is read from. -/
def NativeObject.hasFeatures : NativeObject → Bool
  | .device object | .node object .. | .port object _ | .link object .. =>
      object.properties.isSome
  | .metadata _ _ _ iterator => iterator.isSome

/-- A detached event payload. -/
structure Payload where
  generation : Nat
  sequence : Nat
  occurredAt : PyString
  kind : RuntimeEventKind
  objectKind : RuntimeObjectKind
  objectId : PyValue
  current : PyValue
  previous : PyValue
  requiresResnapshot : Bool
  reason : Option PyString

/-- The connection as the callbacks read it. -/
structure WPConnection where
  started : Bool
  stopRequested : Bool
  generation : Nat
  sequence : Nat
  managedLinks : List WpManagedLinkSpec
  runtimeEvents : List Payload
  runtimeEventCapacity : Nat
  runtimeEventInvalid : Bool
  runtimeEventClosed : Bool

/-! ## Records -/

/-- A number of the mixer that its state need not have. -/
def setOptionalFloat (dict : Dict) (key : String) : Option Binary64 → Copy Dict
  | none => pure dict
  | some number => setOwned dict key (floatFrom number)

def copyMixerState : Option MixerState → Copy PyValue
  | none => pure .none
  | some mixer => do
      allocate
      let withVolume ← setOwned [] "volume" (floatFrom mixer.volume)
      let withMute ← setOwned withVolume "mute" (boolFrom mixer.mute)
      let withBase ← setOptionalFloat withMute "base" mixer.base
      let withStep ← setOptionalFloat withBase "step" mixer.step
      pure (.dict withStep)

def copyMetadataRecord (boundId : Nat) (properties : Option WpProperties) (name : Option Text)
    (iterator : Option (List (Option MetadataItem))) : Copy PyValue := do
  allocate
  allocate
  let withId ← setOwned [] "id" (longFrom boundId)
  let withName ← setOwned withId "name" (optionalStr name)
  let withProperties ← setOwned withName "properties" (copyProperties properties)
  let entries ← copyEntries (iterator.getD []) []
  let record ← setOwned withProperties "entries" (pure (.list entries))
  pure (.dict record)

def managedLinkLookupEndpoints (conn : WPConnection) (endpoints : Endpoints) :
    Option WpManagedLinkSpec :=
  conn.managedLinks.find? (·.endpoints = endpoints)

/-- The identity of a managed link joins the properties of its record, if they are
found there. -/
def setManagedIdentity (conn : WPConnection) (endpoints : Endpoints)
    (properties : Option PyValue) (record : Dict) : Copy Dict :=
  match managedLinkLookupEndpoints conn endpoints, properties with
  | some managed, some (.dict items) => do
      let withOwner ← setOwned items "open-cinema.owner" (strFrom (some managed.owner))
      let withBoth ← setOwned withOwner "open-cinema.desired-id" (strFrom (some managed.desiredId))
      pure (setItem (text "properties") (.dict withBoth) record)
  | _, _ => pure record

def copyObjectRecord (conn : WPConnection) (object : NativeObject) : Copy PyValue :=
  match object with
  | .metadata boundId properties name iterator =>
      copyMetadataRecord boundId properties name iterator
  | .device pipewire => do
      let record ← copyCommon pipewire
      pure (.dict record)
  | .node pipewire state error mixer => do
      let record ← copyCommon pipewire
      let withMixer ← setOwned record "mixer" (copyMixerState mixer)
      let withState ← setOwned withMixer "state" (longFrom state)
      let withError ← setOwned withState "error" (optionalStr error)
      pure (.dict withError)
  | .port pipewire direction => do
      let record ← copyCommon pipewire
      let withDirection ← setOwned record "direction" (longFrom direction)
      pure (.dict withDirection)
  | .link pipewire endpoints state error => do
      let record ← copyCommon pipewire
      let properties ← attempt (dictGetItemString record "properties")
      let withManaged ← setManagedIdentity conn endpoints properties record
      let withOutput ← setOwned withManaged "output_node_id" (longFrom endpoints.outputNode)
      let withOutputPort ← setOwned withOutput "output_port_id" (longFrom endpoints.outputPort)
      let withInput ← setOwned withOutputPort "input_node_id" (longFrom endpoints.inputNode)
      let withInputPort ← setOwned withInput "input_port_id" (longFrom endpoints.inputPort)
      let withState ← setOwned withInputPort "state" (longFrom state)
      let withError ← setOwned withState "error" (optionalStr error)
      pure (.dict withError)
where
  copyCommon (pipewire : PipewireObject) : Copy Dict := do
    allocate
    let withId ← setOwned [] "id" (longFrom pipewire.boundId)
    let withProperties ← setOwned withId "properties" (copyProperties pipewire.properties)
    setOwned withProperties "parameter_ids" (copyParameterIds pipewire.paramInfo)

/-! ## Events -/

/-- The answers of the allocator while the state, the identity and the event of a
notification are made, and while a full queue has the event overwritten. -/
structure Allocator where
  state : Heap
  identity : Heap
  event : Heap
  overflow : Heap

/-- The clock's ISO text, which Python reads as the instant it stores. -/
structure Clock where
  iso8601 : PyString
  instant : PyString
  accepted : timestamp (.str iso8601) = .ok instant

/-- What a callback asks `new_event` for. -/
structure EventRequest where
  kind : RuntimeEventKind
  objectKind : RuntimeObjectKind
  objectId : Option PyValue
  current : Option PyValue
  previous : Option PyValue
  requiresResnapshot : Bool
  reason : Option String

/-- `None` stands for a missing state. -/
def orNone (state : Option PyValue) : PyValue := state.getD .none

/-- The payload of `new_event`, with the number it has consumed. -/
def newEvent (conn : WPConnection) (now : Option Clock) (request : EventRequest) :
    Copy Payload := do
  allocate
  let clock ← owned now
  let payload ← setOwned [] "payload_version" (longFrom 1)
  let payload ← setOwned payload "generation" (longFrom conn.generation)
  let payload ← setOwned payload "sequence" (longFrom (conn.sequence + 1))
  let payload ← setOwned payload "occurred_at" (strFrom (some clock.iso8601))
  let payload ← setOwned payload "kind" (strFrom (some (StringEnum.text request.kind)))
  let payload ← setOwned payload "object_kind"
    (strFrom (some (StringEnum.text request.objectKind)))
  let payload ← setOwned payload "object_id" (owned request.objectId)
  let payload ← setOwned payload "current" (pure (orNone request.current))
  let payload ← setOwned payload "previous" (pure (orNone request.previous))
  let payload ← setOwned payload "requires_resnapshot" (boolFrom request.requiresResnapshot)
  let _ ← setOwned payload "reason" (optionalStr (request.reason.map fun reason =>
    some (text reason)))
  let objectId ← owned request.objectId
  pure {
    generation := conn.generation, sequence := conn.sequence + 1,
    occurredAt := clock.iso8601, kind := request.kind, objectKind := request.objectKind,
    objectId := objectId, current := orNone request.current,
    previous := orNone request.previous,
    requiresResnapshot := request.requiresResnapshot, reason := request.reason.map text }

/-- `set_owned` whose result is not looked at: where it fails, the field stays. -/
def overwrite {α : Type} (old new : α) (write : Copy Dict) : StateM Heap α := fun heap =>
  (if (on write heap).1.isSome then new else old, (on write heap).2)

/-- The event that overflowed the queue is made into the marker, field by field. -/
def makeDiscontinuity (payload : Payload) (capacity : Nat) : StateM Heap Payload := do
  let reason := text "native event queue capacity " ++ EventQueue.shown capacity ++
    text " exceeded"
  let kind ← overwrite payload.kind .discontinuity
    (setOwned [] "kind" (strFrom (some (text "discontinuity"))))
  let objectKind ← overwrite payload.objectKind .runtime
    (setOwned [] "object_kind" (strFrom (some (text "runtime"))))
  let objectId ← overwrite payload.objectId (.str (text "runtime"))
    (setOwned [] "object_id" (strFrom (some (text "runtime"))))
  let current ← overwrite payload.current .none (setOwned [] "current" (pure .none))
  let previous ← overwrite payload.previous .none (setOwned [] "previous" (pure .none))
  let requiresResnapshot ← overwrite payload.requiresResnapshot true
    (setOwned [] "requires_resnapshot" (boolFrom true))
  let writtenReason ← overwrite payload.reason (some reason)
    (setOwned [] "reason" (strFrom (some reason)))
  pure { payload with
    kind := kind, objectKind := objectKind, objectId := objectId, current := current,
    previous := previous, requiresResnapshot := requiresResnapshot, reason := writtenReason }

/-- What enters the queue for a payload. -/
def queued (conn : WPConnection) (overflow : Heap) (payload : Payload) : Option Payload :=
  if conn.runtimeEventClosed || conn.runtimeEventInvalid then none
  else if conn.runtimeEventCapacity ≤ conn.runtimeEvents.length then
    some (makeDiscontinuity payload conn.runtimeEventCapacity overflow).1
  else some payload

def enqueue (conn : WPConnection) (overflow : Heap) (payload : Payload) : WPConnection :=
  if conn.runtimeEventClosed || conn.runtimeEventInvalid then conn
  else if conn.runtimeEventCapacity ≤ conn.runtimeEvents.length then
    { conn with
      runtimeEvents := [(makeDiscontinuity payload conn.runtimeEventCapacity overflow).1]
      runtimeEventInvalid := true }
  else { conn with runtimeEvents := conn.runtimeEvents ++ [payload] }

/-- A sequence number that a callback has consumed: what it copied of the new state
before, and what of it entered the queue. -/
structure Consumed where
  sequence : Nat
  extracted : Option PyValue
  queued : Option Payload

/-- `enqueue(conn, new_event(...))`. -/
def publish (conn : WPConnection) (now : Option Clock) (allocator : Allocator)
    (extracted : Option PyValue) (request : EventRequest) : WPConnection × Consumed :=
  let payload := (on (newEvent conn now request) allocator.event).1
  let numbered := { conn with sequence := conn.sequence + 1 }
  match payload with
  | none => (numbered, ⟨conn.sequence + 1, extracted, none⟩)
  | some payload =>
      (enqueue numbered allocator.overflow payload,
        ⟨conn.sequence + 1, extracted, queued numbered allocator.overflow payload⟩)

/-! ## Callbacks -/

/-- The kinds `publish_object_event` is called with. -/
inductive ObjectChange where
  | added
  | removed
  | changed
  deriving DecidableEq

def ObjectChange.kind : ObjectChange → RuntimeEventKind
  | .added => .objectAdded
  | .removed => .objectRemoved
  | .changed => .objectChanged

def isSilent (conn : WPConnection) : Bool := !conn.started || conn.stopRequested

def recordItems : PyValue → Dict
  | .dict items => items
  | _ => []

/-- The bound id, else the id of the record, else `"unknown"`, all of which may fail.
There is no answer where `Py_NewRef` is given the `NULL` of a failed lookup. -/
def objectIdOf (object : NativeObject) (record : Option PyValue) (identity : Heap) :
    Option (Option PyValue) :=
  let bound := on (longFrom object.boundId) identity
  match bound.1, record with
  | some id, _ => some (some id)
  | none, some record => (on (dictGetItemString (recordItems record) "id") bound.2).1.map some
  | none, none => some (on (strFrom (some (text "unknown"))) bound.2).1

def objectRequest (change : ObjectChange) (object : NativeObject) (record : Option PyValue)
    (objectId : Option PyValue) : EventRequest where
  kind := change.kind
  objectKind := object.kind
  objectId := objectId
  current := if change = .removed then none else record
  previous := if change = .removed then record else none
  requiresResnapshot := false
  reason := none

/-- No answer where the process does not survive. -/
def publishObjectEvent (conn : WPConnection) (now : Option Clock) (allocator : Allocator)
    (object : NativeObject) (change : ObjectChange) : Option (WPConnection × List Consumed) :=
  if isSilent conn then some (conn, [])
  else do
    let record := (on (copyObjectRecord conn object) allocator.state).1
    let objectId ← objectIdOf object record allocator.identity
    let published := publish conn now allocator record
      (objectRequest change object record objectId)
    some (published.1, [published.2])

/-- A parameter of an object of the kind `ownerType`. -/
structure Parameter where
  ownerType : RuntimeObjectKind
  ownerId : Nat
  id : Option Text
  iterator : Option (List (Option SpaPod))

def copyParameter (parameter : Parameter) : Copy PyValue := do
  allocate
  let values ← copyRawParameterValues parameter.iterator
  let current ← setOwned [] "owner_type"
    (strFrom (some (StringEnum.text parameter.ownerType)))
  let current ← setOwned current "owner_id" (longFrom parameter.ownerId)
  let current ← setOwned current "id" (strFrom (keyOrEmpty parameter.id))
  let current ← setOwned current "permissions" (strFrom (some (text "r")))
  let current ← setOwned current "complete" (boolFrom true)
  let current ← setOwned current "values" (pure values)
  pure (.dict current)

/-- `"%s:%u:%s"`. -/
def parameterIdentity (parameter : Parameter) : Text :=
  (keyOrEmpty parameter.id).map fun id =>
    StringEnum.text parameter.ownerType ++ text ":" ++ EventQueue.shown parameter.ownerId ++
      text ":" ++ id

def parameterRequest (parameter : Parameter) (current : PyValue) (identity : Heap) :
    EventRequest where
  kind := .parameterChanged
  objectKind := .parameter
  objectId := (on (strFrom (parameterIdentity parameter)) identity).1
  current := some current
  previous := none
  requiresResnapshot := false
  reason := none

def resnapshotRequest (identity : Heap) : EventRequest where
  kind := .resnapshotRequired
  objectKind := .runtime
  objectId := (on (strFrom (some (text "runtime"))) identity).1
  current := none
  previous := none
  requiresResnapshot := true
  reason := some "failed to detach changed parameter"

def onParamsChanged (conn : WPConnection) (now : Option Clock) (allocator : Allocator)
    (parameter : Parameter) : WPConnection × List Consumed :=
  if isSilent conn then (conn, [])
  else
    let current := (on (copyParameter parameter) allocator.state).1
    let request := match current with
      | some current => parameterRequest parameter current allocator.identity
      | none => resnapshotRequest allocator.identity
    let published := publish conn now allocator current request
    (published.1, [published.2])

structure MetadataChange where
  metadataId : Nat
  subject : Nat
  key : Option Text
  type : Option Text
  value : Option Text

def copyMetadataChange (change : MetadataChange) : Copy PyValue := do
  allocate
  let current ← buildValue
    [("metadata_id", longFrom change.metadataId), ("subject", longFrom change.subject),
      ("key", strFrom (keyOrEmpty change.key)), ("type", optionalStr change.type),
      ("value", optionalStr change.value)] []
  pure (.dict current)

/-- `"%u:%u:%s"`. -/
def metadataIdentity (change : MetadataChange) : Text :=
  (keyOrEmpty change.key).map fun key =>
    EventQueue.shown change.metadataId ++ text ":" ++ EventQueue.shown change.subject ++
      text ":" ++ key

def metadataRequest (kind : RuntimeEventKind) (objectKind : RuntimeObjectKind)
    (identity : Text) (current : Option PyValue) (identityHeap : Heap) : EventRequest where
  kind := kind
  objectKind := objectKind
  objectId := (on (strFrom identity) identityHeap).1
  current := current
  previous := none
  requiresResnapshot := false
  reason := none

/-- `g_str_has_prefix(key, "default.")`, which compares bytes; of a text that is not
UTF-8 the label says what it finds. -/
def hasDefaultPrefix (key : Option Text) (raw : Bool) : Bool :=
  match key with
  | none => false
  | some none => raw
  | some (some key) => (text "default.").isPrefixOf key

/-- One of the two events of a change; both copy the change anew. -/
def publishMetadataEvent (conn : WPConnection) (now : Option Clock) (allocator : Allocator)
    (change : MetadataChange) (kind : RuntimeEventKind) (objectKind : RuntimeObjectKind)
    (identity : Text) : WPConnection × Consumed :=
  let current := (on (copyMetadataChange change) allocator.state).1
  publish conn now allocator current
    (metadataRequest kind objectKind identity current allocator.identity)

def onMetadataChanged (conn : WPConnection) (now : Option Clock × Option Clock)
    (allocator : Allocator × Allocator) (change : MetadataChange) (rawPrefix : Bool) :
    WPConnection × List Consumed :=
  if isSilent conn then (conn, [])
  else
    let first := publishMetadataEvent conn now.1 allocator.1 change .metadataChanged .metadata
      (metadataIdentity change)
    if hasDefaultPrefix change.key rawPrefix then
      let second := publishMetadataEvent first.1 now.2 allocator.2 change .defaultChanged
        .defaults (keyOrEmpty change.key)
      (second.1, [first.2, second.2])
    else (first.1, [first.2])

/-- The native change notifications. -/
inductive Notification where
  | object (change : ObjectChange) (object : NativeObject)
  | parameter (parameter : Parameter)
  | metadata (change : MetadataChange) (rawPrefix : Bool)

/-- What the callbacks draw from outside: the clock and the allocator, for up to two
events. -/
structure Environment where
  now : Option Clock × Option Clock
  allocator : Allocator × Allocator

def notify (conn : WPConnection) (environment : Environment) :
    Notification → Option (WPConnection × List Consumed)
  | .object change object =>
      publishObjectEvent conn environment.now.1 environment.allocator.1 object change
  | .parameter parameter =>
      some (onParamsChanged conn environment.now.1 environment.allocator.1 parameter)
  | .metadata change rawPrefix =>
      some (onMetadataChanged conn environment.now environment.allocator change rawPrefix)

/-! ## What the allocator does not decide

A copy that ends with a result has the one that what WirePlumber shows determines.
-/

section Determined

theorem unicodeFromString_determined (string : Text) :
    Determined (unicodeFromString string) :=
  determined_allocate.bind fun _ => determined_owned string

theorem dictSetItemString_determined (dict : Dict) (key : Text) (value : PyValue) :
    Determined (dictSetItemString dict key value) :=
  (unicodeFromString_determined key).bind fun _ =>
    determined_allocate.bind fun _ => determined_pure _

theorem setOwned_determined (dict : Dict) (key : String) {value : Copy PyValue}
    (made : Determined value) : Determined (setOwned dict key value) :=
  made.bind fun _ => dictSetItemString_determined dict _ _

theorem dictGetItemString_determined (dict : Dict) (key : String) :
    Determined (dictGetItemString dict key) :=
  determined_allocate.bind fun _ => determined_owned _

theorem longFrom_determined (number : Int) : Determined (longFrom number) :=
  determined_allocate.bind fun _ => determined_pure _

theorem floatFrom_determined (number : Binary64) : Determined (floatFrom number) :=
  determined_allocate.bind fun _ => determined_pure _

theorem strFrom_determined (string : Text) : Determined (strFrom string) :=
  (unicodeFromString_determined string).bind fun _ => determined_pure _

theorem optionalStr_determined (string : Option Text) : Determined (optionalStr string) := by
  cases string with
  | none => exact determined_pure _
  | some string => exact strFrom_determined string

theorem append_determined (items : List PyValue) (item : PyValue) :
    Determined (append items item) :=
  determined_allocate.bind fun _ => determined_pure _

/-- A record is determined when each of its fields is. -/
theorem buildValue_determined (fields : List (String × Copy PyValue)) (dict : Dict)
    (made : ∀ field ∈ fields, Determined field.2) : Determined (buildValue fields dict) := by
  induction fields generalizing dict with
  | nil => exact determined_pure dict
  | cons field rest inductionHypothesis =>
      have first : Determined field.2 := made field List.mem_cons_self
      refine (setOwned_determined dict field.1 first).bind fun extended => ?_
      apply inductionHypothesis
      intro other member
      exact made other (List.mem_cons_of_mem _ member)

theorem copyItems_determined (items : WpProperties) (dict : Dict) :
    Determined (copyItems items dict) := by
  induction items generalizing dict with
  | nil => exact determined_pure dict
  | cons item rest inductionHypothesis =>
      refine (unicodeFromString_determined item.2).bind fun copied => ?_
      exact (dictSetItemString_determined dict item.1 _).bind fun extended =>
        inductionHypothesis extended

theorem copyProperties_determined (properties : Option WpProperties) :
    Determined (copyProperties properties) :=
  determined_allocate.bind fun _ => (copyItems_determined _ _).bind fun _ => determined_pure _

theorem copyPods_determined (pods : List (Option SpaPod)) (copied : List PyValue) :
    Determined (copyPods pods copied) := by
  induction pods generalizing copied with
  | nil => exact determined_pure copied
  | cons pod rest inductionHypothesis =>
      cases pod with
      | none => exact inductionHypothesis copied
      | some pod =>
          have bytes : Determined (bytesFrom pod.data) :=
            determined_allocate.bind fun _ => determined_pure _
          refine bytes.bind fun data => determined_allocate.bind fun _ => ?_
          refine (buildValue_determined _ _ ?_).bind fun record => ?_
          · simp only [List.mem_cons, List.not_mem_nil, or_false, forall_eq_or_imp, forall_eq]
            exact ⟨longFrom_determined _, longFrom_determined _, determined_pure _⟩
          · exact (append_determined copied _).bind fun extended => inductionHypothesis extended

theorem copyRawParameterValues_determined (iterator : Option (List (Option SpaPod))) :
    Determined (copyRawParameterValues iterator) :=
  determined_allocate.bind fun _ => (copyPods_determined _ _).bind fun _ => determined_pure _

theorem copyMixerState_determined (mixer : Option MixerState) :
    Determined (copyMixerState mixer) := by
  have optional : ∀ (dict : Dict) (key : String) (number : Option Binary64),
      Determined (setOptionalFloat dict key number) := by
    intro dict key number
    cases number with
    | none => exact determined_pure dict
    | some number => exact setOwned_determined dict key (floatFrom_determined number)
  cases mixer with
  | none => exact determined_pure _
  | some mixer =>
      refine determined_allocate.bind fun _ => ?_
      refine (setOwned_determined _ _ (floatFrom_determined _)).bind fun withVolume => ?_
      refine (setOwned_determined _ _ (determined_pure _)).bind fun withMute => ?_
      refine (optional _ _ _).bind fun withBase => ?_
      exact (optional _ _ _).bind fun withStep => determined_pure _

end Determined

/-! ## The event stream of the connection -/

/-- What `new_event` returns says what was asked for. -/
theorem newEvent_payload {conn : WPConnection} {now : Option Clock} {request : EventRequest}
    {heap : Heap} {payload : Payload}
    (made : (on (newEvent conn now request) heap).1 = some payload) :
    ∃ (clock : Clock) (id : PyValue), request.objectId = some id ∧ payload = {
      generation := conn.generation, sequence := conn.sequence + 1,
      occurredAt := clock.iso8601, kind := request.kind, objectKind := request.objectKind,
      objectId := id, current := orNone request.current, previous := orNone request.previous,
      requiresResnapshot := request.requiresResnapshot, reason := request.reason.map text } := by
  simp only [newEvent, on_bind_eq_some] at made
  obtain ⟨_, _, -, clock, _, -, _, _, -, _, _, -, _, _, -, _, _, -, _, _, -, _, _, -, _, _, -,
    _, _, -, _, _, -, _, _, -, _, _, -, id, _, identified, made⟩ := made
  have identity : request.objectId = some id := congrArg Prod.fst identified
  exact ⟨clock, id, identity, (Option.some.inj made).symm⟩

section Refinement

def eventKind : RuntimeEventKind → Connection.EventKind
  | .objectAdded => .objectAdded
  | .objectRemoved => .objectRemoved
  | .objectChanged => .objectChanged
  | .parameterChanged => .parameterChanged
  | .metadataChanged => .metadataChanged
  | .defaultChanged => .defaultChanged
  | .connectionChanged => .connectionChanged
  | .discontinuity => .discontinuity
  | .resnapshotRequired => .resnapshotRequired

/-- An event of the stream stands for a payload. -/
def Shows (payload : Payload) (event : Connection.EventPayload) : Prop :=
  event.generation = payload.generation ∧ event.sequence = payload.sequence ∧
    event.kind = eventKind payload.kind ∧ event.requiresResnapshot = payload.requiresResnapshot

structure Represents (conn : WPConnection) (stream : Connection.WPConnection) : Prop where
  generation : stream.generation = conn.generation
  sequence : stream.sequence = conn.sequence
  events : List.Forall₂ Shows conn.runtimeEvents stream.runtimeEvents
  capacity : stream.runtimeEventCapacity = conn.runtimeEventCapacity
  invalid : stream.runtimeEventInvalid = conn.runtimeEventInvalid
  closed : stream.runtimeEventClosed = conn.runtimeEventClosed

variable {conn : WPConnection} {stream : Connection.WPConnection}

/-- The kind and the flag of the marker are written. -/
def Marks (overflow : Heap) : Prop :=
  ∀ payload capacity, (makeDiscontinuity payload capacity overflow).1.kind = .discontinuity ∧
    (makeDiscontinuity payload capacity overflow).1.requiresResnapshot = true

theorem enqueue_represents (represents : Represents conn stream) {overflow : Heap}
    (marks : Marks overflow) {payload : Payload} {event : Connection.EventPayload}
    (shows : Shows payload event) :
    Represents (enqueue conn overflow payload) (Connection.enqueue stream event).1 := by
  have lengths : stream.runtimeEvents.length = conn.runtimeEvents.length :=
    represents.events.length_eq.symm
  unfold enqueue Connection.enqueue
  rw [represents.closed, represents.invalid, represents.capacity, lengths]
  split
  · exact represents
  · split
    · refine ⟨represents.generation, represents.sequence, ?_, rfl, rfl, rfl⟩
      have marked := marks payload conn.runtimeEventCapacity
      refine .cons ⟨shows.1, shows.2.1, ?_, marked.2.symm⟩ .nil
      rw [marked.1]
      rfl
    · refine ⟨represents.generation, represents.sequence, ?_, rfl, rfl, rfl⟩
      exact List.rel_append represents.events (.cons shows .nil)

/-- `publish` of the stream takes whether the payload was built from its label. -/
theorem publish_represents (represents : Represents conn stream) (now : Option Clock)
    {allocator : Allocator} (marks : Marks allocator.overflow) (extracted : Option PyValue)
    (request : EventRequest) (subject : Option Nat) :
    Represents (publish conn now allocator extracted request).1
      (Connection.publish stream (eventKind request.kind) subject request.requiresResnapshot
        (on (newEvent conn now request) allocator.event).1.isSome).1 := by
  have numbered : Represents { conn with sequence := conn.sequence + 1 }
      { stream with sequence := stream.sequence + 1 } :=
    ⟨represents.generation, congrArg (· + 1) represents.sequence, represents.events,
      represents.capacity, represents.invalid, represents.closed⟩
  unfold publish
  cases made : (on (newEvent conn now request) allocator.event).1 with
  | none => exact numbered
  | some payload =>
      obtain ⟨clock, id, -, rfl⟩ := newEvent_payload made
      refine enqueue_represents numbered marks ⟨represents.generation, ?_, rfl, rfl⟩
      exact congrArg (· + 1) represents.sequence

end Refinement

end WyrePlumber.Native.RuntimeEvents
