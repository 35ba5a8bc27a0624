import WyrePlumber.Library.Calendar
import WyrePlumber.Library.Numerals
import WyrePlumber.Library.Results
import WyrePlumber.Runtime.Enumerations

/-!
# Python values and the registered runtime values

The Python objects that the runtime contract takes and makes.  A runtime value
is one of the registered classes with its fields in the order of the class;
enumeration members are the strings they are.
-/

set_option autoImplicit false

namespace WyrePlumber.Runtime

open Python Calendar Results

/-- The registered subclasses of `RuntimeValue`. -/
inductive ValueType where
  | spaId
  | spaChoice
  | audioProperties
  | audioFormat
  | connectionHealth
  | device
  | node
  | port
  | link
  | metadataEntry
  | metadata
  | parameter
  | profile
  | route
  | defaultTarget
  | defaults
  | unresolvedRelationship
  | runtimeSnapshot
  | runtimeEvent
  | mutationTarget
  | confirmationPredicate
  | mutationRequest
  | mutationFailure
  | mutationConfirmation
  | mutationOutcome
  | mutationDispatchTicket
  deriving DecidableEq

/-- The fields that the dataclasses serialize. -/
inductive FieldName where
  | spaNamespace | id | name | kind | default | minimum | maximum | step | alternatives | flags
  | extra | volume | mute | channelVolumes | channelPositions | monitorMute | monitorVolumes
  | softMute | softVolumes | mediaType | mediaSubtype | sampleFormat | rate | channels
  | positions | iec958Codec | state | generation | reason | details | description | mediaClass
  | properties | parameterIds | profileIds | routeIds | deviceId | error | inputPortIds
  | outputPortIds | nodeId | direction | channel | outputNodeId | outputPortId | inputNodeId
  | inputPortId | owner | desiredId | subject | key | typeName | value | entries | ownerType
  | ownerId | permissions | values | index | priority | available | active | classes
  | configuredName | resolvedNodeId | metadataId | audioSink | audioSource | videoSource
  | sourceType | sourceId | relation | targetType | targetId | sequence | capturedAt | health
  | devices | nodes | ports | links | metadata | parameters | profiles | routes | defaults
  | unresolvedRelationships | occurredAt | objectKind | objectId | current | previous
  | requiresResnapshot | selector | target | operator | path | expected | tolerance | requestId
  | expectedGeneration | operation | requestedAt | deadlineAt | expectedSequence | payload
  | confirmationPredicates | phase | code | message | retryable | observedAt | predicate
  | observation | status | completedAt | confirmations | failure | dispatchOrder | disposition
  | observedGeneration | observedSequence | failureCode
  deriving DecidableEq

def ValueType.text : ValueType → PyString
  | .spaId => Python.text "spa_id"
  | .spaChoice => Python.text "spa_choice"
  | .audioProperties => Python.text "audio_properties"
  | .audioFormat => Python.text "audio_format"
  | .connectionHealth => Python.text "connection_health"
  | .device => Python.text "device"
  | .node => Python.text "node"
  | .port => Python.text "port"
  | .link => Python.text "link"
  | .metadataEntry => Python.text "metadata_entry"
  | .metadata => Python.text "metadata"
  | .parameter => Python.text "parameter"
  | .profile => Python.text "profile"
  | .route => Python.text "route"
  | .defaultTarget => Python.text "default_target"
  | .defaults => Python.text "defaults"
  | .unresolvedRelationship => Python.text "unresolved_relationship"
  | .runtimeSnapshot => Python.text "runtime_snapshot"
  | .runtimeEvent => Python.text "runtime_event"
  | .mutationTarget => Python.text "mutation_target"
  | .confirmationPredicate => Python.text "confirmation_predicate"
  | .mutationRequest => Python.text "mutation_request"
  | .mutationFailure => Python.text "mutation_failure"
  | .mutationConfirmation => Python.text "mutation_confirmation"
  | .mutationOutcome => Python.text "mutation_outcome"
  | .mutationDispatchTicket => Python.text "mutation_dispatch_ticket"

def ValueType.className : ValueType → PyString
  | .spaId => Python.text "SpaIdValue"
  | .spaChoice => Python.text "SpaChoiceValue"
  | .audioProperties => Python.text "AudioPropertiesValue"
  | .audioFormat => Python.text "AudioFormatValue"
  | .connectionHealth => Python.text "ConnectionHealthValue"
  | .device => Python.text "DeviceValue"
  | .node => Python.text "NodeValue"
  | .port => Python.text "PortValue"
  | .link => Python.text "LinkValue"
  | .metadataEntry => Python.text "MetadataEntryValue"
  | .metadata => Python.text "MetadataValue"
  | .parameter => Python.text "ParameterValue"
  | .profile => Python.text "ProfileValue"
  | .route => Python.text "RouteValue"
  | .defaultTarget => Python.text "DefaultTargetValue"
  | .defaults => Python.text "DefaultsValue"
  | .unresolvedRelationship => Python.text "UnresolvedRelationshipValue"
  | .runtimeSnapshot => Python.text "RuntimeSnapshot"
  | .runtimeEvent => Python.text "RuntimeEvent"
  | .mutationTarget => Python.text "MutationTargetValue"
  | .confirmationPredicate => Python.text "ConfirmationPredicateValue"
  | .mutationRequest => Python.text "MutationRequest"
  | .mutationFailure => Python.text "MutationFailureValue"
  | .mutationConfirmation => Python.text "MutationConfirmationValue"
  | .mutationOutcome => Python.text "MutationOutcome"
  | .mutationDispatchTicket => Python.text "MutationDispatchTicketValue"

def ValueType.all : List ValueType :=
  [.spaId, .spaChoice, .audioProperties, .audioFormat, .connectionHealth, .device, .node, .port,
   .link, .metadataEntry, .metadata, .parameter, .profile, .route, .defaultTarget, .defaults,
   .unresolvedRelationship, .runtimeSnapshot, .runtimeEvent, .mutationTarget,
   .confirmationPredicate, .mutationRequest, .mutationFailure, .mutationConfirmation,
   .mutationOutcome, .mutationDispatchTicket]

theorem ValueType.mem_all (type : ValueType) : type ∈ ValueType.all := by
  cases type <;> decide

def FieldName.text : FieldName → PyString
  | .spaNamespace => Python.text "namespace"
  | .id => Python.text "id"
  | .name => Python.text "name"
  | .kind => Python.text "kind"
  | .default => Python.text "default"
  | .minimum => Python.text "minimum"
  | .maximum => Python.text "maximum"
  | .step => Python.text "step"
  | .alternatives => Python.text "alternatives"
  | .flags => Python.text "flags"
  | .extra => Python.text "extra"
  | .volume => Python.text "volume"
  | .mute => Python.text "mute"
  | .channelVolumes => Python.text "channel_volumes"
  | .channelPositions => Python.text "channel_positions"
  | .monitorMute => Python.text "monitor_mute"
  | .monitorVolumes => Python.text "monitor_volumes"
  | .softMute => Python.text "soft_mute"
  | .softVolumes => Python.text "soft_volumes"
  | .mediaType => Python.text "media_type"
  | .mediaSubtype => Python.text "media_subtype"
  | .sampleFormat => Python.text "sample_format"
  | .rate => Python.text "rate"
  | .channels => Python.text "channels"
  | .positions => Python.text "positions"
  | .iec958Codec => Python.text "iec958_codec"
  | .state => Python.text "state"
  | .generation => Python.text "generation"
  | .reason => Python.text "reason"
  | .details => Python.text "details"
  | .description => Python.text "description"
  | .mediaClass => Python.text "media_class"
  | .properties => Python.text "properties"
  | .parameterIds => Python.text "parameter_ids"
  | .profileIds => Python.text "profile_ids"
  | .routeIds => Python.text "route_ids"
  | .deviceId => Python.text "device_id"
  | .error => Python.text "error"
  | .inputPortIds => Python.text "input_port_ids"
  | .outputPortIds => Python.text "output_port_ids"
  | .nodeId => Python.text "node_id"
  | .direction => Python.text "direction"
  | .channel => Python.text "channel"
  | .outputNodeId => Python.text "output_node_id"
  | .outputPortId => Python.text "output_port_id"
  | .inputNodeId => Python.text "input_node_id"
  | .inputPortId => Python.text "input_port_id"
  | .owner => Python.text "owner"
  | .desiredId => Python.text "desired_id"
  | .subject => Python.text "subject"
  | .key => Python.text "key"
  | .typeName => Python.text "type_name"
  | .value => Python.text "value"
  | .entries => Python.text "entries"
  | .ownerType => Python.text "owner_type"
  | .ownerId => Python.text "owner_id"
  | .permissions => Python.text "permissions"
  | .values => Python.text "values"
  | .index => Python.text "index"
  | .priority => Python.text "priority"
  | .available => Python.text "available"
  | .active => Python.text "active"
  | .classes => Python.text "classes"
  | .configuredName => Python.text "configured_name"
  | .resolvedNodeId => Python.text "resolved_node_id"
  | .metadataId => Python.text "metadata_id"
  | .audioSink => Python.text "audio_sink"
  | .audioSource => Python.text "audio_source"
  | .videoSource => Python.text "video_source"
  | .sourceType => Python.text "source_type"
  | .sourceId => Python.text "source_id"
  | .relation => Python.text "relation"
  | .targetType => Python.text "target_type"
  | .targetId => Python.text "target_id"
  | .sequence => Python.text "sequence"
  | .capturedAt => Python.text "captured_at"
  | .health => Python.text "health"
  | .devices => Python.text "devices"
  | .nodes => Python.text "nodes"
  | .ports => Python.text "ports"
  | .links => Python.text "links"
  | .metadata => Python.text "metadata"
  | .parameters => Python.text "parameters"
  | .profiles => Python.text "profiles"
  | .routes => Python.text "routes"
  | .defaults => Python.text "defaults"
  | .unresolvedRelationships => Python.text "unresolved_relationships"
  | .occurredAt => Python.text "occurred_at"
  | .objectKind => Python.text "object_kind"
  | .objectId => Python.text "object_id"
  | .current => Python.text "current"
  | .previous => Python.text "previous"
  | .requiresResnapshot => Python.text "requires_resnapshot"
  | .selector => Python.text "selector"
  | .target => Python.text "target"
  | .operator => Python.text "operator"
  | .path => Python.text "path"
  | .expected => Python.text "expected"
  | .tolerance => Python.text "tolerance"
  | .requestId => Python.text "request_id"
  | .expectedGeneration => Python.text "expected_generation"
  | .operation => Python.text "operation"
  | .requestedAt => Python.text "requested_at"
  | .deadlineAt => Python.text "deadline_at"
  | .expectedSequence => Python.text "expected_sequence"
  | .payload => Python.text "payload"
  | .confirmationPredicates => Python.text "confirmation_predicates"
  | .phase => Python.text "phase"
  | .code => Python.text "code"
  | .message => Python.text "message"
  | .retryable => Python.text "retryable"
  | .observedAt => Python.text "observed_at"
  | .predicate => Python.text "predicate"
  | .observation => Python.text "observation"
  | .status => Python.text "status"
  | .completedAt => Python.text "completed_at"
  | .confirmations => Python.text "confirmations"
  | .failure => Python.text "failure"
  | .dispatchOrder => Python.text "dispatch_order"
  | .disposition => Python.text "disposition"
  | .observedGeneration => Python.text "observed_generation"
  | .observedSequence => Python.text "observed_sequence"
  | .failureCode => Python.text "failure_code"

/-- The Python objects that the contract can meet.  Lists, tuples and mappings
stand for every sequence and mapping of their kind; `other` is any object of
none of the kinds above it, known by its class and its identity. -/
inductive PyValue where
  | none
  | bool (value : Bool)
  | int (value : Int)
  | float (value : Binary64)
  | str (value : PyString)
  | bytes (value : List UInt8)
  | datetime (value : DateTime)
  | list (items : List PyValue)
  | tuple (items : List PyValue)
  | dict (items : List (PyString × PyValue))
  | frozenDict (items : List (PyString × PyValue))
  | runtime (type : ValueType) (fields : List (FieldName × PyValue))
  | other (className : PyString) (identity : Nat)

namespace PyValue

/-- Induction over objects: the items of a container before the container. -/
@[elab_as_elim]
theorem induction {motive : PyValue → Prop} (none : motive .none)
    (bool : ∀ value, motive (.bool value)) (int : ∀ value, motive (.int value))
    (float : ∀ value, motive (.float value)) (str : ∀ value, motive (.str value))
    (bytes : ∀ value, motive (.bytes value)) (datetime : ∀ value, motive (.datetime value))
    (list : ∀ items, (∀ item ∈ items, motive item) → motive (.list items))
    (tuple : ∀ items, (∀ item ∈ items, motive item) → motive (.tuple items))
    (dict : ∀ items, (∀ item ∈ items, motive item.2) → motive (.dict items))
    (frozenDict : ∀ items, (∀ item ∈ items, motive item.2) → motive (.frozenDict items))
    (runtime : ∀ type fields, (∀ field ∈ fields, motive field.2) → motive (.runtime type fields))
    (other : ∀ className identity, motive (.other className identity)) (value : PyValue) :
    motive value := by
  refine @PyValue.rec motive (fun items => ∀ item ∈ items, motive item)
    (fun items => ∀ item ∈ items, motive item.2) (fun fields => ∀ field ∈ fields, motive field.2)
    (fun item => motive item.2) (fun field => motive field.2) none bool int float str bytes
    datetime list tuple dict frozenDict runtime other ?_ ?_ ?_ ?_ ?_ ?_ ?_ ?_ value
  · simp
  · intro head tail ofHead ofTail
    exact List.forall_mem_cons.mpr ⟨ofHead, ofTail⟩
  · simp
  · intro head tail ofHead ofTail
    exact List.forall_mem_cons.mpr ⟨ofHead, ofTail⟩
  · simp
  · intro head tail ofHead ofTail
    exact List.forall_mem_cons.mpr ⟨ofHead, ofTail⟩
  · intro key item ofItem
    exact ofItem
  · intro field item ofItem
    exact ofItem

def typeName : PyValue → PyString
  | none => text "NoneType"
  | bool _ => text "bool"
  | int _ => text "int"
  | float _ => text "float"
  | str _ => text "str"
  | bytes _ => text "bytes"
  | datetime _ => text "datetime"
  | list _ => text "list"
  | tuple _ => text "tuple"
  | dict _ => text "dict"
  | frozenDict _ => text "FrozenDict"
  | runtime type _ => type.className
  | other className _ => className

/-- `getattr` of a field of a runtime value. -/
def get (value : PyValue) (field : FieldName) : PyValue :=
  match value with
  | runtime _ fields => (fields.lookup field).getD none
  | _ => none

def mapping? : PyValue → Option (List (PyString × PyValue))
  | dict items => some items
  | frozenDict items => some items
  | _ => Option.none

/-- The items of a sequence other than a string or bytes. -/
def sequence? : PyValue → Option (List PyValue)
  | list items => some items
  | tuple items => some items
  | _ => Option.none

def isNone : PyValue → Bool
  | none => true
  | _ => false

/-- A member of an enumeration as a Python object. -/
def member {Member : Type} [StringEnum Member] (value : Member) : PyValue :=
  str (StringEnum.text value)

/-- Comparison of a field with a member of its enumeration. -/
def isMember {Member : Type} [StringEnum Member] (value : PyValue) (expected : Member) : Bool :=
  match value with
  | str string => string = StringEnum.text expected
  | _ => false

def isA (expected : ValueType) : PyValue → Bool
  | runtime type _ => type = expected
  | _ => false

/-- The numeric value that `==` compares for an integer or a Boolean. -/
def integral? : PyValue → Option Int
  | bool value => some (if value then 1 else 0)
  | int value => some value
  | _ => Option.none

def intEq (left : Int) : PyValue → Bool
  | float right => right.eqInt left
  | right => right.integral? = some left

def floatEq (left : Binary64) : PyValue → Bool
  | float right => left.eq right
  | right => right.integral?.any left.eqInt

/-- `==` on times: aware times by instant, naive ones by fields. -/
def datetimeEq (left right : DateTime) : Bool :=
  match left.offset, right.offset with
  | some _, some _ => instant left = instant right
  | Option.none, Option.none => left = right
  | _, _ => false

/-! `==`.  A frozen mapping equals every mapping with the same items, in any
order; a runtime value equals one of its class with equal fields. -/

mutual

def eq (left right : PyValue) : Bool :=
  match left with
  | none => right.isNone
  | bool left => intEq (if left then 1 else 0) right
  | int left => intEq left right
  | float left => floatEq left right
  | str left => match right with | str right => left = right | _ => false
  | bytes left => match right with | bytes right => left = right | _ => false
  | datetime left => match right with | datetime right => datetimeEq left right | _ => false
  | list left => match right with | list right => eqAll left right | _ => false
  | tuple left => match right with | tuple right => eqAll left right | _ => false
  | dict left =>
      match right.mapping? with
      | some right => left.length = right.length && eqItems left right
      | Option.none => false
  | frozenDict left =>
      match right.mapping? with
      | some right => left.length = right.length && eqItems left right
      | Option.none => false
  | runtime leftType left =>
      match right with
      | runtime rightType right => leftType = rightType && eqFields left right
      | _ => false
  | other _ left => match right with | other _ right => left = right | _ => false
termination_by structural left

def eqAll (left right : List PyValue) : Bool :=
  match left with
  | [] => right.isEmpty
  | first :: lefts =>
      match right with
      | [] => false
      | second :: rights => eq first second && eqAll lefts rights
termination_by structural left

def eqItems (left right : List (PyString × PyValue)) : Bool :=
  match left with
  | [] => true
  | (key, first) :: lefts =>
      (match right.lookup key with
        | some second => eq first second
        | Option.none => false) && eqItems lefts right
termination_by structural left

def eqFields (left right : List (FieldName × PyValue)) : Bool :=
  match left with
  | [] => right.isEmpty
  | (_, first) :: lefts =>
      match right with
      | [] => false
      | (_, second) :: rights => eq first second && eqFields lefts rights
termination_by structural left

end

end PyValue

/-- A piece of an error text: literal, or the `repr` of an object. -/
inductive MessagePart where
  | text (literal : PyString)
  | repr (value : PyValue)

abbrev Message := List MessagePart

def plain (literal : String) : Message := [.text (Python.text literal)]

/-- The exceptions that the contract raises. -/
inductive PyError where
  | typeError (message : Message)
  | valueError (message : Message)
  | overflowError (message : Message)
  /-- `RuntimeValueDecodeError`, a `ValueError`. -/
  | decodeError (code path : PyString) (message : Message)

namespace PyError

def message : PyError → Message
  | typeError message => message
  | valueError message => message
  | overflowError message => message
  | decodeError code path message =>
      .text (code ++ text " at " ++ path ++ text ": ") :: message

/-- Whether `except (TypeError, ValueError)` catches the error. -/
def isTypeOrValueError : PyError → Bool
  | overflowError _ => false
  | _ => true

end PyError

/-- What the text of an integer of too many digits raises. -/
def digitLimit : PyError :=
  .valueError (plain "Exceeds the limit (4300 digits) for integer string conversion")

/-- `str(number)` of an integer. -/
def pyIntText (number : Int) : Except PyError PyString :=
  match intText? number with
  | some digits => .ok digits
  | none => .error digitLimit

theorem pyIntText_of_some {number : Int} {digits : PyString}
    (written : intText? number = some digits) : pyIntText number = .ok digits := by
  unfold pyIntText
  rw [written]

section Freeze

/-! `freeze_json`; on a mapping it is the constructor of `FrozenDict`. -/

mutual

def freezeJson : PyValue → Except PyError PyValue
  | .none => .ok .none
  | .bool value => .ok (.bool value)
  | .int value => .ok (.int value)
  | .str value => .ok (.str value)
  | .float value =>
      if value.isFinite then .ok (.float value)
      else .error (.valueError (plain "JSON numbers must be finite"))
  | .frozenDict items => .ok (.frozenDict items)
  | .dict items => (freezeItems items).map .frozenDict
  | .list items => (freezeAll items).map .tuple
  | .tuple items => (freezeAll items).map .tuple
  | value => .error (.typeError (.text (text "value of type ") ::
      .repr (.str value.typeName) :: plain " is not JSON-compatible"))

def freezeAll : List PyValue → Except PyError (List PyValue)
  | [] => .ok []
  | item :: rest => do
      let frozen ← freezeJson item
      let others ← freezeAll rest
      .ok (frozen :: others)

def freezeItems : List (PyString × PyValue) → Except PyError (List (PyString × PyValue))
  | [] => .ok []
  | (key, item) :: rest => do
      let frozen ← freezeJson item
      let others ← freezeItems rest
      .ok ((key, frozen) :: others)

end

theorem freezeAll_eq (items : List PyValue) : freezeAll items = items.mapM freezeJson := by
  induction items with
  | nil => rfl
  | cons item rest inductionHypothesis =>
      rw [List.mapM_cons, ← inductionHypothesis]
      rfl

theorem freezeItems_eq (items : List (PyString × PyValue)) :
    freezeItems items = items.mapM fun item => (freezeJson item.2).map (item.1, ·) := by
  induction items with
  | nil => rfl
  | cons item rest inductionHypothesis =>
      rw [List.mapM_cons, ← inductionHypothesis]
      simp only [freezeItems]
      cases freezeJson item.2 <;> rfl

/-! `thaw_json`; on a mapping it is `FrozenDict.to_dict`. -/

mutual

def thawJson : PyValue → Except PyError PyValue
  | .frozenDict items => (thawItems items).map .dict
  | .tuple items => (thawAll items).map .list
  | .none => .ok .none
  | .bool value => .ok (.bool value)
  | .int value => .ok (.int value)
  | .float value => .ok (.float value)
  | .str value => .ok (.str value)
  | value => .error (.typeError (.text (text "value of type ") ::
      .repr (.str value.typeName) :: plain " is not frozen JSON"))

def thawAll : List PyValue → Except PyError (List PyValue)
  | [] => .ok []
  | item :: rest => do
      let thawed ← thawJson item
      let others ← thawAll rest
      .ok (thawed :: others)

def thawItems : List (PyString × PyValue) → Except PyError (List (PyString × PyValue))
  | [] => .ok []
  | (key, item) :: rest => do
      let thawed ← thawJson item
      let others ← thawItems rest
      .ok ((key, thawed) :: others)

end

theorem thawAll_eq (items : List PyValue) : thawAll items = items.mapM thawJson := by
  induction items with
  | nil => rfl
  | cons item rest inductionHypothesis =>
      rw [List.mapM_cons, ← inductionHypothesis]
      rfl

theorem thawItems_eq (items : List (PyString × PyValue)) :
    thawItems items = items.mapM fun item => (thawJson item.2).map (item.1, ·) := by
  induction items with
  | nil => rfl
  | cons item rest inductionHypothesis =>
      rw [List.mapM_cons, ← inductionHypothesis]
      simp only [thawItems]
      cases thawJson item.2 <;> rfl

end Freeze

section Frozen

/-- What `freeze_json` returns: finite scalars, tuples and frozen mappings. -/
inductive Frozen : PyValue → Prop where
  | none : Frozen .none
  | bool (value : Bool) : Frozen (.bool value)
  | int (value : Int) : Frozen (.int value)
  | float {value : Binary64} (finite : value.isFinite = true) : Frozen (.float value)
  | str (value : PyString) : Frozen (.str value)
  | tuple {items : List PyValue} (frozen : ∀ item ∈ items, Frozen item) : Frozen (.tuple items)
  | frozenDict {items : List (PyString × PyValue)} (distinct : (items.map Prod.fst).Nodup)
      (frozen : ∀ item ∈ items, Frozen item.2) : Frozen (.frozenDict items)

theorem freezeAll_settled {items values : List PyValue}
    (settled : ∀ item ∈ items, ∀ {frozen}, freezeJson item = .ok frozen →
      freezeJson frozen = .ok frozen)
    (traversed : freezeAll items = .ok values) : freezeAll values = .ok values := by
  rw [freezeAll_eq] at traversed ⊢
  refine mapM_ok_self fun item member => ?_
  obtain ⟨origin, inItems, originFrozen⟩ := exists_of_mem_mapM traversed member
  exact settled origin inItems originFrozen

/-- Freezing a frozen object changes nothing. -/
theorem freezeJson_settled {value frozen : PyValue} (accepted : freezeJson value = .ok frozen) :
    freezeJson frozen = .ok frozen := by
  induction value using PyValue.induction generalizing frozen with
  | list items inductionHypothesis | tuple items inductionHypothesis =>
      obtain ⟨values, traversed, isFrozen⟩ := map_ok accepted
      have fixed := freezeAll_settled (fun item member _ => inductionHypothesis item member) traversed
      rw [← isFrozen, freezeJson, fixed]
      rfl
  | dict items =>
      obtain ⟨frozenItems, -, isFrozen⟩ := map_ok accepted
      rw [← isFrozen, freezeJson]
  | float value =>
      unfold freezeJson at accepted
      split at accepted
      · rename_i finite
        rw [← Except.ok.inj accepted, freezeJson, if_pos finite]
      · cases accepted
  | none | bool | int | str | frozenDict =>
      rw [← Except.ok.inj accepted]
      rfl
  | bytes | datetime | runtime | other => cases accepted

end Frozen

end WyrePlumber.Runtime
