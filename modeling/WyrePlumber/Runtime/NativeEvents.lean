import WyrePlumber.Runtime.DecodedSnapshot

/-!
# Native events

`runtime_event_from_payload` of `events.py`: the readers of the snapshot on one record,
without the rest of a payload.
-/

set_option autoImplicit false
set_option linter.constructorNameAsVariable false

namespace WyrePlumber.Runtime.Snapshot

open Python Spa

section Fields

def requiredEventFields : List PyString :=
  ["payload_version", "generation", "sequence", "occurred_at", "kind", "object_kind", "object_id",
    "current", "previous", "requires_resnapshot", "reason"].map text

/-- A version that equals 1 and is no Boolean. -/
def isEventVersion : SpaValue → Bool
  | .bool _ => false
  | version => equalsNumber 1 version

/-- The check of the version of an event; the refusal shows it by its `repr`. -/
def checkEventVersion (items : Record) : Except PyError Unit :=
  if isEventVersion (payloadField items "payload_version") then .ok ()
  else
    let version := rawValue (payloadField items "payload_version")
    .error (describing version (payloadError "unsupported_event_payload_version"
      (text "$.payload_version") [.text (text "expected 1, received "), .repr version]))

/-- A value as a member of an enumeration of strings. -/
def eventMember (Member : Type) [StringEnum Member] (value : SpaValue) : Except PyError Member :=
  match (string? value).bind StringEnum.ofText? with
  | some member => .ok member
  | none => .error (payloadError "invalid_event_kind" (text "$") [.repr (rawValue value),
      .text (text " is not a valid " ++ StringEnum.className Member)])

def eventReason (value : SpaValue) : Except PyError PyValue :=
  match value with
  | .none => .ok .none
  | .str reason => .ok (.str reason)
  | _ => .error (payloadError "invalid_event_reason" (text "$")
      (plain "reason must be a string or null"))

def eventResnapshot (value : SpaValue) : Except PyError Bool :=
  match value with
  | .bool flag => .ok flag
  | _ => .error (payloadError "invalid_resnapshot_flag" (text "$")
      (plain "requires_resnapshot must be a boolean"))

end Fields

section States

variable (cases : CaseTables)

def isObjectEvent (kind : RuntimeEventKind) : Bool :=
  kind ∈ [RuntimeEventKind.objectAdded, .objectRemoved, .objectChanged]

/-- The reader of the records of an object kind, where the event has one. -/
def stateReader (kind : RuntimeEventKind) (objectKind : RuntimeObjectKind) (generation : Int) :
    Option (SpaValue → Except PyError PyValue) :=
  match objectKind with
  | .device => if isObjectEvent kind then some (device [] [] 0) else none
  | .node => if isObjectEvent kind then some (node [] 0) else none
  | .port => if isObjectEvent kind then some (port 0) else none
  | .link => if isObjectEvent kind then some (link 0) else none
  | .metadata => if isObjectEvent kind then some (metadataOf 0) else none
  | .parameter => some (parameter cases 0)
  | .connection => some (health · generation)
  | _ => none

/-- A record that its reader refuses is kept as it is. -/
def keptState (value : SpaValue) : Except PyError PyValue → Except PyError PyValue
  | .error (.decodeError _ _ _) => normalizeSpaJson value
  | result => result

def eventState (kind : RuntimeEventKind) (objectKind : RuntimeObjectKind) (generation : Int)
    (value : SpaValue) : Except PyError PyValue :=
  match value with
  | .none => .ok .none
  | value => do
      let _ ← mapping value (text "$.event_state")
      match stateReader cases kind objectKind generation with
      | some read => keptState value (read value)
      | none => normalizeSpaJson value

theorem eventState_of_ne_none {kind : RuntimeEventKind} {objectKind : RuntimeObjectKind}
    {generation : Int} {value : SpaValue} (notNone : value ≠ .none) :
    eventState cases kind objectKind generation value = (do
      let _ ← mapping value (text "$.event_state")
      match stateReader cases kind objectKind generation with
      | some read => keptState value (read value)
      | none => normalizeSpaJson value) := by
  cases value with
  | none => exact absurd rfl notNone
  | _ => rfl

/-- What the last `try` of the decoder holds. -/
def eventValue (items : Record) (kind : RuntimeEventKind) (objectKind : RuntimeObjectKind)
    (generation sequence : Int) (reason : PyValue) (requiresResnapshot : Bool) :
    Except PyError PyValue := do
  let current ← eventState cases kind objectKind generation (payloadField items "current")
  let previous ← eventState cases kind objectKind generation (payloadField items "previous")
  construct .runtimeEvent [(.generation, .int generation), (.sequence, .int sequence),
    (.occurredAt, rawValue (payloadField items "occurred_at")), (.kind, .member kind),
    (.objectKind, .member objectKind), (.objectId, rawValue (payloadField items "object_id")),
    (.current, current), (.previous, previous), (.requiresResnapshot, .bool requiresResnapshot),
    (.reason, reason)]

def runtimeEventFromPayload (payload : SpaValue) : Except PyError PyValue := do
  let items ← payloadItems "invalid_event_payload" "event payload" requiredEventFields payload
  checkEventVersion items
  let kind ← eventMember RuntimeEventKind (payloadField items "kind")
  let objectKind ← eventMember RuntimeObjectKind (payloadField items "object_kind")
  let generation ← Runtime.identifier (text "generation")
    (rawValue (payloadField items "generation"))
  let sequence ← Runtime.identifier (text "sequence") (rawValue (payloadField items "sequence"))
  let reason ← eventReason (payloadField items "reason")
  let requiresResnapshot ← eventResnapshot (payloadField items "requires_resnapshot")
  wrapping "invalid_event" (text "$")
    (eventValue cases items kind objectKind generation sequence reason requiresResnapshot)

end States

end WyrePlumber.Runtime.Snapshot
