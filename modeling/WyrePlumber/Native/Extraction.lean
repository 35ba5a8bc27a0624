import WyrePlumber.Native.RuntimeEvents

/-!
# A state that cannot be copied

Which notifications invalidate the projection when the copy of their new state
fails.  Additions without a state are refused by `RuntimeEvent`, and a failed
copy of a parameter asks for a new snapshot; a change of an object or of the
metadata is delivered without its state and accepted.
-/

set_option autoImplicit false
set_option linter.constructorNameAsVariable false

namespace WyrePlumber.Native.Extraction

open Python Fallible
open WyrePlumber.Runtime
open WyrePlumber.Runtime.EventQueue (RuntimeEvent requireEventContinuity Continues
  requireEventContinuity_ok_iff)
open WyrePlumber.Native.RuntimeEvents

/-! ## Decoding -/

/-- What `state` and then `_contract_value` make of a record of the given kinds and
generation; `none` when they raise. -/
abbrev StateDecoder :=
  RuntimeEventKind → RuntimeObjectKind → Nat → PyValue → Option {value : PyValue // value ≠ .none}

section Decoding

variable (state : StateDecoder)

def decodeState (kind : RuntimeEventKind) (objectKind : RuntimeObjectKind) (generation : Nat) :
    PyValue → Option PyValue
  | .none => some .none
  | record => (state kind objectKind generation record).map Subtype.val

instance (value : PyValue) : Decidable (value = .none) :=
  match value with
  | .none => .isTrue rfl
  | .bool _ | .int _ | .float _ | .str _ | .bytes _ | .datetime _ | .list _ | .tuple _
  | .dict _ | .frozenDict _ | .runtime _ _ | .other _ _ => .isFalse (fun same => by cases same)

/-- The last checks of `RuntimeEvent.__post_init__`. -/
def postInit (payload : Payload) (occurredAt : PyString) (current previous : PyValue) :
    Option RuntimeEvent :=
  if resnapshotKind : payload.kind = .discontinuity ∨ payload.kind = .resnapshotRequired →
      payload.requiresResnapshot = true then
    if addedCurrent : payload.kind = .objectAdded → current ≠ .none then
      if removedPrevious : payload.kind = .objectRemoved → previous ≠ .none then
        some {
          generation := payload.generation, sequence := payload.sequence,
          occurredAt := occurredAt, kind := payload.kind, objectKind := payload.objectKind,
          objectId := payload.objectId, current := current, previous := previous,
          requiresResnapshot := payload.requiresResnapshot, reason := payload.reason,
          resnapshotKind := resnapshotKind, addedCurrent := addedCurrent,
          removedPrevious := removedPrevious }
      else none
    else none
  else none

/-- `runtime_event_from_payload`; `none` when it raises.  The fields of a native
payload are present and of their types. -/
def runtimeEventFromPayload (payload : Payload) : Option RuntimeEvent := do
  let decode := decodeState state payload.kind payload.objectKind payload.generation
  let current ← decode payload.current
  let previous ← decode payload.previous
  let occurredAt ← (timestamp (.str payload.occurredAt)).toOption
  let _ ← (identity (text "object_id") payload.objectId).toOption
  postInit payload occurredAt current previous

end Decoding

/-! ## The property -/

section Property

variable (state : StateDecoder)

/-- The event that a reader makes of what entered the queue. -/
def delivered (consumed : Consumed) : Option RuntimeEvent :=
  consumed.queued.bind (runtimeEventFromPayload state)

/-- The record that is made of an object where no allocation fails. -/
def fullRecord (conn : WPConnection) (object : NativeObject) : Option PyValue :=
  (on (copyObjectRecord conn object) []).1

end Property

/-! ## The condition -/

section Condition

variable (state : StateDecoder)

/-- `state` raises on a record of the payload. -/
def refuses (payload : Payload) (record : PyValue) : Prop :=
  record ≠ .none ∧ state payload.kind payload.objectKind payload.generation record = none

/-- The payload carries the mark, or a check of `RuntimeEvent` or of its decoders
refuses it. -/
def Unaccepted (payload : Payload) : Prop :=
  payload.requiresResnapshot = true ∨
    payload.kind = .discontinuity ∨ payload.kind = .resnapshotRequired ∨
    payload.kind = .objectAdded ∧ payload.current = .none ∨
    payload.kind = .objectRemoved ∧ payload.previous = .none ∨
    refuses state payload payload.current ∨ refuses state payload payload.previous

/-- `new_event` fails, the queue takes nothing, or what it takes, the event or as much
of the marker as is written over it, is not accepted. -/
def Stopped (conn : WPConnection) (now : Option Clock) (allocator : Allocator)
    (request : EventRequest) : Prop :=
  ∀ payload entered, (on (newEvent conn now request) allocator.event).1 = some payload →
    queued conn allocator.overflow payload = some entered → Unaccepted state entered

/-- The notifications that invalidate the projection when the copy fails.  An object
does where its record is the full one and its features are there, and a removed one
where there is a record; where `Py_NewRef` is given `NULL` there is no event.  A
parameter does unless it cannot be enumerated, a change of the metadata only if it is
copied.  All do when the event is stopped. -/
def Harmless (conn : WPConnection) (environment : Environment) : Notification → Prop
  | .object change object =>
      let record := (on (copyObjectRecord conn object) environment.allocator.1.state).1
      isSilent conn = true ∨
      record.isSome = true ∧
        (change = .removed ∨ object.hasFeatures = true ∧ record = fullRecord conn object) ∨
      ∀ id, objectIdOf object record environment.allocator.1.identity = some id →
        Stopped state conn environment.now.1 environment.allocator.1
          (objectRequest change object record id)
  | .parameter parameter =>
      let current := (on (copyParameter parameter) environment.allocator.1.state).1
      isSilent conn = true ∨ parameter.iterator.isSome = true ∨ current = none ∨
      Stopped state conn environment.now.1 environment.allocator.1
        (parameterRequest parameter (orNone current) environment.allocator.1.identity)
  | .metadata change rawPrefix =>
      let copied (allocator : Allocator) := (on (copyMetadataChange change) allocator.state).1
      let request (kind : RuntimeEventKind) (objectKind : RuntimeObjectKind) (identity : Text)
        (allocator : Allocator) :=
          metadataRequest kind objectKind identity (copied allocator) allocator.identity
      let first := request .metadataChanged .metadata (metadataIdentity change)
        environment.allocator.1
      let second := request .defaultChanged .defaults (keyOrEmpty change.key)
        environment.allocator.2
      isSilent conn = true ∨
      ((copied environment.allocator.1).isSome = true ∨
        Stopped state conn environment.now.1 environment.allocator.1 first) ∧
      (hasDefaultPrefix change.key rawPrefix = false ∨
        (copied environment.allocator.2).isSome = true ∨
        Stopped state (publishMetadataEvent conn environment.now.1 environment.allocator.1 change
            .metadataChanged .metadata (metadataIdentity change)).1
          environment.now.2 environment.allocator.2 second)

end Condition

/-! ## One event -/

section Overflow

variable {payload : Payload} {capacity : Nat} {overflow : Heap}

theorem overwrite_cases {α : Type} (old new : α) (write : Copy Dict) (heap : Heap) :
    (overwrite old new write heap).1 = old ∨ (overwrite old new write heap).1 = new := by
  unfold overwrite
  split
  · exact .inr rfl
  · exact .inl rfl

end Overflow

section Payloads

variable {state : StateDecoder} {payload : Payload}

end Payloads

section Publication

variable {state : StateDecoder} {conn : WPConnection} {now : Option Clock}
  {allocator : Allocator} {extracted : Option PyValue} {request : EventRequest}

/-- What enters the queue is the event, or the event with fields of the marker. -/
theorem queued_cases {overflow : Heap} {payload entered : Payload}
    (enters : queued conn overflow payload = some entered) : entered = payload ∨
      entered = (makeDiscontinuity payload conn.runtimeEventCapacity overflow).1 := by
  unfold queued at enters
  split at enters
  · cases enters
  · split at enters
    · exact .inr (Option.some.inj enters).symm
    · exact .inl (Option.some.inj enters).symm

theorem queued_kind {overflow : Heap} {payload entered : Payload}
    (enters : queued conn overflow payload = some entered) :
    entered.kind = payload.kind ∨ entered.kind = .discontinuity := by
  rcases queued_cases enters with rfl | rfl
  · exact .inl rfl
  · exact overwrite_cases _ _ _ _

/-- A state that is missing stays missing. -/
theorem queued_states {overflow : Heap} {payload entered : Payload}
    (enters : queued conn overflow payload = some entered) :
    (payload.current = .none → entered.current = .none) ∧
      (payload.previous = .none → entered.previous = .none) := by
  have kept : ∀ {old : PyValue} {write : Copy Dict} {heap : Heap}, old = .none →
      (overwrite old .none write heap).1 = .none := by
    intro old write heap absent
    rcases overwrite_cases old .none write heap with same | written
    · exact same.trans absent
    · exact written
  rcases queued_cases enters with rfl | rfl
  · exact ⟨id, id⟩
  · exact ⟨fun absent => kept absent, fun absent => kept absent⟩

end Publication

/-! ## The requests of the callbacks -/

section Records

variable {boundId : Nat} {conn : WPConnection} {dict : Dict} {key : String}

/-- The record holds the id of its object. -/
def HasId (boundId : Nat) (record : Dict) : Prop :=
  record.lookup (text "id") = some (.int boundId)

theorem lookup_setItem_other {name other : PyString} (differs : name ≠ other) (value : PyValue)
    (dict : Dict) : (setItem name value dict).lookup other = dict.lookup other := by
  induction dict with
  | nil =>
      have unequal : (other == name) = false := by simpa using fun same => differs same.symm
      rw [setItem, List.lookup_cons, unequal]
  | cons entry rest inductionHypothesis =>
      obtain ⟨present, kept⟩ := entry
      rw [setItem]
      by_cases same : present = name
      · have unequal : (other == name) = false := by simpa using fun same => differs same.symm
        rw [if_pos same, List.lookup_cons, List.lookup_cons, same, unequal]
      · rw [if_neg same, List.lookup_cons, List.lookup_cons, inductionHypothesis]

/-- `set_owned` stores a value that was made. -/
theorem setOwned_yields {value : Copy PyValue} {holds : PyValue → Prop}
    (made : Yields value holds) : Yields (setOwned dict key value) fun extended =>
      ∃ stored, holds stored ∧ extended = setItem (text key) stored dict := by
  refine made.bind fun stored held => ?_
  have named : Yields (unicodeFromString (some (text key))) fun name => some (text key) = some name :=
    yields_after fun _ => yields_owned _
  refine named.bind ?_
  rintro _ ⟨⟩
  exact yields_after fun _ => yields_pure ⟨stored, held, rfl⟩

theorem HasId.setItem {name : PyString} {value : PyValue} (hasId : HasId boundId dict)
    (other : name ≠ text "id") : HasId boundId (setItem name value dict) :=
  (lookup_setItem_other other value dict).trans hasId

theorem HasId.setOwned {value : Copy PyValue} (hasId : HasId boundId dict)
    (other : text key ≠ text "id") : Yields (setOwned dict key value) (HasId boundId) := by
  have stored : Yields (RuntimeEvents.setOwned dict key value) fun extended =>
      ∃ stored, True ∧ extended = RuntimeEvents.setItem (text key) stored dict :=
    setOwned_yields fun _ _ _ => trivial
  intro heap extended made
  obtain ⟨value, -, rfl⟩ := stored heap extended made
  exact hasId.setItem other

end Records

/-- An addition or a removal without a record is stopped, whatever is written over it. -/
theorem stopped_of_missing {state : StateDecoder} {conn : WPConnection} {now : Option Clock}
    {allocator : Allocator} {change : ObjectChange} {object : NativeObject}
    {id : Option PyValue} (notChanged : change ≠ .changed) :
    Stopped state conn now allocator (objectRequest change object none id) := by
  intro payload entered made enters
  obtain ⟨clock, objectId, -, rfl⟩ := newEvent_payload made
  have kinds := queued_kind enters
  have states := queued_states enters
  cases change with
  | added =>
      rcases kinds with isAdded | isGap
      · exact .inr (.inr (.inr (.inl ⟨isAdded, states.1 rfl⟩)))
      · exact .inr (.inl isGap)
  | removed =>
      rcases kinds with isRemoved | isGap
      · exact .inr (.inr (.inr (.inr (.inl ⟨isRemoved, states.2 rfl⟩))))
      · exact .inr (.inl isGap)
  | changed => exact absurd rfl notChanged

/-! ## Which copies fail

Where no allocation fails, a copy fails exactly when a text of it is not UTF-8.
-/

section Texts

theorem unicodeFromString_succeeds (string : Text) :
    Succeeds (unicodeFromString string) string.isSome :=
  succeeds_allocate.after fun _ => succeeds_owned string

theorem dictSetItemString_succeeds (dict : Dict) (key : Text) (value : PyValue) :
    Succeeds (dictSetItemString dict key value) key.isSome :=
  (unicodeFromString_succeeds key).before fun _ =>
    succeeds_allocate.after fun _ => succeeds_pure _

theorem setOwned_succeeds (dict : Dict) (key : String) {value : Copy PyValue} {ok : Bool}
    (made : Succeeds value ok) : Succeeds (setOwned dict key value) ok :=
  made.before fun _ => dictSetItemString_succeeds dict _ _

theorem longFrom_succeeds (number : Int) : Succeeds (longFrom number) true :=
  succeeds_allocate.after fun _ => succeeds_pure _

theorem floatFrom_succeeds (number : Binary64) : Succeeds (floatFrom number) true :=
  succeeds_allocate.after fun _ => succeeds_pure _

theorem strFrom_succeeds (string : Text) : Succeeds (strFrom string) string.isSome :=
  (unicodeFromString_succeeds string).before fun _ => succeeds_pure _

theorem optionalStr_succeeds (string : Option Text) :
    Succeeds (optionalStr string) (string.all Option.isSome) := by
  cases string with
  | none => exact succeeds_pure _
  | some string => exact strFrom_succeeds string

theorem append_succeeds (items : List PyValue) (item : PyValue) :
    Succeeds (append items item) true :=
  succeeds_allocate.after fun _ => succeeds_pure _

/-- Keys and values of the properties. -/
def propertiesUtf8 (properties : Option ManagedLinks.WpProperties) : Bool :=
  (properties.getD []).all fun item => item.2.isSome && item.1.isSome

theorem copyProperties_succeeds (properties : Option ManagedLinks.WpProperties) :
    Succeeds (copyProperties properties) (propertiesUtf8 properties) := by
  have items : ∀ (rest : ManagedLinks.WpProperties) (dict : Dict), Succeeds (copyItems rest dict)
      (rest.all fun item => item.2.isSome && item.1.isSome) := by
    intro rest
    induction rest with
    | nil => exact fun dict => succeeds_pure dict
    | cons item rest inductionHypothesis =>
        intro dict
        obtain ⟨key, value⟩ := item
        rw [List.all_cons, Bool.and_assoc]
        refine (unicodeFromString_succeeds value).bind fun copied => ?_
        exact (dictSetItemString_succeeds dict key _).bind fun extended =>
          inductionHypothesis extended
  exact succeeds_allocate.after fun _ => (items _ _).before fun _ => succeeds_pure _

def parameterIdsUtf8 (info : Option (List (Text × Text))) : Bool :=
  ((info.getD []).map Prod.fst).all Option.isSome

theorem copyParameterIds_succeeds (info : Option (List (Text × Text))) :
    Succeeds (copyParameterIds info) (parameterIdsUtf8 info) := by
  have names : ∀ (rest : List Text) (copied : List PyValue),
      Succeeds (copyNames rest copied) (rest.all Option.isSome) := by
    intro rest
    induction rest with
    | nil => exact fun copied => succeeds_pure copied
    | cons name rest inductionHypothesis =>
        intro copied
        refine (strFrom_succeeds name).bind fun value => ?_
        exact (append_succeeds copied value).after fun extended => inductionHypothesis extended
  exact succeeds_allocate.after fun _ => (names _ _).before fun _ => succeeds_pure _

def itemUtf8 (item : MetadataItem) : Bool :=
  (keyOrEmpty item.key).isSome && (item.type.all Option.isSome && item.value.all Option.isSome)

def entriesUtf8 (iterator : Option (List (Option MetadataItem))) : Bool :=
  (iterator.getD []).all fun item => item.all itemUtf8

theorem copyEntries_succeeds (items : List (Option MetadataItem)) (copied : List PyValue) :
    Succeeds (copyEntries items copied) (items.all fun item => item.all itemUtf8) := by
  induction items generalizing copied with
  | nil => exact succeeds_pure copied
  | cons item rest inductionHypothesis =>
      cases item with
      | none => exact inductionHypothesis copied
      | some item =>
          have entry : Succeeds (buildValue
              [("subject", longFrom item.subject), ("key", strFrom (keyOrEmpty item.key)),
                ("type", optionalStr item.type), ("value", optionalStr item.value)] [])
              (itemUtf8 item) := by
            refine (setOwned_succeeds _ _ (longFrom_succeeds _)).after fun _ => ?_
            refine (setOwned_succeeds _ _ (strFrom_succeeds _)).bind fun _ => ?_
            refine (setOwned_succeeds _ _ (optionalStr_succeeds _)).bind fun _ => ?_
            exact (setOwned_succeeds _ _ (optionalStr_succeeds _)).before fun _ =>
              succeeds_pure _
          refine succeeds_allocate.after fun _ => entry.bind fun record => ?_
          exact (append_succeeds copied _).after fun extended => inductionHypothesis extended

theorem setOptionalFloat_succeeds (dict : Dict) (key : String) (number : Option Binary64) :
    Succeeds (setOptionalFloat dict key number) true := by
  cases number with
  | none => exact succeeds_pure _
  | some number => exact setOwned_succeeds _ _ (floatFrom_succeeds _)

theorem copyMixerState_succeeds (mixer : Option MixerState) :
    Succeeds (copyMixerState mixer) true := by
  cases mixer with
  | none => exact succeeds_pure _
  | some mixer =>
      refine succeeds_allocate.after fun _ => ?_
      refine (setOwned_succeeds _ _ (floatFrom_succeeds _)).after fun _ => ?_
      refine (setOwned_succeeds _ _ (succeeds_pure _)).after fun _ => ?_
      refine (setOptionalFloat_succeeds _ _ _).after fun _ => ?_
      exact (setOptionalFloat_succeeds _ _ _).after fun _ => succeeds_pure _

def pipewireUtf8 (object : PipewireObject) : Bool :=
  propertiesUtf8 object.properties && parameterIdsUtf8 object.paramInfo

theorem copyCommon_succeeds (object : PipewireObject) :
    Succeeds (copyObjectRecord.copyCommon object) (pipewireUtf8 object) := by
  refine succeeds_allocate.after fun _ => ?_
  refine (setOwned_succeeds _ _ (longFrom_succeeds _)).after fun _ => ?_
  refine (setOwned_succeeds _ _ (copyProperties_succeeds _)).bind fun _ => ?_
  exact setOwned_succeeds _ _ (copyParameterIds_succeeds _)

theorem dictGetItemString_succeeds (dict : Dict) (key : String) :
    Succeeds (dictGetItemString dict key) (dict.lookup (text key)).isSome :=
  succeeds_allocate.after fun _ => succeeds_owned _

theorem setManagedIdentity_succeeds (conn : WPConnection) (endpoints : ManagedLinks.Endpoints)
    (properties : Option PyValue) (record : Dict) :
    Succeeds (setManagedIdentity conn endpoints properties record) true := by
  unfold setManagedIdentity
  split
  · refine (setOwned_succeeds _ _ (strFrom_succeeds _)).after fun _ => ?_
    exact (setOwned_succeeds _ _ (strFrom_succeeds _)).after fun _ => succeeds_pure _
  · exact succeeds_pure _

def objectUtf8 : NativeObject → Bool
  | .device object | .port object _ => pipewireUtf8 object
  | .node object _ error _ | .link object _ _ error =>
      pipewireUtf8 object && error.all Option.isSome
  | .metadata _ properties name iterator =>
      name.all Option.isSome && (propertiesUtf8 properties && entriesUtf8 iterator)

theorem copyObjectRecord_succeeds (conn : WPConnection) (object : NativeObject) :
    Succeeds (copyObjectRecord conn object) (objectUtf8 object) := by
  cases object with
  | metadata boundId properties name iterator =>
      refine succeeds_allocate.after fun _ => succeeds_allocate.after fun _ => ?_
      refine (setOwned_succeeds _ _ (longFrom_succeeds _)).after fun _ => ?_
      refine (setOwned_succeeds _ _ (optionalStr_succeeds _)).bind fun _ => ?_
      refine (setOwned_succeeds _ _ (copyProperties_succeeds _)).bind fun _ => ?_
      refine (copyEntries_succeeds _ _).before fun _ => ?_
      exact (setOwned_succeeds _ _ (succeeds_pure _)).after fun _ => succeeds_pure _
  | device object => exact (copyCommon_succeeds object).before fun _ => succeeds_pure _
  | node object state error mixer =>
      refine (copyCommon_succeeds object).bind fun _ => ?_
      refine (setOwned_succeeds _ _ (copyMixerState_succeeds _)).after fun _ => ?_
      refine (setOwned_succeeds _ _ (longFrom_succeeds _)).after fun _ => ?_
      exact (setOwned_succeeds _ _ (optionalStr_succeeds _)).before fun _ => succeeds_pure _
  | port object direction =>
      refine (copyCommon_succeeds object).before fun _ => ?_
      exact (setOwned_succeeds _ _ (longFrom_succeeds _)).after fun _ => succeeds_pure _
  | link object endpoints state error =>
      refine (copyCommon_succeeds object).bind fun _ => ?_
      refine (dictGetItemString_succeeds _ _).attempt.after fun properties => ?_
      refine (setManagedIdentity_succeeds conn endpoints properties _).after fun _ => ?_
      refine (setOwned_succeeds _ _ (longFrom_succeeds _)).after fun _ => ?_
      refine (setOwned_succeeds _ _ (longFrom_succeeds _)).after fun _ => ?_
      refine (setOwned_succeeds _ _ (longFrom_succeeds _)).after fun _ => ?_
      refine (setOwned_succeeds _ _ (longFrom_succeeds _)).after fun _ => ?_
      refine (setOwned_succeeds _ _ (longFrom_succeeds _)).after fun _ => ?_
      exact (setOwned_succeeds _ _ (optionalStr_succeeds _)).before fun _ => succeeds_pure _

theorem copyParameterIds_determined (info : Option (List (Text × Text))) :
    Determined (copyParameterIds info) := by
  have names : ∀ (rest : List Text) (copied : List PyValue), Determined (copyNames rest copied) := by
    intro rest
    induction rest with
    | nil => exact fun copied => determined_pure copied
    | cons name rest inductionHypothesis =>
        intro copied
        refine (strFrom_determined name).bind fun value => ?_
        exact (append_determined copied value).bind fun extended => inductionHypothesis extended
  exact determined_allocate.bind fun _ => (names _ _).bind fun _ => determined_pure _

theorem copyEntries_determined (items : List (Option MetadataItem)) (copied : List PyValue) :
    Determined (copyEntries items copied) := by
  induction items generalizing copied with
  | nil => exact determined_pure copied
  | cons item rest inductionHypothesis =>
      cases item with
      | none => exact inductionHypothesis copied
      | some item =>
          refine determined_allocate.bind fun _ => (buildValue_determined _ _ ?_).bind fun _ => ?_
          · simp only [List.mem_cons, List.not_mem_nil, or_false, forall_eq_or_imp, forall_eq]
            exact ⟨longFrom_determined _, strFrom_determined _, optionalStr_determined _,
              optionalStr_determined _⟩
          · exact (append_determined copied _).bind fun extended => inductionHypothesis extended

theorem copyCommon_determined (object : PipewireObject) :
    Determined (copyObjectRecord.copyCommon object) := by
  refine determined_allocate.bind fun _ => ?_
  refine (setOwned_determined _ _ (longFrom_determined _)).bind fun _ => ?_
  refine (setOwned_determined _ _ (copyProperties_determined _)).bind fun _ => ?_
  exact setOwned_determined _ _ (copyParameterIds_determined _)

/-- Not a link that the ledger has an entry for. -/
def Unmanaged (conn : WPConnection) : NativeObject → Prop
  | .link _ endpoints _ _ => managedLinkLookupEndpoints conn endpoints = none
  | _ => True

/-- Only the markers of a managed link can be missing from a record that is made. -/
theorem copyObjectRecord_determined {conn : WPConnection} {object : NativeObject}
    (unmanaged : Unmanaged conn object) : Determined (copyObjectRecord conn object) := by
  cases object with
  | metadata boundId properties name iterator =>
      refine determined_allocate.bind fun _ => determined_allocate.bind fun _ => ?_
      refine (setOwned_determined _ _ (longFrom_determined _)).bind fun _ => ?_
      refine (setOwned_determined _ _ (optionalStr_determined _)).bind fun _ => ?_
      refine (setOwned_determined _ _ (copyProperties_determined _)).bind fun _ => ?_
      refine (copyEntries_determined _ _).bind fun _ => ?_
      exact (setOwned_determined _ _ (determined_pure _)).bind fun _ => determined_pure _
  | device object => exact (copyCommon_determined object).bind fun _ => determined_pure _
  | node object state error mixer =>
      refine (copyCommon_determined object).bind fun _ => ?_
      refine (setOwned_determined _ _ (copyMixerState_determined _)).bind fun _ => ?_
      refine (setOwned_determined _ _ (longFrom_determined _)).bind fun _ => ?_
      exact (setOwned_determined _ _ (optionalStr_determined _)).bind fun _ => determined_pure _
  | port object direction =>
      refine (copyCommon_determined object).bind fun _ => ?_
      exact (setOwned_determined _ _ (longFrom_determined _)).bind fun _ => determined_pure _
  | link object endpoints state error =>
      have unknown : managedLinkLookupEndpoints conn endpoints = none := unmanaged
      refine (copyCommon_determined object).bind fun record => ?_
      have ignores : ∀ properties,
          setManagedIdentity conn endpoints properties record = pure record := by
        intro properties
        simp only [setManagedIdentity, unknown]
      refine determined_attempt (dictGetItemString_succeeds record "properties") ignores ?_
      refine (setOwned_determined _ _ (longFrom_determined _)).bind fun _ => ?_
      refine (setOwned_determined _ _ (longFrom_determined _)).bind fun _ => ?_
      refine (setOwned_determined _ _ (longFrom_determined _)).bind fun _ => ?_
      refine (setOwned_determined _ _ (longFrom_determined _)).bind fun _ => ?_
      refine (setOwned_determined _ _ (longFrom_determined _)).bind fun _ => ?_
      exact (setOwned_determined _ _ (optionalStr_determined _)).bind fun _ => determined_pure _

theorem record_full {conn : WPConnection} {object : NativeObject} {heap : Heap} {record : PyValue}
    (unmanaged : Unmanaged conn object)
    (copied : (on (copyObjectRecord conn object) heap).1 = some record) :
    fullRecord conn object = some record := by
  rw [fullRecord, copyObjectRecord_determined unmanaged heap record copied]

/-- The key of the lookup is the eleventh allocation; without it the link is shown as
nobody's. -/
example :
    let conn : WPConnection :=
      { started := true, stopRequested := false, generation := 1, sequence := 4,
        managedLinks := [⟨text "a", text "b", 0, ⟨1, 11, 2, 12⟩, ⟨text "a", text "b"⟩⟩],
        runtimeEvents := [], runtimeEventCapacity := 8, runtimeEventInvalid := false,
        runtimeEventClosed := false }
    let object : NativeObject := .link ⟨30, some [], none⟩ ⟨1, 11, 2, 12⟩ 4 none
    (on (copyObjectRecord conn object) (List.replicate 10 true ++ [false])).1.bind
      (fun record => (recordItems record).lookup (text "properties")) = some (.dict []) := by
  rfl

theorem copyMetadataChange_succeeds (change : MetadataChange) :
    Succeeds (copyMetadataChange change) ((keyOrEmpty change.key).isSome &&
      (change.type.all Option.isSome && change.value.all Option.isSome)) := by
  refine succeeds_allocate.after fun _ => ?_
  refine Succeeds.before ?_ fun _ => succeeds_pure _
  refine (setOwned_succeeds _ _ (longFrom_succeeds _)).after fun _ => ?_
  refine (setOwned_succeeds _ _ (longFrom_succeeds _)).after fun _ => ?_
  refine (setOwned_succeeds _ _ (strFrom_succeeds _)).bind fun _ => ?_
  refine (setOwned_succeeds _ _ (optionalStr_succeeds _)).bind fun _ => ?_
  exact (setOwned_succeeds _ _ (optionalStr_succeeds _)).before fun _ => succeeds_pure _

end Texts

/-! ## The notifications -/

section Notifications

variable {state : StateDecoder} {conn : WPConnection} {environment : Environment}

/-- A removal does no harm, nor does an addition without a record. -/
theorem harmless_of_refused {change : ObjectChange} {object : NativeObject}
    (refused : change = .removed ∨ change = .added ∧
      (on (copyObjectRecord conn object) environment.allocator.1.state).1 = none) :
    Harmless state conn environment (.object change object) := by
  unfold Harmless
  dsimp only
  generalize (on (copyObjectRecord conn object) environment.allocator.1.state).1 = record at refused ⊢
  have notChanged : change ≠ .changed := by
    rcases refused with rfl | ⟨rfl, -⟩ <;> decide
  cases record with
  | none =>
      have stopped : ∀ id, Stopped state conn environment.now.1 environment.allocator.1
        (objectRequest change object none id) := fun id => stopped_of_missing notChanged
      exact Or.inr (Or.inr fun id _ => stopped id)
  | some value =>
      rcases refused with isRemoved | ⟨-, missing⟩
      · exact Or.inr (Or.inl ⟨rfl, Or.inl isRemoved⟩)
      · cases missing

end Notifications

end WyrePlumber.Native.Extraction
