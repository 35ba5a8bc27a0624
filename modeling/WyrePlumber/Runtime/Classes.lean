import Mathlib.Data.List.Nodup
import WyrePlumber.Runtime.Relationships

/-!
# Constructors of the runtime values

The table of the registered classes, and the constructor that binds the
arguments to the fields and runs the body of the class.
-/

set_option autoImplicit false
set_option linter.constructorNameAsVariable false

namespace WyrePlumber.Runtime

open Python RecordValidation Results

/-- A dataclass field with its default. -/
structure FieldSpec where
  name : FieldName
  default : Option PyValue

def required (name : FieldName) : FieldSpec := ⟨name, none⟩

def withDefault (name : FieldName) (value : PyValue) : FieldSpec := ⟨name, some value⟩

def noneDefault (name : FieldName) : FieldSpec := withDefault name .none

def emptyTuple (name : FieldName) : FieldSpec := withDefault name (.tuple [])

def emptyMapping (name : FieldName) : FieldSpec := withDefault name (.frozenDict [])

/-- `DefaultsValue()`. -/
def emptyDefaults : PyValue :=
  .runtime .defaults [(.metadataId, .none), (.audioSink, .none), (.audioSource, .none),
    (.videoSource, .none), (.extra, .frozenDict [])]

/-- The serialized fields of every class, in order. -/
def fieldSpecs : ValueType → List FieldSpec
  | .spaId => [required .spaNamespace, required .id, noneDefault .name]
  | .spaChoice =>
      [required .kind, noneDefault .default, noneDefault .minimum, noneDefault .maximum,
        noneDefault .step, emptyTuple .alternatives, withDefault .flags (.int 0),
        emptyMapping .extra]
  | .audioProperties =>
      [noneDefault .volume, noneDefault .mute, emptyTuple .channelVolumes,
        emptyTuple .channelPositions, noneDefault .monitorMute, emptyTuple .monitorVolumes,
        noneDefault .softMute, emptyTuple .softVolumes, emptyMapping .extra]
  | .audioFormat =>
      [noneDefault .mediaType, noneDefault .mediaSubtype, noneDefault .sampleFormat,
        noneDefault .rate, noneDefault .channels, emptyTuple .positions,
        noneDefault .iec958Codec, emptyMapping .extra]
  | .connectionHealth =>
      [required .state, required .generation, noneDefault .reason, emptyMapping .details]
  | .device =>
      [required .id, noneDefault .name, noneDefault .description, noneDefault .mediaClass,
        emptyMapping .properties, emptyTuple .parameterIds, emptyTuple .profileIds,
        emptyTuple .routeIds]
  | .node =>
      [required .id, noneDefault .deviceId, noneDefault .name, noneDefault .description,
        noneDefault .mediaClass, withDefault .state (.member NodeState.unknown),
        noneDefault .error, emptyTuple .inputPortIds, emptyTuple .outputPortIds,
        emptyMapping .properties, emptyTuple .parameterIds]
  | .port =>
      [required .id, required .nodeId, required .direction, noneDefault .name,
        noneDefault .channel, emptyMapping .properties, emptyTuple .parameterIds]
  | .link =>
      [required .id, required .outputNodeId, required .outputPortId, required .inputNodeId,
        required .inputPortId, noneDefault .state, noneDefault .owner, noneDefault .desiredId,
        emptyMapping .properties]
  | .metadataEntry => [required .subject, required .key, required .typeName, required .value]
  | .metadata =>
      [required .id, noneDefault .name, emptyMapping .properties, emptyTuple .entries]
  | .parameter =>
      [required .ownerType, required .ownerId, required .id, required .permissions,
        emptyTuple .values, emptyMapping .properties]
  | .profile =>
      [required .deviceId, required .index, required .name, noneDefault .description,
        withDefault .priority (.int 0), withDefault .available (.member Availability.unknown),
        withDefault .active (.bool false), emptyTuple .classes, emptyMapping .properties]
  | .route =>
      [required .deviceId, required .index, required .direction, required .name,
        noneDefault .description, withDefault .priority (.int 0),
        withDefault .available (.member Availability.unknown),
        withDefault .active (.bool false), emptyTuple .profileIds, noneDefault .volume,
        noneDefault .mute, emptyTuple .channelVolumes, emptyTuple .channelPositions,
        emptyMapping .properties]
  | .defaultTarget =>
      [required .mediaClass, noneDefault .configuredName, noneDefault .resolvedNodeId]
  | .defaults =>
      [noneDefault .metadataId, noneDefault .audioSink, noneDefault .audioSource,
        noneDefault .videoSource, emptyMapping .extra]
  | .unresolvedRelationship => unresolvedNames.map required
  | .runtimeSnapshot =>
      [required .generation, required .sequence, required .capturedAt, required .health,
        emptyTuple .devices, emptyTuple .nodes, emptyTuple .ports, emptyTuple .links,
        emptyTuple .metadata, emptyTuple .parameters, emptyTuple .profiles,
        emptyTuple .routes, withDefault .defaults emptyDefaults,
        emptyTuple .unresolvedRelationships]
  | .runtimeEvent =>
      [required .generation, required .sequence, required .occurredAt, required .kind,
        required .objectKind, required .objectId, noneDefault .current, noneDefault .previous,
        withDefault .requiresResnapshot (.bool false), noneDefault .reason]
  | .mutationTarget => [required .objectKind, required .objectId, emptyMapping .selector]
  | .confirmationPredicate =>
      [required .target, required .operator, emptyTuple .path, noneDefault .expected,
        noneDefault .tolerance]
  | .mutationRequest =>
      [required .requestId, required .expectedGeneration, required .operation,
        required .target, required .requestedAt, required .deadlineAt,
        noneDefault .expectedSequence, emptyMapping .payload,
        emptyTuple .confirmationPredicates]
  | .mutationFailure =>
      [required .phase, required .code, required .message,
        withDefault .retryable (.bool false), emptyMapping .details]
  | .mutationConfirmation =>
      [required .generation, required .sequence, required .observedAt, required .predicate,
        required .observation]
  | .mutationOutcome =>
      [required .requestId, required .generation, required .operation, required .status,
        required .completedAt, emptyTuple .confirmations, noneDefault .failure]
  | .mutationDispatchTicket =>
      [required .requestId, required .operation, required .dispatchOrder,
        required .disposition, required .expectedGeneration, required .observedGeneration,
        required .observedSequence, noneDefault .expectedSequence, noneDefault .failureCode]

def fieldNames (type : ValueType) : List FieldName := (fieldSpecs type).map FieldSpec.name

/-- A step of a constructor: the check of a field, a rule between fields, or one
of the two computed fields. -/
inductive Check where
  | field (name : FieldName) (kind : FieldKind)
  | rule1 (first : FieldName) (check : PyValue → Except PyError Unit)
  | rule2 (first second : FieldName) (check : PyValue → PyValue → Except PyError Unit)
  | rule3 (first second third : FieldName)
      (check : PyValue → PyValue → PyValue → Except PyError Unit)
  | tolerance
  | relationships

def Check.step : Check → ClassStep
  | field name kind => fieldStep name kind
  | rule1 first check => rule1Step first check
  | rule2 first second check => rule2Step first second check
  | rule3 first second third check => rule3Step first second third check
  | tolerance => toleranceStep
  | relationships => relationshipsStep

def eachField (names : List FieldName) (kind : FieldKind) : List Check :=
  names.map (Check.field · kind)

def enumField (name : FieldName) (Member : Type) [StringEnum Member]
    (problem : PyValue → Message) : Check :=
  .field name (.enumeration (StringEnum.texts Member) problem)

def classification (kind : String) (Member : Type) [StringEnum Member] (value : PyValue) :
    Message :=
  invalidMember Member (plain ("invalid mutation " ++ kind ++ " classification: ")) value

/-- `__post_init__` of every class. -/
def checks : ValueType → List Check
  | .spaId =>
      [.field .spaNamespace (.requiredString false), .field .id .identifier,
        .field .name .optionalString]
  | .spaChoice =>
      [.field .kind (.requiredString false)] ++
      eachField [.default, .minimum, .maximum, .step] .contractValue ++
      [.field .alternatives .contractValues, .field .flags .identifier, .field .extra .mapping]
  | .audioProperties =>
      [.field .volume .optionalFloat, .field .mute .optionalBoolean,
        .field .channelVolumes .floats, .field .channelPositions (.runtimeValues .spaId),
        .field .monitorMute .optionalBoolean, .field .monitorVolumes .floats,
        .field .softMute .optionalBoolean, .field .softVolumes .floats, .field .extra .mapping]
  | .audioFormat =>
      eachField [.mediaType, .mediaSubtype, .sampleFormat, .iec958Codec] .spaValue ++
      eachField [.rate, .channels] .identifierOrChoice ++
      [.field .positions (.runtimeValues .spaId), .field .extra .mapping]
  | .connectionHealth =>
      [enumField .state ConnectionState (invalidValue "state"), .field .generation .identifier,
        .field .reason .optionalString, .field .details .mapping]
  | .device =>
      [.field .id .identifier] ++
      eachField [.name, .description, .mediaClass] .optionalString ++
      [.field .properties .mapping, .field .parameterIds .strings,
        .field .profileIds .identifiers, .field .routeIds .identifiers]
  | .node =>
      [.field .id .identifier, .field .deviceId .optionalIdentifier] ++
      eachField [.name, .description, .mediaClass, .error] .optionalString ++
      [enumField .state NodeState (invalidValue "state"), .field .inputPortIds .identifiers,
        .field .outputPortIds .identifiers, .field .properties .mapping,
        .field .parameterIds .strings]
  | .port =>
      [.field .id .identifier, .field .nodeId .identifier,
        enumField .direction PortDirection (invalidValue "direction")] ++
      eachField [.name, .channel] .optionalString ++
      [.field .properties .mapping, .field .parameterIds .strings]
  | .link =>
      eachField [.id, .outputNodeId, .outputPortId, .inputNodeId, .inputPortId] .identifier ++
      eachField [.state, .owner, .desiredId] .optionalString ++
      [.field .properties .mapping]
  | .metadataEntry =>
      [.field .subject .identifier, .field .key (.requiredString false),
        .field .typeName .optionalString, .field .value .optionalString]
  | .metadata =>
      [.field .id .identifier, .field .name .optionalString, .field .properties .mapping,
        .field .entries (.runtimeValues .metadataEntry)]
  | .parameter =>
      [.field .ownerType (.requiredString false), .field .ownerId .identifier,
        .field .id (.requiredString false), .field .permissions (.requiredString true),
        .field .values .contractValues, .field .properties .mapping]
  | .profile =>
      [.field .deviceId .identifier, .field .index .identifier,
        .field .name (.requiredString false), .field .description .optionalString,
        .field .priority .integer, enumField .available Availability (invalidValue "available"),
        .field .active .boolean, .field .classes .strings, .field .properties .mapping]
  | .route =>
      [.field .deviceId .identifier, .field .index .identifier,
        enumField .direction PortDirection (invalidValue "direction"),
        .field .name (.requiredString false), .field .description .optionalString,
        .field .priority .integer, enumField .available Availability (invalidValue "available"),
        .field .active .boolean, .field .profileIds .identifiers, .field .volume .optionalFloat,
        .field .mute .optionalBoolean, .field .channelVolumes .floats,
        .field .channelPositions (.runtimeValues .spaId), .field .properties .mapping]
  | .defaultTarget =>
      [.field .mediaClass (.requiredString false), .field .configuredName .optionalString,
        .field .resolvedNodeId .optionalIdentifier]
  | .defaults =>
      [.field .metadataId .optionalIdentifier] ++
      eachField [.audioSink, .audioSource, .videoSource] (.optionalRuntimeValue .defaultTarget) ++
      [.field .extra .mapping]
  | .unresolvedRelationship =>
      [.field .sourceType (.requiredString false), .field .sourceId .identity,
        .field .relation (.requiredString false), .field .targetType (.requiredString false),
        .field .targetId .identity, .field .reason (.requiredString false)]
  | .runtimeSnapshot =>
      [.field .generation .identifier, .field .sequence .identifier, .field .capturedAt .timestamp,
        .field .health (.runtimeValue .connectionHealth),
        .rule2 .health .generation fun health generation =>
          requireValue ((health.get .generation).eq generation)
            (plain "health generation must match snapshot generation"),
        .field .devices (.runtimeValues .device), .field .nodes (.runtimeValues .node),
        .field .ports (.runtimeValues .port), .field .links (.runtimeValues .link),
        .field .metadata (.runtimeValues .metadata),
        .field .parameters (.runtimeValues .parameter),
        .field .profiles (.runtimeValues .profile), .field .routes (.runtimeValues .route),
        .field .defaults (.runtimeValue .defaults), .relationships]
  | .runtimeEvent =>
      [.field .generation .identifier, .field .sequence .identifier, .field .occurredAt .timestamp,
        enumField .kind RuntimeEventKind (invalidValue "kind"),
        enumField .objectKind RuntimeObjectKind (invalidValue "object_kind"),
        .field .objectId .identity, .field .current .contractValue,
        .field .previous .contractValue, .field .requiresResnapshot .boolean,
        .field .reason .optionalString, .rule2 .kind .requiresResnapshot resnapshotRule,
        .rule2 .kind .current addedRule, .rule2 .kind .previous removedRule]
  | .mutationTarget =>
      [enumField .objectKind RuntimeObjectKind (invalidValue "object_kind"),
        .rule1 .objectKind mutableTarget, .field .objectId .identity, .field .selector .mapping]
  | .confirmationPredicate =>
      [.field .target (.runtimeValue .mutationTarget),
        enumField .operator ConfirmationOperator (invalidValue "operator"),
        .field .path .path, .field .expected .contractValue, .tolerance]
  | .mutationRequest =>
      [.field .requestId (.requiredString false), .field .expectedGeneration .identifier,
        .field .expectedSequence .optionalIdentifier,
        enumField .operation MutationOperation (invalidValue "operation"),
        .field .target (.runtimeValue .mutationTarget), .field .requestedAt .namedTimestamp,
        .field .deadlineAt .namedTimestamp, .rule2 .requestedAt .deadlineAt deadlineRule,
        .field .payload .mapping, .field .confirmationPredicates .predicateValues]
  | .mutationFailure =>
      [enumField .phase MutationFailurePhase (classification "failure" MutationFailurePhase),
        enumField .code MutationFailureCode (classification "failure" MutationFailureCode),
        .rule2 .phase .code phaseRule, .field .message (.requiredString false),
        .field .retryable .boolean, .field .details .mapping]
  | .mutationConfirmation =>
      [.field .generation .identifier, .field .sequence .identifier,
        .field .observedAt .namedTimestamp,
        .field .predicate (.runtimeValue .confirmationPredicate),
        .field .observation .contractValue, .rule2 .predicate .observation confirmationRule]
  | .mutationOutcome =>
      [.field .requestId (.requiredString false), .field .generation .identifier,
        enumField .operation MutationOperation (classification "outcome" MutationOperation),
        enumField .status MutationStatus (classification "outcome" MutationStatus),
        .field .completedAt .namedTimestamp,
        .field .confirmations (.runtimeValues .mutationConfirmation),
        .rule2 .generation .confirmations confirmationGenerations,
        .field .failure (.optionalRuntimeValue .mutationFailure),
        .rule3 .status .failure .confirmations outcomeRule]
  | .mutationDispatchTicket =>
      [.field .requestId (.requiredString false),
        enumField .operation MutationOperation (classification "dispatch" MutationOperation),
        enumField .disposition MutationDispatchDisposition
          (classification "dispatch" MutationDispatchDisposition),
        .field .dispatchOrder .identifier, .field .expectedGeneration .identifier,
        .field .expectedSequence .optionalIdentifier, .field .observedGeneration .identifier,
        .field .observedSequence .identifier,
        .field .failureCode (.optionalEnumeration (StringEnum.texts MutationFailureCode)
          (invalidValue "failure_code")),
        .rule3 .disposition .failureCode .dispatchOrder ticketRule]

def steps (type : ValueType) : List ClassStep := (checks type).map Check.step

example : steps .unresolvedRelationship = unresolvedSteps := rfl

section Construct

/-- The field values at the entry of `__post_init__`. -/
def initialRecord (type : ValueType) (arguments : List (FieldName × PyValue)) : Record :=
  fun name => (arguments.lookup name).getD
    ((((fieldSpecs type).find? fun spec => spec.name = name).bind FieldSpec.default).getD .none)

/-- The required fields that no argument names. -/
def missingArguments (type : ValueType) (arguments : List (FieldName × PyValue)) :
    List FieldSpec :=
  (fieldSpecs type).filter fun spec =>
    spec.default.isNone && (arguments.lookup spec.name).isNone

/-- The call of a class with keyword arguments. -/
def construct (type : ValueType) (arguments : List (FieldName × PyValue)) :
    Except PyError PyValue :=
  if !arguments.all fun argument => argument.1 ∈ fieldNames type then
    .error (.typeError (plain "unexpected keyword argument"))
  else if !(missingArguments type arguments).isEmpty then
    .error (.typeError (.text (text "missing required arguments: ") ::
      (missingArguments type arguments).map fun spec => .repr (.str spec.name.text)))
  else (runSteps (steps type) (initialRecord type arguments)).map
    (toRuntime type (fieldNames type))

/-- A call that succeeds runs the body of the class. -/
theorem construct_ok {type : ValueType} {arguments : List (FieldName × PyValue)} {value : PyValue}
    (made : construct type arguments = .ok value) :
    ∃ record, runSteps (steps type) (initialRecord type arguments) = .ok record ∧
      value = toRuntime type (fieldNames type) record := by
  unfold construct at made
  split at made
  · cases made
  · split at made
    · cases made
    · obtain ⟨record, finished, isValue⟩ := map_ok made
      exact ⟨record, finished, isValue.symm⟩

theorem construct_of_run {type : ValueType} {arguments : List (FieldName × PyValue)}
    {record : Record} (known : ∀ argument ∈ arguments, argument.1 ∈ fieldNames type)
    (complete : missingArguments type arguments = [])
    (finished : runSteps (steps type) (initialRecord type arguments) = .ok record) :
    construct type arguments = .ok (toRuntime type (fieldNames type) record) := by
  have allKnown : (arguments.all fun argument => argument.1 ∈ fieldNames type) = true := by
    simpa using known
  rw [construct, allKnown, complete, finished]
  rfl

theorem steps_ordered (type : ValueType) : Ordered (steps type) := by
  cases type <;> decide

/-- Every field is assigned by some check. -/
theorem checks_cover (type : ValueType) :
    ∀ name ∈ fieldNames type, ∃ check ∈ checks type, check.step.target = some name := by
  cases type <;> decide

theorem steps_footprints (type : ValueType) :
    ∀ step ∈ steps type, ∀ name ∈ step.footprint, name ∈ fieldNames type := by
  cases type <;> decide

/-- The tags of an envelope and the names of its fields are all different. -/
theorem envelopeKeys_nodup (type : ValueType) :
    (schemaVersionKey :: valueTypeKey :: (fieldNames type).map FieldName.text).Nodup := by
  -- one evaluation for all classes, which share most of their names
  have each : ∀ type ∈ ValueType.all,
      (schemaVersionKey :: valueTypeKey :: (fieldNames type).map FieldName.text).Nodup := by
    decide +kernel
  exact each type type.mem_all

theorem fieldNames_nodup (type : ValueType) : (fieldNames type).Nodup :=
  List.Nodup.of_map FieldName.text (envelopeKeys_nodup type).of_cons.of_cons

example : construct .defaults [] = .ok emptyDefaults := rfl

section Fields

variable {type : ValueType} {record : Record} {name : FieldName} {kind : FieldKind}

theorem fieldStep_run {value : PyValue}
    (normalized : kind.normalize name.text (record name) = .ok value) :
    (fieldStep name kind).run record = .ok (Function.update record name value) := by
  simp only [fieldStep, Step.run, normalized, Except.map]

theorem fieldStep_same (settled : kind.normalize name.text (record name) = .ok (record name)) :
    (fieldStep name kind).run record = .ok record := by
  rw [fieldStep_run settled, Function.update_eq_self]

theorem get_toRuntime (member : name ∈ fieldNames type) :
    (toRuntime type (fieldNames type) record).get name = record name := by
  simp only [toRuntime, PyValue.get]
  have found : ∀ names : List FieldName, name ∈ names →
      (names.map fun name => (name, record name)).lookup name = some (record name) := by
    intro names
    induction names with
    | nil => simp
    | cons first rest inductionHypothesis =>
        intro inNames
        rw [List.map_cons, List.lookup_cons]
        by_cases isFirst : name = first
        · simp [isFirst]
        · simp [beq_eq_false_iff_ne.mpr isFirst,
            inductionHypothesis (List.mem_of_ne_of_mem isFirst inNames)]
  rw [found _ member]
  rfl

/-- A field of a made value is what its check makes of the argument or default. -/
theorem construct_field (name : FieldName) (kind : FieldKind)
    {arguments : List (FieldName × PyValue)} {value : PyValue} (made : construct type arguments = .ok value)
    (member : Check.field name kind ∈ checks type) (isField : name ∈ fieldNames type) :
    kind.normalize name.text (initialRecord type arguments name) = .ok (value.get name) := by
  obtain ⟨record, finished, isValue⟩ := construct_ok made
  rw [isValue, get_toRuntime isField]
  exact runSteps_assign (steps_ordered type) finished
    (List.mem_map.mpr ⟨_, member, rfl⟩) (by simp)

theorem construct_isA {arguments : List (FieldName × PyValue)} {value : PyValue}
    (made : construct type arguments = .ok value) : value.isA type = true := by
  obtain ⟨record, -, isValue⟩ := construct_ok made
  simp [isValue, toRuntime, PyValue.isA]

end Fields

end Construct

end WyrePlumber.Runtime
