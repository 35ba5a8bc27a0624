import WyrePlumber.Library.Python

/-!
# Enumerations of the runtime contract

Every enumeration of the contract has strings as values, and a member equals
its string.
-/

set_option autoImplicit false

namespace WyrePlumber.Runtime

open Python

/-- An enumeration whose members are strings. -/
class StringEnum (Member : Type) where
  className : PyString
  members : List Member
  text : Member → PyString

namespace StringEnum

variable {Member : Type} [StringEnum Member]

/-- The constructor: the member with the given value. -/
def ofText? (string : PyString) : Option Member :=
  (members : List Member).find? fun member => text member = string

/-- The values of the members. -/
def texts (Member : Type) [StringEnum Member] : List PyString :=
  (members : List Member).map text

end StringEnum

inductive ConnectionState where
  | connecting | connected | degraded | reconnecting | disconnected | stopped
  deriving DecidableEq

instance : StringEnum ConnectionState where
  className := text "ConnectionState"
  members := [.connecting, .connected, .degraded, .reconnecting, .disconnected, .stopped]
  text
    | .connecting => text "connecting"
    | .connected => text "connected"
    | .degraded => text "degraded"
    | .reconnecting => text "reconnecting"
    | .disconnected => text "disconnected"
    | .stopped => text "stopped"

inductive NodeState where
  | error | creating | suspended | idle | running | unknown
  deriving DecidableEq

instance : StringEnum NodeState where
  className := text "NodeState"
  members := [.error, .creating, .suspended, .idle, .running, .unknown]
  text
    | .error => text "error"
    | .creating => text "creating"
    | .suspended => text "suspended"
    | .idle => text "idle"
    | .running => text "running"
    | .unknown => text "unknown"

inductive PortDirection where
  | input | output | unknown
  deriving DecidableEq

instance : StringEnum PortDirection where
  className := text "PortDirection"
  members := [.input, .output, .unknown]
  text
    | .input => text "input"
    | .output => text "output"
    | .unknown => text "unknown"

inductive Availability where
  | yes | no | unknown
  deriving DecidableEq

instance : StringEnum Availability where
  className := text "Availability"
  members := [.yes, .no, .unknown]
  text
    | .yes => text "yes"
    | .no => text "no"
    | .unknown => text "unknown"

inductive RuntimeEventKind where
  | objectAdded | objectRemoved | objectChanged | parameterChanged | metadataChanged
  | defaultChanged | connectionChanged | discontinuity | resnapshotRequired
  deriving DecidableEq

instance : StringEnum RuntimeEventKind where
  className := text "RuntimeEventKind"
  members := [.objectAdded, .objectRemoved, .objectChanged, .parameterChanged, .metadataChanged,
    .defaultChanged, .connectionChanged, .discontinuity, .resnapshotRequired]
  text
    | .objectAdded => text "object_added"
    | .objectRemoved => text "object_removed"
    | .objectChanged => text "object_changed"
    | .parameterChanged => text "parameter_changed"
    | .metadataChanged => text "metadata_changed"
    | .defaultChanged => text "default_changed"
    | .connectionChanged => text "connection_changed"
    | .discontinuity => text "discontinuity"
    | .resnapshotRequired => text "resnapshot_required"

inductive RuntimeObjectKind where
  | device | node | port | link | metadata | parameter | profile | route | defaults | connection
  | runtime
  deriving DecidableEq

instance : StringEnum RuntimeObjectKind where
  className := text "RuntimeObjectKind"
  members := [.device, .node, .port, .link, .metadata, .parameter, .profile, .route, .defaults,
    .connection, .runtime]
  text
    | .device => text "device"
    | .node => text "node"
    | .port => text "port"
    | .link => text "link"
    | .metadata => text "metadata"
    | .parameter => text "parameter"
    | .profile => text "profile"
    | .route => text "route"
    | .defaults => text "defaults"
    | .connection => text "connection"
    | .runtime => text "runtime"

inductive MutationOperation where
  | setParameter | setNodeMixer | setMetadata | clearMetadata | selectProfile | selectRoute
  | createLink | removeLink
  deriving DecidableEq

instance : StringEnum MutationOperation where
  className := text "MutationOperation"
  members := [.setParameter, .setNodeMixer, .setMetadata, .clearMetadata, .selectProfile,
    .selectRoute, .createLink, .removeLink]
  text
    | .setParameter => text "set_parameter"
    | .setNodeMixer => text "set_node_mixer"
    | .setMetadata => text "set_metadata"
    | .clearMetadata => text "clear_metadata"
    | .selectProfile => text "select_profile"
    | .selectRoute => text "select_route"
    | .createLink => text "create_link"
    | .removeLink => text "remove_link"

inductive ConfirmationOperator where
  | equals | approximatelyEquals | present | absent
  deriving DecidableEq

instance : StringEnum ConfirmationOperator where
  className := text "ConfirmationOperator"
  members := [.equals, .approximatelyEquals, .present, .absent]
  text
    | .equals => text "equals"
    | .approximatelyEquals => text "approximately_equals"
    | .present => text "present"
    | .absent => text "absent"

inductive MutationStatus where
  | confirmed | rejected | failed | timedOut | cancelled
  deriving DecidableEq

instance : StringEnum MutationStatus where
  className := text "MutationStatus"
  members := [.confirmed, .rejected, .failed, .timedOut, .cancelled]
  text
    | .confirmed => text "confirmed"
    | .rejected => text "rejected"
    | .failed => text "failed"
    | .timedOut => text "timed_out"
    | .cancelled => text "cancelled"

inductive MutationDispatchDisposition where
  | ready | rejected | failed | cancelled
  deriving DecidableEq

instance : StringEnum MutationDispatchDisposition where
  className := text "MutationDispatchDisposition"
  members := [.ready, .rejected, .failed, .cancelled]
  text
    | .ready => text "ready"
    | .rejected => text "rejected"
    | .failed => text "failed"
    | .cancelled => text "cancelled"

inductive MutationFailurePhase where
  | validation | precondition | execution | confirmation | deadline | cancellation
  deriving DecidableEq

instance : StringEnum MutationFailurePhase where
  className := text "MutationFailurePhase"
  members := [.validation, .precondition, .execution, .confirmation, .deadline, .cancellation]
  text
    | .validation => text "validation"
    | .precondition => text "precondition"
    | .execution => text "execution"
    | .confirmation => text "confirmation"
    | .deadline => text "deadline"
    | .cancellation => text "cancellation"

inductive MutationFailureCode where
  | invalidRequest | unsupportedOperation | staleGeneration | staleSequence | targetNotFound
  | targetIdentityChanged | targetUnavailable | notWritable | ownershipConflict | nativeRejected
  | confirmationTimeout | deadlineExpired | generationLost | runtimeStopped | callerCancelled
  | internalError
  deriving DecidableEq

instance : StringEnum MutationFailureCode where
  className := text "MutationFailureCode"
  members := [.invalidRequest, .unsupportedOperation, .staleGeneration, .staleSequence,
    .targetNotFound, .targetIdentityChanged, .targetUnavailable, .notWritable,
    .ownershipConflict, .nativeRejected, .confirmationTimeout, .deadlineExpired, .generationLost,
    .runtimeStopped, .callerCancelled, .internalError]
  text
    | .invalidRequest => text "invalid_request"
    | .unsupportedOperation => text "unsupported_operation"
    | .staleGeneration => text "stale_generation"
    | .staleSequence => text "stale_sequence"
    | .targetNotFound => text "target_not_found"
    | .targetIdentityChanged => text "target_identity_changed"
    | .targetUnavailable => text "target_unavailable"
    | .notWritable => text "not_writable"
    | .ownershipConflict => text "ownership_conflict"
    | .nativeRejected => text "native_rejected"
    | .confirmationTimeout => text "confirmation_timeout"
    | .deadlineExpired => text "deadline_expired"
    | .generationLost => text "generation_lost"
    | .runtimeStopped => text "runtime_stopped"
    | .callerCancelled => text "caller_cancelled"
    | .internalError => text "internal_error"

end WyrePlumber.Runtime
