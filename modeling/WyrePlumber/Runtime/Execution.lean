import WyrePlumber.Runtime.Classes

/-!
# Execution of a confirmed mutation

`_execute_confirmed_mutation`: preflight, dispatch and the polling loop, with
the evaluation of the predicates on a captured snapshot.  The clock, the
captures and the native dispatch answer from outside.
-/

set_option autoImplicit false
set_option linter.constructorNameAsVariable false

namespace WyrePlumber.Runtime

open Python Calendar

/-- An exception that reaches a caller. -/
inductive Raised where
  | python (error : PyError)
  | runtimeError (message : PyString)
  | other (className : PyString)

/-- What `capture_runtime_snapshot` does. -/
inductive Capture where
  | snapshot (value : PyValue)
  | runtimeError (message : PyString)
  | raised (exception : Raised)

/-- What `dispatch_runtime_mutation` does. -/
inductive DispatchAnswer where
  | ticket (value : PyValue)
  | raised (exception : Raised)

/-- The answers from outside: readings of the clock and captures in the order
in which they are asked for, the native dispatch, and the attributes of
`DefaultsValue` that are no fields. -/
structure Inputs where
  clock : Nat → DateTime
  captures : Nat → Capture
  dispatch : PyValue → DispatchAnswer
  classAttribute : PyString → PyValue

/-- Where an exception of the execution comes from. -/
inductive Site where
  | clock | capture | observation | request | dispatch | failureValue | outcome
  deriving DecidableEq

inductive Result where
  | returned (outcome : PyValue)
  | raised (site : Site) (exception : Raised)

/-- A finished call: the snapshots it looked at, the requests it dispatched with
their tickets, and its result. -/
structure Execution where
  snapshots : List PyValue
  dispatched : List PyValue
  tickets : List PyValue
  result : Result

section Observation

def selected (target : PyValue) (key : String) : PyValue :=
  (((target.get .selector).mapping?.bind (List.lookup (text key)))).getD .none

def PyValue.isStr : PyValue → Bool
  | str _ => true
  | _ => false

def PyValue.isInt : PyValue → Bool
  | bool _ | int _ => true
  | _ => false

def PyValue.isBool : PyValue → Bool
  | bool _ => true
  | _ => false

def managedLinks (snapshot owner desiredId : PyValue) : List PyValue :=
  (snapshot.get .links).items.filter fun link =>
    (link.get .owner).eq owner && (link.get .desiredId).eq desiredId

def defaultsAttribute (inputs : Inputs) (snapshot : PyValue) (name : PyString) : PyValue :=
  match (fieldNames .defaults).find? fun field => field.text = name with
  | some field => (snapshot.get .defaults).get field
  | none => inputs.classAttribute name

/-- The last entry of a metadata object for a subject and a key. -/
def effectiveEntry (metadata subject key : PyValue) : Option PyValue :=
  (metadata.get .entries).items.reverse.find? fun entry =>
    (entry.get .subject).eq subject && (entry.get .key).eq key

def objectIndex (snapshot kind : PyValue) : List PyValue :=
  if kind.isMember RuntimeObjectKind.device then (snapshot.get .devices).items
  else if kind.isMember RuntimeObjectKind.node then (snapshot.get .nodes).items
  else if kind.isMember RuntimeObjectKind.port then (snapshot.get .ports).items
  else if kind.isMember RuntimeObjectKind.link then (snapshot.get .links).items
  else if kind.isMember RuntimeObjectKind.metadata then (snapshot.get .metadata).items
  else []

def snapshotObservation (inputs : Inputs) (snapshot target : PyValue) : PyValue :=
  let kind := target.get .objectKind
  let objectId := target.get .objectId
  let owner := selected target "owner"
  let desiredId := selected target "desired_id"
  let profileIndex := selected target "profile_index"
  let routeIndex := selected target "route_index"
  let parameterId := selected target "parameter_id"
  let subject := selected target "subject"
  let key := selected target "key"
  if kind.isMember RuntimeObjectKind.link && owner.isStr && desiredId.isStr then
    match managedLinks snapshot owner desiredId with
    | [link] => link
    | _ => .none
  else if profileIndex.isInt && objectId.isInt then
    (byKey (snapshot.get .profiles).items [.deviceId, .index] [objectId, profileIndex]).getD .none
  else if routeIndex.isInt && objectId.isInt then
    (byKey (snapshot.get .routes).items [.deviceId, .index] [objectId, routeIndex]).getD .none
  else if parameterId.isStr && objectId.isInt then
    (byKey (snapshot.get .parameters).items [.ownerType, .ownerId, .id]
      [kind, objectId, parameterId]).getD .none
  else
    match selected target "defaults_field" with
    | .str name => defaultsAttribute inputs snapshot name
    | _ =>
        if kind.isMember RuntimeObjectKind.metadata && objectId.isInt && subject.isInt &&
            !subject.isBool && key.isStr then
          match byId (snapshot.get .metadata).items objectId with
          | none => .none
          | some metadata => (effectiveEntry metadata subject key).getD .none
        else if !objectId.isInt then .none
        else (byId (objectIndex snapshot kind) objectId).getD .none

def confirmation (snapshot predicate observation : PyValue) : Except PyError PyValue :=
  construct .mutationConfirmation
    [(.generation, snapshot.get .generation), (.sequence, snapshot.get .sequence),
      (.observedAt, snapshot.get .capturedAt), (.predicate, predicate),
      (.observation, observation)]

def confirmationsFromSnapshot (inputs : Inputs) (snapshot : PyValue) :
    List PyValue → Except PyError (List PyValue)
  | [] => .ok []
  | predicate :: rest => do
      let observation := snapshotObservation inputs snapshot (predicate.get .target)
      let satisfied ← predicateMatches predicate observation
      if satisfied then do
        let confirmed ← confirmation snapshot predicate observation
        let others ← confirmationsFromSnapshot inputs snapshot rest
        .ok (confirmed :: others)
      else confirmationsFromSnapshot inputs snapshot rest

end Observation

section Outcomes

/-- `request.is_expired()` at a reading of the clock. -/
def isExpired (request : PyValue) (now : DateTime) : Except PyError Bool := do
  let observed ← parseTimestamp (.datetime now)
  let deadline ← parseTimestamp (request.get .deadlineAt)
  .ok (decide (instant deadline ≤ instant observed))

/-- The arguments of an outcome of the request. -/
def outcomeArguments (request : PyValue) (status : MutationStatus) (completedAt : PyValue)
    (confirmations : List PyValue) (failure : PyValue) : List (FieldName × PyValue) :=
  [(.requestId, request.get .requestId), (.generation, request.get .expectedGeneration),
    (.operation, request.get .operation), (.status, .member status), (.completedAt, completedAt),
    (.confirmations, .tuple confirmations), (.failure, failure)]

def confirmedOutcome (request snapshot : PyValue) (confirmations : List PyValue) : Result :=
  match construct .mutationOutcome (outcomeArguments request .confirmed
      (snapshot.get .capturedAt) confirmations .none) with
  | .ok outcome => .returned outcome
  | .error error => .raised .outcome (.python error)

/-- How an unsuccessful outcome is classified and described; a message with a number of
too many digits is none. -/
structure Failure where
  status : MutationStatus
  phase : MutationFailurePhase
  code : MutationFailureCode
  message : Option PyString
  retryable : Bool
  details : List (PyString × PyValue)

def failureOutcome (request : PyValue) (failure : Failure) (confirmations : List PyValue)
    (now : DateTime) : Result :=
  match failure.message with
  | none => .raised .failureValue (.python digitLimit)
  | some message =>
      match construct .mutationFailure
          [(.phase, .member failure.phase), (.code, .member failure.code),
            (.message, .str message), (.retryable, .bool failure.retryable),
            (.details, .dict failure.details)] with
      | .error error => .raised .failureValue (.python error)
      | .ok value =>
          match construct .mutationOutcome
              (outcomeArguments request failure.status (.datetime now) confirmations value) with
          | .ok outcome => .returned outcome
          | .error error => .raised .outcome (.python error)

def deadlineExpired (problem : String) : Failure :=
  ⟨.timedOut, .deadline, .deadlineExpired, text problem, false, []⟩

def describes (before : String) (first : PyValue) (between : String) (second : PyValue) :
    Option PyString := do
  let first ← Contents.shown first
  let second ← Contents.shown second
  some (text before ++ first ++ text between ++ second)

def staleGeneration (request snapshot : PyValue) : Failure :=
  ⟨.rejected, .precondition, .staleGeneration,
    describes "expected generation " (request.get .expectedGeneration)
      ", observed " (snapshot.get .generation),
    false, [(text "observed_generation", snapshot.get .generation)]⟩

def staleSequence (request snapshot : PyValue) : Failure :=
  ⟨.rejected, .precondition, .staleSequence,
    describes "expected projection sequence " (request.get .expectedSequence)
      ", preflight captured sequence " (snapshot.get .sequence),
    false, [(text "observed_sequence", snapshot.get .sequence)]⟩

def confirmationTimeout : Failure :=
  ⟨.timedOut, .confirmation, .confirmationTimeout,
    text "native mutation was accepted but state was not confirmed", false, []⟩

def generationLost (snapshot : PyValue) : Failure :=
  ⟨.cancelled, .cancellation, .generationLost,
    text "connection generation changed before confirmation", false,
    [(text "observed_generation", snapshot.get .generation)]⟩

/-- `str.lower` as far as a search for ASCII text without `i` and `k` can see. -/
def lower (string : PyString) : PyString :=
  string.map fun codePoint => if 65 ≤ codePoint ∧ codePoint ≤ 90 then codePoint + 32 else codePoint

def contains (pattern string : PyString) : Bool := string.tails.any pattern.isPrefixOf

def runtimeUnavailable (message : PyString) : Failure :=
  if contains (text "stopped") (lower message) || contains (text "not ready") (lower message) then
    ⟨.cancelled, .cancellation, .runtimeStopped, message, false, []⟩
  else ⟨.failed, .execution, .internalError, message, false, []⟩

/-- The failure code of a ticket, `internal_error` when it has none. -/
def ticketCode (ticket : PyValue) : MutationFailureCode :=
  match ticket.get .failureCode with
  | .str string => (StringEnum.ofText? string).getD .internalError
  | _ => .internalError

/-- Status and phase of the failure that a ticket reports. -/
def ticketClass (disposition : PyValue) (code : MutationFailureCode) :
    MutationStatus × MutationFailurePhase :=
  if disposition.isMember MutationDispatchDisposition.cancelled then (.cancelled, .cancellation)
  else if disposition.isMember MutationDispatchDisposition.failed then (.failed, .execution)
  else if code = .unsupportedOperation then (.rejected, .validation)
  else (.rejected, .precondition)

def ticketFailure (ticket : PyValue) : Failure :=
  let code := ticketCode ticket
  let classified := ticketClass (ticket.get .disposition) code
  ⟨classified.1, classified.2, code,
    some (text "native mutation dispatch returned " ++ StringEnum.text code),
    decide (code = .generationLost),
    [(text "dispatch_order", ticket.get .dispatchOrder),
      (text "observed_generation", ticket.get .observedGeneration),
      (text "observed_sequence", ticket.get .observedSequence)]⟩

end Outcomes

section Execute

def predicates (request : PyValue) : List PyValue := (request.get .confirmationPredicates).items

def replaceExpectedSequence (request sequence : PyValue) : Except PyError PyValue :=
  construct .mutationRequest ((fieldNames .mutationRequest).map fun name =>
    (name, if name = .expectedSequence then sequence else request.get name))

/-- The request that is dispatched: its expected sequence is the preflight's. -/
def dispatchedRequest (request snapshot : PyValue) : Except PyError PyValue :=
  if (request.get .expectedSequence).isNone then .ok request
  else replaceExpectedSequence request (snapshot.get .sequence)

def nextSequence : PyValue → PyValue
  | .int value => .int (value + 1)
  | value => value

def staleSequenceOf (request snapshot : PyValue) : Bool :=
  !(request.get .expectedSequence).isNone &&
    !(snapshot.get .sequence).eq (nextSequence (request.get .expectedSequence))

/-- The polling loop after a ready ticket: the snapshots it captured and the
result; none when the fuel runs out. -/
def poll (inputs : Inputs) (request : PyValue) (wanted : List PyValue) :
    Nat → Nat → Nat → List PyValue → Option (List PyValue × Result)
  | 0, _, _, _ => none
  | fuel + 1, clockIndex, captureIndex, confirmations =>
      let now := inputs.clock (clockIndex + 1)
      match isExpired request (inputs.clock clockIndex) with
      | .error error => some ([], .raised .clock (.python error))
      | .ok true => some ([], failureOutcome request confirmationTimeout confirmations now)
      | .ok false =>
          match inputs.captures captureIndex with
          | .raised exception => some ([], .raised .capture exception)
          | .runtimeError message =>
              some ([], failureOutcome request (runtimeUnavailable message) confirmations now)
          | .snapshot snapshot =>
              if !(snapshot.get .generation).eq (request.get .expectedGeneration) then
                some ([snapshot],
                  failureOutcome request (generationLost snapshot) confirmations now)
              else
                match confirmationsFromSnapshot inputs snapshot wanted with
                | .error error => some ([snapshot], .raised .observation (.python error))
                | .ok confirmed =>
                    if confirmed.length = wanted.length then
                      some ([snapshot], confirmedOutcome request snapshot confirmed)
                    else
                      (poll inputs request wanted fuel (clockIndex + 1) (captureIndex + 1) confirmed).map
                        fun later => (snapshot :: later.1, later.2)

/-- From the decision to dispatch on. -/
def dispatchStage (inputs : Inputs) (fuel : Nat) (request snapshot : PyValue)
    (clockIndex captureIndex : Nat) : Option Execution :=
  match dispatchedRequest request snapshot with
  | .error error => some ⟨[snapshot], [], [], .raised .request (.python error)⟩
  | .ok dispatched =>
      match inputs.dispatch dispatched with
      | .raised exception => some ⟨[snapshot], [dispatched], [], .raised .dispatch exception⟩
      | .ticket ticket =>
          if !(ticket.get .disposition).isMember MutationDispatchDisposition.ready then
            some ⟨[snapshot], [dispatched], [ticket],
              failureOutcome dispatched (ticketFailure ticket) [] (inputs.clock clockIndex)⟩
          else
            (poll inputs dispatched (predicates request) fuel clockIndex captureIndex []).map fun polled =>
              ⟨snapshot :: polled.1, [dispatched], [ticket], polled.2⟩

/-- From the preflight snapshot on. -/
def preflightStage (inputs : Inputs) (fuel : Nat) (request snapshot : PyValue)
    (clockIndex captureIndex : Nat) : Option Execution :=
  let finished (result : Result) : Option Execution := some ⟨[snapshot], [], [], result⟩
  if !(snapshot.get .generation).eq (request.get .expectedGeneration) then
    finished (failureOutcome request (staleGeneration request snapshot) []
      (inputs.clock clockIndex))
  else if staleSequenceOf request snapshot then
    finished (failureOutcome request (staleSequence request snapshot) [] (inputs.clock clockIndex))
  else
    match confirmationsFromSnapshot inputs snapshot (predicates request) with
    | .error error => finished (.raised .observation (.python error))
    | .ok confirmations =>
        if confirmations.length = (predicates request).length then
          finished (confirmedOutcome request snapshot confirmations)
        else
          match isExpired request (inputs.clock clockIndex) with
          | .error error => finished (.raised .clock (.python error))
          | .ok true =>
              finished (failureOutcome request
                (deadlineExpired "mutation deadline expired during runtime preflight")
                confirmations (inputs.clock (clockIndex + 1)))
          | .ok false =>
              dispatchStage inputs fuel request snapshot (clockIndex + 1) captureIndex

/-- `_execute_confirmed_mutation`, from the given readings of the clock and
captures on; none when the fuel of the polling loop runs out. -/
def execute (inputs : Inputs) (fuel : Nat) (request : PyValue) (preflight : Option PyValue)
    (clockIndex captureIndex : Nat) : Option Execution :=
  match isExpired request (inputs.clock clockIndex) with
  | .error error => some ⟨[], [], [], .raised .clock (.python error)⟩
  | .ok true =>
      some ⟨[], [], [], failureOutcome request
        (deadlineExpired "mutation deadline expired before runtime preflight") []
        (inputs.clock (clockIndex + 1))⟩
  | .ok false =>
      match preflight with
      | some snapshot =>
          preflightStage inputs fuel request snapshot (clockIndex + 1) captureIndex
      | none =>
          match inputs.captures captureIndex with
          | .raised exception => some ⟨[], [], [], .raised .capture exception⟩
          | .runtimeError message =>
              some ⟨[], [], [], failureOutcome request (runtimeUnavailable message) []
                (inputs.clock (clockIndex + 1))⟩
          | .snapshot snapshot =>
              preflightStage inputs fuel request snapshot (clockIndex + 1) (captureIndex + 1)

end Execute

end WyrePlumber.Runtime
