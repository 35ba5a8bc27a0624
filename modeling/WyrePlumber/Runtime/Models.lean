import WyrePlumber.Library.RecordValidation
import WyrePlumber.Runtime.Serialization

/-!
# The runtime value classes

The fields of every registered class with their defaults, and the body of its
constructor: the checks of the fields in source order, with the rules that
compare fields between them.
-/

set_option autoImplicit false
set_option linter.constructorNameAsVariable false

namespace WyrePlumber.Runtime

open Python RecordValidation Results

abbrev Record := FieldName → PyValue

abbrev ClassStep := Step FieldName PyValue PyError

section Steps

/-- A check of one field, which then holds the normalized value. -/
def fieldStep (target : FieldName) (kind : FieldKind) : ClassStep :=
  .assign target [target] (fun record => kind.normalize target.text (record target))
    (fun agree => by rw [agree target (by simp)])
    (fun accepted => by rw [Function.update_self]; exact kind.normalize_settling _ accepted)

def rule1Step (first : FieldName) (check : PyValue → Except PyError Unit) : ClassStep :=
  .require [first] (fun record => check (record first))
    (fun agree => by rw [agree first (by simp)])

def rule2Step (first second : FieldName) (check : PyValue → PyValue → Except PyError Unit) :
    ClassStep :=
  .require [first, second] (fun record => check (record first) (record second))
    (fun agree => by rw [agree first (by simp), agree second (by simp)])

def rule3Step (first second third : FieldName)
    (check : PyValue → PyValue → PyValue → Except PyError Unit) : ClassStep :=
  .require [first, second, third]
    (fun record => check (record first) (record second) (record third))
    (fun agree => by
      rw [agree first (by simp), agree second (by simp), agree third (by simp)])

/-- Refusal with a `ValueError` unless the condition holds. -/
def requireValue (condition : Bool) (problem : Message) : Except PyError Unit :=
  if condition then .ok () else .error (.valueError problem)

def requireType (condition : Bool) (problem : Message) : Except PyError Unit :=
  if condition then .ok () else .error (.typeError problem)

/-- The error text of an enumeration's constructor, after a prefix. -/
def invalidMember (Member : Type) [StringEnum Member] (before : Message) (value : PyValue) :
    Message :=
  before ++ [.repr value, .text (text " is not a valid " ++ StringEnum.className Member)]

/-- The error text of `_enum`. -/
def invalidValue (name : String) (value : PyValue) : Message :=
  [.text (text name ++ text " has invalid value "), .repr value]

/-- `.value` of a member. -/
def memberText : PyValue → PyString
  | .str string => string
  | _ => []

end Steps

section Events

def needsResnapshot (kind : PyValue) : Bool :=
  kind.isMember RuntimeEventKind.discontinuity || kind.isMember RuntimeEventKind.resnapshotRequired

/-- The kinds that must require a new snapshot do. -/
def resnapshotRule (kind requiresResnapshot : PyValue) : Except PyError Unit :=
  requireValue (!needsResnapshot kind || requiresResnapshot.eq (.bool true))
    [.text (memberText kind ++
      text " must require a new snapshot")]

def addedRule (kind current : PyValue) : Except PyError Unit :=
  requireValue (!kind.isMember RuntimeEventKind.objectAdded || !current.isNone)
    (plain "object_added must include current state")

def removedRule (kind previous : PyValue) : Except PyError Unit :=
  requireValue (!kind.isMember RuntimeEventKind.objectRemoved || !previous.isNone)
    (plain "object_removed must include previous state")

end Events

section Mutations

def mutableTarget (objectKind : PyValue) : Except PyError Unit :=
  requireValue (!objectKind.isMember RuntimeObjectKind.connection &&
      !objectKind.isMember RuntimeObjectKind.runtime)
    [.text (memberText objectKind ++
      text " is not a mutable runtime target")]

/-- The tolerance of an approximate comparison as a finite float. -/
def approximateTolerance (tolerance : PyValue) : Except PyError PyValue :=
  match toFloat? tolerance with
  | none => .error (.typeError (plain "approximately_equals tolerance must be a number"))
  | some converted => do
      let bound ← converted
      requireValue (bound.isFinite && !bound.lt Binary64.zero)
        (plain "approximately_equals tolerance must be finite and non-negative")
      .ok (.float bound)

/-- The tolerance of a predicate: the checks of `expected` and `tolerance`
against the operator. -/
def predicateTolerance (operator expected tolerance : PyValue) : Except PyError PyValue := do
  requireValue (!(operator.isMember ConfirmationOperator.present ||
      operator.isMember ConfirmationOperator.absent) || expected.isNone)
    [.text (memberText operator ++ text " predicates must not set expected")]
  if operator.isMember ConfirmationOperator.approximatelyEquals then do
    requireType (toFloat? expected).isSome
      (plain "approximately_equals expected must be a number")
    approximateTolerance tolerance
  else do
    requireValue tolerance.isNone
      (plain "tolerance is only valid for approximately_equals predicates")
    .ok tolerance

theorem approximateTolerance_settled {tolerance bound : PyValue}
    (accepted : approximateTolerance tolerance = .ok bound) :
    approximateTolerance bound = .ok bound := by
  unfold approximateTolerance at accepted
  split at accepted
  · cases accepted
  · obtain ⟨value, -, checked⟩ := bind_ok accepted
    obtain ⟨passed, boundOk, isBound⟩ := bind_ok checked
    rw [← Except.ok.inj isBound, approximateTolerance, toFloat?_float]
    exact checked.trans isBound.symm

theorem predicateTolerance_settled {operator expected tolerance bound : PyValue}
    (accepted : predicateTolerance operator expected tolerance = .ok bound) :
    predicateTolerance operator expected bound = .ok bound := by
  obtain ⟨passed, expectedOk, chosen⟩ := bind_ok accepted
  rw [predicateTolerance, expectedOk]
  by_cases approximate : operator.isMember ConfirmationOperator.approximatelyEquals
  · rw [if_pos approximate] at chosen ⊢
    obtain ⟨passed, numberOk, converted⟩ := bind_ok chosen
    rw [numberOk]
    exact approximateTolerance_settled converted
  · rw [if_neg approximate] at chosen ⊢
    obtain ⟨passed, absent, isBound⟩ := bind_ok chosen
    rw [← Except.ok.inj isBound, absent]
    rfl

/-- The assignment of `tolerance` in a predicate. -/
def toleranceStep : ClassStep :=
  .assign .tolerance [.operator, .expected, .tolerance]
    (fun record =>
      predicateTolerance (record .operator) (record .expected) (record .tolerance))
    (fun agree => by
      rw [agree .operator (by simp), agree .expected (by simp), agree .tolerance (by simp)])
    (fun accepted => by
      rw [Function.update_self, Function.update_of_ne (by decide),
        Function.update_of_ne (by decide)]
      exact predicateTolerance_settled accepted)

def deadlineRule (requestedAt deadlineAt : PyValue) : Except PyError Unit := do
  let deadline ← parseTimestamp deadlineAt
  let requested ← parseTimestamp requestedAt
  requireValue (!decide (Calendar.instant deadline < Calendar.instant requested))
    (plain "deadline_at must not precede requested_at")

/-- `_FAILURE_CODES_BY_PHASE`. -/
def failureCodes : MutationFailurePhase → List MutationFailureCode
  | .validation => [.invalidRequest, .unsupportedOperation]
  | .precondition => [.staleGeneration, .staleSequence, .targetNotFound, .targetIdentityChanged,
      .targetUnavailable, .notWritable, .ownershipConflict]
  | .execution => [.nativeRejected, .internalError]
  | .confirmation => [.confirmationTimeout]
  | .deadline => [.deadlineExpired]
  | .cancellation => [.generationLost, .runtimeStopped, .callerCancelled]

def isOneOf (codes : List MutationFailureCode) (value : PyValue) : Bool :=
  codes.any fun code => value.isMember code

def phaseRule (phase code : PyValue) : Except PyError Unit :=
  requireValue ((StringEnum.members : List MutationFailurePhase).any fun candidate =>
      phase.isMember candidate && isOneOf (failureCodes candidate) code)
    [.text (text "failure code "), .repr code, .text (text " is invalid for phase "), .repr phase]

def confirmationRule (predicate observation : PyValue) : Except PyError Unit := do
  let satisfied ← predicateMatches predicate observation
  requireValue satisfied (plain "observation does not satisfy the confirmation predicate")

def confirmationGenerations (generation confirmations : PyValue) : Except PyError Unit :=
  requireValue ((confirmations.sequence?.getD []).all fun item =>
      (item.get .generation).eq generation)
    (plain "confirmation generation must match outcome generation")

/-- `codes_by_status` of an unsuccessful outcome. -/
def codesByStatus : MutationStatus → List MutationFailureCode
  | .confirmed => []
  | .rejected => failureCodes .validation ++ failureCodes .precondition
  | .failed => failureCodes .execution
  | .timedOut => [.confirmationTimeout, .deadlineExpired]
  | .cancelled => failureCodes .cancellation

/-- The rules of `MutationOutcome` on status, failure and confirmations. -/
def outcomeRule (status failure confirmations : PyValue) : Except PyError Unit :=
  if status.isMember MutationStatus.confirmed then do
    requireValue failure.isNone (plain "confirmed outcomes must not include a failure")
    requireValue (!(confirmations.sequence?.getD []).isEmpty)
      (plain "confirmed outcomes must include confirming observations")
  else do
    requireValue (!failure.isNone)
      (plain "unsuccessful outcomes must include a structured failure")
    requireValue ((StringEnum.members : List MutationStatus).any fun candidate =>
        status.isMember candidate && isOneOf (codesByStatus candidate) (failure.get .code))
      (.repr status :: .text (text " outcome has incompatible failure code ") ::
        [.repr (failure.get .code)])

/-- The codes that a ticket of the disposition may carry. -/
def dispositionCodes : MutationDispatchDisposition → List MutationFailureCode
  | .ready => []
  | .rejected => [.unsupportedOperation, .staleGeneration, .staleSequence, .targetNotFound,
      .targetIdentityChanged, .targetUnavailable, .notWritable, .ownershipConflict]
  | .failed => [.nativeRejected, .internalError]
  | .cancelled => [.generationLost, .runtimeStopped]

def dispositionProblem : MutationDispatchDisposition → String
  | .ready => ""
  | .rejected => "rejected dispatch tickets require a validation or precondition code"
  | .failed => "failed dispatch tickets require an execution failure code"
  | .cancelled => "cancelled dispatch tickets require a lifecycle cancellation code"

def dispositionRule (disposition : PyValue) (failureCode : PyValue)
    (expected : MutationDispatchDisposition) : Except PyError Unit :=
  requireValue (!disposition.isMember expected || isOneOf (dispositionCodes expected) failureCode)
    (plain (dispositionProblem expected))

/-- The rules of a dispatch ticket. -/
def ticketRule (disposition failureCode dispatchOrder : PyValue) : Except PyError Unit := do
  if disposition.isMember MutationDispatchDisposition.ready then do
    requireValue failureCode.isNone
      (plain "ready dispatch tickets must not include a failure code")
    requireValue (!dispatchOrder.eq (.int 0))
      (plain "ready dispatch tickets must have a positive dispatch order")
  else
    requireValue (!failureCode.isNone)
      (plain "non-ready dispatch tickets must include a failure code")
  dispositionRule disposition failureCode .rejected
  dispositionRule disposition failureCode .failed
  dispositionRule disposition failureCode .cancelled

end Mutations

end WyrePlumber.Runtime
