import WyrePlumber.Runtime.Arguments
import WyrePlumber.Runtime.Confirmation

/-!
# Outcomes that their constructor accepts

What the constructors of `MutationFailureValue` and `MutationOutcome` make of
the arguments that an execution gives them.
-/

set_option autoImplicit false
set_option linter.constructorNameAsVariable false

namespace WyrePlumber.Runtime

open Python RecordValidation Results Calendar

/-- A request in normal form. -/
def IsRequest (request : PyValue) : Prop :=
  Stored request ∧ request.isA .mutationRequest = true

section Steps

/-- A call succeeds when the body of the class does. -/
theorem construct_succeeds {type : ValueType} {arguments : List (FieldName × PyValue)}
    (known : ∀ argument ∈ arguments, argument.1 ∈ fieldNames type)
    (complete : missingArguments type arguments = [])
    (finished : ∃ record, runSteps (steps type) (initialRecord type arguments) = .ok record) :
    ∃ value, construct type arguments = .ok value := by
  obtain ⟨record, run⟩ := finished
  exact ⟨_, construct_of_run known complete run⟩

variable {record : Record} {first second third : FieldName}

theorem rule2Step_run {check : PyValue → PyValue → Except PyError Unit}
    (passed : check (record first) (record second) = .ok ()) :
    (rule2Step first second check).run record = .ok record := by
  simp only [rule2Step, Step.run, passed, Except.map]

theorem rule3Step_run {check : PyValue → PyValue → PyValue → Except PyError Unit}
    (passed : check (record first) (record second) (record third) = .ok ()) :
    (rule3Step first second third check).run record = .ok record := by
  simp only [rule3Step, Step.run, passed, Except.map]

end Steps

section Outcome

variable {request failure completedAt : PyValue} {status : MutationStatus}
  {confirmations : List PyValue}

/-- Confirmations that an outcome of the request may include. -/
def ConfirmationsOf (request : PyValue) (confirmations : List PyValue) : Prop :=
  ∀ item ∈ confirmations, item.isA .mutationConfirmation = true ∧
    (item.get .generation).eq (request.get .expectedGeneration) = true

theorem confirmationsOf_nil {request : PyValue} : ConfirmationsOf request [] := by
  simp [ConfirmationsOf]

theorem runtimeItems_same (name : PyString) {expected : ValueType} {items : List PyValue}
    (each : ∀ item ∈ items, item.isA expected = true) :
    (FieldKind.runtimeValues expected).normalize name (.tuple items) = .ok (.tuple items) := by
  have fixed : items.mapM (runtimeItem name expected) = .ok items := by
    refine mapM_ok_self fun item member => ?_
    rw [runtimeItem, if_pos (each item member)]
  simp only [FieldKind.normalize, runtimeValues, sequenceOf, PyValue.sequence?, fixed, Except.map]

theorem enumeration_reworded {members : List PyString} {problem other : PyValue → Message}
    {value result : PyValue} (accepted : enumeration members problem value = .ok result) :
    enumeration members other value = .ok result := by
  unfold enumeration at accepted ⊢
  split at accepted
  · split at accepted
    · rename_i inMembers
      rw [if_pos inMembers]
      exact accepted
    · cases accepted
  · cases accepted

theorem MutationStatus.member_mem (status : MutationStatus) :
    status ∈ (StringEnum.members : List MutationStatus) := by
  cases status <;> decide

theorem optional_of_some {check : PyValue → Except PyError PyValue} {value : PyValue}
    (accepted : value = .none ∨ check value = .ok value) : optional check value = .ok value := by
  unfold optional
  split
  · rfl
  · rename_i notNone
    exact accepted.resolve_left notNone

/-- The constructor of `MutationOutcome` accepts what the rules on status,
failure and confirmations accept. -/
theorem outcome_made (isRequest : IsRequest request) {completed : PyString}
    (completedOk : timestamp completedAt = .ok completed)
    (confirmationsOk : ConfirmationsOf request confirmations)
    (failureOk : failure = .none ∨ failure.isA .mutationFailure = true)
    (allowed : outcomeRule (.member status) failure (.tuple confirmations) = .ok ()) :
    ∃ outcome, construct .mutationOutcome
      (outcomeArguments request status completedAt confirmations failure) = .ok outcome := by
  obtain ⟨stored, isA⟩ := isRequest
  have requestId := Stored.field_settled .requestId (.requiredString false) stored isA
    (by simp [checks]) (by decide)
  have generation := Stored.field_settled .expectedGeneration .identifier stored isA
    (by simp [checks]) (by decide)
  have operation := Stored.field_settled .operation
    (.enumeration (StringEnum.texts MutationOperation) (invalidValue "operation")) stored isA
    (by simp [checks, enumField]) (by decide)
  have completedAtOk : FieldKind.namedTimestamp.normalize FieldName.completedAt.text completedAt =
      .ok (.str completed) := by
    simp only [FieldKind.normalize, namedTimestamp_ok.mpr completedOk, Except.map]
  have generations : confirmationGenerations (request.get .expectedGeneration)
      (.tuple confirmations) = .ok () := by
    refine if_pos (List.all_eq_true.mpr fun item member => (confirmationsOk item member).2)
  have failureAccepted : (FieldKind.optionalRuntimeValue .mutationFailure).normalize
      FieldName.failure.text failure = .ok failure :=
    optional_of_some (failureOk.imp_right fun isFailure => if_pos isFailure)
  have known : ∀ argument ∈ outcomeArguments request status completedAt confirmations failure,
      argument.1 ∈ fieldNames .mutationOutcome := by
    simp only [outcomeArguments, List.forall_mem_cons]
    decide
  let record := initialRecord .mutationOutcome
    (outcomeArguments request status completedAt confirmations failure)
  refine construct_succeeds known rfl ⟨Function.update record .completedAt (.str completed), ?_⟩
  refine runSteps_cons_ok (fieldStep_same requestId) ?_
  refine runSteps_cons_ok (fieldStep_same (identifier_renamed generation)) ?_
  refine runSteps_cons_ok (fieldStep_same (enumeration_reworded operation)) ?_
  refine runSteps_cons_ok (fieldStep_same (enumeration_member status.member_mem)) ?_
  refine runSteps_cons_ok (fieldStep_run completedAtOk) ?_
  refine runSteps_cons_ok (fieldStep_same
    (runtimeItems_same _ fun item member => (confirmationsOk item member).1)) ?_
  refine runSteps_cons_ok (rule2Step_run generations) ?_
  refine runSteps_cons_ok (fieldStep_same failureAccepted) ?_
  refine runSteps_cons_ok (rule3Step_run allowed) ?_
  rfl

end Outcome

section Dispatched

variable {request snapshot dispatched sequence : PyValue}

theorem writtenNames_mutationRequest (record : Record) :
    writtenNames .mutationRequest record = fieldNames .mutationRequest := by
  rw [writtenNames, List.filter_eq_self]
  intro name member
  rfl

/-- Every check of a request but its own leaves the expected sequence alone. -/
theorem untouched_expectedSequence : ∀ check ∈ checks .mutationRequest,
    check = .field .expectedSequence .optionalIdentifier ∨
      FieldName.expectedSequence ∉ check.step.footprint := by
  simp only [checks, List.forall_mem_cons, List.not_mem_nil]
  refine ⟨?_, ?_, .inl trivial, ?_, ?_, ?_, ?_, ?_, ?_, ?_, by simp⟩
  all_goals exact .inr (by decide)

/-- What is dispatched is the request with another expected sequence. -/
theorem replaceExpectedSequence_ok (isRequest : IsRequest request)
    (settled : FieldKind.identifier.normalize FieldName.expectedSequence.text sequence =
      .ok sequence) :
    ∃ dispatched, replaceExpectedSequence request sequence = .ok dispatched ∧
      IsRequest dispatched ∧ dispatched.get .expectedSequence = sequence ∧
      ∀ name ∈ fieldNames .mutationRequest, name ≠ .expectedSequence →
        dispatched.get name = request.get name := by
  obtain ⟨stored, isA⟩ := isRequest
  obtain ⟨record, isValue, stepsSettled, fieldsStored⟩ := stored.record isA
  let changed : Record := Function.update record .expectedSequence sequence
  have changedOf : ∀ name, name ≠ .expectedSequence → changed name = record name :=
    fun name different => Function.update_of_ne different _ _
  have changedAt : changed .expectedSequence = sequence := Function.update_self _ _ _
  have changedSettled : ∀ step ∈ steps .mutationRequest, step.run changed = .ok changed := by
    intro step member
    obtain ⟨check, inChecks, isStep⟩ := List.mem_map.mp member
    rw [← isStep] at member ⊢
    rcases untouched_expectedSequence check inChecks with isOwn | untouched
    · rw [isOwn]
      refine fieldStep_same ?_
      rw [changedAt]
      exact optional_of_some (.inr settled)
    · refine Step.settled_congr (fun name inFootprint => ?_) (stepsSettled _ member)
      exact (changedOf name fun same => untouched (same ▸ inFootprint)).symm
  have arguments : ((fieldNames .mutationRequest).map fun name =>
      (name, if name = .expectedSequence then sequence else request.get name)) =
        argumentsOf (writtenNames .mutationRequest changed) changed := by
    rw [writtenNames_mutationRequest, argumentsOf]
    refine List.map_congr_left fun name member => ?_
    by_cases isSequence : name = .expectedSequence
    · rw [if_pos isSequence, isSequence, changedAt]
    · rw [if_neg isSequence, changedOf name isSequence, isValue, get_toRuntime member]
  refine ⟨toRuntime .mutationRequest (fieldNames .mutationRequest) changed, ?_, ⟨?_, ?_⟩, ?_, ?_⟩
  · rw [replaceExpectedSequence, arguments]
    exact construct_settled changedSettled
  · refine .runtime .mutationRequest changed changedSettled fun name member => ?_
    by_cases isSequence : name = .expectedSequence
    · obtain ⟨number, -, isNumber⟩ := map_ok settled
      rw [isSequence, changedAt, ← isNumber]
      exact .frozen (.int number)
    · rw [changedOf name isSequence]
      exact fieldsStored name member
  · rfl
  · rw [get_toRuntime (by decide), changedAt]
  · intro name member different
    rw [get_toRuntime member, changedOf name different, isValue, get_toRuntime member]

/-- A request is dispatched with the sequence of the preflight snapshot. -/
theorem dispatchedRequest_ok (isRequest : IsRequest request) (isSnapshot : IsSnapshot snapshot) :
    ∃ dispatched, dispatchedRequest request snapshot = .ok dispatched ∧ IsRequest dispatched ∧
      ∀ name ∈ fieldNames .mutationRequest, name ≠ .expectedSequence →
        dispatched.get name = request.get name := by
  rw [dispatchedRequest]
  split
  · exact ⟨request, rfl, isRequest, fun name member different => rfl⟩
  · have settled := Stored.field_settled .sequence .identifier isSnapshot.1 isSnapshot.2
      (by simp [checks]) (by decide)
    obtain ⟨dispatched, replaced, isDispatched, -, kept⟩ :=
      replaceExpectedSequence_ok isRequest (identifier_renamed settled)
    exact ⟨dispatched, replaced, isDispatched, kept⟩

end Dispatched

section Rules

variable {type : ValueType} {arguments : List (FieldName × PyValue)} {value : PyValue}
  {first second third : FieldName}

theorem rule2_of_settled {record : Record} {check : PyValue → PyValue → Except PyError Unit}
    (settled : ∀ step ∈ steps type, step.run record = .ok record)
    (member : Check.rule2 first second check ∈ checks type) :
    check (record first) (record second) = .ok () := by
  obtain ⟨passed, checked, -⟩ := map_ok (settled _ (List.mem_map.mpr ⟨_, member, rfl⟩))
  exact checked

theorem rule3_of_settled {record : Record}
    {check : PyValue → PyValue → PyValue → Except PyError Unit}
    (settled : ∀ step ∈ steps type, step.run record = .ok record)
    (member : Check.rule3 first second third check ∈ checks type) :
    check (record first) (record second) (record third) = .ok () := by
  obtain ⟨passed, checked, -⟩ := map_ok (settled _ (List.mem_map.mpr ⟨_, member, rfl⟩))
  exact checked

theorem construct_rule2 {check : PyValue → PyValue → Except PyError Unit}
    (made : construct type arguments = .ok value)
    (member : Check.rule2 first second check ∈ checks type) (isFirst : first ∈ fieldNames type)
    (isSecond : second ∈ fieldNames type) : check (value.get first) (value.get second) = .ok () := by
  obtain ⟨record, finished, isValue⟩ := construct_ok made
  rw [isValue, get_toRuntime isFirst, get_toRuntime isSecond]
  exact rule2_of_settled (runSteps_settled (steps_ordered type) finished) member

theorem construct_rule3 {check : PyValue → PyValue → PyValue → Except PyError Unit}
    (made : construct type arguments = .ok value)
    (member : Check.rule3 first second third check ∈ checks type)
    (isFirst : first ∈ fieldNames type) (isSecond : second ∈ fieldNames type)
    (isThird : third ∈ fieldNames type) :
    check (value.get first) (value.get second) (value.get third) = .ok () := by
  obtain ⟨record, finished, isValue⟩ := construct_ok made
  rw [isValue, get_toRuntime isFirst, get_toRuntime isSecond, get_toRuntime isThird]
  exact rule3_of_settled (runSteps_settled (steps_ordered type) finished) member

/-- The rules of an outcome on its status, its failure's phase and code, and its
confirmations. -/
structure OutcomeRules (outcome : PyValue) : Prop where
  isOutcome : outcome.isA .mutationOutcome = true
  classified : outcomeRule (outcome.get .status) (outcome.get .failure)
    (outcome.get .confirmations) = .ok ()
  generations : confirmationGenerations (outcome.get .generation)
    (outcome.get .confirmations) = .ok ()
  phase : outcome.get .failure = .none ∨
    phaseRule ((outcome.get .failure).get .phase) ((outcome.get .failure).get .code) = .ok ()

variable {request failure completedAt outcome : PyValue} {status : MutationStatus}
  {confirmations : List PyValue}

theorem failure_of_made (made : construct .mutationOutcome
    (outcomeArguments request status completedAt confirmations failure) = .ok outcome) :
    outcome.get .failure = failure := by
  have failureChecked := construct_field .failure (.optionalRuntimeValue .mutationFailure) made
    (by simp [checks]) (by decide)
  change optional _ failure = .ok (outcome.get .failure) at failureChecked
  unfold optional at failureChecked
  split at failureChecked
  · exact (Except.ok.inj failureChecked).symm
  · exact runtimeValue_same failureChecked

theorem outcomeRules_of_made
    (made : construct .mutationOutcome
      (outcomeArguments request status completedAt confirmations failure) = .ok outcome)
    (phase : failure = .none ∨ phaseRule (failure.get .phase) (failure.get .code) = .ok ()) :
    OutcomeRules outcome := by
  refine ⟨construct_isA made, construct_rule3 made (by simp [checks]) (by decide) (by decide)
    (by decide), construct_rule2 made (by simp [checks]) (by decide) (by decide), ?_⟩
  rw [failure_of_made made]
  exact phase

theorem status_of_made (made : construct .mutationOutcome
    (outcomeArguments request status completedAt confirmations failure) = .ok outcome) :
    outcome.get .status = .member status :=
  enumeration_same (construct_field .status (.enumeration (StringEnum.texts MutationStatus)
    (classification "outcome" MutationStatus)) made (by simp [checks, enumField]) (by decide))

theorem confirmations_of_made
    (confirmationsOk : ConfirmationsOf request confirmations)
    (made : construct .mutationOutcome
      (outcomeArguments request status completedAt confirmations failure) = .ok outcome) :
    outcome.get .confirmations = .tuple confirmations := by
  have checked := construct_field .confirmations (.runtimeValues .mutationConfirmation) made
    (by simp [checks]) (by decide)
  have same := runtimeItems_same FieldName.confirmations.text fun item member =>
    (confirmationsOk item member).1
  exact Except.ok.inj (checked.symm.trans same)

end Rules

section Failures

/-- A failure whose code belongs to its phase and its status. -/
structure Failure.Classified (failure : Failure) : Prop where
  phase : failure.code ∈ failureCodes failure.phase
  status : failure.code ∈ codesByStatus failure.status
  details : ∀ item ∈ failure.details, Frozen item.2

variable {failure : Failure}

theorem isOneOf_of_mem {codes : List MutationFailureCode} {code : MutationFailureCode}
    (member : code ∈ codes) : isOneOf codes (.member code) = true :=
  List.any_eq_true.mpr ⟨code, member, isMember_self code⟩

theorem mapping_frozen {name : PyString} {items : List (PyString × PyValue)}
    (frozen : ∀ item ∈ items, Frozen item.2) :
    FieldKind.mapping.normalize name (.dict items) = .ok (.frozenDict items) := by
  have fixed : freezeItems items = .ok items := by
    rw [freezeItems_eq]
    refine mapM_ok_self fun item member => ?_
    rw [(frozen item member).freezeJson_self]
    rfl
  change (freezeItems items).map PyValue.frozenDict = _
  rw [fixed]
  rfl

/-- The failure has a message, and one that its value takes. -/
def Failure.Written (failure : Failure) : Prop :=
  ∃ message, failure.message = some message ∧ message ≠ []

/-- The arguments of the failure value. -/
def Failure.arguments (failure : Failure) (message : PyString) : List (FieldName × PyValue) :=
  [(.phase, .member failure.phase), (.code, .member failure.code),
    (.message, .str message), (.retryable, .bool failure.retryable),
    (.details, .dict failure.details)]

theorem phaseRule_classified (classified : failure.Classified) :
    phaseRule (.member failure.phase) (.member failure.code) = .ok () := by
  refine if_pos (List.any_eq_true.mpr ⟨failure.phase, ?_, ?_⟩)
  · cases failure.phase <;> decide
  · rw [isMember_self, isOneOf_of_mem classified.phase]
    rfl

/-- The constructor of `MutationFailureValue` refuses an empty message only. -/
theorem failureValue_made (classified : failure.Classified) {message : PyString}
    (hasMessage : message ≠ []) :
    ∃ value, construct .mutationFailure (failure.arguments message) = .ok value := by
  have known : ∀ argument ∈ failure.arguments message,
      argument.1 ∈ fieldNames .mutationFailure := by
    simp only [Failure.arguments, List.forall_mem_cons]
    decide
  have phaseOk : failure.phase ∈ (StringEnum.members : List MutationFailurePhase) := by
    cases failure.phase <;> decide
  have codeOk : failure.code ∈ (StringEnum.members : List MutationFailureCode) := by
    cases failure.code <;> decide
  have messageOk : (FieldKind.requiredString false).normalize FieldName.message.text
      (.str message) = .ok (.str message) := by
    have notEmpty : message.isEmpty = false := by simpa using hasMessage
    simp [FieldKind.normalize, requiredString, notEmpty, Except.map]
  let record := initialRecord .mutationFailure (failure.arguments message)
  refine construct_succeeds known rfl
    ⟨Function.update record .details (.frozenDict failure.details), ?_⟩
  refine runSteps_cons_ok (fieldStep_same (enumeration_member phaseOk)) ?_
  refine runSteps_cons_ok (fieldStep_same (enumeration_member codeOk)) ?_
  refine runSteps_cons_ok (rule2Step_run (phaseRule_classified classified)) ?_
  refine runSteps_cons_ok (fieldStep_same messageOk) ?_
  refine runSteps_cons_ok (fieldStep_same rfl) ?_
  refine runSteps_cons_ok (fieldStep_run (mapping_frozen classified.details)) ?_
  rfl

theorem Failure.Classified.notConfirmed (classified : failure.Classified) :
    failure.status ≠ .confirmed := by
  intro isConfirmed
  have member := classified.status
  rw [isConfirmed] at member
  exact List.not_mem_nil member

theorem outcomeRule_classified (classified : failure.Classified) {value confirmations : PyValue}
    (isFailure : value.isA .mutationFailure = true)
    (sameCode : value.get .code = .member failure.code) :
    outcomeRule (.member failure.status) value confirmations = .ok () := by
  have notConfirmed :
      (PyValue.member failure.status).isMember MutationStatus.confirmed = false := by
    have different := classified.notConfirmed
    cases held : failure.status with
    | confirmed => exact absurd held different
    | rejected | failed | timedOut | cancelled => decide
  have notNone : (!value.isNone) = true := by
    cases value <;> first | rfl | cases isFailure
  have allowed : ((StringEnum.members : List MutationStatus).any fun candidate =>
      (PyValue.member failure.status).isMember candidate &&
        isOneOf (codesByStatus candidate) (value.get .code)) = true := by
    refine List.any_eq_true.mpr ⟨failure.status, MutationStatus.member_mem _, ?_⟩
    rw [isMember_self, sameCode, isOneOf_of_mem classified.status]
    rfl
  simp only [outcomeRule, notConfirmed, notNone, allowed, requireValue, if_true, Bool.false_eq_true,
    if_false, bind, Except.bind]

variable {request : PyValue} {confirmations : List PyValue} {now : DateTime}

theorem timestamp_now (utc : now.offset = some 0) :
    timestamp (.datetime now) = .ok (utcText now) := by
  change utcTimestamp now = _
  simp only [utcTimestamp, utc, astimezoneUtc_utc utc, replace_zone]

theorem failureOutcome_unwritten (unwritten : failure.message = none) :
    failureOutcome request failure confirmations now =
      .raised .failureValue (.python digitLimit) := by
  simp only [failureOutcome, unwritten]

/-- A classified failure gives an outcome that follows the rules and is not
confirmed, or its message is not written and no failure value can be made. -/
theorem failureOutcome_cases (isRequest : IsRequest request) (classified : failure.Classified)
    (confirmationsOk : ConfirmationsOf request confirmations) (utc : now.offset = some 0) :
    (∃ outcome, failureOutcome request failure confirmations now = .returned outcome ∧
      OutcomeRules outcome ∧ outcome.get .status = .member failure.status) ∨
    (¬ failure.Written ∧ ∃ error,
      failureOutcome request failure confirmations now = .raised .failureValue error) := by
  cases given : failure.message with
  | none =>
      refine .inr ⟨?_, _, failureOutcome_unwritten given⟩
      rintro ⟨message, isMessage, -⟩
      rw [given] at isMessage
      cases isMessage
  | some message =>
      cases made : construct .mutationFailure (failure.arguments message) with
      | error error =>
          refine .inr ⟨?_, .python error, ?_⟩
          · rintro ⟨other, isMessage, hasMessage⟩
            rw [given, Option.some.injEq] at isMessage
            obtain ⟨value, valueMade⟩ := failureValue_made classified (isMessage ▸ hasMessage)
            rw [made] at valueMade
            cases valueMade
          · rw [Failure.arguments] at made
            simp only [failureOutcome, given, made]
      | ok value =>
          have isFailure := construct_isA made
          have sameCode : value.get .code = .member failure.code :=
            enumeration_same (construct_field .code (.enumeration
              (StringEnum.texts MutationFailureCode) (classification "failure" MutationFailureCode))
              made (by simp [checks, enumField]) (by decide))
          have phaseOk : phaseRule (value.get .phase) (value.get .code) = .ok () :=
            construct_rule2 made (by simp [checks]) (by decide) (by decide)
          obtain ⟨outcome, outcomeMade⟩ := outcome_made isRequest (timestamp_now utc)
            confirmationsOk (.inr isFailure) (outcomeRule_classified classified isFailure sameCode)
          refine .inl ⟨outcome, ?_, outcomeRules_of_made outcomeMade (.inr phaseOk),
            status_of_made outcomeMade⟩
          rw [Failure.arguments] at made
          simp only [failureOutcome, given, made, outcomeMade]

/-- A returned failure outcome reports the status and the code of its failure. -/
theorem failureOutcome_reports {outcome : PyValue}
    (returned : failureOutcome request failure confirmations now = .returned outcome) :
    outcome.get .status = .member failure.status ∧
      (outcome.get .failure).get .code = .member failure.code := by
  unfold failureOutcome at returned
  split at returned
  · cases returned
  split at returned
  · cases returned
  · rename_i value made
    have sameCode : value.get .code = .member failure.code :=
      enumeration_same (construct_field .code (.enumeration (StringEnum.texts MutationFailureCode)
        (classification "failure" MutationFailureCode)) made (by simp [checks, enumField])
        (by decide))
    split at returned
    · rename_i outcomeMade
      cases returned
      refine ⟨status_of_made outcomeMade, ?_⟩
      rw [failure_of_made outcomeMade, sameCode]
    · cases returned

/-- The outcome of a snapshot that confirms every predicate. -/
theorem confirmedOutcome_returned {snapshot : PyValue} (isRequest : IsRequest request)
    (isSnapshot : IsSnapshot snapshot) (confirmationsOk : ConfirmationsOf request confirmations)
    (someConfirmed : confirmations ≠ []) :
    ∃ outcome, confirmedOutcome request snapshot confirmations = .returned outcome ∧
      OutcomeRules outcome ∧ outcome.get .confirmations = .tuple confirmations := by
  have captured := Stored.field_settled .capturedAt .timestamp isSnapshot.1 isSnapshot.2
    (by simp [checks]) (by decide)
  obtain ⟨completed, completedOk, -⟩ := map_ok captured
  have allowed : outcomeRule (.member MutationStatus.confirmed) .none (.tuple confirmations) =
      .ok () := by
    have notEmpty : confirmations.isEmpty = false := by simpa using someConfirmed
    have isConfirmed : (PyValue.member MutationStatus.confirmed).isMember
        MutationStatus.confirmed = true := isMember_self _
    simp [outcomeRule, isConfirmed, requireValue, PyValue.isNone, PyValue.sequence?, notEmpty, bind,
      Except.bind]
  obtain ⟨outcome, made⟩ := outcome_made isRequest completedOk confirmationsOk (.inl rfl) allowed
  refine ⟨outcome, ?_, outcomeRules_of_made made (.inl rfl), confirmations_of_made confirmationsOk made⟩
  simp only [confirmedOutcome, made]

end Failures

section Classification

theorem deadlineExpired_classified (problem : String) : (deadlineExpired problem).Classified :=
  ⟨by simp [deadlineExpired, failureCodes], by simp [deadlineExpired, codesByStatus],
    by simp [deadlineExpired]⟩

theorem confirmationTimeout_classified : confirmationTimeout.Classified :=
  ⟨by decide, by decide, by simp [confirmationTimeout]⟩

theorem runtimeUnavailable_classified (message : PyString) :
    (runtimeUnavailable message).Classified := by
  unfold runtimeUnavailable
  split
  · exact ⟨by simp [failureCodes], by simp [codesByStatus, failureCodes], by simp⟩
  · exact ⟨by simp [failureCodes], by simp [codesByStatus, failureCodes], by simp⟩

/-- An identifier of a value in normal form is an integer. -/
theorem Stored.identifier_frozen {value : PyValue} {type : ValueType} (name : FieldName)
    (stored : Stored value) (isType : value.isA type = true)
    (member : Check.field name .identifier ∈ checks type) (isField : name ∈ fieldNames type) :
    Frozen (value.get name) := by
  obtain ⟨number, -, isNumber⟩ :=
    map_ok (Stored.field_settled name .identifier stored isType member isField)
  rw [← isNumber]
  exact .int number

variable {request snapshot ticket : PyValue}

theorem staleGeneration_classified (isSnapshot : IsSnapshot snapshot) :
    (staleGeneration request snapshot).Classified := by
  refine ⟨by simp [staleGeneration, failureCodes],
    by simp [staleGeneration, codesByStatus, failureCodes], ?_⟩
  have frozen := Stored.identifier_frozen .generation isSnapshot.1 isSnapshot.2 (by simp [checks])
    (by decide)
  simpa [staleGeneration] using frozen

theorem staleSequence_classified (isSnapshot : IsSnapshot snapshot) :
    (staleSequence request snapshot).Classified := by
  refine ⟨by simp [staleSequence, failureCodes],
    by simp [staleSequence, codesByStatus, failureCodes], ?_⟩
  have frozen := Stored.identifier_frozen .sequence isSnapshot.1 isSnapshot.2 (by simp [checks])
    (by decide)
  simpa [staleSequence] using frozen

theorem generationLost_classified (isSnapshot : IsSnapshot snapshot) :
    (generationLost snapshot).Classified := by
  refine ⟨by simp [generationLost, failureCodes],
    by simp [generationLost, codesByStatus, failureCodes], ?_⟩
  have frozen := Stored.identifier_frozen .generation isSnapshot.1 isSnapshot.2 (by simp [checks])
    (by decide)
  simpa [generationLost] using frozen

/-- A dispatch ticket in normal form. -/
def IsTicket (ticket : PyValue) : Prop :=
  Stored ticket ∧ ticket.isA .mutationDispatchTicket = true

theorem exists_member_of_enumeration {Member : Type} [StringEnum Member]
    {problem : PyValue → Message} {value result : PyValue}
    (accepted : enumeration (StringEnum.texts Member) problem value = .ok result) :
    ∃ member ∈ (StringEnum.members : List Member), value = .member member := by
  unfold enumeration at accepted
  split at accepted
  · split at accepted
    · rename_i inTexts
      obtain ⟨member, inMembers, isText⟩ := List.mem_map.mp inTexts
      exact ⟨member, inMembers, by rw [PyValue.member, isText]⟩
    · cases accepted
  · cases accepted

theorem eq_member_of_isMember {Member : Type} [StringEnum Member] {member : Member}
    {value : PyValue} (same : value.isMember member = true) : value = .member member := by
  cases value with
  | str string => rw [PyValue.member, of_decide_eq_true same]
  | _ => cases same

theorem exists_code_of_isOneOf {codes : List MutationFailureCode} {value : PyValue}
    (isCode : isOneOf codes value = true) : ∃ code ∈ codes, value = .member code := by
  obtain ⟨code, inCodes, same⟩ := List.any_eq_true.mp isCode
  exact ⟨code, inCodes, eq_member_of_isMember same⟩

theorem requireValue_ok {condition : Bool} {problem : Message}
    (passed : requireValue condition problem = .ok ()) : condition = true := by
  cases condition with
  | true => rfl
  | false => cases passed

/-- The code of a ticket that is not ready is one of its disposition. -/
theorem dispositionCode_of_rule {disposition : MutationDispatchDisposition}
    {failureCode dispatchOrder : PyValue}
    (allowed : ticketRule (.member disposition) failureCode dispatchOrder = .ok ())
    (notReady : disposition ≠ .ready) :
    ∃ code ∈ dispositionCodes disposition, failureCode = .member code := by
  have ofRule : dispositionRule (.member disposition) failureCode disposition = .ok () := by
    have notMember : ¬ (PyValue.member disposition).isMember
        MutationDispatchDisposition.ready = true := by
      cases disposition with
      | ready => exact absurd rfl notReady
      | rejected | failed | cancelled => decide
    simp only [ticketRule, if_neg notMember] at allowed
    obtain ⟨given, -, rejected⟩ := bind_ok allowed
    obtain ⟨rejectedUnit, rejectedOk, failed⟩ := bind_ok rejected
    obtain ⟨failedUnit, failedOk, cancelledOk⟩ := bind_ok failed
    cases disposition with
    | ready => exact absurd rfl notReady
    | rejected => exact rejectedOk
    | failed => exact failedOk
    | cancelled => exact cancelledOk
  have holds := requireValue_ok ofRule
  rw [isMember_self] at holds
  exact exists_code_of_isOneOf holds

theorem ticketCode_member {code : MutationFailureCode}
    (isCode : ticket.get .failureCode = .member code) : ticketCode ticket = code := by
  rw [ticketCode, isCode]
  cases code <;> decide

theorem ticketClass_codes {disposition : MutationDispatchDisposition} (notReady : disposition ≠ .ready) :
    ∀ code ∈ dispositionCodes disposition,
      code ∈ failureCodes (ticketClass (.member disposition) code).2 ∧
      code ∈ codesByStatus (ticketClass (.member disposition) code).1 := by
  cases disposition with
  | ready => exact absurd rfl notReady
  | rejected => decide
  | failed => decide
  | cancelled => decide

theorem ticketFailure_classified (isTicket : IsTicket ticket)
    (notReady : (ticket.get .disposition).isMember MutationDispatchDisposition.ready = false) :
    (ticketFailure ticket).Classified := by
  obtain ⟨stored, isA⟩ := isTicket
  obtain ⟨record, isValue, settled, -⟩ := stored.record isA
  have allowed : ticketRule (ticket.get .disposition) (ticket.get .failureCode)
      (ticket.get .dispatchOrder) = .ok () := by
    rw [isValue, get_toRuntime (by decide), get_toRuntime (by decide), get_toRuntime (by decide)]
    exact rule3_of_settled settled (by simp [checks])
  obtain ⟨disposition, -, isDisposition⟩ := exists_member_of_enumeration
    (Stored.field_settled .disposition
      (.enumeration (StringEnum.texts MutationDispatchDisposition)
        (classification "dispatch" MutationDispatchDisposition)) stored isA
      (by simp [checks, enumField]) (by decide))
  rw [isDisposition] at allowed notReady
  have different : disposition ≠ .ready := by
    rintro rfl
    rw [isMember_self] at notReady
    cases notReady
  obtain ⟨code, inCodes, isCode⟩ := dispositionCode_of_rule allowed different
  obtain ⟨phaseOk, statusOk⟩ := ticketClass_codes different code inCodes
  refine ⟨?_, ?_, ?_⟩
  · rw [ticketFailure, ticketCode_member isCode, isDisposition]
    exact phaseOk
  · rw [ticketFailure, ticketCode_member isCode, isDisposition]
    exact statusOk
  · have frozen : ∀ name, Check.field name .identifier ∈ checks .mutationDispatchTicket →
        name ∈ fieldNames .mutationDispatchTicket → Frozen (ticket.get name) :=
      fun name member isField => stored.identifier_frozen name isA member isField
    simp only [ticketFailure, List.forall_mem_cons]
    exact ⟨frozen .dispatchOrder (by simp [checks]) (by decide),
      frozen .observedGeneration (by simp [checks]) (by decide),
      frozen .observedSequence (by simp [checks]) (by decide), by simp⟩

end Classification

end WyrePlumber.Runtime
