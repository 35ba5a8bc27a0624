import WyrePlumber.Runtime.Expressions
import WyrePlumber.Runtime.Outcomes

/-!
# Runs of the executor

Over all readings of the clock, captures and tickets: a run dispatches at most
once and only when the preflight allows it, confirms only what one snapshot
shows, and never offers its outcome's constructor what it refuses.
-/

set_option autoImplicit false
set_option linter.constructorNameAsVariable false

namespace WyrePlumber.Runtime

open Python RecordValidation Results Calendar

/-- Captures give snapshots, dispatches give tickets, and the clock shows UTC. -/
structure Inputs.WellTyped (inputs : Inputs) : Prop where
  clock : ∀ index, (inputs.clock index).offset = some 0
  captures : ∀ index snapshot, inputs.captures index = .snapshot snapshot →
    Built .runtimeSnapshot snapshot
  tickets : ∀ request ticket, inputs.dispatch request = .ticket ticket →
    Built .mutationDispatchTicket ticket

def IsConfirmed (outcome : PyValue) : Prop :=
  (outcome.get .status).isMember MutationStatus.confirmed = true

/-- The snapshot has the generation and its confirmations are those of the
outcome, one for each predicate in order. -/
structure ConfirmedBy (inputs : Inputs) (generation : PyValue) (wanted : List PyValue)
    (outcome snapshot : PyValue) : Prop where
  generation : (snapshot.get .generation).eq generation = true
  predicates : List.Forall₂ (Confirms inputs snapshot) wanted (outcome.get .confirmations).items

/-- What a result may be after the given snapshots. -/
structure ResultSound (inputs : Inputs) (generation : PyValue) (wanted snapshots : List PyValue)
    (result : Result) : Prop where
  accepted : ∀ exception, result ≠ .raised .outcome exception
  rules : ∀ outcome, result = .returned outcome → OutcomeRules outcome
  confirmed : ∀ outcome, result = .returned outcome → IsConfirmed outcome →
    ∃ snapshot ∈ snapshots, ConfirmedBy inputs generation wanted outcome snapshot

section Results

variable {inputs : Inputs} {generation : PyValue} {wanted snapshots : List PyValue}
  {request snapshot : PyValue} {confirmations : List PyValue}

theorem resultSound_raised {site : Site} {exception : Raised} (elsewhere : site ≠ .outcome) :
    ResultSound inputs generation wanted snapshots (.raised site exception) where
  accepted := by
    intro other same
    cases same
    exact elsewhere rfl
  rules := by
    intro outcome returned
    cases returned
  confirmed := by
    intro outcome returned
    cases returned

/-- A structured failure confirms nothing. -/
theorem failureOutcome_notConfirmed {failure : Failure} {now : DateTime} {outcome : PyValue}
    (isRequest : IsRequest request) (classified : failure.Classified)
    (confirmationsOk : ConfirmationsOf request confirmations) (utc : now.offset = some 0)
    (isOutcome : failureOutcome request failure confirmations now = .returned outcome) :
    ¬ IsConfirmed outcome := by
  rcases failureOutcome_cases isRequest classified confirmationsOk utc with
    ⟨other, returned, -, status⟩ | ⟨-, error, raised⟩
  · rw [returned] at isOutcome
    cases isOutcome
    intro isConfirmed
    rw [IsConfirmed, status] at isConfirmed
    have notConfirmed := classified.notConfirmed
    cases held : failure.status with
    | confirmed => exact absurd held notConfirmed
    | rejected | failed | timedOut | cancelled =>
        rw [held] at isConfirmed
        exact absurd isConfirmed (by decide)
  · rw [raised] at isOutcome
    cases isOutcome

theorem resultSound_failure {failure : Failure} {now : DateTime} (isRequest : IsRequest request)
    (classified : failure.Classified) (confirmationsOk : ConfirmationsOf request confirmations)
    (utc : now.offset = some 0) :
    ResultSound inputs generation wanted snapshots
      (failureOutcome request failure confirmations now) where
  accepted := by
    intro exception same
    rcases failureOutcome_cases isRequest classified confirmationsOk utc with
      ⟨outcome, returned, -, -⟩ | ⟨-, error, raised⟩
    · rw [returned] at same
      cases same
    · rw [raised] at same
      cases same
  rules := by
    intro outcome isOutcome
    rcases failureOutcome_cases isRequest classified confirmationsOk utc with
      ⟨other, returned, rules, -⟩ | ⟨-, error, raised⟩
    · rw [returned] at isOutcome
      cases isOutcome
      exact rules
    · rw [raised] at isOutcome
      cases isOutcome
  confirmed := by
    intro outcome isOutcome isConfirmed
    exact absurd isConfirmed
      (failureOutcome_notConfirmed isRequest classified confirmationsOk utc isOutcome)

theorem confirmationsOf_collected (isSnapshot : IsSnapshot snapshot)
    (sameGeneration : (snapshot.get .generation).eq (request.get .expectedGeneration) = true)
    (collected : confirmationsFromSnapshot inputs snapshot wanted = .ok confirmations) :
    ConfirmationsOf request confirmations := by
  intro item member
  obtain ⟨isConfirmation, itemGeneration⟩ :=
    confirmations_isConfirmation isSnapshot collected item member
  exact ⟨isConfirmation, itemGeneration ▸ sameGeneration⟩

/-- A snapshot that confirms every predicate gives a sound confirmed outcome. -/
theorem resultSound_confirmed (isRequest : IsRequest request) (isSnapshot : IsSnapshot snapshot)
    (sameGeneration : (snapshot.get .generation).eq (request.get .expectedGeneration) = true)
    (collected : confirmationsFromSnapshot inputs snapshot wanted = .ok confirmations)
    (complete : confirmations.length = wanted.length) (someWanted : wanted ≠ []) :
    ResultSound inputs (request.get .expectedGeneration) wanted [snapshot]
      (confirmedOutcome request snapshot confirmations) := by
  have someConfirmed : confirmations ≠ [] := by
    intro empty
    rw [empty, List.length_nil] at complete
    exact someWanted (List.length_eq_zero_iff.mp complete.symm)
  obtain ⟨outcome, returned, rules, held⟩ := confirmedOutcome_returned isRequest isSnapshot
    (confirmationsOf_collected isSnapshot sameGeneration collected) someConfirmed
  rw [returned]
  refine ⟨fun exception same => (by cases same), ?_, ?_⟩
  · intro other same
    cases same
    exact rules
  · intro other same _
    cases same
    refine ⟨snapshot, List.mem_singleton_self _, sameGeneration, ?_⟩
    rw [held]
    exact confirmations_complete isSnapshot collected complete

theorem ResultSound.mono {more : List PyValue} {result : Result}
    (sound : ResultSound inputs generation wanted snapshots result)
    (included : ∀ snapshot ∈ snapshots, snapshot ∈ more) :
    ResultSound inputs generation wanted more result where
  accepted := sound.accepted
  rules := sound.rules
  confirmed := by
    intro outcome returned isConfirmed
    obtain ⟨snapshot, member, confirmedBy⟩ := sound.confirmed outcome returned isConfirmed
    exact ⟨snapshot, included snapshot member, confirmedBy⟩

end Results

section Runs

variable {inputs : Inputs} {request : PyValue}

/-- The polling loop: every result it ends with is sound after the snapshots it
captured. -/
theorem poll_sound (wellTyped : inputs.WellTyped) (isRequest : IsRequest request)
    {wanted : List PyValue} (someWanted : wanted ≠ []) {fuel : Nat} :
    ∀ {clockIndex captureIndex : Nat} {confirmations : List PyValue}
      {polled : List PyValue × Result}, ConfirmationsOf request confirmations →
      poll inputs request wanted fuel clockIndex captureIndex confirmations = some polled →
      ResultSound inputs (request.get .expectedGeneration) wanted polled.1 polled.2 := by
  induction fuel with
  | zero =>
      intro clockIndex captureIndex confirmations polled confirmationsOk finished
      cases finished
  | succ fuel inductionHypothesis =>
      rintro clockIndex captureIndex confirmations ⟨snapshots, result⟩ confirmationsOk finished
      show ResultSound inputs (request.get .expectedGeneration) wanted snapshots result
      have utc := wellTyped.clock (clockIndex + 1)
      rw [poll] at finished
      split at finished
      · cases finished
        exact resultSound_raised (by decide)
      · cases finished
        exact resultSound_failure isRequest confirmationTimeout_classified confirmationsOk utc
      · split at finished
        · cases finished
          exact resultSound_raised (by decide)
        · cases finished
          exact resultSound_failure isRequest (runtimeUnavailable_classified _) confirmationsOk utc
        · rename_i snapshot captured
          have isSnapshot : IsSnapshot snapshot := (wellTyped.captures _ _ captured).stored
          split at finished
          · cases finished
            exact resultSound_failure isRequest (generationLost_classified isSnapshot)
              confirmationsOk utc
          · rename_i sameGeneration
            rw [Bool.not_eq_true', Bool.not_eq_false] at sameGeneration
            split at finished
            · cases finished
              exact resultSound_raised (by decide)
            · rename_i confirmed collected
              split at finished
              · rename_i complete
                cases finished
                exact resultSound_confirmed isRequest isSnapshot sameGeneration collected complete
                  someWanted
              · obtain ⟨later, laterFinished, isPolled⟩ := Option.map_eq_some_iff.mp finished
                have ofLater := inductionHypothesis
                  (confirmationsOf_collected isSnapshot sameGeneration collected) laterFinished
                cases isPolled
                exact ofLater.mono fun earlier member => List.mem_cons_of_mem _ member

/-- When a request may be dispatched after a preflight snapshot. -/
structure DispatchAllowed (inputs : Inputs) (request snapshot dispatched : PyValue)
    (clockIndex : Nat) : Prop where
  generation : (snapshot.get .generation).eq (request.get .expectedGeneration) = true
  sequence : request.get .expectedSequence ≠ .none →
    (snapshot.get .sequence).eq (nextSequence (request.get .expectedSequence)) = true
  unsatisfied : ¬ ∀ predicate ∈ predicates request, predicateMatches predicate
    (snapshotObservation inputs snapshot (predicate.get .target)) = .ok true
  inTime : isExpired request (inputs.clock clockIndex) = .ok false
  asDispatched : dispatchedRequest request snapshot = .ok dispatched

/-- What a call of `_execute_confirmed_mutation` does, with the reading of the
clock that decides on the dispatch. -/
structure ExecutionSound (inputs : Inputs) (request : PyValue) (clockIndex : Nat)
    (execution : Execution) : Prop where
  once : execution.dispatched.length ≤ 1
  allowed : ∀ dispatched ∈ execution.dispatched, ∃ snapshot,
    execution.snapshots.head? = some snapshot ∧
      DispatchAllowed inputs request snapshot dispatched clockIndex
  result : ResultSound inputs (request.get .expectedGeneration) (predicates request)
    execution.snapshots execution.result
  ready : ∀ outcome, execution.result = .returned outcome → IsConfirmed outcome →
    ∀ ticket ∈ execution.tickets,
      (ticket.get .disposition).isMember MutationDispatchDisposition.ready = true

theorem executionSound_undispatched {clockIndex : Nat} {snapshots : List PyValue} {result : Result}
    (sound : ResultSound inputs (request.get .expectedGeneration) (predicates request)
      snapshots result) :
    ExecutionSound inputs request clockIndex ⟨snapshots, [], [], result⟩ where
  once := Nat.zero_le 1
  allowed := by simp
  result := sound
  ready := by simp

theorem predicates_ne_nil (isRequest : IsRequest request) : predicates request ≠ [] := by
  have settled := Stored.field_settled .confirmationPredicates .predicateValues isRequest.1
    isRequest.2 (by simp [checks]) (by decide)
  intro empty
  change predicateValues _ _ = _ at settled
  unfold predicateValues at settled
  split at settled
  · cases settled
  · rename_i notEmpty
    unfold runtimeValues sequenceOf at settled
    split at settled
    · rename_i items isSequence
      rw [predicates, PyValue.items, isSequence] at empty
      rw [isSequence] at notEmpty
      exact notEmpty (by simpa using empty)
    · cases settled

theorem dispatchStage_sound (wellTyped : inputs.WellTyped) (isRequest : IsRequest request)
    {snapshot : PyValue} (isSnapshot : IsSnapshot snapshot) {clockIndex captureIndex fuel : Nat}
    {execution : Execution}
    (allowed : ∀ dispatched, dispatchedRequest request snapshot = .ok dispatched →
      DispatchAllowed inputs request snapshot dispatched clockIndex)
    (finished : dispatchStage inputs fuel request snapshot (clockIndex + 1) captureIndex =
      some execution) :
    ExecutionSound inputs request clockIndex execution := by
  obtain ⟨dispatched, replaced, isDispatched, kept⟩ := dispatchedRequest_ok isRequest isSnapshot
  have allowedNow := allowed dispatched replaced
  have sameGeneration : dispatched.get .expectedGeneration = request.get .expectedGeneration :=
    kept .expectedGeneration (by decide) (by decide)
  have allowedOnce : ∀ other ∈ [dispatched], ∀ later : List PyValue, ∃ first,
      (snapshot :: later).head? = some first ∧
        DispatchAllowed inputs request first other clockIndex := by
    intro other member later
    exact ⟨snapshot, rfl, List.mem_singleton.mp member ▸ allowedNow⟩
  simp only [dispatchStage, replaced] at finished
  split at finished
  · cases finished
    exact ⟨le_rfl, fun other member => allowedOnce other member [], resultSound_raised (by decide),
      by simp⟩
  · rename_i ticket answered
    split at finished
    · rename_i notReady
      cases finished
      have isTicket : IsTicket ticket := (wellTyped.tickets _ _ answered).stored
      have sound : ∀ snapshots, ResultSound inputs (request.get .expectedGeneration)
          (predicates request) snapshots (failureOutcome dispatched (ticketFailure ticket) []
            (inputs.clock (clockIndex + 1))) := fun snapshots =>
        resultSound_failure isDispatched
          (ticketFailure_classified isTicket (by simpa using notReady))
          confirmationsOf_nil (wellTyped.clock _)
      refine ⟨le_rfl, fun other member => allowedOnce other member [], sound _, ?_⟩
      intro outcome returned isConfirmed
      obtain ⟨shown, member, -⟩ := (sound []).confirmed outcome returned isConfirmed
      cases member
    · rename_i ready
      obtain ⟨polled, polling, isExecution⟩ := Option.map_eq_some_iff.mp finished
      have sound := poll_sound wellTyped isDispatched (predicates_ne_nil isRequest)
        confirmationsOf_nil polling
      rw [sameGeneration] at sound
      rw [← isExecution]
      refine ⟨le_rfl, fun other member => allowedOnce other member polled.1,
        sound.mono fun earlier member => List.mem_cons_of_mem _ member, ?_⟩
      intro outcome returned isConfirmed other member
      rw [List.mem_singleton.mp member]
      simpa using ready

theorem preflightStage_sound (wellTyped : inputs.WellTyped) (isRequest : IsRequest request)
    {snapshot : PyValue} (isSnapshot : IsSnapshot snapshot) {clockIndex captureIndex fuel : Nat}
    {execution : Execution}
    (finished : preflightStage inputs fuel request snapshot clockIndex captureIndex =
      some execution) :
    ExecutionSound inputs request clockIndex execution := by
  simp only [preflightStage] at finished
  split at finished
  · cases finished
    exact executionSound_undispatched (resultSound_failure isRequest
      (staleGeneration_classified isSnapshot) confirmationsOf_nil (wellTyped.clock _))
  · rename_i sameGeneration
    rw [Bool.not_eq_true', Bool.not_eq_false] at sameGeneration
    split at finished
    · cases finished
      exact executionSound_undispatched (resultSound_failure isRequest
        (staleSequence_classified isSnapshot) confirmationsOf_nil (wellTyped.clock _))
    · rename_i notStale
      split at finished
      · cases finished
        exact executionSound_undispatched (resultSound_raised (by decide))
      · rename_i confirmations collected
        split at finished
        · rename_i complete
          cases finished
          exact executionSound_undispatched (resultSound_confirmed isRequest isSnapshot
            sameGeneration collected complete (predicates_ne_nil isRequest))
        · rename_i incomplete
          split at finished
          · cases finished
            exact executionSound_undispatched (resultSound_raised (by decide))
          · cases finished
            exact executionSound_undispatched (resultSound_failure isRequest
              (deadlineExpired_classified _)
              (confirmationsOf_collected isSnapshot sameGeneration collected) (wellTyped.clock _))
          · rename_i inTime
            refine dispatchStage_sound wellTyped isRequest isSnapshot (fun dispatched replaced => ?_)
              finished
            refine ⟨sameGeneration, fun given => ?_, ?_, inTime, replaced⟩
            · simp only [staleSequenceOf, Bool.and_eq_true, Bool.not_eq_true', not_and,
                Bool.not_eq_false] at notStale
              refine notStale ?_
              cases held : request.get .expectedSequence with
              | none => exact absurd held given
              | _ => rfl
            · exact fun satisfied => incomplete (confirmations_length collected satisfied)

end Runs

section Soundness

variable {inputs : Inputs} {request : PyValue} {preflight : Option PyValue}

/-- The loop ends with the first reading past the deadline at the latest. -/
theorem poll_finishes {wanted : List PyValue} {polls : Nat} :
    ∀ {clockIndex captureIndex : Nat} {confirmations : List PyValue},
      isExpired request (inputs.clock (clockIndex + polls)) = .ok true →
      (poll inputs request wanted (polls + 1) clockIndex captureIndex confirmations).isSome =
        true := by
  induction polls with
  | zero =>
      intro clockIndex captureIndex confirmations expired
      rw [Nat.add_zero] at expired
      simp [poll, expired]
  | succ polls inductionHypothesis =>
      intro clockIndex captureIndex confirmations expired
      have later : isExpired request (inputs.clock (clockIndex + 1 + polls)) = .ok true := by
        rw [Nat.add_right_comm, Nat.add_assoc]
        exact expired
      rw [poll]
      split
      · rfl
      · rfl
      · split
        · rfl
        · rfl
        · split
          · rfl
          · split
            · rfl
            · split
              · rfl
              · rw [Option.isSome_map]
                exact inductionHypothesis later

/-- A call ends with the first reading past the deadline at the latest. -/
theorem execute_finishes (wellTyped : inputs.WellTyped) (isRequest : Built .mutationRequest request)
    (isSnapshot : ∀ snapshot ∈ preflight, Built .runtimeSnapshot snapshot)
    {polls clockIndex captureIndex : Nat}
    (expired : isExpired request (inputs.clock (clockIndex + 2 + polls)) = .ok true) :
    (execute inputs (polls + 1) request preflight clockIndex captureIndex).isSome = true := by
  have ofDispatch : ∀ {snapshot : PyValue} {captureIndex : Nat}, IsSnapshot snapshot →
      (dispatchStage inputs (polls + 1) request snapshot (clockIndex + 2)
        captureIndex).isSome = true := by
    intro snapshot captureIndex isSnapshot
    obtain ⟨dispatched, replaced, -, kept⟩ := dispatchedRequest_ok isRequest.stored isSnapshot
    have sameDeadline : dispatched.get .deadlineAt = request.get .deadlineAt :=
      kept .deadlineAt (by decide) (by decide)
    simp only [dispatchStage, replaced]
    split
    · rfl
    · split
      · rfl
      · rw [Option.isSome_map]
        refine poll_finishes ?_
        rw [isExpired, sameDeadline]
        exact expired
  have ofPreflight : ∀ {snapshot : PyValue} {captureIndex : Nat}, IsSnapshot snapshot →
      (preflightStage inputs (polls + 1) request snapshot (clockIndex + 1)
        captureIndex).isSome = true := by
    intro snapshot captureIndex isSnapshot
    simp only [preflightStage]
    split
    · rfl
    · split
      · rfl
      · split
        · rfl
        · split
          · rfl
          · split
            · rfl
            · rfl
            · exact ofDispatch isSnapshot
  unfold execute
  split
  · rfl
  · rfl
  · split
    · exact ofPreflight (isSnapshot _ rfl).stored
    · split
      · rfl
      · rfl
      · rename_i snapshot captured
        exact ofPreflight (wellTyped.captures _ _ captured).stored

/-- Every finished call is sound, whatever the clock, the captures and the
dispatch answer. -/
theorem execute_sound (wellTyped : inputs.WellTyped) (isRequest : Built .mutationRequest request)
    (isSnapshot : ∀ snapshot ∈ preflight, Built .runtimeSnapshot snapshot)
    {fuel clockIndex captureIndex : Nat} {execution : Execution}
    (finished : execute inputs fuel request preflight clockIndex captureIndex = some execution) :
    ExecutionSound inputs request (clockIndex + 1) execution := by
  have request_ok : IsRequest request := isRequest.stored
  unfold execute at finished
  split at finished
  · cases finished
    exact executionSound_undispatched (resultSound_raised (by decide))
  · cases finished
    exact executionSound_undispatched (resultSound_failure request_ok
      (deadlineExpired_classified _) confirmationsOf_nil (wellTyped.clock _))
  · split at finished
    · rename_i snapshot
      exact preflightStage_sound wellTyped request_ok (isSnapshot snapshot rfl).stored finished
    · split at finished
      · cases finished
        exact executionSound_undispatched (resultSound_raised (by decide))
      · cases finished
        exact executionSound_undispatched (resultSound_failure request_ok
          (runtimeUnavailable_classified _) confirmationsOf_nil (wellTyped.clock _))
      · rename_i snapshot captured
        exact preflightStage_sound wellTyped request_ok
          (wellTyped.captures _ _ captured).stored finished

def presentRequest : Expression :=
  let target := .call .mutationTarget
    [(.objectKind, .str (text "node")), (.objectId, .int 7)]
  .call .mutationRequest
    [(.requestId, .str (text "r")), (.expectedGeneration, .int 1),
      (.operation, .str (text "set_parameter")), (.target, target),
      (.requestedAt, .str (text "2026-01-01T00:00:00Z")),
      (.deadlineAt, .str (text "2026-01-01T00:00:05Z")),
      (.confirmationPredicates, .tuple [.call .confirmationPredicate
        [(.target, target), (.operator, .str (text "present"))]])]

def snapshotOf (generation sequence : Int) (contents : List (FieldName × Expression)) : Expression :=
  .call .runtimeSnapshot
    (([(.generation, .int generation), (.sequence, .int sequence),
      (.capturedAt, .str (text "2026-01-01T00:00:01Z")),
      (.health, .call .connectionHealth
        [(.state, .str (text "connected")), (.generation, .int generation)])] :
      List (FieldName × Expression)) ++ contents)

def withNode : List (FieldName × Expression) := [(.nodes, .tuple [.call .node [(.id, .int 7)]])]

def readyTicket : Expression :=
  .call .mutationDispatchTicket
    [(.requestId, .str (text "r")), (.operation, .str (text "set_parameter")),
      (.dispatchOrder, .int 1), (.disposition, .str (text "ready")),
      (.expectedGeneration, .int 1), (.observedGeneration, .int 1), (.observedSequence, .int 1)]

theorem presentRequest_built : Built .mutationRequest presentRequest.value :=
  Expression.value_built (by decide +kernel)

theorem emptySnapshot_built : Built .runtimeSnapshot (snapshotOf 1 1 []).value :=
  Expression.value_built (by decide +kernel)

theorem readyTicket_built : Built .mutationDispatchTicket readyTicket.value :=
  Expression.value_built (by decide +kernel)

def morning : DateTime where
  year := 2026
  month := 1
  day := 1
  hour := 0
  minute := 0
  second := 1
  microsecond := 0
  offset := some 0
  dateValid := by decide
  timeValid := by decide
  offsetValid := by decide

/-- The node appears between the preflight and the first poll. -/
def appearing : Inputs where
  clock _ := morning
  captures
    | 0 => .snapshot (snapshotOf 1 1 []).value
    | _ => .snapshot (snapshotOf 1 2 withNode).value
  dispatch _ := .ticket readyTicket.value
  classAttribute _ := .none

theorem appearing_wellTyped : appearing.WellTyped where
  clock _ := rfl
  captures index snapshot captured := by
    cases index with
    | zero =>
        have isSnapshot : (snapshotOf 1 1 []).value = snapshot := by injection captured
        exact isSnapshot ▸ emptySnapshot_built
    | succ index =>
        have isSnapshot : (snapshotOf 1 2 withNode).value = snapshot := by injection captured
        subst isSnapshot
        exact Expression.value_built (by decide +kernel)
  tickets request ticket answered := by
    have isTicket : readyTicket.value = ticket := by injection answered
    exact isTicket ▸ readyTicket_built

/-- The call dispatches once and is confirmed by the second snapshot. -/
theorem execute_sound_appearing :
    ∃ execution, execute appearing 2 presentRequest.value none 0 0 = some execution ∧
      ExecutionSound appearing presentRequest.value 1 execution := by
  have finishes : (execute appearing 2 presentRequest.value none 0 0).isSome = true := by
    decide +kernel
  obtain ⟨execution, finished⟩ := Option.isSome_iff_exists.mp finishes
  exact ⟨execution, finished,
    execute_sound appearing_wellTyped presentRequest_built (by simp) finished⟩

end Soundness

end WyrePlumber.Runtime
