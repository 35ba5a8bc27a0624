import WyrePlumber.Runtime.ConfirmationSoundness

/-!
# Confirmation and the deadline

The executor reads the clock before a capture and never looks at the time at
which the snapshot was taken.  The captures that make a difference are those
begun before the deadline and ended at or after it.
-/

set_option autoImplicit false
set_option linter.constructorNameAsVariable false

namespace WyrePlumber.Runtime

open Python RecordValidation Results Calendar

/-- Both values are timestamps and the first is strictly earlier. -/
def Before (earlier later : PyValue) : Prop :=
  ∃ first second, parseTimestamp earlier = .ok first ∧ parseTimestamp later = .ok second ∧
    instant first < instant second

instance (earlier later : PyValue) : Decidable (Before earlier later) :=
  match first : parseTimestamp earlier, second : parseTimestamp later with
  | .ok moment, .ok limit =>
      decidable_of_iff (instant moment < instant limit)
        ⟨fun isEarlier => ⟨moment, limit, first, second, isEarlier⟩, by
          rintro ⟨otherMoment, otherLimit, sameMoment, sameLimit, isEarlier⟩
          rw [first] at sameMoment
          rw [second] at sameLimit
          cases sameMoment
          cases sameLimit
          exact isEarlier⟩
  | .error error, _ => .isFalse (by
      rintro ⟨moment, limit, parsed, -, -⟩
      rw [first] at parsed
      cases parsed)
  | _, .error error => .isFalse (by
      rintro ⟨moment, limit, -, parsed, -⟩
      rw [second] at parsed
      cases parsed)

def CapturedInTime (request snapshot : PyValue) : Prop :=
  Before (snapshot.get .capturedAt) (request.get .deadlineAt)

/-- The snapshot belongs to the generation of the request and its confirmations
are evaluated. -/
structure Evaluates (inputs : Inputs) (request snapshot : PyValue) (wanted confirmed : List PyValue) :
    Prop where
  generation : (snapshot.get .generation).eq (request.get .expectedGeneration) = true
  collected : confirmationsFromSnapshot inputs snapshot wanted = .ok confirmed

def Shows (inputs : Inputs) (request snapshot : PyValue) (wanted : List PyValue) : Prop :=
  ∃ confirmed, Evaluates inputs request snapshot wanted confirmed ∧
    confirmed.length = wanted.length

/-- The snapshot is looked at without ending the call. -/
def Lacks (inputs : Inputs) (request snapshot : PyValue) (wanted : List PyValue) : Prop :=
  ∃ confirmed, Evaluates inputs request snapshot wanted confirmed ∧
    confirmed.length ≠ wanted.length

section Polling

/-- A poll begun before the deadline captures the snapshot. -/
structure Polled (inputs : Inputs) (request : PyValue) (clockIndex captureIndex : Nat)
    (snapshot : PyValue) : Prop where
  begun : isExpired request (inputs.clock clockIndex) = .ok false
  captured : inputs.captures captureIndex = .snapshot snapshot

/-- The first polls go on without a result. -/
def GoesOn (inputs : Inputs) (request : PyValue) (wanted : List PyValue)
    (clockIndex captureIndex polls : Nat) : Prop :=
  ∀ poll < polls, ∃ snapshot,
    Polled inputs request (clockIndex + poll) (captureIndex + poll) snapshot ∧
      Lacks inputs request snapshot wanted

/-- The poll after the given number shows the predicates. -/
structure PollShows (inputs : Inputs) (request : PyValue) (wanted : List PyValue)
    (clockIndex captureIndex polls : Nat) (snapshot : PyValue) : Prop where
  before : GoesOn inputs request wanted clockIndex captureIndex polls
  polled : Polled inputs request (clockIndex + polls) (captureIndex + polls) snapshot
  shows : Shows inputs request snapshot wanted

variable {inputs : Inputs} {request : PyValue} {wanted : List PyValue}

theorem goesOn_zero {clockIndex captureIndex : Nat} :
    GoesOn inputs request wanted clockIndex captureIndex 0 := by
  intro poll isEarlier
  omega

theorem polled_succ {clockIndex captureIndex polls : Nat} {snapshot : PyValue} :
    Polled inputs request (clockIndex + (polls + 1)) (captureIndex + (polls + 1)) snapshot ↔
      Polled inputs request (clockIndex + 1 + polls) (captureIndex + 1 + polls) snapshot := by
  rw [show clockIndex + (polls + 1) = clockIndex + 1 + polls by omega,
    show captureIndex + (polls + 1) = captureIndex + 1 + polls by omega]

theorem goesOn_succ {clockIndex captureIndex polls : Nat} :
    GoesOn inputs request wanted clockIndex captureIndex (polls + 1) ↔
      (∃ snapshot, Polled inputs request clockIndex captureIndex snapshot ∧
        Lacks inputs request snapshot wanted) ∧
      GoesOn inputs request wanted (clockIndex + 1) (captureIndex + 1) polls := by
  constructor
  · intro goesOn
    refine ⟨goesOn 0 (by omega), fun poll isEarlier => ?_⟩
    obtain ⟨snapshot, polled, lacks⟩ := goesOn (poll + 1) (by omega)
    exact ⟨snapshot, polled_succ.mp polled, lacks⟩
  · rintro ⟨first, later⟩ poll isEarlier
    cases poll with
    | zero => exact first
    | succ poll =>
        obtain ⟨snapshot, polled, lacks⟩ := later poll (by omega)
        exact ⟨snapshot, polled_succ.mpr polled, lacks⟩

/-- A later poll that shows the predicates, seen from the poll before. -/
theorem pollShows_succ {clockIndex captureIndex polls : Nat} {snapshot : PyValue} :
    PollShows inputs request wanted clockIndex captureIndex (polls + 1) snapshot ↔
      (∃ first, Polled inputs request clockIndex captureIndex first ∧
        Lacks inputs request first wanted) ∧
      PollShows inputs request wanted (clockIndex + 1) (captureIndex + 1) polls snapshot := by
  constructor
  · intro pollShows
    obtain ⟨first, goesOn⟩ := goesOn_succ.mp pollShows.before
    exact ⟨first, goesOn, polled_succ.mp pollShows.polled, pollShows.shows⟩
  · rintro ⟨first, pollShows⟩
    exact ⟨goesOn_succ.mpr ⟨first, pollShows.before⟩, polled_succ.mpr pollShows.polled,
      pollShows.shows⟩

theorem poll_lacks {clockIndex captureIndex : Nat} {snapshot : PyValue}
    (fuel : Nat) (confirmations : List PyValue)
    (polled : Polled inputs request clockIndex captureIndex snapshot)
    (lacks : Lacks inputs request snapshot wanted) :
    ∃ confirmed, Evaluates inputs request snapshot wanted confirmed ∧
      poll inputs request wanted (fuel + 1) clockIndex captureIndex confirmations =
        (poll inputs request wanted fuel (clockIndex + 1) (captureIndex + 1) confirmed).map
          fun later => (snapshot :: later.1, later.2) := by
  obtain ⟨confirmed, evaluates, incomplete⟩ := lacks
  refine ⟨confirmed, evaluates, ?_⟩
  simp [poll, polled.begun, polled.captured, evaluates.generation, evaluates.collected, incomplete]

theorem poll_shows {clockIndex captureIndex : Nat} {snapshot : PyValue}
    (fuel : Nat) (confirmations : List PyValue)
    (polled : Polled inputs request clockIndex captureIndex snapshot)
    (shows : Shows inputs request snapshot wanted) :
    ∃ confirmed, Evaluates inputs request snapshot wanted confirmed ∧
      confirmed.length = wanted.length ∧
      poll inputs request wanted (fuel + 1) clockIndex captureIndex confirmations =
        some ([snapshot], confirmedOutcome request snapshot confirmed) := by
  obtain ⟨confirmed, evaluates, complete⟩ := shows
  refine ⟨confirmed, evaluates, complete, ?_⟩
  simp [poll, polled.begun, polled.captured, evaluates.generation, evaluates.collected, complete]

end Polling

section Results

variable {inputs : Inputs} {request snapshot : PyValue} {wanted confirmations : List PyValue}

def IsTimedOut (outcome : PyValue) : Prop :=
  (outcome.get .status).isMember MutationStatus.timedOut = true

theorem confirmedOutcome_isConfirmed {outcome : PyValue}
    (returned : confirmedOutcome request snapshot confirmations = .returned outcome) :
    IsConfirmed outcome := by
  unfold confirmedOutcome at returned
  split at returned
  · rename_i made construction
    cases returned
    rw [IsConfirmed, status_of_made construction]
    exact isMember_self _
  · cases returned

/-- A failure by the deadline has a message, so its outcome is returned. -/
theorem failureOutcome_timedOut {failure : Failure} {now : DateTime}
    (isRequest : IsRequest request) (classified : failure.Classified)
    (isTimedOut : failure.status = .timedOut) (written : failure.Written)
    (confirmationsOk : ConfirmationsOf request confirmations) (utc : now.offset = some 0) :
    ∃ outcome, failureOutcome request failure confirmations now = .returned outcome ∧
      IsTimedOut outcome := by
  rcases failureOutcome_cases isRequest classified confirmationsOk utc with
    ⟨outcome, returned, -, status⟩ | ⟨unwritten, -⟩
  · refine ⟨outcome, returned, ?_⟩
    rw [IsTimedOut, status, isTimedOut]
    exact isMember_self _
  · exact absurd written unwritten

/-- A snapshot that shows the predicates is confirmed by them. -/
theorem confirmedBy_of_shows (isRequest : IsRequest request) (isSnapshot : IsSnapshot snapshot)
    {confirmed : List PyValue} (evaluates : Evaluates inputs request snapshot wanted confirmed)
    (complete : confirmed.length = wanted.length) (someWanted : wanted ≠ []) :
    ∃ outcome, confirmedOutcome request snapshot confirmed = .returned outcome ∧
      IsConfirmed outcome ∧
      ConfirmedBy inputs (request.get .expectedGeneration) wanted outcome snapshot := by
  have someConfirmed : confirmed ≠ [] := by
    intro empty
    rw [empty, List.length_nil] at complete
    exact someWanted (List.length_eq_zero_iff.mp complete.symm)
  obtain ⟨outcome, returned, -, held⟩ := confirmedOutcome_returned isRequest isSnapshot
    (confirmationsOf_collected isSnapshot evaluates.generation evaluates.collected) someConfirmed
  refine ⟨outcome, returned, confirmedOutcome_isConfirmed returned, evaluates.generation, ?_⟩
  rw [held]
  exact confirmations_complete isSnapshot evaluates.collected complete

theorem parseTimestamp_now {now : DateTime} (utc : now.offset = some 0) :
    parseTimestamp (.datetime now) = .ok now := by
  have named : namedTimestamp (text "timestamp") (.datetime now) = .ok (utcText now) :=
    namedTimestamp_ok.mpr (timestamp_now utc)
  rw [parseTimestamp, named]
  simp only [bind, Except.bind, replace_utcText, fromisoformat_isoformatUtc utc]

theorem deadline_parses (isRequest : IsRequest request) :
    ∃ deadline, parseTimestamp (request.get .deadlineAt) = .ok deadline := by
  have settled := Stored.field_settled .deadlineAt .namedTimestamp isRequest.1 isRequest.2
    (by simp [checks]) (by decide)
  obtain ⟨written, accepted, isStored⟩ := map_ok settled
  obtain ⟨deadline, utc, isText⟩ := timestamp_utc (namedTimestamp_ok.mp accepted)
  refine ⟨deadline, ?_⟩
  rw [← isStored, isText]
  exact parseTimestamp_utcText utc

theorem isExpired_eq (isRequest : IsRequest request) {now : DateTime} (utc : now.offset = some 0) :
    ∃ deadline, parseTimestamp (request.get .deadlineAt) = .ok deadline ∧
      isExpired request now = .ok (decide (instant deadline ≤ instant now)) := by
  obtain ⟨deadline, parsed⟩ := deadline_parses isRequest
  refine ⟨deadline, parsed, ?_⟩
  simp only [isExpired, parseTimestamp_now utc, parsed, bind, Except.bind]

end Results

section Loop

variable {inputs : Inputs} {request : PyValue} {wanted : List PyValue}

/-- The loop up to a poll that shows the predicates ends with its snapshot. -/
theorem poll_confirms (wellTyped : inputs.WellTyped) (isRequest : IsRequest request)
    (someWanted : wanted ≠ []) {polls : Nat} :
    ∀ {clockIndex captureIndex : Nat} {confirmations : List PyValue} {snapshot : PyValue},
      PollShows inputs request wanted clockIndex captureIndex polls snapshot →
      ∃ snapshots outcome, poll inputs request wanted (polls + 1) clockIndex captureIndex
          confirmations = some (snapshots, .returned outcome) ∧
        snapshots.getLast? = some snapshot ∧ IsConfirmed outcome := by
  induction polls with
  | zero =>
      intro clockIndex captureIndex confirmations snapshot pollShows
      have isSnapshot : IsSnapshot snapshot :=
        (wellTyped.captures _ _ pollShows.polled.captured).stored
      obtain ⟨confirmed, evaluates, complete, polled⟩ :=
        poll_shows 0 confirmations pollShows.polled pollShows.shows
      obtain ⟨outcome, returned, isConfirmed, -⟩ :=
        confirmedBy_of_shows isRequest isSnapshot evaluates complete someWanted
      rw [returned] at polled
      exact ⟨[snapshot], outcome, polled, rfl, isConfirmed⟩
  | succ polls inductionHypothesis =>
      intro clockIndex captureIndex confirmations snapshot pollShows
      obtain ⟨⟨first, firstPolled, lacks⟩, shifted⟩ := pollShows_succ.mp pollShows
      obtain ⟨confirmed, -, continued⟩ :=
        poll_lacks (polls + 1) confirmations firstPolled lacks
      obtain ⟨snapshots, outcome, polled, isLast, isConfirmed⟩ := inductionHypothesis shifted
      refine ⟨first :: snapshots, outcome, ?_, ?_, isConfirmed⟩
      · rw [continued, polled, Option.map_some]
      · rw [List.getLast?_cons, isLast, Option.getD_some]

/-- A confirmed loop ended with a poll that shows the predicates. -/
theorem pollShows_of_confirmed (wellTyped : inputs.WellTyped) (isRequest : IsRequest request)
    (someWanted : wanted ≠ []) {fuel : Nat} :
    ∀ {clockIndex captureIndex : Nat} {confirmations : List PyValue}
      {polled : List PyValue × Result} {outcome : PyValue},
      ConfirmationsOf request confirmations →
      poll inputs request wanted fuel clockIndex captureIndex confirmations = some polled →
      polled.2 = .returned outcome → IsConfirmed outcome →
      ∃ polls snapshot, PollShows inputs request wanted clockIndex captureIndex polls snapshot ∧
        polled.1.getLast? = some snapshot ∧
        ConfirmedBy inputs (request.get .expectedGeneration) wanted outcome snapshot := by
  induction fuel with
  | zero =>
      intro clockIndex captureIndex confirmations polled outcome confirmationsOk finished
      cases finished
  | succ fuel inductionHypothesis =>
      rintro clockIndex captureIndex confirmations ⟨snapshots, result⟩ outcome confirmationsOk
        finished (returned : result = .returned outcome) isConfirmed
      have utc := wellTyped.clock (clockIndex + 1)
      rw [poll] at finished
      split at finished
      · cases finished
        cases returned
      · cases finished
        exact absurd isConfirmed (failureOutcome_notConfirmed isRequest
          confirmationTimeout_classified confirmationsOk utc returned)
      · rename_i begun
        split at finished
        · cases finished
          cases returned
        · cases finished
          exact absurd isConfirmed (failureOutcome_notConfirmed isRequest
            (runtimeUnavailable_classified _) confirmationsOk utc returned)
        · rename_i snapshot captured
          have isSnapshot : IsSnapshot snapshot := (wellTyped.captures _ _ captured).stored
          split at finished
          · cases finished
            exact absurd isConfirmed (failureOutcome_notConfirmed isRequest
              (generationLost_classified isSnapshot) confirmationsOk utc returned)
          · rename_i sameGeneration
            rw [Bool.not_eq_true', Bool.not_eq_false] at sameGeneration
            split at finished
            · cases finished
              cases returned
            · rename_i confirmed collected
              have evaluates : Evaluates inputs request snapshot wanted confirmed :=
                ⟨sameGeneration, collected⟩
              split at finished
              · rename_i complete
                cases finished
                obtain ⟨made, madeReturned, -, confirmedBy⟩ :=
                  confirmedBy_of_shows isRequest isSnapshot evaluates complete someWanted
                rw [madeReturned] at returned
                cases returned
                exact ⟨0, snapshot, ⟨goesOn_zero, ⟨begun, captured⟩, confirmed, evaluates, complete⟩,
                  rfl, confirmedBy⟩
              · rename_i incomplete
                obtain ⟨later, laterFinished, isPolled⟩ := Option.map_eq_some_iff.mp finished
                cases isPolled
                obtain ⟨polls, last, pollShows, isLast, confirmedBy⟩ := inductionHypothesis
                  (confirmationsOf_collected isSnapshot sameGeneration collected) laterFinished
                  returned isConfirmed
                have pollsOn : PollShows inputs request wanted clockIndex captureIndex (polls + 1)
                    last :=
                  pollShows_succ.mpr
                    ⟨⟨snapshot, ⟨begun, captured⟩, confirmed, evaluates, incomplete⟩, pollShows⟩
                refine ⟨polls + 1, last, pollsOn, ?_, confirmedBy⟩
                rw [List.getLast?_cons, isLast, Option.getD_some]

theorem poll_timesOut (wellTyped : inputs.WellTyped) (isRequest : IsRequest request)
    {polls : Nat} :
    ∀ {clockIndex captureIndex : Nat} {confirmations : List PyValue},
      ConfirmationsOf request confirmations →
      (∀ index, captureIndex ≤ index → ∃ snapshot confirmed,
        inputs.captures index = .snapshot snapshot ∧
          Evaluates inputs request snapshot wanted confirmed) →
      (∀ later snapshot,
        ¬ PollShows inputs request wanted clockIndex captureIndex later snapshot) →
      isExpired request (inputs.clock (clockIndex + polls)) = .ok true →
      ∃ snapshots outcome, poll inputs request wanted (polls + 1) clockIndex captureIndex
          confirmations = some (snapshots, .returned outcome) ∧ IsTimedOut outcome := by
  have timesOut : ∀ {clockIndex captureIndex fuel : Nat} {confirmations : List PyValue},
      ConfirmationsOf request confirmations →
      isExpired request (inputs.clock clockIndex) = .ok true →
      ∃ snapshots outcome, poll inputs request wanted (fuel + 1) clockIndex captureIndex
          confirmations = some (snapshots, .returned outcome) ∧ IsTimedOut outcome := by
    intro clockIndex captureIndex fuel confirmations confirmationsOk expired
    obtain ⟨outcome, returned, isTimedOut⟩ := failureOutcome_timedOut isRequest
      confirmationTimeout_classified rfl ⟨_, rfl, by simp [text]⟩ confirmationsOk
      (wellTyped.clock (clockIndex + 1))
    refine ⟨[], outcome, ?_, isTimedOut⟩
    simp only [poll, expired, returned]
  induction polls with
  | zero =>
      intro clockIndex captureIndex confirmations confirmationsOk evaluated noneShows expired
      exact timesOut confirmationsOk expired
  | succ polls inductionHypothesis =>
      intro clockIndex captureIndex confirmations confirmationsOk evaluated noneShows expired
      obtain ⟨deadline, -, read⟩ := isExpired_eq isRequest (wellTyped.clock clockIndex)
      by_cases late : instant deadline ≤ instant (inputs.clock clockIndex)
      · rw [decide_eq_true late] at read
        exact timesOut confirmationsOk read
      · rw [decide_eq_false late] at read
        obtain ⟨snapshot, confirmed, captured, evaluates⟩ := evaluated captureIndex le_rfl
        have isSnapshot : IsSnapshot snapshot := (wellTyped.captures _ _ captured).stored
        have polled : Polled inputs request clockIndex captureIndex snapshot := ⟨read, captured⟩
        by_cases complete : confirmed.length = wanted.length
        · exact absurd ⟨goesOn_zero, polled, confirmed, evaluates, complete⟩ (noneShows 0 snapshot)
        · have lacks : Lacks inputs request snapshot wanted := ⟨confirmed, evaluates, complete⟩
          obtain ⟨collected, collects, continued⟩ :=
            poll_lacks (polls + 1) confirmations polled lacks
          have noneLater : ∀ later shown, ¬ PollShows inputs request wanted (clockIndex + 1)
              (captureIndex + 1) later shown := by
            intro later shown pollShows
            exact noneShows (later + 1) shown
              (pollShows_succ.mpr ⟨⟨snapshot, polled, lacks⟩, pollShows⟩)
          have expiredLater : isExpired request (inputs.clock (clockIndex + 1 + polls)) =
              .ok true := by
            rw [Nat.add_right_comm]
            exact expired
          obtain ⟨snapshots, outcome, finished, isTimedOut⟩ := inductionHypothesis
            (confirmationsOf_collected isSnapshot collects.generation collects.collected)
            (fun index isLater => evaluated index (by omega)) noneLater expiredLater
          refine ⟨snapshot :: snapshots, outcome, ?_, isTimedOut⟩
          rw [continued, finished, Option.map_some]

end Loop

section Calls

/-- The preflight snapshot of a call and the capture that comes after it. -/
inductive Preflight (inputs : Inputs) (captureIndex : Nat) : Option PyValue → PyValue → Nat → Prop
  | given (snapshot : PyValue) : Preflight inputs captureIndex (some snapshot) snapshot captureIndex
  | captured (snapshot : PyValue) (captured : inputs.captures captureIndex = .snapshot snapshot) :
      Preflight inputs captureIndex none snapshot (captureIndex + 1)

/-- The preflight snapshot is not stale and is looked at before the deadline. -/
structure PreflightPassed (inputs : Inputs) (request : PyValue) (preflight : Option PyValue)
    (clockIndex captureIndex : Nat) (snapshot : PyValue) (nextCapture : Nat) : Prop where
  begun : isExpired request (inputs.clock clockIndex) = .ok false
  source : Preflight inputs captureIndex preflight snapshot nextCapture
  sequence : staleSequenceOf request snapshot = false

/-- The native side has accepted the request and the polling loop begins. -/
structure ComesToPolling (inputs : Inputs) (request : PyValue) (preflight : Option PyValue)
    (clockIndex captureIndex : Nat) (dispatched : PyValue) (nextCapture : Nat)
    (snapshot : PyValue) : Prop where
  passed : PreflightPassed inputs request preflight clockIndex captureIndex snapshot nextCapture
  lacks : Lacks inputs request snapshot (predicates request)
  inTime : isExpired request (inputs.clock (clockIndex + 1)) = .ok false
  asDispatched : dispatchedRequest request snapshot = .ok dispatched
  ready : ∃ ticket, inputs.dispatch dispatched = .ticket ticket ∧
    (ticket.get .disposition).isMember MutationDispatchDisposition.ready = true

/-- Every capture that is begun before the deadline and shows the predicates
ends before the deadline, unless the call has ended earlier. -/
structure Prompt (inputs : Inputs) (request : PyValue) (preflight : Option PyValue)
    (clockIndex captureIndex : Nat) : Prop where
  captured : preflight = none → ∀ snapshot nextCapture,
    PreflightPassed inputs request preflight clockIndex captureIndex snapshot nextCapture →
      Shows inputs request snapshot (predicates request) → CapturedInTime request snapshot
  polled : ∀ dispatched nextCapture first,
    ComesToPolling inputs request preflight clockIndex captureIndex dispatched nextCapture first →
      ∀ polls snapshot, PollShows inputs dispatched (predicates request) (clockIndex + 2)
        nextCapture polls snapshot → CapturedInTime request snapshot

/-- Nothing but the predicates and the deadline decides about the call. -/
structure Undisturbed (inputs : Inputs) (request : PyValue) (preflight : Option PyValue)
    (captureIndex : Nat) : Prop where
  sequence : ∀ snapshot nextCapture,
    Preflight inputs captureIndex preflight snapshot nextCapture →
      staleSequenceOf request snapshot = false
  given : ∀ snapshot ∈ preflight, ∃ confirmed,
    Evaluates inputs request snapshot (predicates request) confirmed
  evaluated : ∀ index, captureIndex ≤ index → ∃ snapshot confirmed,
    inputs.captures index = .snapshot snapshot ∧
      Evaluates inputs request snapshot (predicates request) confirmed
  ready : ∀ dispatched, ∃ ticket, inputs.dispatch dispatched = .ticket ticket ∧
    (ticket.get .disposition).isMember MutationDispatchDisposition.ready = true

/-- The snapshots of a call: the given one and all captures. -/
def Observable (inputs : Inputs) (preflight : Option PyValue) (captureIndex : Nat)
    (snapshot : PyValue) : Prop :=
  snapshot ∈ preflight ∨ ∃ index, captureIndex ≤ index ∧ inputs.captures index = .snapshot snapshot

/-- A confirmed call ended with a snapshot captured before the deadline that
shows the predicates, and a call that sees them only at or after the deadline
times out. -/
structure DeadlineKept (inputs : Inputs) (request : PyValue) (preflight : Option PyValue)
    (clockIndex captureIndex : Nat) : Prop where
  confirmed : ∀ fuel execution outcome,
    execute inputs fuel request preflight clockIndex captureIndex = some execution →
      execution.result = .returned outcome → IsConfirmed outcome →
      ∃ snapshot, execution.snapshots.getLast? = some snapshot ∧
        ConfirmedBy inputs (request.get .expectedGeneration) (predicates request) outcome
          snapshot ∧
        CapturedInTime request snapshot
  timedOut : Undisturbed inputs request preflight captureIndex →
    (∀ snapshot, Observable inputs preflight captureIndex snapshot →
      Shows inputs request snapshot (predicates request) → ¬ CapturedInTime request snapshot) →
    ∀ polls, isExpired request (inputs.clock (clockIndex + 2 + polls)) = .ok true →
      ∃ execution outcome, execute inputs (polls + 1) request preflight clockIndex captureIndex =
          some execution ∧ execution.result = .returned outcome ∧ IsTimedOut outcome

variable {inputs : Inputs} {request : PyValue} {preflight : Option PyValue}
  {clockIndex captureIndex : Nat}

/-- A preflight snapshot that shows the predicates ends the call. -/
theorem execute_preflight_shows {snapshot : PyValue} {nextCapture : Nat} {confirmed : List PyValue}
    (passed : PreflightPassed inputs request preflight clockIndex captureIndex snapshot nextCapture)
    (evaluates : Evaluates inputs request snapshot (predicates request) confirmed)
    (complete : confirmed.length = (predicates request).length) (fuel : Nat) :
    execute inputs fuel request preflight clockIndex captureIndex =
      some ⟨[snapshot], [], [], confirmedOutcome request snapshot confirmed⟩ := by
  obtain ⟨begun, source, sequence⟩ := passed
  cases source with
  | given =>
      simp [execute, begun, preflightStage, evaluates.generation, sequence, evaluates.collected,
        complete]
  | captured _ captured =>
      simp [execute, begun, captured, preflightStage, evaluates.generation, sequence,
        evaluates.collected, complete]

theorem execute_polling {snapshot dispatched : PyValue} {nextCapture : Nat}
    (comes : ComesToPolling inputs request preflight clockIndex captureIndex dispatched nextCapture
      snapshot) (fuel : Nat) :
    ∃ ticket, execute inputs fuel request preflight clockIndex captureIndex =
      (poll inputs dispatched (predicates request) fuel (clockIndex + 2) nextCapture []).map
        fun polled => ⟨snapshot :: polled.1, [dispatched], [ticket], polled.2⟩ := by
  obtain ⟨⟨begun, source, sequence⟩, ⟨confirmed, evaluates, incomplete⟩, inTime, replaced, ticket,
    answered, ready⟩ := comes
  refine ⟨ticket, ?_⟩
  cases source with
  | given =>
      simp [execute, begun, preflightStage, evaluates.generation, sequence, evaluates.collected,
        incomplete, inTime, dispatchStage, replaced, answered, ready]
  | captured _ captured =>
      simp [execute, begun, captured, preflightStage, evaluates.generation, sequence,
        evaluates.collected, incomplete, inTime, dispatchStage, replaced, answered, ready]

/-- How a confirmed call came to its outcome. -/
inductive ConfirmedCall (inputs : Inputs) (request : PyValue) (preflight : Option PyValue)
    (clockIndex captureIndex fuel : Nat) (execution : Execution) : Prop
  | atPreflight (snapshot : PyValue) (nextCapture : Nat) (confirmed : List PyValue)
      (passed : PreflightPassed inputs request preflight clockIndex captureIndex snapshot
        nextCapture)
      (evaluates : Evaluates inputs request snapshot (predicates request) confirmed)
      (complete : confirmed.length = (predicates request).length)
      (ended : execution = ⟨[snapshot], [], [], confirmedOutcome request snapshot confirmed⟩)
  | atPoll (snapshot dispatched ticket : PyValue) (nextCapture : Nat)
      (polled : List PyValue × Result)
      (comes : ComesToPolling inputs request preflight clockIndex captureIndex dispatched
        nextCapture snapshot)
      (polling : poll inputs dispatched (predicates request) fuel (clockIndex + 2) nextCapture [] =
        some polled)
      (ended : execution = ⟨snapshot :: polled.1, [dispatched], [ticket], polled.2⟩)

theorem dispatchStage_confirmed (wellTyped : inputs.WellTyped) (isRequest : IsRequest request)
    {snapshot : PyValue} (isSnapshot : IsSnapshot snapshot) {nextCapture fuel : Nat}
    {execution : Execution} {outcome : PyValue}
    (passed : PreflightPassed inputs request preflight clockIndex captureIndex snapshot nextCapture)
    (lacks : Lacks inputs request snapshot (predicates request))
    (inTime : isExpired request (inputs.clock (clockIndex + 1)) = .ok false)
    (finished : dispatchStage inputs fuel request snapshot (clockIndex + 2) nextCapture =
      some execution)
    (returned : execution.result = .returned outcome) (isConfirmed : IsConfirmed outcome) :
    ConfirmedCall inputs request preflight clockIndex captureIndex fuel execution := by
  obtain ⟨dispatched, replaced, isDispatched, -⟩ := dispatchedRequest_ok isRequest isSnapshot
  simp only [dispatchStage, replaced] at finished
  split at finished
  · cases finished
    cases returned
  · rename_i ticket answered
    split at finished
    · rename_i notReady
      cases finished
      have isTicket : IsTicket ticket := (wellTyped.tickets _ _ answered).stored
      exact absurd isConfirmed (failureOutcome_notConfirmed isDispatched
        (ticketFailure_classified isTicket (by simpa using notReady)) confirmationsOf_nil
        (wellTyped.clock _) returned)
    · rename_i ready
      obtain ⟨polled, polling, isExecution⟩ := Option.map_eq_some_iff.mp finished
      exact .atPoll snapshot dispatched ticket nextCapture polled
        ⟨passed, lacks, inTime, replaced, ticket, answered, by simpa using ready⟩ polling
        isExecution.symm

theorem preflightStage_confirmed (wellTyped : inputs.WellTyped) (isRequest : IsRequest request)
    {snapshot : PyValue} (isSnapshot : IsSnapshot snapshot) {nextCapture fuel : Nat}
    {execution : Execution} {outcome : PyValue}
    (begun : isExpired request (inputs.clock clockIndex) = .ok false)
    (source : Preflight inputs captureIndex preflight snapshot nextCapture)
    (finished : preflightStage inputs fuel request snapshot (clockIndex + 1) nextCapture =
      some execution)
    (returned : execution.result = .returned outcome) (isConfirmed : IsConfirmed outcome) :
    ConfirmedCall inputs request preflight clockIndex captureIndex fuel execution := by
  simp only [preflightStage] at finished
  split at finished
  · cases finished
    dsimp only at returned
    exact absurd isConfirmed (failureOutcome_notConfirmed isRequest
      (staleGeneration_classified isSnapshot) confirmationsOf_nil (wellTyped.clock _) returned)
  · rename_i sameGeneration
    rw [Bool.not_eq_true', Bool.not_eq_false] at sameGeneration
    split at finished
    · cases finished
      dsimp only at returned
      exact absurd isConfirmed (failureOutcome_notConfirmed isRequest
        (staleSequence_classified isSnapshot) confirmationsOf_nil (wellTyped.clock _) returned)
    · rename_i notStale
      have passed : PreflightPassed inputs request preflight clockIndex captureIndex snapshot
          nextCapture := ⟨begun, source, by simpa using notStale⟩
      split at finished
      · cases finished
        cases returned
      · rename_i confirmed collected
        have evaluates : Evaluates inputs request snapshot (predicates request) confirmed :=
          ⟨sameGeneration, collected⟩
        split at finished
        · rename_i complete
          exact .atPreflight snapshot nextCapture confirmed passed evaluates complete
            (Option.some.inj finished).symm
        · rename_i incomplete
          split at finished
          · cases finished
            cases returned
          · cases finished
            dsimp only at returned
            exact absurd isConfirmed (failureOutcome_notConfirmed isRequest
              (deadlineExpired_classified "mutation deadline expired during runtime preflight")
              (confirmationsOf_collected isSnapshot sameGeneration collected) (wellTyped.clock _)
              returned)
          · rename_i inTime
            exact dispatchStage_confirmed wellTyped isRequest isSnapshot passed
              ⟨confirmed, evaluates, incomplete⟩ inTime finished returned isConfirmed

theorem execute_confirmed (wellTyped : inputs.WellTyped) (isRequest : IsRequest request)
    (isSnapshot : ∀ snapshot ∈ preflight, IsSnapshot snapshot) {fuel : Nat} {execution : Execution}
    {outcome : PyValue}
    (finished : execute inputs fuel request preflight clockIndex captureIndex = some execution)
    (returned : execution.result = .returned outcome) (isConfirmed : IsConfirmed outcome) :
    ConfirmedCall inputs request preflight clockIndex captureIndex fuel execution := by
  unfold execute at finished
  split at finished
  · cases finished
    cases returned
  · cases finished
    dsimp only at returned
    exact absurd isConfirmed (failureOutcome_notConfirmed isRequest
      (deadlineExpired_classified "mutation deadline expired before runtime preflight")
      confirmationsOf_nil (wellTyped.clock _) returned)
  · rename_i begun
    split at finished
    · rename_i snapshot
      exact preflightStage_confirmed wellTyped isRequest (isSnapshot snapshot rfl) begun
        (.given snapshot) finished returned isConfirmed
    · split at finished
      · cases finished
        cases returned
      · cases finished
        dsimp only at returned
        exact absurd isConfirmed (failureOutcome_notConfirmed isRequest
          (runtimeUnavailable_classified _) confirmationsOf_nil (wellTyped.clock _) returned)
      · rename_i snapshot captured
        exact preflightStage_confirmed wellTyped isRequest
          (wellTyped.captures _ _ captured).stored begun (.captured snapshot captured) finished
          returned isConfirmed

theorem Preflight.isSnapshot (wellTyped : inputs.WellTyped)
    (isSnapshot : ∀ snapshot ∈ preflight, IsSnapshot snapshot) {snapshot : PyValue}
    {nextCapture : Nat} (source : Preflight inputs captureIndex preflight snapshot nextCapture) :
    IsSnapshot snapshot := by
  cases source with
  | given => exact isSnapshot snapshot rfl
  | captured _ captured => exact (wellTyped.captures _ _ captured).stored

end Calls

section Deadlines

variable {inputs : Inputs} {request : PyValue} {preflight : Option PyValue}
  {clockIndex captureIndex : Nat}

/-- A snapshot taken before a reading of the clock that is in time is in time. -/
theorem capturedInTime_of_reading (isRequest : IsRequest request) {snapshot : PyValue}
    {now captured : DateTime} (utc : now.offset = some 0)
    (parsed : parseTimestamp (snapshot.get .capturedAt) = .ok captured)
    (earlier : instant captured ≤ instant now) (inTime : isExpired request now = .ok false) :
    CapturedInTime request snapshot := by
  obtain ⟨deadline, deadlineParsed, read⟩ := isExpired_eq isRequest utc
  have notLate : ¬ instant deadline ≤ instant now := by
    rw [read] at inTime
    simpa using inTime
  exact ⟨captured, deadline, parsed, deadlineParsed, by omega⟩

def TakenBefore (preflight : Option PyValue) (now : DateTime) : Prop :=
  ∀ snapshot ∈ preflight, ∃ captured, parseTimestamp (snapshot.get .capturedAt) = .ok captured ∧
    instant captured ≤ instant now

theorem prompt_of_deadlineKept (wellTyped : inputs.WellTyped) (isRequest : IsRequest request)
    (isSnapshot : ∀ snapshot ∈ preflight, IsSnapshot snapshot)
    (kept : DeadlineKept inputs request preflight clockIndex captureIndex) :
    Prompt inputs request preflight clockIndex captureIndex where
  captured := by
    rintro - snapshot nextCapture passed ⟨confirmed, evaluates, complete⟩
    obtain ⟨outcome, returned, isConfirmed, -⟩ := confirmedBy_of_shows isRequest
      (passed.source.isSnapshot wellTyped isSnapshot) evaluates complete (predicates_ne_nil isRequest)
    have finished := execute_preflight_shows passed evaluates complete 0
    obtain ⟨last, isLast, -, inTime⟩ := kept.confirmed _ _ outcome finished returned isConfirmed
    rw [List.getLast?_singleton, Option.some.injEq] at isLast
    exact isLast ▸ inTime
  polled := by
    intro dispatched nextCapture first comes polls snapshot pollShows
    have isFirst := comes.passed.source.isSnapshot wellTyped isSnapshot
    obtain ⟨replaced, asDispatched, isDispatched, -⟩ := dispatchedRequest_ok isRequest isFirst
    have sameRequest : replaced = dispatched :=
      Except.ok.inj (asDispatched.symm.trans comes.asDispatched)
    obtain ⟨ticket, polling⟩ := execute_polling comes (polls + 1)
    obtain ⟨snapshots, outcome, polled, isLast, isConfirmed⟩ := poll_confirms wellTyped
      (sameRequest ▸ isDispatched) (predicates_ne_nil isRequest) pollShows
    rw [polled, Option.map_some] at polling
    obtain ⟨last, held, -, inTime⟩ := kept.confirmed _ _ outcome polling rfl isConfirmed
    rw [List.getLast?_cons, isLast, Option.getD_some, Option.some.injEq] at held
    exact held ▸ inTime

theorem Prompt.preflight_inTime (wellTyped : inputs.WellTyped) (isRequest : IsRequest request)
    (taken : TakenBefore preflight (inputs.clock clockIndex))
    (prompt : Prompt inputs request preflight clockIndex captureIndex) {snapshot : PyValue}
    {nextCapture : Nat}
    (passed : PreflightPassed inputs request preflight clockIndex captureIndex snapshot nextCapture)
    (shows : Shows inputs request snapshot (predicates request)) :
    CapturedInTime request snapshot := by
  cases source : preflight with
  | none => exact prompt.captured source snapshot nextCapture passed shows
  | some given =>
      have isGiven : given = snapshot := by
        have ofSource := passed.source
        rw [source] at ofSource
        cases ofSource
        rfl
      obtain ⟨captured, parsed, earlier⟩ := taken snapshot (by simp [source, isGiven])
      exact capturedInTime_of_reading isRequest (wellTyped.clock _) parsed earlier passed.begun

theorem confirmed_of_prompt (wellTyped : inputs.WellTyped) (isRequest : IsRequest request)
    (isSnapshot : ∀ snapshot ∈ preflight, IsSnapshot snapshot)
    (taken : TakenBefore preflight (inputs.clock clockIndex))
    (prompt : Prompt inputs request preflight clockIndex captureIndex) {fuel : Nat}
    {execution : Execution} {outcome : PyValue}
    (finished : execute inputs fuel request preflight clockIndex captureIndex = some execution)
    (returned : execution.result = .returned outcome) (isConfirmed : IsConfirmed outcome) :
    ∃ snapshot, execution.snapshots.getLast? = some snapshot ∧
      ConfirmedBy inputs (request.get .expectedGeneration) (predicates request) outcome snapshot ∧
      CapturedInTime request snapshot := by
  cases execute_confirmed wellTyped isRequest isSnapshot finished returned isConfirmed with
  | atPreflight snapshot nextCapture confirmed passed evaluates complete ended =>
      have isPreflight := passed.source.isSnapshot wellTyped isSnapshot
      obtain ⟨made, madeReturned, -, confirmedBy⟩ := confirmedBy_of_shows isRequest isPreflight
        evaluates complete (predicates_ne_nil isRequest)
      subst ended
      have sameOutcome : made = outcome := by
        rw [madeReturned] at returned
        exact Result.returned.inj returned
      exact ⟨snapshot, rfl, sameOutcome ▸ confirmedBy,
        prompt.preflight_inTime wellTyped isRequest taken passed ⟨confirmed, evaluates, complete⟩⟩
  | atPoll snapshot dispatched ticket nextCapture polled comes polling ended =>
      have isFirst := comes.passed.source.isSnapshot wellTyped isSnapshot
      obtain ⟨replaced, asDispatched, isDispatched, keptFields⟩ :=
        dispatchedRequest_ok isRequest isFirst
      have sameRequest : replaced = dispatched :=
        Except.ok.inj (asDispatched.symm.trans comes.asDispatched)
      subst sameRequest
      subst ended
      obtain ⟨polls, last, pollShows, isLast, confirmedBy⟩ := pollShows_of_confirmed wellTyped
        isDispatched (predicates_ne_nil isRequest) confirmationsOf_nil polling returned
        isConfirmed
      rw [keptFields .expectedGeneration (by decide) (by decide)] at confirmedBy
      refine ⟨last, ?_, confirmedBy, prompt.polled _ _ _ comes polls last pollShows⟩
      rw [List.getLast?_cons, isLast, Option.getD_some]

theorem Preflight.observable {snapshot : PyValue} {nextCapture : Nat}
    (source : Preflight inputs captureIndex preflight snapshot nextCapture) :
    Observable inputs preflight captureIndex snapshot ∧ captureIndex ≤ nextCapture := by
  cases source with
  | given => exact ⟨.inl rfl, le_rfl⟩
  | captured _ captured => exact ⟨.inr ⟨captureIndex, le_rfl, captured⟩, Nat.le_succ _⟩

theorem Undisturbed.preflighted (undisturbed : Undisturbed inputs request preflight captureIndex) :
    ∃ snapshot nextCapture confirmed,
      Preflight inputs captureIndex preflight snapshot nextCapture ∧
        Evaluates inputs request snapshot (predicates request) confirmed := by
  cases given : preflight with
  | some snapshot =>
      obtain ⟨confirmed, evaluates⟩ := undisturbed.given snapshot (by simp [given])
      exact ⟨snapshot, captureIndex, confirmed, .given snapshot, evaluates⟩
  | none =>
      obtain ⟨snapshot, confirmed, captured, evaluates⟩ :=
        undisturbed.evaluated captureIndex le_rfl
      exact ⟨snapshot, captureIndex + 1, confirmed, .captured snapshot captured, evaluates⟩

/-- The loop of an undisturbed call that sees nothing in time runs into the
deadline. -/
theorem polling_timesOut (wellTyped : inputs.WellTyped) (isRequest : IsRequest request)
    (isSnapshot : ∀ snapshot ∈ preflight, IsSnapshot snapshot)
    (prompt : Prompt inputs request preflight clockIndex captureIndex)
    (undisturbed : Undisturbed inputs request preflight captureIndex)
    (noneInTime : ∀ snapshot, Observable inputs preflight captureIndex snapshot →
      Shows inputs request snapshot (predicates request) → ¬ CapturedInTime request snapshot)
    {dispatched first : PyValue} {nextCapture polls : Nat}
    (comes : ComesToPolling inputs request preflight clockIndex captureIndex dispatched nextCapture
      first)
    (expired : isExpired request (inputs.clock (clockIndex + 2 + polls)) = .ok true) :
    ∃ execution outcome, execute inputs (polls + 1) request preflight clockIndex captureIndex =
        some execution ∧ execution.result = .returned outcome ∧ IsTimedOut outcome := by
  have isFirst := comes.passed.source.isSnapshot wellTyped isSnapshot
  have laterCaptures := comes.passed.source.observable.2
  obtain ⟨replaced, asDispatched, isDispatched, kept⟩ := dispatchedRequest_ok isRequest isFirst
  have sameRequest : replaced = dispatched :=
    Except.ok.inj (asDispatched.symm.trans comes.asDispatched)
  subst sameRequest
  have sameDeadline : replaced.get .deadlineAt = request.get .deadlineAt :=
    kept .deadlineAt (by decide) (by decide)
  have sameGeneration : replaced.get .expectedGeneration = request.get .expectedGeneration :=
    kept .expectedGeneration (by decide) (by decide)
  have evaluated : ∀ index, nextCapture ≤ index → ∃ snapshot confirmed,
      inputs.captures index = .snapshot snapshot ∧
        Evaluates inputs replaced snapshot (predicates request) confirmed := by
    intro index isLater
    obtain ⟨snapshot, confirmed, captured, evaluates⟩ := undisturbed.evaluated index (by omega)
    refine ⟨snapshot, confirmed, captured, ?_, evaluates.collected⟩
    rw [sameGeneration]
    exact evaluates.generation
  have noneShows : ∀ later snapshot, ¬ PollShows inputs replaced (predicates request)
      (clockIndex + 2) nextCapture later snapshot := by
    intro later snapshot pollShows
    obtain ⟨confirmed, evaluates, complete⟩ := pollShows.shows
    have sameEvaluation : Evaluates inputs request snapshot (predicates request) confirmed :=
      ⟨sameGeneration ▸ evaluates.generation, evaluates.collected⟩
    have isObservable : Observable inputs preflight captureIndex snapshot :=
      .inr ⟨nextCapture + later, by omega, pollShows.polled.captured⟩
    exact noneInTime snapshot isObservable ⟨confirmed, sameEvaluation, complete⟩
      (prompt.polled _ _ _ comes later snapshot pollShows)
  obtain ⟨ticket, polling⟩ := execute_polling comes (polls + 1)
  obtain ⟨snapshots, outcome, polled, isTimedOut⟩ := poll_timesOut wellTyped isDispatched
    confirmationsOf_nil evaluated noneShows (by rw [isExpired, sameDeadline]; exact expired)
  rw [polled, Option.map_some] at polling
  exact ⟨_, outcome, polling, rfl, isTimedOut⟩

theorem timedOut_of_prompt (wellTyped : inputs.WellTyped) (isRequest : IsRequest request)
    (isSnapshot : ∀ snapshot ∈ preflight, IsSnapshot snapshot)
    (taken : TakenBefore preflight (inputs.clock clockIndex))
    (prompt : Prompt inputs request preflight clockIndex captureIndex)
    (undisturbed : Undisturbed inputs request preflight captureIndex)
    (noneInTime : ∀ snapshot, Observable inputs preflight captureIndex snapshot →
      Shows inputs request snapshot (predicates request) → ¬ CapturedInTime request snapshot)
    {polls : Nat} (expired : isExpired request (inputs.clock (clockIndex + 2 + polls)) = .ok true) :
    ∃ execution outcome, execute inputs (polls + 1) request preflight clockIndex captureIndex =
        some execution ∧ execution.result = .returned outcome ∧ IsTimedOut outcome := by
  obtain ⟨deadline, -, read⟩ := isExpired_eq isRequest (wellTyped.clock clockIndex)
  by_cases late : instant deadline ≤ instant (inputs.clock clockIndex)
  · rw [decide_eq_true late] at read
    obtain ⟨outcome, returned, isTimedOut⟩ := failureOutcome_timedOut isRequest
      (deadlineExpired_classified "mutation deadline expired before runtime preflight") rfl
      ⟨_, rfl, by simp [text]⟩ confirmationsOf_nil
      (wellTyped.clock (clockIndex + 1))
    refine ⟨⟨[], [], [], .returned outcome⟩, outcome, ?_, rfl, isTimedOut⟩
    simp only [execute, read, returned]
  · rw [decide_eq_false late] at read
    obtain ⟨snapshot, nextCapture, confirmed, source, evaluates⟩ := undisturbed.preflighted
    have isPreflight := source.isSnapshot wellTyped isSnapshot
    have notStale := undisturbed.sequence snapshot nextCapture source
    have passed : PreflightPassed inputs request preflight clockIndex captureIndex snapshot
        nextCapture := ⟨read, source, notStale⟩
    by_cases complete : confirmed.length = (predicates request).length
    · have shows : Shows inputs request snapshot (predicates request) :=
        ⟨confirmed, evaluates, complete⟩
      exact absurd (prompt.preflight_inTime wellTyped isRequest taken passed shows)
        (noneInTime snapshot source.observable.1 shows)
    · have lacks : Lacks inputs request snapshot (predicates request) :=
        ⟨confirmed, evaluates, complete⟩
      obtain ⟨sameDeadline, -, readAgain⟩ := isExpired_eq isRequest (wellTyped.clock (clockIndex + 1))
      cases inTime : isExpired request (inputs.clock (clockIndex + 1)) with
      | error error =>
          rw [readAgain] at inTime
          cases inTime
      | ok isLate =>
          cases isLate with
          | true =>
              obtain ⟨outcome, returned, isTimedOut⟩ := failureOutcome_timedOut isRequest
                (deadlineExpired_classified "mutation deadline expired during runtime preflight")
                rfl ⟨_, rfl, by simp [text]⟩
                (confirmationsOf_collected isPreflight evaluates.generation evaluates.collected)
                (wellTyped.clock (clockIndex + 2))
              refine ⟨⟨[snapshot], [], [], .returned outcome⟩, outcome, ?_, rfl, isTimedOut⟩
              cases source with
              | given =>
                  simp [execute, read, preflightStage, evaluates.generation, notStale,
                    evaluates.collected, complete, inTime, returned]
              | captured _ captured =>
                  simp [execute, read, captured, preflightStage, evaluates.generation, notStale,
                    evaluates.collected, complete, inTime, returned]
          | false =>
              obtain ⟨dispatched, replaced, -, -⟩ := dispatchedRequest_ok isRequest isPreflight
              exact polling_timesOut wellTyped isRequest isSnapshot prompt undisturbed noneInTime
                ⟨passed, lacks, inTime, replaced, undisturbed.ready dispatched⟩ expired

/-- The deadline is kept exactly when the captures that show the predicates are
prompt. -/
theorem deadlineKept_iff (wellTyped : inputs.WellTyped)
    (isRequest : Built .mutationRequest request)
    (isSnapshot : ∀ snapshot ∈ preflight, Built .runtimeSnapshot snapshot)
    (taken : TakenBefore preflight (inputs.clock clockIndex)) :
    DeadlineKept inputs request preflight clockIndex captureIndex ↔
      Prompt inputs request preflight clockIndex captureIndex := by
  have storedSnapshot : ∀ snapshot ∈ preflight, IsSnapshot snapshot :=
    fun snapshot member => (isSnapshot snapshot member).stored
  constructor
  · exact prompt_of_deadlineKept wellTyped isRequest.stored storedSnapshot
  · intro prompt
    constructor
    · intro fuel execution outcome finished returned isConfirmed
      exact confirmed_of_prompt wellTyped isRequest.stored storedSnapshot taken prompt finished
        returned isConfirmed
    · intro undisturbed noneInTime polls expired
      exact timedOut_of_prompt wellTyped isRequest.stored storedSnapshot taken prompt undisturbed
        noneInTime expired

/-- The node that appears after the preflight is captured in time. -/
theorem deadlineKept_appearing : DeadlineKept appearing presentRequest.value none 0 0 := by
  have inTime : ∀ index snapshot, appearing.captures index = .snapshot snapshot →
      CapturedInTime presentRequest.value snapshot := by
    intro index snapshot captured
    cases index with
    | zero =>
        have isSnapshot : (snapshotOf 1 1 []).value = snapshot := by injection captured
        subst isSnapshot
        show Before _ _
        decide +kernel
    | succ index =>
        have isSnapshot : (snapshotOf 1 2 withNode).value = snapshot := by injection captured
        subst isSnapshot
        show Before _ _
        decide +kernel
  refine (deadlineKept_iff appearing_wellTyped presentRequest_built (by simp)
    (by simp [TakenBefore])).mpr ⟨?_, ?_⟩
  · intro _ snapshot nextCapture passed shows
    cases passed.source with
    | captured _ captured => exact inTime _ _ captured
  · intro dispatched nextCapture first comes polls snapshot pollShows
    exact inTime _ _ pollShows.polled.captured

def afternoon : DateTime := { morning with hour := 12, timeValid := by decide }

def lateSnapshot : Expression :=
  .call .runtimeSnapshot
    [(.generation, .int 1), (.sequence, .int 2),
      (.capturedAt, .str (text "2026-01-01T00:00:06Z")),
      (.health, .call .connectionHealth
        [(.state, .str (text "connected")), (.generation, .int 1)]),
      (.nodes, .tuple [.call .node [(.id, .int 7)]])]

/-- The second capture begins before the deadline and ends after it. -/
def straddling : Inputs where
  clock
    | 0 | 1 | 2 => morning
    | _ => afternoon
  captures
    | 0 => .snapshot (snapshotOf 1 1 []).value
    | _ => .snapshot lateSnapshot.value
  dispatch _ := .ticket readyTicket.value
  classAttribute _ := .none

/-- The outcome is confirmed and the last snapshot is not in time. -/
def confirmedLate (request : PyValue) (execution : Execution) : Bool :=
  match execution.result, execution.snapshots.getLast? with
  | .returned outcome, some snapshot =>
      (outcome.get .status).isMember MutationStatus.confirmed &&
        !decide (Before (snapshot.get .capturedAt) (request.get .deadlineAt))
  | _, _ => false

theorem straddling_wellTyped : straddling.WellTyped where
  clock index := by
    match index with
    | 0 | 1 | 2 => rfl
    | _ + 3 => rfl
  captures index snapshot captured := by
    cases index with
    | zero =>
        have isSnapshot : (snapshotOf 1 1 []).value = snapshot := by injection captured
        exact isSnapshot ▸ emptySnapshot_built
    | succ index =>
        have isSnapshot : lateSnapshot.value = snapshot := by injection captured
        subst isSnapshot
        exact Expression.value_built (by decide +kernel)
  tickets request ticket answered := by
    have isTicket : readyTicket.value = ticket := by injection answered
    exact isTicket ▸ readyTicket_built

theorem straddling_not_kept :
    straddling.WellTyped ∧ ¬ DeadlineKept straddling presentRequest.value none 0 0 := by
  refine ⟨straddling_wellTyped, fun kept => ?_⟩
  have isLate : (execute straddling 2 presentRequest.value none 0 0).any
      (confirmedLate presentRequest.value) = true := by
    decide +kernel
  obtain ⟨execution, finished, late⟩ := Option.any_eq_true _ _ |>.mp isLate
  unfold confirmedLate at late
  split at late
  · rename_i outcome snapshot returned isLast
    rw [Bool.and_eq_true, Bool.not_eq_true', decide_eq_false_iff_not] at late
    obtain ⟨last, held, -, inTime⟩ := kept.confirmed 2 execution outcome finished returned late.1
    rw [isLast, Option.some.injEq] at held
    exact late.2 (held ▸ inTime)
  · cases late

end Deadlines

end WyrePlumber.Runtime
