import Mathlib.Data.List.Dedup
import WyrePlumber.Runtime.ControlRequests
import WyrePlumber.Runtime.Deadline

/-!
# The guard of profile and route selection

The checks in front of a selection as a list of decisions, each with the state
of the preflight snapshot that calls for it, and the helpers against it.  They
keep to the list unless an exception takes the place of the rejection: the
observed route has the name and direction of the detached one but no SPA device
identity to read, or the message of a stale snapshot has a number to write that
is longer than Python's limit.
-/

set_option autoImplicit false
set_option linter.constructorNameAsVariable false

namespace WyrePlumber.Runtime

open Python RecordValidation Results Calendar

section Decisions

/-- What a selection helper is to do after its preflight. -/
inductive Decision where
  | dispatch
  | confirm
  | reject (code : MutationFailureCode)

/-- A detached value and what makes an observed entry the same, and selectable
under the profiles of the snapshot. -/
structure Selection where
  selected : PyValue
  entries : FieldName
  sameIdentity : PyValue → Prop
  compatible : PyValue → PyValue → Prop

def SameGeneration (request snapshot : PyValue) : Prop :=
  (snapshot.get .generation).eq (request.get .expectedGeneration) = true

def SameSequence (request snapshot : PyValue) : Prop :=
  (request.get .expectedSequence).isNone = true ∨
    (snapshot.get .sequence).eq (nextSequence (request.get .expectedSequence)) = true

variable (selection : Selection) (inputs : Inputs) (request snapshot : PyValue)

def Selection.DevicePresent : Prop :=
  ∃ device ∈ (snapshot.get .devices).items,
    (device.get .id).eq (selection.selected.get .deviceId) = true

def Selection.entry : Option PyValue :=
  byKey (snapshot.get selection.entries).items [.deviceId, .index]
    [selection.selected.get .deviceId, selection.selected.get .index]

/-- The snapshot is the expected one and enumerates the entry. -/
structure Selection.Enumerates (current : PyValue) : Prop where
  generation : SameGeneration request snapshot
  sequence : SameSequence request snapshot
  device : selection.DevicePresent snapshot
  found : selection.entry snapshot = some current

/-- The entry is not reported unavailable and an active profile allows it. -/
structure Selection.Selectable (current : PyValue) : Prop where
  available : (current.get .available).isMember Availability.no = false
  compatible : selection.compatible snapshot current

/-- The decision on a preflight snapshot: the first check that fails decides. -/
inductive Selection.Decides : Decision → Prop where
  | otherGeneration (differs : ¬ SameGeneration request snapshot) :
      Decides (.reject .staleGeneration)
  | otherSequence (generation : SameGeneration request snapshot)
      (differs : ¬ SameSequence request snapshot) : Decides (.reject .staleSequence)
  | deviceAbsent (generation : SameGeneration request snapshot)
      (sequence : SameSequence request snapshot) (absent : ¬ selection.DevicePresent snapshot) :
      Decides (.reject .targetNotFound)
  | notEnumerated (generation : SameGeneration request snapshot)
      (sequence : SameSequence request snapshot) (device : selection.DevicePresent snapshot)
      (missing : selection.entry snapshot = none) : Decides (.reject .targetNotFound)
  | identityChanged {current : PyValue}
      (enumerates : selection.Enumerates request snapshot current)
      (differs : ¬ selection.sameIdentity current) : Decides (.reject .targetIdentityChanged)
  | satisfied {current : PyValue} (enumerates : selection.Enumerates request snapshot current)
      (same : selection.sameIdentity current)
      (holds : Satisfies inputs snapshot (predicates request)) : Decides .confirm
  | unavailable {current : PyValue} (enumerates : selection.Enumerates request snapshot current)
      (same : selection.sameIdentity current)
      (lacks : ¬ Satisfies inputs snapshot (predicates request))
      (excluded : ¬ selection.Selectable snapshot current) : Decides (.reject .targetUnavailable)
  | dispatch {current : PyValue} (enumerates : selection.Enumerates request snapshot current)
      (same : selection.sameIdentity current)
      (lacks : ¬ Satisfies inputs snapshot (predicates request))
      (selectable : selection.Selectable snapshot current) : Decides .dispatch

variable {selection inputs request snapshot}

theorem Selection.exists_decision : ∃ decision, selection.Decides inputs request snapshot decision := by
  by_cases generation : SameGeneration request snapshot
  swap
  · exact ⟨_, .otherGeneration generation⟩
  by_cases sequence : SameSequence request snapshot
  swap
  · exact ⟨_, .otherSequence generation sequence⟩
  by_cases device : selection.DevicePresent snapshot
  swap
  · exact ⟨_, .deviceAbsent generation sequence device⟩
  cases found : selection.entry snapshot with
  | none => exact ⟨_, .notEnumerated generation sequence device found⟩
  | some current =>
      have enumerates : selection.Enumerates request snapshot current :=
        ⟨generation, sequence, device, found⟩
      by_cases same : selection.sameIdentity current
      swap
      · exact ⟨_, .identityChanged enumerates same⟩
      by_cases holds : Satisfies inputs snapshot (predicates request)
      · exact ⟨_, .satisfied enumerates same holds⟩
      by_cases selectable : selection.Selectable snapshot current
      · exact ⟨_, .dispatch enumerates same holds selectable⟩
      · exact ⟨_, .unavailable enumerates same holds selectable⟩

theorem Selection.Enumerates.unique {first second : PyValue}
    (enumerates : selection.Enumerates request snapshot first)
    (again : selection.Enumerates request snapshot second) : first = second :=
  Option.some.inj (enumerates.found.symm.trans again.found)

end Decisions

section Keeping

/-- The call goes on to the native dispatch, with a request to hand over. -/
structure Dispatches (inputs : Inputs) (request snapshot : PyValue)
    (run : Nat → Option Execution) : Prop where
  sends : ∃ sent, dispatchedRequest request snapshot = .ok sent
  stage : ∀ fuel, run fuel = dispatchStage inputs fuel request snapshot 3 1

def RejectedAs (code : MutationFailureCode) (outcome : PyValue) : Prop :=
  (outcome.get .status).isMember MutationStatus.rejected = true ∧
    ((outcome.get .failure).get .code).isMember code = true

/-- The call ends after its preflight, without dispatch, in an outcome. -/
def EndsIn (snapshot : PyValue) (run : Nat → Option Execution) (accepted : PyValue → Prop) : Prop :=
  ∃ outcome, accepted outcome ∧ ∀ fuel, run fuel = some ⟨[snapshot], [], [], .returned outcome⟩

def Follows (inputs : Inputs) (request snapshot : PyValue) (run : Nat → Option Execution) :
    Decision → Prop
  | .dispatch => Dispatches inputs request snapshot run
  | .confirm => EndsIn snapshot run IsConfirmed
  | .reject code => EndsIn snapshot run (RejectedAs code)

/-- The call dispatches exactly when that is decided, and otherwise returns the
outcome that is. -/
structure GuardKept (selection : Selection) (inputs : Inputs) (request snapshot : PyValue)
    (run : Nat → Option Execution) : Prop where
  dispatches : Dispatches inputs request snapshot run ↔
    selection.Decides inputs request snapshot .dispatch
  follows : ∀ decision, selection.Decides inputs request snapshot decision →
    Follows inputs request snapshot run decision

variable {selection : Selection} {inputs : Inputs} {request snapshot : PyValue}
  {run : Nat → Option Execution}

theorem dispatchStage_dispatched {fuel clockIndex captureIndex : Nat} {sent : PyValue}
    {execution : Execution} (sends : dispatchedRequest request snapshot = .ok sent)
    (finished : dispatchStage inputs fuel request snapshot clockIndex captureIndex =
      some execution) : execution.dispatched = [sent] := by
  simp only [dispatchStage, sends] at finished
  split at finished
  · cases finished
    rfl
  · split at finished
    · cases finished
      rfl
    · obtain ⟨polled, -, isExecution⟩ := Option.map_eq_some_iff.mp finished
      rw [← isExecution]

theorem Dispatches.dispatched (dispatches : Dispatches inputs request snapshot run) {fuel : Nat}
    {execution : Execution} (finished : run fuel = some execution) : execution.dispatched ≠ [] := by
  obtain ⟨sent, sends⟩ := dispatches.sends
  rw [dispatches.stage] at finished
  rw [dispatchStage_dispatched sends finished]
  exact List.cons_ne_nil _ _

theorem Dispatches.not_endsIn (dispatches : Dispatches inputs request snapshot run)
    {accepted : PyValue → Prop} : ¬ EndsIn snapshot run accepted := by
  rintro ⟨outcome, -, ends⟩
  exact dispatches.dispatched (ends 0) rfl

/-- Doing what is decided keeps the guard. -/
theorem guardKept_of_follows
    (follows : ∀ decision, selection.Decides inputs request snapshot decision →
      Follows inputs request snapshot run decision) :
    GuardKept selection inputs request snapshot run := by
  refine ⟨⟨fun dispatches => ?_, follows .dispatch⟩, follows⟩
  obtain ⟨decision, decides⟩ := @Selection.exists_decision selection inputs request snapshot
  cases decision with
  | dispatch => exact decides
  | confirm => exact absurd (follows _ decides) dispatches.not_endsIn
  | reject code => exact absurd (follows _ decides) dispatches.not_endsIn

/-- Under a kept guard a finished call has dispatched exactly when that was decided. -/
theorem GuardKept.dispatched_iff (kept : GuardKept selection inputs request snapshot run)
    {fuel : Nat} {execution : Execution} (finished : run fuel = some execution) :
    execution.dispatched ≠ [] ↔ selection.Decides inputs request snapshot .dispatch := by
  refine ⟨fun dispatched => ?_, fun decides => (kept.dispatches.mpr decides).dispatched finished⟩
  obtain ⟨decision, decides⟩ := @Selection.exists_decision selection inputs request snapshot
  have notEnded : ∀ accepted, ¬ EndsIn snapshot run accepted := by
    rintro accepted ⟨outcome, -, ends⟩
    rw [ends fuel] at finished
    cases finished
    exact dispatched rfl
  cases decision with
  | dispatch => exact decides
  | confirm => exact absurd (kept.follows _ decides) (notEnded _)
  | reject code => exact absurd (kept.follows _ decides) (notEnded _)

end Keeping

section Guarded

/-- The rule of a helper reads the current entry as the selection does. -/
structure SelectionRule.Reads (rule : SelectionRule) (selection : Selection)
    (snapshot current : PyValue) : Prop where
  identity : ∃ changed, rule.identityChanged current = .ok changed ∧
    (changed = true ↔ ¬ selection.sameIdentity current)
  excluding : rule.excluding snapshot current = none ↔ selection.compatible snapshot current

/-- A request in time, a snapshot that answers its predicates, and names that a
failure can report. -/
structure Prepared (inputs : Inputs) (selection : Selection) (request snapshot : PyValue) : Prop where
  isRequest : IsRequest request
  isSnapshot : IsSnapshot snapshot
  utc : ∀ index, (inputs.clock index).offset = some 0
  begun : isExpired request (inputs.clock 1) = .ok false
  inTime : isExpired request (inputs.clock 2) = .ok false
  answers : ∀ predicate ∈ predicates request, Answers inputs snapshot predicate
  selectedName : Frozen (selection.selected.get .name)
  deviceWritable : Writable (selection.selected.get .deviceId)
  indexWritable : Writable (selection.selected.get .index)
  currentName : ∀ current, selection.entry snapshot = some current → Frozen (current.get .name)

/-- The numbers that the rejection of a stale snapshot tells can be written. -/
structure StaleReportable (request snapshot : PyValue) : Prop where
  generation : ¬ SameGeneration request snapshot →
    Writable (request.get .expectedGeneration) ∧ Writable (snapshot.get .generation)
  sequence : SameGeneration request snapshot → ¬ SameSequence request snapshot →
    Writable (request.get .expectedSequence) ∧ Writable (snapshot.get .sequence)

variable {inputs : Inputs} {selection : Selection} {rule : SelectionRule}
  {request snapshot current : PyValue} {failure : Failure} {run : Nat → Option Execution}

theorem describes_isSome_iff {before between : String} {first second : PyValue} :
    (∃ message, describes before first between second = some message) ↔
      Writable first ∧ Writable second := by
  rw [writable_iff, writable_iff]
  unfold describes
  cases Contents.shown first <;> cases Contents.shown second <;> simp

/-- A message that starts with a literal is one that a failure value takes. -/
theorem describes_written {before between : String} {first second : PyValue} {code}
    {details : List (PyString × PyValue)} (notEmpty : text before ≠ [])
    (firstWritable : Writable first) (secondWritable : Writable second) :
    (selectionFailure code (describes before first between second) details).Written := by
  obtain ⟨message, isMessage⟩ := describes_isSome_iff.mpr ⟨firstWritable, secondWritable⟩
  refine ⟨message, isMessage, ?_⟩
  obtain ⟨shownFirst, -, afterFirst⟩ := Option.bind_eq_some_iff.mp isMessage
  obtain ⟨shownSecond, -, whole⟩ := Option.bind_eq_some_iff.mp afterFirst
  rw [← Option.some.inj whole, List.append_assoc, List.append_assoc]
  exact List.append_ne_nil_of_left_ne_nil notEmpty _

theorem sameSequence_iff : SameSequence request snapshot ↔ staleSequenceOf request snapshot = false := by
  unfold SameSequence staleSequenceOf
  cases (request.get .expectedSequence).isNone <;> simp

theorem preflightIsStale_iff : preflightIsStale request snapshot = false ↔
    SameGeneration request snapshot ∧ SameSequence request snapshot := by
  rw [sameSequence_iff, preflightIsStale, SameGeneration, Bool.or_eq_false_iff,
    Bool.not_eq_false']

theorem devicePresent_iff : selection.DevicePresent snapshot ↔
    (byId (snapshot.get .devices).items (selection.selected.get .deviceId)).isNone = false := by
  rw [← Bool.not_eq_true, Option.isNone_iff_eq_none, byId, byKey, List.find?_eq_none]
  simp [Selection.DevicePresent, key, PyValue.eqAll]

theorem executeAfter_eq (prepared : Prepared inputs selection request snapshot) (fuel : Nat) :
    executeAfter inputs fuel request snapshot = preflightStage inputs fuel request snapshot 2 1 := by
  simp only [executeAfter, execute, prepared.begun]

/-- A call that ends in a classified rejection returns an outcome with its code. -/
theorem endsIn_rejected (prepared : Prepared inputs selection request snapshot) (index : Nat)
    (classified : failure.Classified) (isRejected : failure.status = .rejected)
    (written : failure.Written)
    (runs : ∀ fuel, run fuel =
      endsWith snapshot (failureOutcome request failure [] (inputs.clock index))) :
    EndsIn snapshot run (RejectedAs failure.code) := by
  rcases failureOutcome_cases prepared.isRequest classified confirmationsOf_nil
    (prepared.utc index) with ⟨outcome, returned, -, -⟩ | ⟨unwritten, -⟩
  · obtain ⟨status, code⟩ := failureOutcome_reports returned
    refine ⟨outcome, ⟨?_, ?_⟩, fun fuel => ?_⟩
    · rw [status, isRejected]
      exact isMember_self _
    · rw [code]
      exact isMember_self _
    · rw [runs, returned]
      rfl
  · exact absurd written unwritten

theorem selectionFailure_classified {code : MutationFailureCode} {message : Option PyString}
    {details : List (PyString × PyValue)} (isPrecondition : code ∈ failureCodes .precondition)
    (isRejection : code ∈ codesByStatus .rejected) (frozen : ∀ item ∈ details, Frozen item.2) :
    (selectionFailure code message details).Classified :=
  ⟨isPrecondition, isRejection, frozen⟩

theorem SelectionRule.Reads.unchanged (reads : rule.Reads selection snapshot current)
    (same : selection.sameIdentity current) : rule.identityChanged current = .ok false := by
  obtain ⟨changed, isChanged, iffChanged⟩ := reads.identity
  have notChanged : changed = false := by
    rw [← Bool.not_eq_true, iffChanged]
    exact fun differs => differs same
  rw [isChanged, notChanged]

theorem Prepared.collects (prepared : Prepared inputs selection request snapshot)
    (lacks : ¬ Satisfies inputs snapshot (predicates request)) :
    ∃ confirmed, confirmationsFromSnapshot inputs snapshot (predicates request) = .ok confirmed ∧
      confirmed.length ≠ (predicates request).length := by
  obtain ⟨confirmed, collected⟩ := confirmations_total prepared.isSnapshot prepared.answers
  exact ⟨confirmed, collected, fun complete =>
    lacks ((confirmations_length_iff prepared.isSnapshot collected).mp complete)⟩

variable {isPrintable : Nat → Bool}

/-- A stale preflight ends in the refusal of the common path. -/
theorem selectGuarded_otherGeneration (prepared : Prepared inputs selection request snapshot)
    (differs : ¬ SameGeneration request snapshot) (fuel : Nat) :
    selectGuarded inputs isPrintable fuel rule selection.selected request snapshot =
      endsWith snapshot (failureOutcome request (staleGeneration request snapshot) []
        (inputs.clock 2)) := by
  have stale : preflightIsStale request snapshot = true := by
    rw [← Bool.not_eq_false, preflightIsStale_iff]
    exact fun fresh => differs fresh.1
  rw [selectGuarded, if_pos stale, executeAfter_eq prepared, preflightStage,
    if_pos (by simpa [SameGeneration] using differs)]
  rfl

theorem selectGuarded_otherSequence (prepared : Prepared inputs selection request snapshot)
    (generation : SameGeneration request snapshot) (differs : ¬ SameSequence request snapshot)
    (fuel : Nat) :
    selectGuarded inputs isPrintable fuel rule selection.selected request snapshot =
      endsWith snapshot (failureOutcome request (staleSequence request snapshot) []
        (inputs.clock 2)) := by
  rw [sameSequence_iff, Bool.not_eq_false] at differs
  have stale : preflightIsStale request snapshot = true := by
    rw [preflightIsStale, differs, Bool.or_true]
  rw [selectGuarded, if_pos stale, executeAfter_eq prepared, preflightStage,
    if_neg (by simpa [SameGeneration] using generation), if_pos differs]
  rfl

/-- A failure whose message cannot be written ends in no outcome. -/
theorem message_of_endsIn {accepted : PyValue → Prop} {index : Nat}
    (runs : ∀ fuel, run fuel =
      endsWith snapshot (failureOutcome request failure [] (inputs.clock index)))
    (ends : EndsIn snapshot run accepted) : ∃ message, failure.message = some message := by
  obtain ⟨outcome, -, returns⟩ := ends
  cases given : failure.message with
  | some message => exact ⟨message, rfl⟩
  | none =>
      have raised := (runs 0).symm.trans (returns 0)
      rw [failureOutcome_unwritten given] at raised
      cases raised

/-- A kept guard reports a stale snapshot. -/
theorem GuardKept.staleReportable (prepared : Prepared inputs selection request snapshot)
    (kept : GuardKept selection inputs request snapshot fun fuel =>
      selectGuarded inputs isPrintable fuel rule selection.selected request snapshot) :
    StaleReportable request snapshot where
  generation differs := describes_isSome_iff.mp
    (message_of_endsIn (selectGuarded_otherGeneration prepared differs)
      (kept.follows _ (.otherGeneration differs)))
  sequence generation differs := describes_isSome_iff.mp
    (message_of_endsIn (selectGuarded_otherSequence prepared generation differs)
      (kept.follows _ (.otherSequence generation differs)))

theorem entry_eq (sameEntries : rule.entries = selection.entries) :
    rule.entry snapshot selection.selected = selection.entry snapshot := by
  rw [SelectionRule.entry, sameEntries, Selection.entry]

theorem selectGuarded_missing (generation : SameGeneration request snapshot)
    (sequence : SameSequence request snapshot) (device : selection.DevicePresent snapshot)
    (missing : selection.entry snapshot = none) (sameEntries : rule.entries = selection.entries)
    (fuel : Nat) :
    selectGuarded inputs isPrintable fuel rule selection.selected request snapshot =
      endsWith snapshot (failureOutcome request (notEnumerated rule.noun selection.selected) []
        (inputs.clock 1)) := by
  have fresh := preflightIsStale_iff.mpr ⟨generation, sequence⟩
  simp only [selectGuarded, fresh, devicePresent_iff.mp device, (entry_eq sameEntries).trans missing,
    Bool.false_eq_true, if_false]

theorem selectGuarded_enumerated (enumerates : selection.Enumerates request snapshot current)
    (sameEntries : rule.entries = selection.entries) (fuel : Nat) :
    selectGuarded inputs isPrintable fuel rule selection.selected request snapshot =
      selectEntry inputs isPrintable fuel rule selection.selected request snapshot current := by
  have fresh := preflightIsStale_iff.mpr ⟨enumerates.generation, enumerates.sequence⟩
  simp only [selectGuarded, fresh, devicePresent_iff.mp enumerates.device,
    (entry_eq sameEntries).trans enumerates.found, Bool.false_eq_true, if_false]

theorem dispatches_of_lacks (prepared : Prepared inputs selection request snapshot)
    (enumerates : selection.Enumerates request snapshot current)
    (lacks : ¬ Satisfies inputs snapshot (predicates request))
    (runs : ∀ fuel, run fuel = executeAfter inputs fuel request snapshot) :
    Dispatches inputs request snapshot run := by
  obtain ⟨sent, sends, -⟩ := dispatchedRequest_ok prepared.isRequest prepared.isSnapshot
  obtain ⟨confirmed, collected, incomplete⟩ := prepared.collects lacks
  have generation : (snapshot.get .generation).eq (request.get .expectedGeneration) = true :=
    enumerates.generation
  refine ⟨⟨sent, sends⟩, fun fuel => ?_⟩
  rw [runs, executeAfter_eq prepared]
  simp only [preflightStage, generation, sameSequence_iff.mp enumerates.sequence, collected,
    incomplete, prepared.inTime, Bool.not_true, Bool.false_eq_true, if_false]

theorem confirms_of_satisfied (prepared : Prepared inputs selection request snapshot)
    (enumerates : selection.Enumerates request snapshot current)
    (holds : Satisfies inputs snapshot (predicates request))
    (runs : ∀ fuel, run fuel = executeAfter inputs fuel request snapshot) :
    EndsIn snapshot run IsConfirmed := by
  obtain ⟨confirmed, collected⟩ := confirmations_total prepared.isSnapshot prepared.answers
  have complete := (confirmations_length_iff prepared.isSnapshot collected).mpr holds
  have generation : (snapshot.get .generation).eq (request.get .expectedGeneration) = true :=
    enumerates.generation
  obtain ⟨outcome, returned, isConfirmed, -⟩ := confirmedBy_of_shows prepared.isRequest
    prepared.isSnapshot ⟨generation, collected⟩ complete (predicates_ne_nil prepared.isRequest)
  refine ⟨outcome, isConfirmed, fun fuel => ?_⟩
  rw [runs, executeAfter_eq prepared]
  simp only [preflightStage, generation, sameSequence_iff.mp enumerates.sequence, collected,
    complete, returned, Bool.not_true, Bool.false_eq_true, if_false, if_true]

/-- The helper does what the checks decide, where it can read the entry. -/
theorem selectGuarded_follows (prepared : Prepared inputs selection request snapshot)
    (reportable : StaleReportable request snapshot) (sameEntries : rule.entries = selection.entries)
    (reads : ∀ current, selection.Enumerates request snapshot current →
      rule.Reads selection snapshot current) {decision : Decision}
    (decides : selection.Decides inputs request snapshot decision) :
    Follows inputs request snapshot
      (fun fuel => selectGuarded inputs isPrintable fuel rule selection.selected request snapshot)
      decision := by
  have selectedName := prepared.selectedName
  cases decides with
  | otherGeneration differs =>
      obtain ⟨expected, observed⟩ := reportable.generation differs
      exact endsIn_rejected prepared 2 (staleGeneration_classified prepared.isSnapshot) rfl
        (describes_written (by decide) expected observed)
        (selectGuarded_otherGeneration prepared differs)
  | otherSequence generation differs =>
      obtain ⟨expected, observed⟩ := reportable.sequence generation differs
      exact endsIn_rejected prepared 2 (staleSequence_classified prepared.isSnapshot) rfl
        (describes_written (by decide) expected observed)
        (selectGuarded_otherSequence prepared generation differs)
  | deviceAbsent generation sequence absent =>
      have fresh := preflightIsStale_iff.mpr ⟨generation, sequence⟩
      have isNone : (byId (snapshot.get .devices).items
          (selection.selected.get .deviceId)).isNone = true := by
        rw [← Bool.not_eq_false, ← devicePresent_iff]
        exact absent
      have classified : (deviceAbsent selection.selected).Classified :=
        selectionFailure_classified (by decide) (by decide) (by simp)
      refine endsIn_rejected prepared 1 classified rfl ?_ fun fuel => ?_
      · obtain ⟨id, isId⟩ := writable_iff.mp prepared.deviceWritable
        refine ⟨text "device " ++ id ++ text " is not present in the current runtime", ?_, ?_⟩
        · rw [deviceAbsent, selectionFailure, isId]
          rfl
        · simp [text]
      · rw [selectGuarded, fresh, if_neg Bool.false_ne_true, if_pos isNone]
  | notEnumerated generation sequence device missing =>
      have classified : (notEnumerated rule.noun selection.selected).Classified :=
        selectionFailure_classified (by decide) (by decide) (by simp)
      refine endsIn_rejected prepared 1 classified rfl ?_ fun fuel => ?_
      · exact describes_written (by simp [text]) prepared.indexWritable prepared.deviceWritable
      · rw [selectGuarded_missing generation sequence device missing sameEntries]
  | @identityChanged current enumerates differs =>
      have currentName := prepared.currentName current enumerates.found
      have classified : (anotherEntry rule.noun selection.selected current).Classified :=
        selectionFailure_classified (by decide) (by decide) (by simp [selectedName, currentName])
      obtain ⟨changed, isChanged, iffChanged⟩ := (reads current enumerates).identity
      rw [iffChanged.mpr differs] at isChanged
      refine endsIn_rejected prepared 1 classified rfl ?_ fun fuel => ?_
      · exact ⟨_, rfl, by simp [text]⟩
      · rw [selectGuarded_enumerated enumerates sameEntries, selectEntry, isChanged]
  | @satisfied current enumerates same holds =>
      refine confirms_of_satisfied prepared enumerates holds fun fuel => ?_
      obtain ⟨confirmed, collected⟩ := confirmations_total prepared.isSnapshot prepared.answers
      have complete := (confirmations_length_iff prepared.isSnapshot collected).mpr holds
      rw [selectGuarded_enumerated enumerates sameEntries, selectEntry,
        (reads current enumerates).unchanged same, collected]
      exact if_pos complete
  | @unavailable current enumerates same lacks excluded =>
      obtain ⟨confirmed, collected, incomplete⟩ := prepared.collects lacks
      have unchanged := (reads current enumerates).unchanged same
      cases available : (current.get .available).isMember Availability.no with
      | true =>
          have classified : (entryUnavailable isPrintable rule.noun
              selection.selected).Classified :=
            selectionFailure_classified (by decide) (by decide) (by simp)
          refine endsIn_rejected prepared 1 classified rfl ?_ fun fuel => ?_
          · exact ⟨_, rfl, by simp [text]⟩
          · rw [selectGuarded_enumerated enumerates sameEntries, selectEntry, unchanged, collected]
            simp only [incomplete, available, if_false, if_true]
      | false =>
          cases excluding : rule.excluding snapshot current with
          | none =>
              have compatible := (reads current enumerates).excluding.mp excluding
              exact absurd ⟨available, compatible⟩ excluded
          | some activeProfiles =>
              have classified : (entryExcluded isPrintable rule.noun selection.selected
                  activeProfiles).Classified := by
                refine selectionFailure_classified (by decide) (by decide) ?_
                simp only [List.forall_mem_singleton]
                refine .tuple fun item member => ?_
                obtain ⟨index, -, isItem⟩ := List.mem_map.mp member
                exact isItem ▸ .int index
              refine endsIn_rejected prepared 1 classified rfl ?_ fun fuel => ?_
              · exact ⟨_, rfl, by simp [text]⟩
              · rw [selectGuarded_enumerated enumerates sameEntries, selectEntry, unchanged,
                  collected]
                simp only [incomplete, available, excluding, Bool.false_eq_true, if_false]
  | @dispatch current enumerates same lacks selectable =>
      refine dispatches_of_lacks prepared enumerates lacks fun fuel => ?_
      obtain ⟨confirmed, collected, incomplete⟩ := prepared.collects lacks
      have allowed := (reads current enumerates).excluding.mpr selectable.compatible
      rw [selectGuarded_enumerated enumerates sameEntries, selectEntry,
        (reads current enumerates).unchanged same, collected]
      simp only [incomplete, selectable.available, allowed, Bool.false_eq_true, if_false]

end Guarded

section Helpers

def spaDeviceOf (route : PyValue) : Option PyValue :=
  (route.get .properties).mapping?.bind (List.lookup (text "spa_device_index"))

def HasSpaDevice (route : PyValue) : Prop :=
  ∃ device : Int, spaDeviceOf route = some (.int device) ∧ 0 ≤ device ∧ device ≤ 0xFFFFFFFF

structure ActiveProfile (snapshot deviceId profile : PyValue) : Prop where
  listed : profile ∈ (snapshot.get .profiles).items
  device : (profile.get .deviceId).eq deviceId = true
  active : (profile.get .active).eq (.bool true) = true

def profileSelection (profile : PyValue) : Selection where
  selected := profile
  entries := .profiles
  sameIdentity current := (current.get .name).eq (profile.get .name) = true
  compatible _ _ := True

def routeSelection (route : PyValue) (spaDevice : Int) : Selection where
  selected := route
  entries := .routes
  sameIdentity current := (current.get .name).eq (route.get .name) = true ∧
    (current.get .direction).eq (route.get .direction) = true ∧
    spaDeviceOf current = some (.int spaDevice)
  compatible snapshot current := (current.get .profileIds).items ≠ [] →
    (∃ profile, ActiveProfile snapshot (route.get .deviceId) profile) →
    ∃ profile, ActiveProfile snapshot (route.get .deviceId) profile ∧
      ∃ possible ∈ (current.get .profileIds).items, (profile.get .index).eq possible = true

theorem routeSpaDevice_ok_iff {route : PyValue} {device : Int} :
    routeSpaDevice route = .ok device ↔
      spaDeviceOf route = some (.int device) ∧ 0 ≤ device ∧ device ≤ 0xFFFFFFFF := by
  have isDevice : (route.get .properties).mapping?.bind (List.lookup (text "spa_device_index")) =
      spaDeviceOf route := rfl
  rw [routeSpaDevice, isDevice]
  cases found : spaDeviceOf route with
  | none => simp
  | some value =>
      rw [Option.getD_some, Option.some.injEq, ← pipewireIdentifier_ok_iff]
      cases value with
      | none => simp [pipewireIdentifier, identifier, integer, bind, Except.bind]
      | _ => exact Iff.rfl

variable {snapshot route current deviceId : PyValue}

theorem mem_activeProfileIds (isSnapshot : IsSnapshot snapshot) {index : Int} :
    index ∈ activeProfileIds snapshot deviceId ↔
      ∃ profile, ActiveProfile snapshot deviceId profile ∧ profile.get .index = .int index := by
  have ofProfile : ∀ profile ∈ (snapshot.get .profiles).items,
      ∃ number : Int, profile.get .index = .int number := by
    intro profile listed
    obtain ⟨stored, isProfile⟩ := isSnapshot.item .profiles .profile (by simp [checks]) (by decide)
      profile listed
    exact Stored.identifier_int .index stored isProfile (by simp [checks]) (by decide)
  rw [activeProfileIds, List.mem_dedup, List.mem_filterMap]
  constructor
  · rintro ⟨profile, listed, chosen⟩
    split at chosen
    · rename_i isActive
      obtain ⟨device, active⟩ := (Bool.and_eq_true _ _ ▸ isActive)
      obtain ⟨number, isNumber⟩ := ofProfile profile listed
      rw [isNumber] at chosen
      cases chosen
      exact ⟨profile, ⟨listed, device, active⟩, isNumber⟩
    · cases chosen
  · rintro ⟨profile, ⟨listed, device, active⟩, isIndex⟩
    refine ⟨profile, listed, ?_⟩
    rw [device, active, isIndex]
    rfl

theorem guarded_none_iff {α : Type} {first second third : Bool} {value : α} :
    (if !first && !second && third then some value else none) = none ↔
      (first = false → second = false → third = false) := by
  cases first <;> cases second <;> cases third <;> simp

/-- No active profile excludes the route exactly when the profiles are compatible. -/
theorem excludingProfiles_none_iff (isSnapshot : IsSnapshot snapshot) {spaDevice : Int} :
    excludingProfiles route snapshot current = none ↔
      (routeSelection route spaDevice).compatible snapshot current := by
  have someActive : (activeProfileIds snapshot (route.get .deviceId)).isEmpty = false ↔
      ∃ profile, ActiveProfile snapshot (route.get .deviceId) profile := by
    rw [List.isEmpty_eq_false_iff_exists_mem]
    constructor
    · rintro ⟨index, member⟩
      obtain ⟨profile, active, -⟩ := (mem_activeProfileIds isSnapshot).mp member
      exact ⟨profile, active⟩
    · rintro ⟨profile, active⟩
      obtain ⟨stored, isProfile⟩ := isSnapshot.item .profiles .profile (by simp [checks]) (by decide)
        profile active.listed
      obtain ⟨index, isIndex⟩ :=
        Stored.identifier_int .index stored isProfile (by simp [checks]) (by decide)
      exact ⟨index, (mem_activeProfileIds isSnapshot).mpr ⟨profile, active, isIndex⟩⟩
  have someAllows : ((activeProfileIds snapshot (route.get .deviceId)).all fun index =>
      !(current.get .profileIds).items.any (PyValue.intEq index)) = false ↔
      ∃ profile, ActiveProfile snapshot (route.get .deviceId) profile ∧
        ∃ possible ∈ (current.get .profileIds).items, (profile.get .index).eq possible = true := by
    rw [List.all_eq_false]
    constructor
    · rintro ⟨index, member, allowed⟩
      obtain ⟨profile, active, isIndex⟩ := (mem_activeProfileIds isSnapshot).mp member
      rw [Bool.not_eq_true, Bool.not_eq_false', List.any_eq_true] at allowed
      obtain ⟨possible, inPossible, same⟩ := allowed
      exact ⟨profile, active, possible, inPossible, isIndex ▸ same⟩
    · rintro ⟨profile, active, possible, inPossible, same⟩
      obtain ⟨stored, isProfile⟩ := isSnapshot.item .profiles .profile (by simp [checks]) (by decide)
        profile active.listed
      obtain ⟨index, isIndex⟩ :=
        Stored.identifier_int .index stored isProfile (by simp [checks]) (by decide)
      refine ⟨index, (mem_activeProfileIds isSnapshot).mpr ⟨profile, active, isIndex⟩, ?_⟩
      rw [isIndex] at same
      rw [Bool.not_eq_true, Bool.not_eq_false', List.any_eq_true]
      exact ⟨possible, inPossible, same⟩
  have someKnown : (current.get .profileIds).items.isEmpty = false ↔
      (current.get .profileIds).items ≠ [] := by simp
  refine guarded_none_iff.trans ?_
  rw [someKnown, someActive, someAllows]
  exact Iff.rfl

end Helpers

section Guard

/-- A detached value with the arguments of the helper that selects it. -/
inductive DetachedValue where
  | profile (value : PyValue)
  | route (value save : PyValue) (audio : AudioArguments)

def DetachedValue.IsBuilt : DetachedValue → Prop
  | profile value => Built .profile value
  | route value _ _ => Built .route value

/-- The request that the arguments make, with what it selects. -/
def DetachedValue.prepare (display : Spa.SpaValue → PyString) (now : DateTime)
    (call : CallArguments) : DetachedValue → Except CallError (Selection × PyValue)
  | profile value => (profileRequest display now call value).map fun request =>
      (profileSelection value, request)
  | route value save audio => (routeRequest display now call value save audio).map fun prepared =>
      (routeSelection value prepared.1, prepared.2)

/-- The call of `select_device_profile` or `select_device_route`. -/
def DetachedValue.select (inputs : Inputs) (isPrintable : Nat → Bool)
    (display : Spa.SpaValue → PyString) (call : CallArguments) (value : DetachedValue)
    (fuel : Nat) : Option Execution :=
  match value with
  | profile value =>
      (selectDeviceProfile inputs isPrintable display fuel call value).toOption.join
  | route value save audio =>
      (selectDeviceRoute inputs isPrintable display fuel call value save audio).toOption.join

/-- An observed route with the name and direction of the detached one has an
identifier of its SPA device. -/
def DetachedValue.IdentityReadable (selection : Selection) (request snapshot : PyValue) :
    DetachedValue → Prop
  | profile _ => True
  | route value _ _ => ∀ current, selection.Enumerates request snapshot current →
      (current.get .name).eq (value.get .name) = true →
      (current.get .direction).eq (value.get .direction) = true → HasSpaDevice current

variable {inputs : Inputs} {isPrintable : Nat → Bool} {display : Spa.SpaValue → PyString}
  {call : CallArguments} {selection : Selection} {request snapshot : PyValue} {value : DetachedValue}

theorem profileRule_reads {profile current : PyValue} :
    (profileRule profile).Reads (profileSelection profile) snapshot current := by
  refine ⟨⟨_, rfl, ?_⟩, iff_of_true rfl trivial⟩
  simp [profileSelection]

theorem routeRule_reads {route current : PyValue} {spaDevice : Int}
    (isSnapshot : IsSnapshot snapshot)
    (readable : (current.get .name).eq (route.get .name) = true →
      (current.get .direction).eq (route.get .direction) = true → HasSpaDevice current) :
    (routeRule route spaDevice).Reads (routeSelection route spaDevice) snapshot current := by
  refine ⟨?_, excludingProfiles_none_iff isSnapshot⟩
  by_cases sameName : (current.get .name).eq (route.get .name) = true
  · by_cases sameDirection : (current.get .direction).eq (route.get .direction) = true
    · obtain ⟨device, isDevice⟩ := readable sameName sameDirection
      have read := routeSpaDevice_ok_iff.mpr isDevice
      refine ⟨!decide (device = spaDevice), ?_, ?_⟩
      · simp [routeRule, sameName, sameDirection, read, Except.map]
      · simp [routeSelection, sameName, sameDirection, isDevice.1]
    · exact ⟨true, by simp [routeRule, sameDirection], by simp [routeSelection, sameDirection]⟩
  · exact ⟨true, by simp [routeRule, sameName], by simp [routeSelection, sameName]⟩

theorem select_profile {profile : PyValue}
    (made : profileRequest display (inputs.clock 0) call profile = .ok request)
    (captured : inputs.captures 0 = .snapshot snapshot) :
    (DetachedValue.profile profile).select inputs isPrintable display call =
      fun fuel => selectGuarded inputs isPrintable fuel (profileRule profile) profile request
        snapshot := by
  funext fuel
  simp only [DetachedValue.select, selectDeviceProfile, made, Except.map, withPreflight, captured]
  rfl

theorem select_route {route save : PyValue} {audio : AudioArguments} {spaDevice : Int}
    (made : routeRequest display (inputs.clock 0) call route save audio = .ok (spaDevice, request))
    (captured : inputs.captures 0 = .snapshot snapshot) :
    (DetachedValue.route route save audio).select inputs isPrintable display call =
      fun fuel => selectGuarded inputs isPrintable fuel (routeRule route spaDevice) route request
        snapshot := by
  funext fuel
  simp only [DetachedValue.select, selectDeviceRoute, made, Except.map, withPreflight, captured]
  rfl

theorem guard_broken {route current : PyValue} {spaDevice : Int}
    (enumerates : (routeSelection route spaDevice).Enumerates request snapshot current)
    (sameName : (current.get .name).eq (route.get .name) = true)
    (sameDirection : (current.get .direction).eq (route.get .direction) = true)
    (inRange : 0 ≤ spaDevice ∧ spaDevice ≤ 0xFFFFFFFF) (unreadable : ¬ HasSpaDevice current) :
    ¬ GuardKept (routeSelection route spaDevice) inputs request snapshot
      (fun fuel => selectGuarded inputs isPrintable fuel (routeRule route spaDevice) route request
        snapshot) := by
  intro kept
  have differs : ¬ (routeSelection route spaDevice).sameIdentity current :=
    fun same => unreadable ⟨spaDevice, same.2.2, inRange⟩
  obtain ⟨outcome, -, ends⟩ := kept.follows _ (.identityChanged enumerates differs)
  cases read : routeSpaDevice current with
  | ok device => exact unreadable ⟨device, routeSpaDevice_ok_iff.mp read⟩
  | error error =>
      have raised := (@selectGuarded_enumerated inputs _ _ request snapshot current isPrintable enumerates rfl 0).symm.trans
          (ends 0)
      simp [selectEntry, routeRule, sameName, sameDirection, read, Except.map, raises, endsWith]
        at raised

/-- A request of checked arguments in time is prepared for the guard. -/
theorem Compares.prepared (compares : Compares inputs request snapshot selection.selected)
    (wellTyped : inputs.WellTyped) (isSnapshot : IsSnapshot snapshot)
    (begun : isExpired request (inputs.clock 1) = .ok false)
    (inTime : isExpired request (inputs.clock 2) = .ok false) {type : ValueType}
    (built : Built type selection.selected)
    (named : Check.field .name (.requiredString false) ∈ checks type)
    (isField : .name ∈ fieldNames type)
    (listed : Check.field selection.entries (.runtimeValues type) ∈ checks .runtimeSnapshot)
    (isEntries : selection.entries ∈ fieldNames .runtimeSnapshot) :
    Prepared inputs selection request snapshot := by
  refine ⟨compares.isRequest, isSnapshot, wellTyped.clock, begun, inTime, compares.answers,
    Stored.name_frozen built.stored.1 built.stored.2 named isField, compares.deviceWritable,
    compares.indexWritable, fun current found => ?_⟩
  obtain ⟨stored, isType⟩ := isSnapshot.item selection.entries type listed isEntries current
    (List.mem_of_find?_eq_some found)
  exact Stored.name_frozen stored isType named isField

/-- The guard of a selection is kept exactly where the identity of the observed
entry can be read and a stale snapshot can be reported. -/
theorem guardKept_iff (wellTyped : inputs.WellTyped) (callBuilt : call.Built)
    (isBuilt : value.IsBuilt)
    (prepared : value.prepare display (inputs.clock 0) call = .ok (selection, request))
    (captured : inputs.captures 0 = .snapshot snapshot)
    (begun : isExpired request (inputs.clock 1) = .ok false)
    (inTime : isExpired request (inputs.clock 2) = .ok false) :
    GuardKept selection inputs request snapshot (value.select inputs isPrintable display call) ↔
      value.IdentityReadable selection request snapshot ∧ StaleReportable request snapshot := by
  have isSnapshot : IsSnapshot snapshot := (wellTyped.captures _ _ captured).stored
  cases value with
  | profile profile =>
      obtain ⟨made, requestMade, isPair⟩ := map_ok prepared
      cases isPair
      have compares : Compares inputs request snapshot profile :=
        profileRequest_compares requestMade callBuilt isBuilt isSnapshot
      have ready : Prepared inputs (profileSelection profile) request snapshot :=
        compares.prepared wellTyped isSnapshot begun inTime (show Built .profile profile from isBuilt)
          (by simp [checks]) (by decide) (by simp [checks, profileSelection])
          (show FieldName.profiles ∈ fieldNames .runtimeSnapshot by decide)
      rw [select_profile requestMade captured]
      constructor
      · intro kept
        exact ⟨trivial, kept.staleReportable ready⟩
      · rintro ⟨-, reportable⟩
        exact guardKept_of_follows fun decision decides => selectGuarded_follows ready reportable rfl
          (fun current enumerates => profileRule_reads) decides
  | route route save audio =>
      obtain ⟨⟨spaDevice, made⟩, requestMade, isPair⟩ := map_ok prepared
      cases isPair
      obtain ⟨deviceRead, compares⟩ : routeSpaDevice route = .ok spaDevice ∧
          Compares inputs made snapshot route :=
        routeRequest_compares requestMade callBuilt isBuilt isSnapshot
      have inRange := (routeSpaDevice_ok_iff.mp deviceRead).2
      have ready : Prepared inputs (routeSelection route spaDevice) made snapshot :=
        compares.prepared wellTyped isSnapshot begun inTime (show Built .route route from isBuilt)
          (by simp [checks]) (by decide) (by simp [checks, routeSelection])
          (show FieldName.routes ∈ fieldNames .runtimeSnapshot by decide)
      rw [select_route requestMade captured]
      constructor
      · intro kept
        refine ⟨fun current enumerates sameName sameDirection => ?_, kept.staleReportable ready⟩
        by_contra unreadable
        exact guard_broken enumerates sameName sameDirection inRange unreadable kept
      · rintro ⟨readable, reportable⟩
        exact guardKept_of_follows fun decision decides => selectGuarded_follows ready reportable rfl
          (fun current enumerates => routeRule_reads isSnapshot (readable current enumerates))
          decides

/-- An execution that ends in an exception without having dispatched. -/
def Execution.raisesUndispatched (execution : Execution) : Bool :=
  execution.dispatched.isEmpty &&
    match execution.result with
    | .raised _ _ => true
    | .returned _ => false

/-- Under a kept guard nothing is raised without a dispatch. -/
theorem GuardKept.not_raised {run : Nat → Option Execution}
    (kept : GuardKept selection inputs request snapshot run) {fuel : Nat} {execution : Execution}
    (finished : run fuel = some execution) : execution.raisesUndispatched = false := by
  obtain ⟨decision, decides⟩ := @Selection.exists_decision selection inputs request snapshot
  have ofEnd : ∀ accepted, EndsIn snapshot run accepted → execution.raisesUndispatched = false := by
    rintro accepted ⟨outcome, -, ends⟩
    rw [ends] at finished
    cases finished
    rfl
  cases decision with
  | dispatch =>
      have dispatched := (kept.dispatches.mpr decides).dispatched finished
      simp [Execution.raisesUndispatched, dispatched]
  | confirm => exact ofEnd _ (kept.follows _ decides)
  | reject code => exact ofEnd _ (kept.follows _ decides)

def deviceWith (route : Expression) : List (FieldName × Expression) :=
  [(.devices, .tuple [.call .device [(.id, .int 1)]]),
    (.profiles, .tuple [.call .profile
      [(.deviceId, .int 1), (.index, .int 2), (.name, .str (text "stereo"))]]),
    (.routes, .tuple [route])]

/-- The route as the runtime shows it, where it does not expose its SPA device. -/
def unexposedSpeaker : Expression :=
  .call .route
    [(.deviceId, .int 1), (.index, .int 0), (.direction, .str (text "output")),
      (.name, .str (text "speaker"))]

def speaker : Expression :=
  .call .route
    [(.deviceId, .int 1), (.index, .int 0), (.direction, .str (text "output")),
      (.name, .str (text "speaker")), (.properties, .dict [(text "spa_device_index", .int 3)])]

/-- Five seconds in generation 1, without an expected sequence. -/
def fiveSeconds : CallArguments where
  expectedGeneration := .int 1
  expectedSequence := .none
  timeout := .float ⟨0x4014000000000000⟩
  requestId := .str (text "r")
  uuid := text "u"

/-- A runtime that shows one snapshot and accepts every request. -/
def showing (snapshot : Expression) : Inputs where
  clock _ := morning
  captures _ := .snapshot snapshot.value
  dispatch _ := .ticket readyTicket.value
  classAttribute _ := .none

theorem showing_wellTyped {snapshot : Expression}
    (built : Built .runtimeSnapshot snapshot.value) : (showing snapshot).WellTyped where
  clock index := rfl
  captures index other captured := by
    have isSnapshot : snapshot.value = other := by injection captured
    exact isSnapshot ▸ built
  tickets request ticket answered := by
    have isTicket : readyTicket.value = ticket := by injection answered
    exact isTicket ▸ readyTicket_built

theorem fiveSeconds_built : fiveSeconds.Built :=
  ⟨.int 1, .none, .str _⟩

/-- The detached speaker, to be saved, with both volumes. -/
def savedSpeaker : DetachedValue :=
  .route speaker.value (.bool true)
    ⟨none, some (.bool false), some (.tuple [.float ⟨0x3FE0000000000000⟩, .float ⟨0x3FF0000000000000⟩])⟩

/-- The arguments make a request that has not expired in the morning, and the snapshot is
the expected one. -/
def isPreparedInTime (snapshot : PyValue) : Bool :=
  gives (fun prepared => gives (!·) (isExpired prepared.2 morning) &&
      !preflightIsStale prepared.2 snapshot)
    (savedSpeaker.prepare (fun _ => []) morning fiveSeconds)

theorem exists_prepared {snapshot : PyValue} (inTime : isPreparedInTime snapshot = true) :
    ∃ selection request,
      savedSpeaker.prepare (fun _ => []) morning fiveSeconds = .ok (selection, request) ∧
        isExpired request morning = .ok false ∧ preflightIsStale request snapshot = false := by
  obtain ⟨⟨selection, request⟩, isPrepared, held⟩ := exists_of_gives inTime
  rw [Bool.and_eq_true, Bool.not_eq_true'] at held
  obtain ⟨expired, isRead, notExpired⟩ := exists_of_gives held.1
  rw [Bool.not_eq_true'] at notExpired
  exact ⟨selection, request, isPrepared, notExpired ▸ isRead, held.2⟩

theorem speaker_built : Built .route speaker.value :=
  Expression.value_built (by decide +kernel)

theorem speaker_inTime : isPreparedInTime (snapshotOf 1 1 (deviceWith speaker)).value = true := by
  decide +kernel

theorem staleReportable_of_fresh (fresh : preflightIsStale request snapshot = false) :
    StaleReportable request snapshot := by
  obtain ⟨generation, sequence⟩ := preflightIsStale_iff.mp fresh
  exact ⟨fun differs => absurd generation differs, fun _ differs => absurd sequence differs⟩

def exposesDevices (snapshot : PyValue) : Bool :=
  (snapshot.get .routes).items.all fun route => (routeSpaDevice route).toOption.isSome

theorem readable_of_exposes {route save : PyValue} {audio : AudioArguments} {now : DateTime}
    (exposes : exposesDevices snapshot = true)
    (prepared : (DetachedValue.route route save audio).prepare display now call =
      .ok (selection, request)) :
    (DetachedValue.route route save audio).IdentityReadable selection request snapshot := by
  obtain ⟨made, -, isPair⟩ := map_ok prepared
  intro current enumerates _ _
  have found := enumerates.found
  rw [← (Prod.mk.inj isPair).1] at found
  have isSome := List.all_eq_true.mp exposes current (List.mem_of_find?_eq_some found)
  cases read : routeSpaDevice current with
  | ok device => exact ⟨device, routeSpaDevice_ok_iff.mp read⟩
  | error error =>
      rw [read] at isSome
      cases isSome

/-- A route whose SPA device is observed is selected as the checks say. -/
theorem speaker_guardKept : ∃ selection request,
    savedSpeaker.prepare (fun _ => []) morning fiveSeconds = .ok (selection, request) ∧
      GuardKept selection (showing (snapshotOf 1 1 (deviceWith speaker))) request
        (snapshotOf 1 1 (deviceWith speaker)).value
        (savedSpeaker.select (showing (snapshotOf 1 1 (deviceWith speaker))) (fun _ => true)
          (fun _ => []) fiveSeconds) := by
  obtain ⟨selection, request, prepared, inTime, fresh⟩ := exists_prepared speaker_inTime
  have isBuilt : savedSpeaker.IsBuilt := speaker_built
  have exposes : exposesDevices (snapshotOf 1 1 (deviceWith speaker)).value = true := by
    decide +kernel
  exact ⟨selection, request, prepared, (guardKept_iff (showing_wellTyped
    (Expression.value_built (by decide +kernel))) fiveSeconds_built isBuilt prepared rfl inTime
    inTime).mpr ⟨readable_of_exposes exposes prepared, staleReportable_of_fresh fresh⟩⟩

/-- The route that does not expose its SPA device raises. -/
theorem speaker_not_guardKept : ∃ selection request,
    (showing (snapshotOf 1 1 (deviceWith unexposedSpeaker))).WellTyped ∧ fiveSeconds.Built ∧
      Built .route speaker.value ∧
      savedSpeaker.prepare (fun _ => []) morning fiveSeconds = .ok (selection, request) ∧
      isExpired request morning = .ok false ∧
      ¬ GuardKept selection (showing (snapshotOf 1 1 (deviceWith unexposedSpeaker))) request
        (snapshotOf 1 1 (deviceWith unexposedSpeaker)).value
        (savedSpeaker.select (showing (snapshotOf 1 1 (deviceWith unexposedSpeaker)))
          (fun _ => true) (fun _ => []) fiveSeconds) := by
  obtain ⟨selection, request, prepared, inTime, -⟩ := exists_prepared speaker_inTime
  refine ⟨selection, request, showing_wellTyped (Expression.value_built (by decide +kernel)),
    fiveSeconds_built, speaker_built, prepared, inTime, fun kept => ?_⟩
  have raised : (savedSpeaker.select (showing (snapshotOf 1 1 (deviceWith unexposedSpeaker)))
      (fun _ => true) (fun _ => []) fiveSeconds 0).any Execution.raisesUndispatched = true := by
    decide +kernel
  obtain ⟨execution, finished, isRaised⟩ := (Option.any_eq_true _ _).mp raised
  rw [kept.not_raised finished] at isRaised
  cases isRaised

end Guard

end WyrePlumber.Runtime
