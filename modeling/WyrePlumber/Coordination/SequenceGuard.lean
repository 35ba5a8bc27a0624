import WyrePlumber.Coordination.Request
import WyrePlumber.Native.EventStream
import WyrePlumber.Native.MutationIsolation

/-!
# The expected sequence of a request

Preflight and dispatcher together compare one counter twice.  Since that counter
and the generation only grow, what the dispatcher finds unchanged was unchanged
all along: between the assignment of the expected sequence and the execution
there is room for the request's own preflight and for nothing else.
-/

set_option autoImplicit false

namespace WyrePlumber.Coordination.SequenceGuard

open LabelledMachine
open WyrePlumber.Native
open WyrePlumber.Coordination.Request

/-- Generation and sequence, compared by generation first. -/
def position (system : System) : Nat ×ₗ Nat :=
  toLex (system.conn.generation, system.conn.sequence)

/-- The reports of an event or of a capture that took a number. -/
def IsNumbered : Connection.Observation → Prop
  | .published _ | .captured _ _ _ _ => True
  | _ => False

/-- The step gave out no number, neither to an event, enqueued or not, nor to a
capture. -/
def NumbersNothing (transition : Transition System Action Observation) : Prop :=
  transition.after.conn.generation = transition.before.conn.generation ∧
    transition.after.conn.sequence = transition.before.conn.sequence ∧
    ∀ observation, .native observation ∈ transition.observed → ¬ IsNumbered observation

theorem connection_position {conn next : Connection.WPConnection} {action : Connection.Action}
    {observed : List Connection.Observation}
    (taken : Connection.step conn action = some (next, observed)) :
    toLex (conn.generation, conn.sequence) ≤ toLex (next.generation, next.sequence) ∧
      ∀ observation ∈ observed, IsNumbered observation →
        toLex (conn.generation, conn.sequence) < toLex (next.generation, next.sequence) := by
  obtain ⟨forward, given⟩ :=
    SequencedStream.steps_position (EventStream.step_steps taken)
  refine ⟨forward, ?_⟩
  intro observation member numbered
  cases observation with
  | published event =>
      have stamped : SequencedStream.stamp event ∈
          SequencedStream.stamps (observed.filterMap EventStream.view) :=
        List.mem_filterMap.mpr ⟨_, List.mem_filterMap.mpr ⟨_, member, rfl⟩, rfl⟩
      obtain ⟨above, below⟩ := given _ stamped
      exact lt_of_lt_of_le above below
  | captured reader generation sequence subject =>
      have stamped : toLex (generation, sequence) ∈
          SequencedStream.stamps (observed.filterMap EventStream.view) :=
        List.mem_filterMap.mpr ⟨_, List.mem_filterMap.mpr ⟨_, member, rfl⟩, rfl⟩
      obtain ⟨above, below⟩ := given _ stamped
      exact lt_of_lt_of_le above below
  | _ => cases numbered

theorem step_position {system next : System} {action : Action} {observed : List Observation}
    (taken : Request.step system action = some (next, observed)) :
    position system ≤ position next ∧
      ∀ observation, .native observation ∈ observed → IsNumbered observation →
        position system < position next := by
  rcases (step_effect taken).native with ⟨same, quiet, -⟩ | ⟨connAction, connStep, -⟩
  · refine ⟨by rw [position, position, same], ?_⟩
    intro observation member
    have reported := mem_natives.mpr member
    rw [quiet] at reported
    cases reported
  · obtain ⟨forward, numbered⟩ := connection_position connStep
    refine ⟨forward, ?_⟩
    intro observation member
    exact numbered observation (mem_natives.mpr member)

/-- A transition between two equal positions numbers nothing. -/
theorem numbersNothing_of_constant {history : History} {system : System}
    (run : Run machine history system) {transition : Transition System Action Observation}
    (member : transition ∈ history)
    (same : position transition.before = position transition.after) :
    NumbersNothing transition := by
  obtain ⟨earlier, later, split⟩ := List.append_of_mem member
  obtain ⟨-, taken⟩ := run.of_split split
  have equal : transition.before.conn.generation = transition.after.conn.generation ∧
      transition.before.conn.sequence = transition.after.conn.sequence :=
    Prod.mk.inj (toLex.injective same)
  refine ⟨equal.1.symm, equal.2.symm, ?_⟩
  intro observation reported numbered
  have moved := (step_position taken).2 observation reported numbered
  rw [same] at moved
  exact lt_irrefl _ moved

/-! ## What the request carries -/

/-- The preflight is in the log, and what is dispatched passed the guard on it. -/
structure Guarded (system : System) (reported : List Observation) : Prop where
  preflight : ∀ generation sequence,
    system.stage = .captured .preflight generation sequence ∨
        system.stage = .inspecting .preflight generation sequence →
      ∃ subject, .native (.captured helperReader generation sequence subject) ∈ reported
  dispatching : ∀ sequence, system.stage = .dispatching sequence →
    (∃ subject, .native (.captured helperReader system.request.expectedGeneration sequence
      subject) ∈ reported) ∧
      ∀ expected, system.request.expectedSequence = some expected → sequence = expected + 1
  submitted : ∀ id, system.stage = .submitted id →
    ∃ sequence call, call.id = id ∧ .native (.enqueued call) ∈ reported ∧
      call.expectedGeneration = system.request.expectedGeneration ∧
      call.enqueuedGeneration = system.request.expectedGeneration ∧
      call.expectedSequence = (system.request.expectedSequence.map fun _ => sequence) ∧
      (∃ subject, .native (.captured helperReader system.request.expectedGeneration sequence
        subject) ∈ reported) ∧
      ∀ expected, system.request.expectedSequence = some expected → sequence = expected + 1

theorem fresh_of_preflight {request : MutationRequest} {generation sequence : Nat}
    (fresh : preflightIsStale request generation sequence = false) :
    generation = request.expectedGeneration ∧
      ∀ expected, request.expectedSequence = some expected → sequence = expected + 1 := by
  simp only [preflightIsStale, Bool.or_eq_false_iff, decide_eq_false_iff_not, not_not] at fresh
  refine ⟨fresh.1, ?_⟩
  intro expected carried
  simpa [carried] using fresh.2

theorem Guarded.of_bare {system : System} {reported : List Observation}
    (bare : system.stage.isBare = true) : Guarded system reported := by
  refine ⟨?_, ?_, ?_⟩
  · rintro generation sequence (atStage | atStage) <;> rw [atStage] at bare <;> cases bare
  · intro sequence atStage
    rw [atStage] at bare
    cases bare
  · intro id atStage
    rw [atStage] at bare
    cases bare

theorem Guarded.kept {system next : System} {reported observed : List Observation}
    (guarded : Guarded system reported) (stage : next.stage = system.stage)
    (request : next.request = system.request) : Guarded next (reported ++ observed) := by
  refine ⟨?_, ?_, ?_⟩
  · rw [stage]
    intro generation sequence atStage
    obtain ⟨subject, member⟩ := guarded.preflight generation sequence atStage
    exact ⟨subject, List.mem_append_left _ member⟩
  · rw [stage, request]
    intro sequence atStage
    obtain ⟨⟨subject, member⟩, guard⟩ := guarded.dispatching sequence atStage
    exact ⟨⟨subject, List.mem_append_left _ member⟩, guard⟩
  · rw [stage, request]
    intro id atStage
    obtain ⟨sequence, call, same, enqueued, generation, current, carried, ⟨subject, member⟩,
      guard⟩ := guarded.submitted id atStage
    exact ⟨sequence, call, same, List.mem_append_left _ enqueued, generation, current, carried,
      ⟨subject, List.mem_append_left _ member⟩, guard⟩

theorem Guarded.step {system next : System} {action : Action}
    {reported observed : List Observation} (guarded : Guarded system reported)
    (taken : Request.step system action = some (next, observed)) :
    Guarded next (reported ++ observed) := by
  have effect := step_effect taken
  cases effect.stage with
  | kept stage => exact guarded.kept stage effect.request
  | bare stage => exact .of_bare stage
  | copied purpose generation sequence subject stage member =>
      refine ⟨?_, ?_, ?_⟩
      · rintro copied number (atStage | atStage) <;> rw [stage] at atStage <;> cases atStage
        exact ⟨subject, List.mem_append_right _ member⟩
      · intro number atStage
        rw [stage] at atStage
        cases atStage
      · intro id atStage
        rw [stage] at atStage
        cases atStage
  | returned purpose generation sequence before stage =>
      refine ⟨?_, ?_, ?_⟩
      · rintro copied number (atStage | atStage) <;> rw [stage] at atStage <;> cases atStage
        obtain ⟨subject, member⟩ := guarded.preflight generation sequence (.inl before)
        exact ⟨subject, List.mem_append_left _ member⟩
      · intro number atStage
        rw [stage] at atStage
        cases atStage
      · intro id atStage
        rw [stage] at atStage
        cases atStage
  | approved generation sequence before fresh stage =>
      obtain ⟨expectedGeneration, guard⟩ := fresh_of_preflight fresh
      refine ⟨?_, ?_, ?_⟩
      · rintro copied number (atStage | atStage) <;> rw [stage] at atStage <;> cases atStage
      · intro number atStage
        rw [stage] at atStage
        cases atStage
        obtain ⟨subject, member⟩ := guarded.preflight generation sequence (.inr before)
        rw [effect.request, ← expectedGeneration]
        exact ⟨⟨subject, List.mem_append_left _ member⟩, guard⟩
      · intro id atStage
        rw [stage] at atStage
        cases atStage
  | enqueued sequence call before generation current carried stage member =>
      refine ⟨?_, ?_, ?_⟩
      · rintro copied number (atStage | atStage) <;> rw [stage] at atStage <;> cases atStage
      · intro number atStage
        rw [stage] at atStage
        cases atStage
      · intro id atStage
        rw [stage] at atStage
        cases atStage
        obtain ⟨⟨subject, captured⟩, guard⟩ := guarded.dispatching sequence before
        rw [effect.request]
        exact ⟨sequence, call, rfl, List.mem_append_right _ member, generation, current, carried,
          ⟨subject, List.mem_append_left _ captured⟩, guard⟩

theorem guarded_of_run {history : History} {system : System}
    (run : Run machine history system) : Guarded system (log history) := by
  refine run.invariant Guarded ?_ ?_
  · rintro system ⟨-, stage, -⟩
    refine .of_bare ?_
    rw [stage, firstStage]
    split <;> rfl
  · intro system reported action next observed guarded taken
    exact guarded.step taken

/-! ## The first generation -/

theorem generation_le_of_step {system next : System} {action : Action}
    {observed : List Observation}
    (taken : Request.step system action = some (next, observed)) :
    system.conn.generation ≤ next.conn.generation := by
  have forward := (step_position taken).1
  rw [position, position, Prod.Lex.toLex_le_toLex] at forward
  omega

theorem receive_idle {system : System} (idle : system.stage = firstStage system.ownCapture)
    (action : Connection.Action) (observed : List Connection.Observation) :
    receive system action observed = (system, []) := by
  unfold receive
  rw [idle, firstStage]
  by_cases own : system.ownCapture = true <;> simp [own]

/-- A helper that has taken a step runs on a connection that has had a generation. -/
theorem generation_of_acted {history : History} {system : System}
    (run : Run machine history system)
    (acted : system.stage ≠ firstStage system.ownCapture) : system.conn.generation ≠ 0 := by
  induction run with
  | start initial => exact absurd initial.2.1 acted
  | @step history state next action observed run taken inductionHypothesis =>
      have forward := generation_le_of_step taken
      by_cases idle : state.stage = firstStage state.ownCapture
      · cases action with
        | connection action =>
            have stepped : Request.step state (.connection action) = some (next, observed) :=
              taken
            simp only [Request.step] at stepped
            split at stepped
            · obtain ⟨⟨moved, reports⟩, connStep, same⟩ := Option.map_eq_some_iff.mp stepped
              have frame := native_stepped connStep
              have still : moved.stage = firstStage moved.ownCapture := by
                rw [frame.stage, frame.ownCapture, idle]
              rw [receive_idle still] at same
              cases same
              exact absurd still acted
            · cases stepped
        | _ =>
            simp only [machine, Request.step] at taken
            split at taken
            · rename_i started
              obtain ⟨connHistory, connRun, -⟩ := connection_of_run run
              have nonzero := Generation.generation_of_started connRun started
              omega
            · cases taken
      · have nonzero := inductionHypothesis idle
        omega

/-! ## The guard -/

/-- The native execution of the request's call, in the state it was executed in. -/
theorem executed_call {history : History} {system : System}
    (run : Run machine history system)
    {earlier later : History} {transition : Transition System Action Observation}
    (split : history = earlier ++ transition :: later)
    {call : Connection.MutationDispatchCall} {om : Connection.ObjectManager}
    (executed : .native (.executed call om) ∈ transition.observed) :
    call.expectedGeneration = transition.before.conn.generation ∧
      ∀ expected, call.expectedSequence = some expected →
        expected = transition.before.conn.sequence := by
  obtain ⟨beforeRun, taken⟩ := run.of_split split
  obtain ⟨connHistory, connRun, -⟩ := connection_of_run beforeRun
  have reported := mem_natives.mpr executed
  rcases (step_effect taken).native with ⟨-, quiet, -⟩ | ⟨connAction, connStep, -⟩
  · rw [quiet] at reported
    cases reported
  · obtain ⟨result, stopped, generation, sequence, -, atStage, -, passed, -⟩ :=
      Reports.executed_of_step connStep reported
    obtain ⟨-, -, -, sameExpected, sameSequence⟩ := MutationIsolation.refusal_eq_none passed
    have current := MutationIsolation.sampledCurrent_of_run connRun _ _ _ _ atStage
    have numbered := MutationIsolation.sampledSequence_of_run connRun atStage
    refine ⟨sameExpected.symm.trans current, ?_⟩
    intro expected carried
    exact (sameSequence expected carried).trans numbered

/-- Calls of one connection are told apart by their ids. -/
theorem enqueued_unique {history : History} {system : System}
    (run : Run machine history system) {call enqueued : Connection.MutationDispatchCall}
    (reached : ∀ {connHistory}, Run Connection.machine connHistory system.conn →
      log connHistory = natives (log history) →
        call ∈ Dispatcher.enqueuedCalls (log connHistory))
    (submitted : .native (.enqueued enqueued) ∈ log history) (same : enqueued.id = call.id) :
    enqueued = call := by
  obtain ⟨connHistory, connRun, reported⟩ := connection_of_run run
  have safety := Dispatcher.dispatchSafety_of_run connRun
  have submittedCall : enqueued ∈ Dispatcher.enqueuedCalls (log connHistory) := by
    rw [reported]
    exact List.mem_filterMap.mpr ⟨_, mem_natives.mpr submitted, rfl⟩
  exact List.inj_on_of_nodup_map safety.distinct submittedCall (reached connRun reported) same

theorem executed_enqueued {history : History} {system : System}
    (run : Run machine history system) {call enqueued : Connection.MutationDispatchCall}
    {om : Connection.ObjectManager}
    (executed : .native (.executed call om) ∈ log history)
    (submitted : .native (.enqueued enqueued) ∈ log history) (same : enqueued.id = call.id) :
    enqueued = call := by
  refine enqueued_unique run ?_ submitted same
  intro connHistory connRun reported
  refine (Dispatcher.dispatchSafety_of_run connRun).executedInOrder.subset ?_
  rw [reported]
  exact List.mem_filterMap.mpr ⟨_, mem_natives.mpr executed, rfl⟩

theorem sampled_enqueued {history : History} {system : System}
    (run : Run machine history system) {call enqueued : Connection.MutationDispatchCall}
    {stopped : Bool} {generation sequence : Nat}
    (atStage : system.conn.wpThread = .sampled call stopped generation sequence)
    (submitted : .native (.enqueued enqueued) ∈ log history) (same : enqueued.id = call.id) :
    enqueued = call := by
  refine enqueued_unique run ?_ submitted same
  intro connHistory connRun _
  exact Dispatcher.enqueued_of_sampled connRun atStage

/-- A capture takes the next number of the generation it runs in. -/
theorem captured_positions {system next : System} {action : Action}
    {observed : List Observation}
    (taken : Request.step system action = some (next, observed))
    {reader generation sequence : Nat} {subject : Option Nat}
    (captured : .native (.captured reader generation (sequence + 1) subject) ∈ observed) :
    position system = toLex (generation, sequence) ∧
      position next = toLex (generation, sequence + 1) := by
  have reported := mem_natives.mpr captured
  rcases (step_effect taken).native with ⟨-, quiet, -⟩ | ⟨connAction, connStep, -⟩
  · rw [quiet] at reported
    cases reported
  · obtain ⟨⟨index, copied, rfl⟩, ran | ⟨_, same⟩⟩ :=
      Reports.capture_of_step connStep reported rfl
    · cases ran
    · obtain ⟨-, rfl, number, -⟩ := Connection.Observation.captured.inj same
      have before : system.conn.sequence = sequence := by omega
      refine ⟨by rw [position, before], ?_⟩
      simp only [Connection.step] at connStep
      split at connStep
      · simp only [Connection.stepCallback] at connStep
        split at connStep
        · cases connStep
        · have reached := congrArg Prod.fst (Option.some.inj connStep)
          have reports := congrArg Prod.snd (Option.some.inj connStep)
          simp only [Connection.captureRuntimePayload] at reached reports
          split at reached
          · rw [position, ← reached, before]
          · rename_i failed
            rw [if_neg failed] at reports
            rw [← reports] at reported
            cases List.mem_singleton.mp reported
      · cases connStep

theorem initial_position {system : System} (initial : machine.initial system) :
    position system = toLex (0, 0) := by
  obtain ⟨⟨capacity, -, fresh⟩, -, -⟩ := initial
  rw [position, fresh]
  rfl

/-- The expected-sequence guard.  A request that is executed was preceded by the
assignment of its expected sequence, then by its own preflight capture, and from
the assignment to the execution nothing else took a number. -/
theorem sequenceGuard_of_run {history : History} {system : System}
    (run : Run machine history system)
    {earlier later : History} {transition : Transition System Action Observation}
    (split : history = earlier ++ transition :: later)
    {call : Connection.MutationDispatchCall} {om : Connection.ObjectManager}
    (executed : .native (.executed call om) ∈ transition.observed)
    (own : transition.before.stage = .submitted call.id)
    {expected : Nat} (guarded : transition.before.request.expectedSequence = some expected) :
    ∃ before assigned between preflight after,
      earlier = before ++ assigned :: (between ++ preflight :: after) ∧
      position assigned.before < position assigned.after ∧
      position assigned.after =
        toLex (transition.before.request.expectedGeneration, expected) ∧
      (∃ subject, .native (.captured helperReader
        transition.before.request.expectedGeneration (expected + 1) subject) ∈
          preflight.observed) ∧
      ∀ quiet ∈ between ++ after, NumbersNothing quiet := by
  obtain ⟨beforeRun, taken⟩ := run.of_split split
  obtain ⟨sequence, enqueued, same, submitted, generation, -, carried, ⟨subject, captured⟩,
    guard⟩ :=
    (guarded_of_run beforeRun).submitted call.id own
  -- the call that runs is the one the helper submitted
  have inLog : .native (.executed call om) ∈ log (earlier ++ [⟨transition.before,
      transition.action, transition.after, transition.observed⟩]) := by
    simp [executed]
  have isCall : enqueued = call :=
    executed_enqueued (.step beforeRun taken) inLog (by simp [submitted]) same
  subst isCall
  have number : sequence = expected + 1 := guard expected guarded
  rw [guarded, Option.map_some] at carried
  obtain ⟨atGeneration, atSequence⟩ := executed_call run split executed
  have here : position transition.before =
      toLex (transition.before.request.expectedGeneration, expected + 1) := by
    rw [position, ← atGeneration, generation, ← atSequence sequence carried, number]
  -- the preflight
  rw [number] at captured
  obtain ⟨upTo, rest, logSplit⟩ := List.append_of_mem captured
  obtain ⟨front, preflight, after, left, right, inEarlier, observed, -, -⟩ := log_split logSplit
  have reported : Observation.native (.captured helperReader
      transition.before.request.expectedGeneration (expected + 1) subject) ∈
        preflight.observed := by
    rw [observed]
    exact List.mem_append_right _ List.mem_cons_self
  obtain ⟨frontRun, preflightTaken⟩ := beforeRun.of_split inEarlier
  obtain ⟨beforePreflight, afterPreflight⟩ := captured_positions preflightTaken reported
  have afterConstant := beforeRun.constant_between position
    (fun _ _ _ _ taken => (step_position taken).1) inEarlier (here.trans afterPreflight.symm)
  -- the assignment of the expected sequence
  rcases frontRun.last_change position with ⟨initial, isInitial, start⟩ |
    ⟨before, assigned, between, frontSplit, changed, value, betweenConstant⟩
  · rw [initial_position isInitial, beforePreflight] at start
    have zero : transition.before.request.expectedGeneration = 0 :=
      (congrArg Prod.fst (toLex.injective start)).symm
    refine absurd (atGeneration.symm.trans (generation.trans zero)) ?_
    refine generation_of_acted beforeRun ?_
    rw [own, firstStage]
    split <;> simp
  · refine ⟨before, assigned, between, preflight, after, ?_, ?_, ?_, ⟨subject, reported⟩, ?_⟩
    · rw [inEarlier, frontSplit]
      simp
    · obtain ⟨-, assignedTaken⟩ := frontRun.of_split frontSplit
      exact lt_of_le_of_ne (step_position assignedTaken).1 changed
    · exact value.trans beforePreflight
    · intro quiet member
      rcases List.mem_append.mp member with inBetween | inAfter
      · refine numbersNothing_of_constant frontRun ?_ ?_
        · rw [frontSplit]
          exact List.mem_append_right _ (List.mem_cons_of_mem _ inBetween)
        · obtain ⟨low, high⟩ := betweenConstant quiet inBetween
          exact low.trans high.symm
      · refine numbersNothing_of_constant beforeRun ?_ ?_
        · rw [inEarlier]
          exact List.mem_append_right _ (List.mem_cons_of_mem _ inAfter)
        · obtain ⟨low, high⟩ := afterConstant quiet inAfter
          exact low.trans high.symm

/-- A projection at sequence 2, then a request that expects it. -/
def guardedRequest : List Action :=
  [.connection .mixerApiLoaded, .connection .coreConnected, .connection .omInstalled,
    .connection (.captureAdmit 1), .connection (.capturePost 1), .connection (.capture 0 true),
    .connection .captureReset, .checkDeadline false, .admitCapture, .postCapture,
    .connection (.capture 0 true), .connection .captureReset, .inspect none false false false,
    .dispatch, .connection .popMutation, .connection .sampleMutation]

def guardedSystem : System :=
  { conn := Connection.new 4, request := ⟨1, some 2⟩, ownCapture := false,
    stage := .waiting .preflight, generationEnded := false }

theorem guardedRequest_sequenceGuard :
    ∃ earlier last system, Run machine (earlier ++ [last]) system ∧
      (∃ call om, .native (.executed call om) ∈ last.observed) ∧
      ∃ before assigned between preflight after,
        earlier = before ++ assigned :: (between ++ preflight :: after) ∧
        position assigned.after = toLex (1, 2) ∧
        ∀ quiet ∈ between ++ after, NumbersNothing quiet := by
  have run := exec_run guardedRequest
    (.start ⟨⟨4, by decide, rfl⟩, rfl, rfl⟩ : Run machine [] guardedSystem) rfl
  have whole := @Run.step _ _ _ machine _ _ _ (.connection (.settleMutation .ready)) _ run rfl
  obtain ⟨before, assigned, between, preflight, after, split, -, numbered, -, quiet⟩ :=
    sequenceGuard_of_run whole rfl (List.mem_cons_self) rfl rfl
  exact ⟨_, _, _, whole, ⟨_, _, List.mem_cons_self⟩, before, assigned, between, preflight,
    after, split, numbered, quiet⟩

end WyrePlumber.Coordination.SequenceGuard
