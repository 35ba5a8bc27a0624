import WyrePlumber.Coordination.SequenceGuard

/-!
# Which failure a lost request reports

`runtime_stopped` belongs to a stop and `generation_lost` to a disconnect.  Three
places decide it: `cancel_pending`, the dispatcher, and the Python code that reads
a message.  Only the first knows why the runtime is gone; the other two call every
missing manager a stop.
-/

set_option autoImplicit false

namespace WyrePlumber.Coordination.FailureKinds

open LabelledMachine
open WyrePlumber.Native
open WyrePlumber.Native.Connection (WPConnection MutationDispatchCall MutationDispatchResult)
open WyrePlumber.Coordination.Request
open WyrePlumber.Runtime (MutationFailureCode)

/-! ## What the connection completes -/

theorem completeCall_result {conn : WPConnection} {call : MutationDispatchCall}
    {result answer : MutationDispatchResult} {generation sequence atGeneration atSequence id : Nat}
    (member : .completed id answer atGeneration atSequence ∈
      (Connection.completeCall conn call result generation sequence).2) :
    answer = result ∧ id = call.id := by
  unfold Connection.completeCall at member
  split at member
  · cases member
  · cases List.mem_singleton.mp member
    exact ⟨rfl, rfl⟩

theorem completeCalls_result {result answer : MutationDispatchResult}
    {generation atGeneration atSequence id : Nat} {calls : List MutationDispatchCall}
    {conn : WPConnection}
    (member : .completed id answer atGeneration atSequence ∈
      (Connection.completeCalls result generation calls conn).2) : answer = result := by
  induction calls generalizing conn with
  | nil => cases member
  | cons call rest inductionHypothesis =>
      rcases List.mem_append.mp member with first | later
      · exact (completeCall_result first).1
      · exact inductionHypothesis later

theorem cancelPending_result {conn : WPConnection} {result answer : MutationDispatchResult}
    {atGeneration atSequence id : Nat}
    (member : .completed id answer atGeneration atSequence ∈
      (Connection.cancelPending conn result).2) : answer = result := by
  rcases List.mem_cons.mp member with cancelled | completed
  · cases cancelled
  · exact completeCalls_result completed

theorem publish_not_completed {conn : WPConnection} {kind : Connection.EventKind}
    {subject : Option Nat} {requiresResnapshot built : Bool} {id : Nat}
    {result : MutationDispatchResult} {generation sequence : Nat} :
    .completed id result generation sequence ∉
      (Connection.publish conn kind subject requiresResnapshot built).2 := by
  intro member
  cases Reports.publish_kind _ _ _ _ _ member

theorem onCoreDisconnected_result {conn : WPConnection} {result : MutationDispatchResult}
    {generation sequence id : Nat}
    (member : .completed id result generation sequence ∈
      (Connection.onCoreDisconnected conn).2) : result = .generationLost := by
  unfold Connection.onCoreDisconnected at member
  split at member
  · rcases List.mem_append.mp member with cancelled | published
    · exact cancelPending_result cancelled
    · exact absurd published publish_not_completed
  · cases member

/-- Who completes a call: a disconnect, a stop, or the dispatcher with the result it
settled. -/
theorem completed_of_step {conn next : WPConnection} {action : Connection.Action}
    {observed : List Connection.Observation}
    (taken : Connection.step conn action = some (next, observed))
    {id : Nat} {result : MutationDispatchResult} {generation sequence : Nat}
    (member : .completed id result generation sequence ∈ observed) :
    result = .generationLost ∨
      (result = .runtimeStopped ∧ conn.stopCallers ≠ 0) ∨
      (action = .completeMutation ∧
        ∃ call, conn.wpThread = .settled call result generation sequence ∧ call.id = id) := by
  rcases Connection.step_cases conn next action observed taken with
    ⟨_, application⟩ | ⟨_, callback⟩ | stage
  · cases action with
    | dispatchRuntimeMutation expectedGeneration expectedSequence =>
        simp only [Connection.stepApplication, Option.some.injEq] at application
        unfold Connection.dispatchRuntimeMutation at application
        split at application
        · cases application
          cases List.mem_singleton.mp member
        · split at application
          · cases application
            cases List.mem_singleton.mp member
          · cases application
            cases List.mem_singleton.mp member
    | reconnectCancel =>
        cases application
        exact .inl (cancelPending_result member)
    | stopCancel =>
        simp only [Connection.stepApplication] at application
        split at application
        · cases application
        · rename_i waiting
          cases application
          exact .inr (.inl ⟨cancelPending_result member, waiting⟩)
    | drainEvents reader maxEvents =>
        cases application
        obtain ⟨event, _, same⟩ := List.mem_map.mp member
        cases same
    | nextEvent reader =>
        simp only [Connection.stepApplication] at application
        split at application <;> cases application
        · cases member
        · cases List.mem_singleton.mp member
    | stopRequest =>
        cases application
        cases member
    | stopPost =>
        simp only [Connection.stepApplication] at application
        split at application
        · cases application
        · split at application <;> cases application <;> cases member
    | reconnectPost | captureAdmit | capturePost =>
        simp only [Connection.stepApplication] at application
        split at application <;> cases application <;> cases member
    | _ => cases application
  · cases action with
    | mixerApiLoaded | coreConnected =>
        cases callback
        cases member
    | coreDisconnected =>
        cases callback
        exact .inl (onCoreDisconnected_result member)
    | omInstalled =>
        simp only [Connection.stepCallback] at callback
        split at callback
        · split at callback
          · cases callback
            rcases List.mem_cons.mp member with installed | published
            · cases installed
            · exact absurd published publish_not_completed
          · cases callback
        · cases callback
    | objectSignal signal built =>
        obtain ⟨manager, _, published⟩ := Option.map_eq_some_iff.mp callback
        unfold Connection.publishObjectEvent at published
        split at published
        · have reported : _ = observed := congrArg Prod.snd published
          exact absurd (reported ▸ member) publish_not_completed
        · cases published
          cases member
    | defaultSignal built =>
        obtain ⟨manager, _, published⟩ := Option.map_eq_some_iff.mp callback
        unfold Connection.publishDefaultEvent at published
        split at published
        · have reported : _ = observed := congrArg Prod.snd published
          exact absurd (reported ▸ member) publish_not_completed
        · cases published
          cases member
    | capture index copied =>
        simp only [Connection.stepCallback] at callback
        split at callback
        · cases callback
        · cases copied <;> cases callback <;> simp at member
    | reconnect =>
        simp only [Connection.stepCallback, Connection.reconnectOnWpThread] at callback
        split at callback
        · cases callback
        · split at callback <;> cases callback
          · exact .inl (onCoreDisconnected_result member)
          · cases member
    | stop =>
        simp only [Connection.stepCallback, Connection.stopOnWpThread] at callback
        split at callback
        · cases callback
        · cases callback
          rcases List.mem_append.mp member with disconnected | published
          · split at disconnected
            · exact .inl (onCoreDisconnected_result disconnected)
            · cases disconnected
          · exact absurd published publish_not_completed
    | popMutation | loopExit =>
        simp only [Connection.stepCallback] at callback
        split at callback <;> cases callback
        cases member
    | _ => cases callback
  · cases action with
    | completeMutation =>
        simp only [Connection.stepStage] at stage
        split at stage
        · rename_i call settled atGeneration atSequence atStage
          have reported : _ = observed := congrArg Prod.snd (Option.some.inj stage)
          rw [← reported] at member
          have numbers : generation = atGeneration ∧ sequence = atSequence := by
            unfold Connection.completeCall at member
            split at member
            · cases member
            · cases List.mem_singleton.mp member
              exact ⟨rfl, rfl⟩
          obtain ⟨rfl, rfl⟩ := completeCall_result member
          obtain ⟨rfl, rfl⟩ := numbers
          exact .inr (.inr ⟨rfl, call, atStage, rfl⟩)
        · cases stage
    | settleMutation executed =>
        simp only [Connection.stepStage] at stage
        split at stage
        · simp only [Option.some.injEq] at stage
          unfold Connection.settleMutation at stage
          split at stage <;> cases stage <;> simp at member
        · cases stage
    | sampleMutation | rescheduleMutation =>
        simp only [Connection.stepStage] at stage
        split at stage <;> cases stage
        cases member
    | captureReset =>
        simp only [Connection.stepStage] at stage
        split at stage
        · cases stage
          obtain ⟨event, _, same⟩ := List.mem_map.mp member
          cases same
        · cases stage
    | _ => cases stage

/-- A call is settled by the dispatcher's checks or by its execution. -/
theorem settled_of_step {conn next : WPConnection} {action : Connection.Action}
    {observed : List Connection.Observation}
    (taken : Connection.step conn action = some (next, observed))
    {call : MutationDispatchCall} {result : MutationDispatchResult} {generation sequence : Nat}
    (atStage : next.wpThread = .settled call result generation sequence) :
    (Connection.stepApplication conn action = some (next, observed) ∧
        conn.wpThread = next.wpThread) ∨
      ∃ executed stopped, action = .settleMutation executed ∧
        conn.wpThread = .sampled call stopped generation sequence ∧
        next.stopRequested = conn.stopRequested ∧
        (Connection.refusal conn.om call stopped generation sequence = some result ∨
          Connection.refusal conn.om call stopped generation sequence = none ∧
            result = executed) := by
  rcases Connection.step_cases conn next action observed taken with
    ⟨_, application⟩ | ⟨ready, callback⟩ | stage
  · have same := Connection.stepApplication_sameWpState conn next action observed application
    exact .inl ⟨application, same.wpThread.symm⟩
  · have idle : conn.wpThread = .idle := by
      simp only [Connection.callbackReady, Bool.and_eq_true, beq_iff_eq] at ready
      exact ready.1
    rcases MutationIsolation.stepCallback_wpThread callback with kept | ⟨popped, started⟩ | captured
    · rw [kept, idle] at atStage
      cases atStage
    · rw [started] at atStage
      cases atStage
    · rw [captured] at atStage
      cases atStage
  · cases action with
    | settleMutation executed =>
        simp only [Connection.stepStage] at stage
        split at stage
        · rename_i sampled stopped atGeneration atSequence atSample
          simp only [Option.some.injEq] at stage
          unfold Connection.settleMutation at stage
          split at stage
          · rename_i passed _
            cases stage
            cases atStage
            exact .inr ⟨_, _, rfl, atSample, rfl, .inr ⟨passed, rfl⟩⟩
          · rename_i passed absent
            obtain ⟨_, present, _⟩ := MutationIsolation.refusal_eq_none passed
            rw [absent] at present
            cases present
          · rename_i refused
            cases stage
            cases atStage
            exact .inr ⟨_, _, rfl, atSample, rfl, .inl refused⟩
        · cases stage
    | sampleMutation =>
        simp only [Connection.stepStage] at stage
        split at stage <;> cases stage
        cases atStage
    | completeMutation =>
        simp only [Connection.stepStage] at stage
        split at stage
        · rename_i finished answer sampled number _
          obtain ⟨ids, frame⟩ := Connection.completeCall_frame { conn with wpThread := .completed }
            finished answer sampled number
          have reached : _ = next := congrArg Prod.fst (Option.some.inj stage)
          rw [← reached, frame] at atStage
          cases atStage
        · cases stage
    | rescheduleMutation =>
        obtain ⟨scheduled, sources, frame⟩ := Connection.scheduleDispatchLocked_frame
          { conn with mutationSourceScheduled := false, wpThread := .idle }
        simp only [Connection.stepStage, frame] at stage
        split at stage <;> cases stage
        cases atStage
    | captureReset =>
        simp only [Connection.stepStage] at stage
        split at stage <;> cases stage
        cases atStage
    | _ => cases stage

/-! ## Kinds and the condition -/

def halted (conn : WPConnection) : Bool :=
  conn.stopRequested || !conn.contextAlive

/-- The generation that a request met which the dispatcher has not accepted. -/
def metGeneration (system : System) : Option Nat :=
  match system.stage with
  | .inspecting _ generation _ => some generation
  | .dispatching _ => some system.conn.generation
  | _ => none

/-- A lost request reports why it was lost.  A request whose generation has ended
is stale only when it met another generation before it was accepted. -/
def KindKept : Observation → Prop
  | .outcome code system =>
      (code = some .runtimeStopped → halted system.conn = true) ∧
      (system.generationEnded = true → halted system.conn = false →
        code = some .generationLost ∨
          code = some .staleGeneration ∧
            ∃ generation, metGeneration system = some generation ∧
              generation ≠ system.request.expectedGeneration)
  | .native _ => True

/-- The inspection of a snapshot decides nothing but that the generation is gone. -/
def looksOn (system : System) (selection : Option SelectionFailure)
    (expiredBefore satisfied expired : Bool) : Bool :=
  match system.stage with
  | .inspecting .preflight generation sequence =>
      !(system.ownCapture && expiredBefore) &&
        (generation ≠ system.request.expectedGeneration ||
          !preflightIsStale system.request generation sequence && selection.isNone &&
            !satisfied && !expired)
  | .inspecting .poll generation _ =>
      generation ≠ system.request.expectedGeneration || !satisfied
  | _ => true

/-- The dispatcher settles the request's call against a manager; after the end of the
generation it does so in a later one, or the call goes through. -/
def settlesKind (system : System) (executed : MutationDispatchResult) : Bool :=
  match system.conn.wpThread with
  | .sampled call _ _ sequence =>
      system.stage ≠ .submitted call.id || system.conn.stopRequested ||
        (system.conn.om.isSome &&
          (!system.generationEnded ||
            system.conn.generation ≠ system.request.expectedGeneration ||
            executed == .ready && call.expectedSequence.all fun expected => expected == sequence))
  | _ => true

/-- The request meets a manager whenever it asks for a capture or is dispatched,
and once its generation has ended nothing else decides it. -/
def Regular (system : System) : Action → Prop
  | .admitCapture =>
      system.conn.contextAlive && system.conn.om.isSome || halted system.conn = true
  | .checkDeadline expired =>
      expired = true → system.generationEnded = true → halted system.conn = true
  | .captureFailed _ _ => system.generationEnded = true → halted system.conn = true
  | .inspect selection expiredBefore satisfied expired =>
      system.generationEnded = true → halted system.conn = false →
        looksOn system selection expiredBefore satisfied expired = true
  | .connection (.settleMutation executed) => settlesKind system executed = true
  | _ => True

instance (system : System) (action : Action) : Decidable (Regular system action) := by
  cases action with
  | connection action => cases action <;> unfold Regular <;> infer_instance
  | _ => unfold Regular; infer_instance

/-! ## Every outcome keeps its kind -/

theorem unavailableCode_unavailable : unavailableCode unavailableMessage = .runtimeStopped := by
  decide

/-- No capture error is mistaken for a stop. -/
theorem unavailableCode_captureErrors :
    ∀ message ∈ captureErrors, unavailableCode message = .internalError := by
  decide +kernel

theorem selection_not_stopped (failure : SelectionFailure) :
    some failure.code ≠ some MutationFailureCode.runtimeStopped := by
  cases failure <;> decide

theorem keeps_of_halted {system : System} (halt : halted system.conn = true)
    (code : Option MutationFailureCode) : KindKept (.outcome code system) := by
  refine ⟨fun _ => halt, ?_⟩
  intro _ running
  rw [halt] at running
  cases running

/-- A code other than `runtime_stopped` is in order while the generation lasts. -/
theorem keeps_of_lasting {system : System} {code : Option MutationFailureCode}
    (other : code ≠ some .runtimeStopped)
    (lasting : system.generationEnded = true → halted system.conn = true) :
    KindKept (.outcome code system) := by
  refine ⟨fun same => absurd same other, ?_⟩
  intro ended running
  rw [lasting ended] at running
  cases running

theorem keeps_generationLost (system : System) :
    KindKept (.outcome (some .generationLost) system) := by
  refine ⟨?_, fun _ _ => .inl rfl⟩
  intro same
  cases same

theorem keeps_staleGeneration {system : System} {generation : Nat}
    (met : metGeneration system = some generation)
    (other : generation ≠ system.request.expectedGeneration) :
    KindKept (.outcome (some .staleGeneration) system) := by
  refine ⟨?_, fun _ _ => .inr ⟨rfl, generation, met, other⟩⟩
  intro same
  cases same

theorem keeps_native {observed : List Connection.Observation} {observation : Observation}
    (member : observation ∈ observed.map Observation.native) : KindKept observation := by
  obtain ⟨_, _, rfl⟩ := List.mem_map.mp member
  trivial

theorem keeps_finish {system : System} {code : Option MutationFailureCode}
    (kept : KindKept (.outcome code system)) :
    ∀ observation ∈ (finish system code).2, KindKept observation := by
  intro observation member
  rw [List.mem_singleton.mp member]
  exact kept

theorem keeps_unavailable {system : System} {purpose : Purpose} {message : String}
    (kept : KindKept (.outcome (some (unavailableCode message)) system)) :
    ∀ observation ∈ (unavailable system purpose message).2, KindKept observation := by
  unfold unavailable
  split
  · intro observation member
    cases member
  · exact keeps_finish kept

theorem keeps_inspectPreflight {system : System} {generation sequence : Nat}
    (atStage : system.stage = .inspecting .preflight generation sequence)
    {selection : Option SelectionFailure} {expiredBefore satisfied expired : Bool}
    (regular : Regular system (.inspect selection expiredBefore satisfied expired)) :
    ∀ observation ∈ (inspectPreflight system generation sequence selection expiredBefore
      satisfied expired).2, KindKept observation := by
  by_cases lasting : system.generationEnded = true → halted system.conn = true
  · -- nothing the snapshot shows is a stop
    unfold inspectPreflight
    split
    · exact keeps_finish (keeps_of_lasting (selection_not_stopped _) lasting)
    · split
      · exact keeps_finish (keeps_of_lasting (by decide) lasting)
      · split
        · exact keeps_finish (keeps_of_lasting (by decide) lasting)
        · split
          · exact keeps_finish (keeps_of_lasting (by decide) lasting)
          · split
            · exact keeps_finish (keeps_of_lasting (by decide) lasting)
            · split
              · exact keeps_finish (keeps_of_lasting (by decide) lasting)
              · intro observation member
                cases member
  · simp only [Classical.not_imp, Bool.not_eq_true] at lasting
    have looks := regular lasting.1 lasting.2
    simp only [looksOn, atStage, Bool.and_eq_true, Bool.not_eq_true', Bool.or_eq_true,
      decide_eq_true_eq] at looks
    obtain ⟨inTime, undecided⟩ := looks
    unfold inspectPreflight
    rcases undecided with other | ⟨⟨⟨fresh, unselected⟩, unsatisfied⟩, unexpired⟩
    · have stale : preflightIsStale system.request generation sequence = true := by
        simp [preflightIsStale, other]
      simp only [stale, Bool.not_true, Bool.and_false, inTime, Bool.false_eq_true, if_false]
      rw [if_pos other]
      refine keeps_finish (keeps_staleGeneration ?_ other)
      rw [metGeneration, atStage]
    · have current : ¬ generation ≠ system.request.expectedGeneration := by
        intro other
        simp [preflightIsStale, other] at fresh
      rw [Option.isNone_iff_eq_none] at unselected
      simp only [unselected, inTime, fresh, unsatisfied, unexpired, Bool.false_eq_true, if_false]
      rw [if_neg current]
      intro observation member
      cases member

theorem keeps_inspectPoll {system : System} {generation sequence : Nat}
    (atStage : system.stage = .inspecting .poll generation sequence)
    {selection : Option SelectionFailure} {expiredBefore satisfied expired : Bool}
    (regular : Regular system (.inspect selection expiredBefore satisfied expired)) :
    ∀ observation ∈ (inspectPoll system generation satisfied).2, KindKept observation := by
  unfold inspectPoll
  split
  · exact keeps_finish (keeps_generationLost system)
  · rename_i current
    split
    · rename_i isSatisfied
      refine keeps_finish (keeps_of_lasting (by decide) ?_)
      intro ended
      by_contra running
      have looks := regular ended (Bool.not_eq_true _ ▸ running)
      simp [looksOn, atStage, isSatisfied, not_not.mp current] at looks
    · intro observation member
      cases member

/-! ## The invariant -/

/-- A sampled stop flag is a requested stop, and what the dispatcher has settled
for the request's call is of the right kind. -/
structure Settled (system : System) : Prop where
  halting : Stopping.Halting system.conn
  sampled : ∀ call stopped generation sequence,
    system.conn.wpThread = .sampled call stopped generation sequence → stopped = true →
      system.conn.stopRequested = true
  settled : ∀ call result generation sequence,
    system.conn.wpThread = .settled call result generation sequence →
      system.stage = .submitted call.id →
        (result = .runtimeStopped → system.conn.stopRequested = true) ∧
        (system.generationEnded = true → system.conn.stopRequested = false →
          result = .generationLost ∨ result = .ready)

theorem disconnects_of_application {conn next : WPConnection} {action : Connection.Action}
    {observed : List Connection.Observation}
    (taken : Connection.stepApplication conn action = some (next, observed)) :
    disconnects conn action = false := by
  cases action with
  | coreDisconnected | reconnect => cases taken
  | _ => rfl

theorem recordEnd_of_application {system : System} {next : WPConnection}
    {action : Connection.Action} {observed : List Connection.Observation}
    (taken : Connection.stepApplication system.conn action = some (next, observed)) :
    recordEnd system action = system.generationEnded := by
  simp [recordEnd, disconnects_of_application taken]

theorem settlesKind_spec {history : History} {system : System}
    (run : Run machine history system) {executed : MutationDispatchResult}
    (kind : settlesKind system executed = true) {call : MutationDispatchCall}
    {stopped : Bool} {generation sequence : Nat}
    (atStage : system.conn.wpThread = .sampled call stopped generation sequence)
    (own : system.stage = .submitted call.id) (running : system.conn.stopRequested = false)
    (flag : stopped = true → system.conn.stopRequested = true) :
    system.conn.om.isSome = true ∧
      (system.generationEnded = true →
        Connection.refusal system.conn.om call stopped generation sequence =
            some .generationLost ∨
          Connection.refusal system.conn.om call stopped generation sequence = none ∧
            executed = .ready) := by
  have notStopped : stopped = false := by
    by_contra isStopped
    rw [flag (Bool.not_eq_false _ ▸ isStopped)] at running
    cases running
  subst notStopped
  simp only [settlesKind, atStage, own, running, ne_eq, not_true, decide_false, Bool.false_or,
    Bool.and_eq_true, Bool.or_eq_true, Bool.not_eq_true', beq_iff_eq, decide_eq_true_eq] at kind
  obtain ⟨present, kinds⟩ := kind
  refine ⟨present, ?_⟩
  intro ended
  obtain ⟨_, enqueued, same, submitted, expected, current, -, -, -⟩ :=
    (SequenceGuard.guarded_of_run run).submitted call.id own
  have isCall : enqueued = call := SequenceGuard.sampled_enqueued run atStage submitted same
  subst isCall
  obtain ⟨connHistory, connRun, -⟩ := connection_of_run run
  have sampled : generation = system.conn.generation :=
    MutationIsolation.sampledCurrent_of_run connRun _ _ _ _ atStage
  have absent : system.conn.om.isNone = false := by
    rw [Option.isNone_eq_false_iff]
    exact present
  simp only [Connection.refusal, absent, Bool.or_false, Bool.false_eq_true, if_false]
  rcases kinds with (lasting | later) | ⟨ready, guard⟩
  · rw [ended] at lasting
    cases lasting
  · left
    rw [if_pos]
    rw [sampled, current]
    exact later
  · by_cases later : generation = enqueued.enqueuedGeneration
    · right
      refine ⟨?_, ready⟩
      have sameExpected : generation = enqueued.expectedGeneration := by
        rw [later, current, expected]
      have sameSequence : enqueued.expectedSequence.any (· ≠ sequence) = false := by
        cases carried : enqueued.expectedSequence with
        | none => rfl
        | some number =>
            rw [carried] at guard
            simpa using guard
      rw [if_neg (not_not.mpr later), if_neg (not_not.mpr sameExpected), sameSequence]
      rfl
    · left
      rw [if_pos later]

/-- A refusal for a missing manager is the only one that says `runtime_stopped`. -/
theorem refusal_runtimeStopped {om : Option Connection.ObjectManager}
    {call : MutationDispatchCall} {stopped : Bool} {generation sequence : Nat}
    (refused : Connection.refusal om call stopped generation sequence = some .runtimeStopped) :
    stopped = true ∨ om.isNone = true := by
  unfold Connection.refusal at refused
  split at refused
  · rename_i gone
    exact (Bool.or_eq_true _ _).mp gone
  · split at refused
    · cases refused
    · split at refused
      · cases refused
      · split at refused <;> cases refused

/-- A call the helper has just submitted is not the one the dispatcher holds. -/
theorem submitted_not_held {history : History} {system next : System} {action : Action}
    {observed : List Observation} (run : Run machine history system)
    (taken : Request.step system action = some (next, observed))
    {call held : MutationDispatchCall} (enqueued : .native (.enqueued call) ∈ observed)
    {result : MutationDispatchResult} {generation sequence : Nat}
    (atStage : system.conn.wpThread = .settled held result generation sequence) :
    call.id ≠ held.id := by
  intro same
  obtain ⟨before, beforeRun, beforeLog⟩ := connection_of_run run
  obtain ⟨after, afterRun, afterLog⟩ := connection_of_run (run.step taken)
  have accounted := (Dispatcher.dispatchSafety_of_run beforeRun).accounted
  have distinct := (Dispatcher.dispatchSafety_of_run afterRun).distinct
  have heldBefore : held.id ∈
      (Dispatcher.enqueuedCalls (log before)).map MutationDispatchCall.id := by
    refine accounted.mem_iff.mp (List.mem_append_right _ ?_)
    rw [Dispatcher.heldCalls, atStage]
    exact List.mem_cons_self
  rw [afterLog, log_append, log_singleton, natives_append, ← beforeLog,
    Dispatcher.enqueuedCalls, List.filterMap_append, List.map_append,
    List.nodup_append] at distinct
  have fresh : call.id ∈ ((natives observed).filterMap
      Dispatcher.Observation.enqueuedCall).map MutationDispatchCall.id :=
    List.mem_map_of_mem (List.mem_filterMap.mpr ⟨_, mem_natives.mpr enqueued, rfl⟩)
  exact distinct.2.2 held.id heldBefore call.id fresh same.symm

theorem settleMutation_not_enqueued {conn next : WPConnection}
    {executed : MutationDispatchResult} {observed : List Connection.Observation}
    (taken : Connection.step conn (.settleMutation executed) = some (next, observed))
    (call : MutationDispatchCall) : .enqueued call ∉ observed := by
  intro member
  simp only [Connection.step, Connection.stepStage] at taken
  split at taken
  · simp only [Option.some.injEq] at taken
    unfold Connection.settleMutation at taken
    split at taken <;> cases taken <;> simp at member
  · cases taken

/-- The settling step reports no submission, and executes to an execution result. -/
theorem settling_step {system next : System} {executed : MutationDispatchResult}
    {observed : List Observation}
    (taken : Request.step system (.connection (.settleMutation executed)) =
      some (next, observed)) :
    executed ∈ executionResults ∧ ∀ call, .native (.enqueued call) ∉ observed := by
  simp only [Request.step] at taken
  split at taken
  · rename_i allowed
    refine ⟨by simpa [admissible] using allowed, ?_⟩
    intro call member
    obtain ⟨⟨stepped, reports⟩, connStep, same⟩ := Option.map_eq_some_iff.mp taken
    cases same
    have reported := mem_natives.mpr member
    rw [natives_append, natives_native, receive_quiet, List.append_nil] at reported
    exact settleMutation_not_enqueued (native_stepped connStep).taken call reported
  · cases taken

theorem Settled.step {history : History} {system next : System} {action : Action}
    {observed : List Observation} (run : Run machine history system)
    (settled : Settled system) (regular : Regular system action)
    (taken : Request.step system action = some (next, observed)) : Settled next := by
  have effect := step_effect taken
  -- the stage in which the dispatcher's result was settled
  have submittedBefore {held : MutationDispatchCall} {result : MutationDispatchResult}
      {generation sequence : Nat}
      (atStage : system.conn.wpThread = .settled held result generation sequence)
      (own : next.stage = .submitted held.id) : system.stage = .submitted held.id := by
    cases effect.stage with
    | kept stage => rw [← stage, own]
    | bare stage =>
        rw [own] at stage
        cases stage
    | copied _ _ _ _ stage | returned _ _ _ _ stage | approved _ _ _ _ stage =>
        rw [own] at stage
        cases stage
    | enqueued _ call _ _ _ _ stage reported =>
        rw [own] at stage
        exact absurd (Stage.submitted.inj stage).symm
          (submitted_not_held run taken reported atStage)
  rcases effect.native with ⟨same, -, ended⟩ | ⟨connAction, connStep, ended, causes⟩
  · refine ⟨same ▸ settled.halting, same ▸ settled.sampled, ?_⟩
    intro call result generation sequence atStage own
    rw [same] at atStage ⊢
    rw [ended]
    exact settled.settled call result generation sequence atStage
      (submittedBefore atStage own)
  · have requested := (Stopping.step_stopEffect connStep).requested
    refine ⟨settled.halting.step connStep, ?_, ?_⟩
    · intro call stopped generation sequence atStage isStopped
      rcases MutationIsolation.sampled_of_step connStep atStage with kept | ⟨flag, -, -⟩
      · exact requested (settled.sampled call stopped generation sequence
          (kept.wpThread ▸ atStage) isStopped)
      · exact flag ▸ isStopped
    · intro call result generation sequence atStage own
      rcases settled_of_step connStep atStage with ⟨application, kept⟩ |
        ⟨executed, stopped, isSettle, atSample, sameStop, decided⟩
      · have before := settled.settled call result generation sequence (kept.trans atStage)
          (submittedBefore (kept.trans atStage) own)
        rw [ended, recordEnd_of_application application]
        refine ⟨fun isStopped => requested (before.1 isStopped), ?_⟩
        intro wasEnded running
        refine before.2 wasEnded ?_
        by_contra stoppedBefore
        rw [requested (Bool.not_eq_false _ ▸ stoppedBefore)] at running
        cases running
      · subst isSettle
        have isConnection : action = .connection (.settleMutation executed) := by
          rcases causes with same | helpers
          · exact same
          · cases helpers
        subst isConnection
        have ownBefore : system.stage = .submitted call.id := by
          cases effect.stage with
          | kept stage => rw [← stage, own]
          | bare stage =>
              rw [own] at stage
              cases stage
          | copied _ _ _ _ stage | returned _ _ _ _ stage | approved _ _ _ _ stage =>
              rw [own] at stage
              cases stage
          | enqueued _ fresh _ _ _ _ _ reported =>
              exact absurd reported ((settling_step taken).2 fresh)
        rw [sameStop, ended]
        have lasting : recordEnd system (.settleMutation executed) = system.generationEnded := by
          simp [recordEnd, disconnects]
        rw [lasting]
        have flag := settled.sampled call stopped generation sequence atSample
        refine ⟨?_, ?_⟩
        · intro isStopped
          by_contra running
          obtain ⟨present, -⟩ := settlesKind_spec run regular atSample ownBefore
            (Bool.not_eq_true _ ▸ running) flag
          rcases decided with refused | ⟨-, same⟩
          · rw [isStopped] at refused
            rcases refusal_runtimeStopped refused with isSampled | absent
            · exact running (flag isSampled)
            · rw [Option.isNone_iff_eq_none.mp absent] at present
              cases present
          · have result := (settling_step taken).1
            rw [← same, isStopped] at result
            revert result
            decide
        · intro wasEnded running
          obtain ⟨-, kinds⟩ := settlesKind_spec run regular atSample ownBefore running flag
          rcases kinds wasEnded with lost | ⟨passed, ready⟩
          · rcases decided with refused | ⟨passed, -⟩
            · rw [lost] at refused
              exact .inl (Option.some.inj refused).symm
            · rw [lost] at passed
              cases passed
          · rcases decided with refused | ⟨-, same⟩
            · rw [passed] at refused
              cases refused
            · exact .inr (same.trans ready)

/-! ## The outcomes of a step -/

theorem completion_spec {call : Nat} {observed : List Connection.Observation}
    {result : MutationDispatchResult} (found : completion call observed = some result) :
    ∃ generation sequence, .completed call result generation sequence ∈ observed := by
  obtain ⟨observation, member, same⟩ := List.exists_of_findSome?_eq_some found
  cases observation with
  | completed id answer generation sequence =>
      simp only [Option.ite_none_right_eq_some, Option.some.injEq] at same
      obtain ⟨rfl, rfl⟩ := same
      exact ⟨generation, sequence, member⟩
  | _ => cases same

theorem failureCode_runtimeStopped {result : MutationDispatchResult}
    (isStopped : failureCode result = some .runtimeStopped) : result = .runtimeStopped := by
  cases result <;> first | rfl | cases isStopped

theorem keeps_receiveTicket {system : System} {result : MutationDispatchResult}
    (kept : ∀ code, failureCode result = some code →
      KindKept (.outcome (some code) system)) :
    ∀ observation ∈ (receiveTicket system result).2, KindKept observation := by
  unfold receiveTicket
  split
  · intro observation member
    cases member
  · rename_i code failed
    exact keeps_finish (kept code failed)

theorem halted_of_requested {conn : WPConnection} (requested : conn.stopRequested = true) :
    halted conn = true := by
  rw [halted, requested, Bool.true_or]

theorem running_of_not_halted {conn : WPConnection} (running : halted conn = false) :
    conn.stopRequested = false := by
  rw [halted, Bool.or_eq_false_iff] at running
  exact running.1

/-- The completion of the request's call is of the right kind. -/
theorem keeps_receive {system stepped : System} {action : Connection.Action}
    {observed : List Connection.Observation} (settled : Settled system)
    (moved : Stepped system stepped action observed) :
    ∀ observation ∈ (receive stepped action observed).2, KindKept observation := by
  have nothing : ∀ observation ∈ ([] : List Observation), KindKept observation := by
    intro observation member
    cases member
  have requested := (Stopping.step_stopEffect moved.taken).requested
  unfold receive
  split
  · split <;> exact nothing
  · split <;> exact nothing
  · rename_i call own
    split
    · rename_i result found
      obtain ⟨generation, sequence, member⟩ := completion_spec found
      refine keeps_receiveTicket ?_
      intro code failed
      rcases completed_of_step moved.taken member with
        rfl | ⟨rfl, waiting⟩ | ⟨rfl, held, atStage, same⟩
      · cases failed
        exact keeps_generationLost stepped
      · exact keeps_of_halted
          (halted_of_requested (requested (settled.halting.requested waiting))) _
      · obtain ⟨isStop, isLost⟩ := settled.settled held result generation sequence atStage
          (by rw [same, ← moved.stage, own])
        refine ⟨?_, ?_⟩
        · intro isStopped
          rw [isStopped] at failed
          exact halted_of_requested (requested (isStop (failureCode_runtimeStopped failed)))
        · intro ended running
          have endedBefore : system.generationEnded = true := by
            rw [moved.generationEnded] at ended
            simpa [recordEnd, disconnects] using ended
          have runningBefore : system.conn.stopRequested = false := by
            by_contra stopped
            have after := requested (Bool.not_eq_false _ ▸ stopped)
            rw [running_of_not_halted running] at after
            cases after
          rcases isLost endedBefore runningBefore with rfl | rfl
          · cases failed
            exact .inl rfl
          · cases failed
    · exact nothing
  · exact nothing

theorem captureFailed_frame {conn next : WPConnection} {index : Nat}
    {observed : List Connection.Observation}
    (taken : Connection.step conn (.capture index false) = some (next, observed)) :
    halted next = halted conn := by
  simp only [Connection.step] at taken
  split at taken
  · simp only [Connection.stepCallback] at taken
    split at taken
    · cases taken
    · cases taken
      rfl
  · cases taken

/-- The native call refuses a request with the right kind. -/
theorem keeps_submit {system stepped : System} {sequence : Nat}
    (dispatching : system.stage = .dispatching sequence) {expectedSequence : Option Nat}
    {observed : List Connection.Observation}
    (moved : Stepped system stepped
      (.dispatchRuntimeMutation system.request.expectedGeneration expectedSequence) observed) :
    ∀ observation ∈ (submit stepped observed).2, KindKept observation := by
  unfold submit
  split
  · rename_i id result
    have taken := moved.taken
    refine keeps_receiveTicket ?_
    intro code failed
    simp only [Connection.step, Connection.stepApplication] at taken
    split at taken
    · have outcome := Option.some.inj taken
      unfold Connection.dispatchRuntimeMutation at outcome
      split at outcome
      · rename_i gone
        obtain ⟨reached, reports⟩ := Prod.mk.inj outcome
        cases reports
        cases failed
        refine keeps_of_halted ?_ _
        rw [← reached]
        exact gone
      · split at outcome
        · rename_i other
          obtain ⟨reached, reports⟩ := Prod.mk.inj outcome
          cases reports
          cases failed
          refine @keeps_staleGeneration _ system.conn.generation ?_ ?_
          · rw [metGeneration, moved.stage, dispatching, ← reached]
          · rw [moved.request]
            exact fun same => other same.symm
        · cases (Prod.mk.inj outcome).2
    · cases taken
  · intro observation member
    cases member
  · intro observation member
    cases member

theorem keeps_append {observed : List Connection.Observation} {own : List Observation}
    (kept : ∀ observation ∈ own, KindKept observation) :
    ∀ observation ∈ observed.map .native ++ own, KindKept observation := by
  intro observation member
  rcases List.mem_append.mp member with native | decided
  · exact keeps_native native
  · exact kept observation decided

theorem step_keeps {system next : System} {action : Action} {observed : List Observation}
    (settled : Settled system) (regular : Regular system action)
    (taken : Request.step system action = some (next, observed)) :
    ∀ observation ∈ observed, KindKept observation := by
  cases action with
  | connection action =>
      simp only [Request.step] at taken
      split at taken
      · obtain ⟨⟨stepped, reports⟩, connStep, same⟩ := Option.map_eq_some_iff.mp taken
        cases same
        exact keeps_append (keeps_receive settled (native_stepped connStep))
      · cases taken
  | checkDeadline expired =>
      simp only [Request.step, stepHelper] at taken
      split at taken
      · split at taken
        · rename_i purpose _
          split at taken
          · rename_i isExpired
            have reported : _ = observed := congrArg Prod.snd (Option.some.inj taken)
            rw [← reported]
            exact keeps_finish (keeps_of_lasting (by cases purpose <;> decide)
              (regular isExpired))
          · cases taken
            intro observation member
            cases member
        · cases taken
      · cases taken
  | admitCapture =>
      simp only [Request.step, stepHelper] at taken
      split at taken
      · split at taken
        · split at taken
          · obtain ⟨⟨stepped, reports⟩, connStep, same⟩ := Option.map_eq_some_iff.mp taken
            cases same
            intro observation member
            exact keeps_native member
          · rename_i absent
            have reported : _ = observed := congrArg Prod.snd (Option.some.inj taken)
            rw [← reported]
            have halt : halted system.conn = true := by
              simpa [absent] using (show (_ || _) = true from regular)
            exact keeps_unavailable (keeps_of_halted halt _)
        · cases taken
      · cases taken
  | postCapture =>
      simp only [Request.step, stepHelper] at taken
      split at taken
      · split at taken
        · obtain ⟨⟨stepped, reports⟩, connStep, same⟩ := Option.map_eq_some_iff.mp taken
          cases same
          intro observation member
          exact keeps_native member
        · cases taken
      · cases taken
  | captureFailed index message =>
      simp only [Request.step, stepHelper] at taken
      split at taken
      · split at taken
        · split at taken
          · rename_i allowed
            obtain ⟨⟨stepped, reports⟩, connStep, same⟩ := Option.map_eq_some_iff.mp taken
            cases same
            have moved := native_stepped connStep
            refine keeps_append (keeps_unavailable ?_)
            rw [unavailableCode_captureErrors message allowed.2]
            refine keeps_of_lasting (by decide) ?_
            intro ended
            rw [captureFailed_frame moved.taken]
            refine regular ?_
            rw [moved.generationEnded] at ended
            simpa [recordEnd, disconnects] using ended
          · cases taken
        · cases taken
      · cases taken
  | inspect selection expiredBefore satisfied expired =>
      simp only [Request.step, stepHelper] at taken
      split at taken
      · split at taken
        · rename_i atStage
          have reported : _ = observed := congrArg Prod.snd (Option.some.inj taken)
          rw [← reported]
          exact keeps_inspectPreflight atStage regular
        · rename_i atStage
          have reported : _ = observed := congrArg Prod.snd (Option.some.inj taken)
          rw [← reported]
          exact keeps_inspectPoll atStage regular
        · cases taken
      · cases taken
  | dispatch =>
      simp only [Request.step, stepHelper] at taken
      split at taken
      · split at taken
        · rename_i dispatching
          obtain ⟨⟨stepped, reports⟩, connStep, same⟩ := Option.map_eq_some_iff.mp taken
          cases same
          exact keeps_append (keeps_submit dispatching (native_stepped connStep))
        · cases taken
      · cases taken

/-- In every interleaving whose steps are regular each outcome reports the failure
it is: `runtime_stopped` only for a stop, and for a generation that ended without
one `generation_lost`, or `stale_generation` before the request was accepted. -/
theorem kinds_of_run {history : History} {system : System} (run : Run machine history system)
    (regular : ∀ transition ∈ history, Regular transition.before transition.action) :
    ∀ observation ∈ log history, KindKept observation := by
  have both : Settled system ∧ ∀ observation ∈ log history, KindKept observation := by
    induction run with
    | @start system initial =>
        refine ⟨?_, fun _ member => by cases member⟩
        obtain ⟨⟨capacity, _, fresh⟩, stage, -⟩ := initial
        have idle : system.conn.wpThread = .idle := by
          rw [fresh]
          rfl
        refine ⟨?_, ?_, ?_⟩
        · exact Stopping.halting_of_run
            (.start ⟨capacity, ‹_›, fresh⟩ : Run Connection.machine [] system.conn)
        · intro call stopped generation sequence atStage
          rw [idle] at atStage
          cases atStage
        · intro call result generation sequence atStage
          rw [idle] at atStage
          cases atStage
    | @step history state next action observed run taken inductionHypothesis =>
        have earlier : ∀ transition ∈ history,
            Regular transition.before transition.action := by
          intro transition member
          exact regular transition (List.mem_append_left _ member)
        have last : Regular state action := regular ⟨state, action, next, observed⟩ (by simp)
        obtain ⟨settled, kept⟩ := inductionHypothesis earlier
        refine ⟨settled.step run last taken, ?_⟩
        intro observation member
        rw [log_append, log_singleton] at member
        rcases List.mem_append.mp member with before | now
        · exact kept observation before
        · exact step_keeps settled last taken observation now
  exact both.2

/-- A request at its first deadline check, with no generation yet. -/
def submittedSystem : System :=
  { conn := Connection.new 4, request := ⟨1, none⟩, ownCapture := false,
    stage := .waiting .preflight, generationEnded := false }

/-- A request waits for its confirmation when the core disconnects.  Nobody has
called `stop`, yet its next capture is refused and reported as a stop. -/
def confirmingRequest : List Action :=
  [.connection .mixerApiLoaded, .connection .coreConnected, .connection .omInstalled,
    .checkDeadline false, .admitCapture, .postCapture, .connection (.capture 0 true),
    .connection .captureReset, .inspect none false false false, .dispatch,
    .connection .popMutation, .connection .sampleMutation, .connection (.settleMutation .ready),
    .connection .completeMutation, .connection .rescheduleMutation, .checkDeadline false,
    .connection .coreDisconnected]

def disconnectedSystem : System :=
  { conn := { Connection.new 4 with
      managers := 1, mixerApi := true, started := true, generation := 1, sequence := 3,
      runtimeEvents := [⟨1, 3, .connectionChanged, none, false⟩],
      mutationDispatchOrder := 1, calls := 1, completedCalls := [0] }
    request := ⟨1, none⟩, ownCapture := false, stage := .admitting .poll,
    generationEnded := true }

theorem confirmingRequest_not_kept :
    ¬ ∀ history system, Run machine history system →
      ∀ observation ∈ log history, KindKept observation := by
  intro kept
  have run : ∃ history, Run machine history disconnectedSystem :=
    ⟨_, exec_run confirmingRequest
      (.start ⟨⟨4, by decide, rfl⟩, rfl, rfl⟩ : Run machine [] submittedSystem) rfl⟩
  obtain ⟨history, run⟩ := run
  have whole := @Run.step _ _ _ machine _ _ _ .admitCapture _ run rfl
  have decided := kept _ _ whole
    (.outcome (some (unavailableCode unavailableMessage)) disconnectedSystem) (by
      rw [log_append, log_singleton]
      exact List.mem_append_right _ List.mem_cons_self)
  have halt := decided.1 (congrArg some unavailableCode_unavailable)
  revert halt
  decide

/-- A request that the dispatcher has not taken yet is cancelled by the disconnect. -/
def queuedRequest : List Action :=
  [.connection .mixerApiLoaded, .connection .coreConnected, .connection .omInstalled,
    .checkDeadline false, .admitCapture, .postCapture, .connection (.capture 0 true),
    .connection .captureReset, .inspect none false false false, .dispatch,
    .connection .coreDisconnected]

theorem queuedRequest_runs :
    (exec machine [] submittedSystem queuedRequest).isSome = true := by
  decide +kernel

/-- The generation has ended and the outcome says so. -/
def reportsLoss : Observation → Bool
  | .outcome code decided => code == some .generationLost && decided.generationEnded
  | .native _ => false

theorem queuedRequest_kinds :
    ∃ history system, Run machine history system ∧ (log history).any reportsLoss = true ∧
      ∀ observation ∈ log history, KindKept observation := by
  have run := exec_run queuedRequest
    (.start ⟨⟨4, by decide, rfl⟩, rfl, rfl⟩ : Run machine [] submittedSystem)
    (Option.some_get queuedRequest_runs).symm
  exact ⟨_, _, run, by decide +kernel, kinds_of_run run (by decide +kernel)⟩

end WyrePlumber.Coordination.FailureKinds
