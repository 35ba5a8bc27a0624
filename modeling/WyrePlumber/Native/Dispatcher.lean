import WyrePlumber.Library.FifoDispatcher
import WyrePlumber.Native.Reports
import WyrePlumber.Native.Stopping

/-!
# The mutation dispatcher

The mutation half of the connection refines a first-in first-out dispatcher: calls
are its tasks, generations its epochs, and `cancel_pending` its cancellation, run
by disconnects, reconnects and stops.  Order, at most one execution, exactly one
completion and the absence of lost wakeups are the dispatcher's.
-/

set_option autoImplicit false

namespace WyrePlumber.Native.Dispatcher

open LabelledMachine
open WyrePlumber.Native.Connection
open WyrePlumber.Native.Reports
open WyrePlumber.Native.Stopping
open FifoDispatcher (Ticketed Stage Report completions submissions executions)

instance : Ticketed MutationDispatchCall where
  key := MutationDispatchCall.id
  epoch := MutationDispatchCall.enqueuedGeneration
  order := MutationDispatchCall.dispatchOrder

def stage : WpThread → Stage MutationDispatchCall
  | .popped call | .sampled call _ _ _ => .taken call
  | .settled call _ _ _ => .decided call
  | .completed => .finished
  | .idle | .captured => .idle

/-- The part of the connection that dispatches mutations. -/
def dispatcher (conn : WPConnection) : FifoDispatcher.Dispatcher MutationDispatchCall where
  issued := conn.calls
  epoch := conn.generation
  order := conn.mutationDispatchOrder
  queue := conn.mutationQueue
  stage := stage conn.wpThread
  done := conn.completedCalls
  scheduled := conn.mutationSourceScheduled
  wakeups := conn.mutationSources
  alive := conn.contextAlive

def view : Observation → Option (Report MutationDispatchCall)
  | .enqueued call => some (.submitted call)
  | .executed call _ => some (.ran call)
  | .completed id _ _ _ => some (.finished id)
  | _ => none

/-! ## Refinement -/

abbrev DispatcherSteps :
    FifoDispatcher.Dispatcher MutationDispatchCall → List (Report MutationDispatchCall) →
      FifoDispatcher.Dispatcher MutationDispatchCall → Prop :=
  Steps FifoDispatcher.machine

theorem quiet_steps {conn next : WPConnection} {observed : List Observation}
    (same : dispatcher next = dispatcher conn) (quiet : observed.filterMap view = []) :
    DispatcherSteps (dispatcher conn) (observed.filterMap view) (dispatcher next) := by
  rw [same, quiet]
  exact .refl _

theorem steps_of_some {conn next : WPConnection} {observed : List Observation}
    {outcome : WPConnection × List Observation}
    (steps : DispatcherSteps (dispatcher conn) (outcome.2.filterMap view)
      (dispatcher outcome.1))
    (taken : some outcome = some (next, observed)) :
    DispatcherSteps (dispatcher conn) (observed.filterMap view) (dispatcher next) := by
  cases taken
  exact steps

theorem filterMap_view_eq_nil {observed : List Observation}
    (stream : ∀ observation ∈ observed, Observation.kind observation = .stream) :
    observed.filterMap view = [] := by
  rw [List.filterMap_eq_nil_iff]
  intro observation member
  have kind := stream observation member
  cases observation <;> first | rfl | cases kind

theorem schedule_dispatcher (conn : WPConnection) :
    FifoDispatcher.schedule (dispatcher conn) = dispatcher (scheduleDispatchLocked conn) := by
  by_cases nothing : (conn.mutationSourceScheduled || !conn.contextAlive ||
      conn.mutationQueue.isEmpty) = true
  · simp only [FifoDispatcher.schedule, scheduleDispatchLocked, dispatcher, nothing, if_true]
  · simp only [FifoDispatcher.schedule, scheduleDispatchLocked, dispatcher, nothing,
      Bool.false_eq_true, if_false]

theorem complete_dispatcher (conn : WPConnection) (call : MutationDispatchCall)
    (result : MutationDispatchResult) (generation sequence : Nat) :
    FifoDispatcher.complete (dispatcher conn) call.id =
      (dispatcher (completeCall conn call result generation sequence).1,
        (completeCall conn call result generation sequence).2.filterMap view) := by
  by_cases finished : call.id ∈ conn.completedCalls
  · simp only [FifoDispatcher.complete, completeCall, dispatcher, finished, if_true]
    rfl
  · simp only [FifoDispatcher.complete, completeCall, dispatcher, finished, if_false]
    rfl

theorem completeAll_dispatcher (result : MutationDispatchResult) (generation : Nat)
    (calls : List MutationDispatchCall) (conn : WPConnection) :
    FifoDispatcher.completeAll (calls.map MutationDispatchCall.id) (dispatcher conn) =
      (dispatcher (completeCalls result generation calls conn).1,
        (completeCalls result generation calls conn).2.filterMap view) := by
  induction calls generalizing conn with
  | nil => rfl
  | cons call rest inductionHypothesis =>
      simp only [List.map_cons, FifoDispatcher.completeAll, completeCalls,
        complete_dispatcher conn call result generation 0, inductionHypothesis,
        List.filterMap_append]

theorem cancelPending_steps (conn : WPConnection) (result : MutationDispatchResult) :
    DispatcherSteps (dispatcher conn) ((cancelPending conn result).2.filterMap view)
      (dispatcher (cancelPending conn result).1) := by
  have completed := completeAll_dispatcher result conn.generation conn.mutationQueue
    { conn with mutationQueue := [] }
  refine .single .cancel ?_
  exact congrArg some completed

theorem publish_steps (conn : WPConnection) (kind : EventKind) (subject : Option Nat)
    (requiresResnapshot built : Bool) :
    DispatcherSteps (dispatcher conn)
      ((publish conn kind subject requiresResnapshot built).2.filterMap view)
      (dispatcher (publish conn kind subject requiresResnapshot built).1) := by
  refine quiet_steps ?_ ?_
  · obtain ⟨_, _, frame⟩ := publish_frame conn kind subject requiresResnapshot built
    rw [frame]
    rfl
  · exact filterMap_view_eq_nil fun _ => publish_kind _ _ _ _ _

theorem onCoreDisconnected_steps (conn : WPConnection) :
    DispatcherSteps (dispatcher conn) ((onCoreDisconnected conn).2.filterMap view)
      (dispatcher (onCoreDisconnected conn).1) := by
  unfold onCoreDisconnected
  split
  · simp only [List.filterMap_append]
    have cancelled := cancelPending_steps { conn with coreConnected := false } .generationLost
    exact cancelled.trans (publish_steps _ .connectionChanged none false true)
  · exact .refl _

theorem reconnectOnWpThread_steps (conn : WPConnection) :
    DispatcherSteps (dispatcher conn) ((reconnectOnWpThread conn).2.filterMap view)
      (dispatcher (reconnectOnWpThread conn).1) := by
  unfold reconnectOnWpThread
  split
  · exact onCoreDisconnected_steps conn
  · exact .refl _

theorem stopOnWpThread_steps (conn : WPConnection) :
    DispatcherSteps (dispatcher conn) ((stopOnWpThread conn).2.filterMap view)
      (dispatcher (stopOnWpThread conn).1) := by
  have disconnected := reconnectOnWpThread_steps conn
  have published := publish_steps (reconnectOnWpThread conn).1 .connectionChanged none
    false true
  have reported : (stopOnWpThread conn).2 =
      (reconnectOnWpThread conn).2 ++ (publishConnection (reconnectOnWpThread conn).1).2 :=
    rfl
  have steps := disconnected.trans published
  rw [← List.filterMap_append] at steps
  rw [reported]
  exact steps

theorem dispatchRuntimeMutation_steps (conn : WPConnection) (expectedGeneration : Nat)
    (expectedSequence : Option Nat) :
    DispatcherSteps (dispatcher conn)
      ((dispatchRuntimeMutation conn expectedGeneration expectedSequence).2.filterMap view)
      (dispatcher (dispatchRuntimeMutation conn expectedGeneration expectedSequence).1) := by
  unfold dispatchRuntimeMutation
  split
  · exact .single .skip rfl
  · rename_i accepting
    split
    · exact .single .skip rfl
    · simp only [Bool.or_eq_true, not_or, Bool.not_eq_true, Bool.not_eq_false'] at accepting
      let call : MutationDispatchCall :=
        { id := conn.calls, expectedGeneration := expectedGeneration,
          expectedSequence := expectedSequence, enqueuedGeneration := conn.generation,
          dispatchOrder := conn.mutationDispatchOrder + 1 }
      refine .single (.submit call) ?_
      have accepted : (dispatcher conn).alive = true ∧
          Ticketed.key call = (dispatcher conn).issued ∧
          Ticketed.epoch call = (dispatcher conn).epoch ∧
          Ticketed.order call = (dispatcher conn).order + 1 :=
        ⟨accepting.2, rfl, rfl, rfl⟩
      simp only [FifoDispatcher.machine, FifoDispatcher.step]
      rw [if_pos accepted]
      have scheduled := schedule_dispatcher { conn with
        calls := conn.calls + 1,
        mutationDispatchOrder := conn.mutationDispatchOrder + 1,
        mutationQueue := conn.mutationQueue ++ [call] }
      exact congrArg (fun outcome => some (outcome, [Report.submitted call])) scheduled

theorem stepApplication_steps {conn next : WPConnection} {action : Action}
    {observed : List Observation}
    (taken : stepApplication conn action = some (next, observed)) :
    DispatcherSteps (dispatcher conn) (observed.filterMap view) (dispatcher next) := by
  cases action with
  | dispatchRuntimeMutation expectedGeneration expectedSequence =>
      exact steps_of_some (dispatchRuntimeMutation_steps conn _ _) taken
  | reconnectCancel =>
      cases taken
      exact cancelPending_steps conn .generationLost
  | stopCancel =>
      simp only [stepApplication] at taken
      split at taken
      · cases taken
      · cases taken
        exact cancelPending_steps conn .runtimeStopped
  | stopPost =>
      simp only [stepApplication] at taken
      split at taken
      · cases taken
      · split at taken <;> cases taken <;> exact quiet_steps rfl rfl
  | drainEvents reader maxEvents =>
      cases taken
      refine quiet_steps rfl (filterMap_view_eq_nil ?_)
      intro observation member
      obtain ⟨event, _, rfl⟩ := List.mem_map.mp member
      rfl
  | stopRequest =>
      cases taken
      exact quiet_steps rfl rfl
  | nextEvent | reconnectPost | captureAdmit | capturePost =>
      simp only [stepApplication] at taken
      split at taken <;> cases taken <;> exact quiet_steps rfl rfl
  | _ => cases taken

theorem installObjectManager_dispatcher (conn : WPConnection) :
    dispatcher (installObjectManager conn) = dispatcher conn := by
  obtain ⟨_, _, frame⟩ := installObjectManager_frame conn
  rw [frame]
  rfl

theorem stepCallback_steps {conn next : WPConnection} {action : Action}
    {observed : List Observation} (halting : Halting conn)
    (ready : callbackReady conn = true)
    (taken : stepCallback conn action = some (next, observed)) :
    DispatcherSteps (dispatcher conn) (observed.filterMap view) (dispatcher next) := by
  simp only [callbackReady, Bool.and_eq_true, beq_iff_eq] at ready
  obtain ⟨idle, alive⟩ := ready
  have atIdle : (dispatcher conn).stage = .idle := by
    simp only [dispatcher, idle]
    rfl
  cases action with
  | mixerApiLoaded =>
      cases taken
      exact quiet_steps (installObjectManager_dispatcher _) rfl
  | coreConnected =>
      cases taken
      exact quiet_steps (installObjectManager_dispatcher _) rfl
  | coreDisconnected => exact steps_of_some (onCoreDisconnected_steps conn) taken
  | omInstalled =>
      simp only [stepCallback] at taken
      split at taken
      · rename_i manager _
        split at taken
        · refine steps_of_some ?_ taken
          let established := { conn with
            om := some { manager with generation := some (conn.generation + 1) },
            generation := conn.generation + 1, sequence := 0, mutationDispatchOrder := 0,
            started := true }
          have opened : DispatcherSteps (dispatcher conn) [] (dispatcher established) :=
            .single .openEpoch rfl
          exact opened.trans (publish_steps established .connectionChanged none false true)
        · cases taken
      · cases taken
  | objectSignal signal built =>
      simp only [stepCallback, Option.map_eq_some_iff] at taken
      obtain ⟨manager, _, published⟩ := taken
      refine steps_of_some ?_ (congrArg some published)
      unfold publishObjectEvent
      split
      · exact publish_steps ..
      · exact .refl _
  | defaultSignal built =>
      simp only [stepCallback, Option.map_eq_some_iff] at taken
      obtain ⟨manager, _, published⟩ := taken
      refine steps_of_some ?_ (congrArg some published)
      unfold publishDefaultEvent
      split
      · exact publish_steps ..
      · exact .refl _
  | capture index copied =>
      simp only [stepCallback] at taken
      split at taken
      · cases taken
      · cases copied with
        | false =>
            cases taken
            exact quiet_steps rfl rfl
        | true =>
            cases taken
            refine quiet_steps ?_ rfl
            simp only [dispatcher, idle]
            rfl
  | reconnect =>
      simp only [stepCallback] at taken
      split at taken
      · cases taken
      · exact steps_of_some (reconnectOnWpThread_steps { conn with
          reconnectSources := conn.reconnectSources - 1 }) taken
  | stop =>
      simp only [stepCallback] at taken
      split at taken
      · cases taken
      · exact steps_of_some (stopOnWpThread_steps { conn with
          stopSources := conn.stopSources - 1 }) taken
  | popMutation =>
      simp only [stepCallback] at taken
      split at taken
      · cases taken
      · rename_i pending
        refine steps_of_some ?_ taken
        refine .single .wake ?_
        simp only [FifoDispatcher.machine, FifoDispatcher.step, atIdle]
        simp only [dispatcher, pending, alive, Bool.true_eq_false, or_self, if_false]
        cases queued : conn.mutationQueue with
        | nil => simp [popMutation, queued, idle, alive, stage]
        | cons call rest => simp [popMutation, queued, alive, stage]
  | loopExit =>
      simp only [stepCallback] at taken
      split at taken
      · rename_i quit
        have empty : conn.mutationQueue = [] := (halting.emptied (.inr (.inr quit))).2
        cases taken
        refine .single .shutdown ?_
        simp only [FifoDispatcher.machine, FifoDispatcher.step, dispatcher, idle, empty]
        rfl
      · cases taken
  | _ => cases taken

theorem stepStage_steps {conn next : WPConnection} {action : Action}
    {observed : List Observation}
    (taken : stepStage conn action = some (next, observed)) :
    DispatcherSteps (dispatcher conn) (observed.filterMap view) (dispatcher next) := by
  cases action with
  | sampleMutation =>
      simp only [stepStage] at taken
      split at taken
      · rename_i call atStage
        cases taken
        refine quiet_steps ?_ rfl
        simp only [dispatcher, atStage]
        rfl
      · cases taken
  | settleMutation result =>
      simp only [stepStage] at taken
      split at taken
      · rename_i call stopped generation sequence atStage
        simp only [Option.some.injEq] at taken
        unfold settleMutation at taken
        split at taken
        · cases taken
          refine .single .run ?_
          simp only [FifoDispatcher.machine, FifoDispatcher.step, dispatcher, atStage]
          rfl
        · cases taken
          refine .single .pass ?_
          simp only [FifoDispatcher.machine, FifoDispatcher.step, dispatcher, atStage]
          rfl
        · cases taken
          refine .single .pass ?_
          simp only [FifoDispatcher.machine, FifoDispatcher.step, dispatcher, atStage]
          rfl
      · cases taken
  | completeMutation =>
      simp only [stepStage] at taken
      split at taken
      · rename_i call result generation sequence atStage
        refine steps_of_some ?_ taken
        refine .single .finish ?_
        have completed := complete_dispatcher { conn with wpThread := .completed } call
          result generation sequence
        simp only [FifoDispatcher.machine, FifoDispatcher.step, dispatcher, atStage]
        exact congrArg some completed
      · cases taken
  | rescheduleMutation =>
      simp only [stepStage] at taken
      split at taken
      · rename_i atStage
        cases taken
        refine .single .rearm ?_
        have scheduled := schedule_dispatcher
          { conn with mutationSourceScheduled := false, wpThread := .idle }
        simp only [FifoDispatcher.machine, FifoDispatcher.step, dispatcher, atStage]
        exact congrArg (fun outcome => some (outcome, [])) scheduled
      · cases taken
  | captureReset =>
      simp only [stepStage, runtimeEventsReset] at taken
      split at taken
      · rename_i atStage
        cases taken
        refine quiet_steps ?_ (filterMap_view_eq_nil ?_)
        · simp only [dispatcher, atStage]
          rfl
        · intro observation member
          obtain ⟨event, _, rfl⟩ := List.mem_map.mp member
          rfl
      · cases taken
  | _ => cases taken

theorem step_steps {conn next : WPConnection} {action : Action}
    {observed : List Observation} (halting : Halting conn)
    (taken : step conn action = some (next, observed)) :
    DispatcherSteps (dispatcher conn) (observed.filterMap view) (dispatcher next) := by
  rcases step_cases conn next action observed taken with
    ⟨_, application⟩ | ⟨ready, callback⟩ | stage
  · exact stepApplication_steps application
  · exact stepCallback_steps halting ready callback
  · exact stepStage_steps stage

/-- Every run of the connection is a run of its dispatcher. -/
theorem dispatcher_of_run {history : History} {conn : WPConnection}
    (run : Run machine history conn) :
    ∃ dispatcherHistory, Run FifoDispatcher.machine dispatcherHistory (dispatcher conn) ∧
      log dispatcherHistory = (log history).filterMap view := by
  refine run.simulate dispatcher ?_ ?_
  · rintro conn ⟨capacity, _, rfl⟩
    exact ⟨rfl, rfl, rfl, rfl, rfl⟩
  · intro _ conn action next observed run taken
    exact step_steps (halting_of_run run) taken

/-! ## Progress -/

/-- The actions by which the WirePlumber thread finishes a handler it has begun or
serves the mutation queue; native execution is left to `outcome`. -/
def servesQueue (outcome : MutationDispatchResult) : Action → Bool
  | .popMutation | .sampleMutation | .completeMutation | .rescheduleMutation
  | .captureReset => true
  | .settleMutation result => result == outcome
  | _ => false

/-- The connection left to its dispatcher. -/
def dispatcherOnly (outcome : MutationDispatchResult) :
    Machine WPConnection Action Observation where
  initial := machine.initial
  step conn action := if servesQueue outcome action then step conn action else none

theorem dispatcherOnly_includes {outcome : MutationDispatchResult} (conn : WPConnection)
    (action : Action) (result : WPConnection × List Observation)
    (taken : (dispatcherOnly outcome).step conn action = some result) :
    machine.step conn action = some result := by
  simp only [dispatcherOnly] at taken
  split at taken
  · exact taken
  · cases taken

section Progress

variable (outcome : MutationDispatchResult)

/-- The handler in progress ends without touching the queue. -/
def EndsHandler (conn : WPConnection) : Prop :=
  ∃ observed final, Steps (dispatcherOnly outcome) conn observed final ∧
    final.wpThread = .idle ∧ final.mutationQueue = conn.mutationQueue

theorem EndsHandler.after {conn : WPConnection} {action : Action}
    {result : WPConnection × List Observation} (serves : servesQueue outcome action = true)
    (taken : step conn action = some result)
    (queue : result.1.mutationQueue = conn.mutationQueue)
    (rest : EndsHandler outcome result.1) : EndsHandler outcome conn := by
  obtain ⟨later, final, steps, idle, unchanged⟩ := rest
  have first : (dispatcherOnly outcome).step conn action = some (result.1, result.2) := by
    simp only [dispatcherOnly, serves, if_true]
    exact taken
  exact ⟨result.2 ++ later, final, .head action first steps, idle, unchanged.trans queue⟩

theorem endsHandler_idle {conn : WPConnection} (idle : conn.wpThread = .idle) :
    EndsHandler outcome conn :=
  ⟨[], conn, .refl conn, idle, rfl⟩

theorem endsHandler_completed {conn : WPConnection}
    (completed : conn.wpThread = .completed) : EndsHandler outcome conn := by
  obtain ⟨scheduled, sources, frame⟩ := scheduleDispatchLocked_frame
    { conn with mutationSourceScheduled := false, wpThread := .idle }
  have taken : step conn .rescheduleMutation = some (scheduleDispatchLocked
      { conn with mutationSourceScheduled := false, wpThread := .idle }, []) := by
    simp only [step, stepStage, completed, if_true]
  refine EndsHandler.after outcome rfl taken ?_ (endsHandler_idle outcome ?_)
  · rw [frame]
  · rw [frame]

theorem endsHandler_settled {conn : WPConnection} {call : MutationDispatchCall}
    {result : MutationDispatchResult} {generation sequence : Nat}
    (settled : conn.wpThread = .settled call result generation sequence) :
    EndsHandler outcome conn := by
  obtain ⟨ids, frame⟩ := completeCall_frame { conn with wpThread := .completed } call
    result generation sequence
  have taken : step conn .completeMutation = some (completeCall
      { conn with wpThread := .completed } call result generation sequence) := by
    simp only [step, stepStage, settled]
  refine EndsHandler.after outcome rfl taken ?_ (endsHandler_completed outcome ?_)
  · rw [frame]
  · rw [frame]

theorem endsHandler_sampled {conn : WPConnection} {call : MutationDispatchCall}
    {stopped : Bool} {generation sequence : Nat}
    (sampled : conn.wpThread = .sampled call stopped generation sequence) :
    EndsHandler outcome conn := by
  have taken : step conn (.settleMutation outcome) = some (settleMutation conn call stopped
      generation sequence outcome) := by
    simp only [step, stepStage, sampled]
  have settled : ∃ result, (settleMutation conn call stopped generation sequence outcome).1 =
      { conn with wpThread := .settled call result generation sequence } := by
    unfold settleMutation
    split
    · exact ⟨_, rfl⟩
    · exact ⟨_, rfl⟩
    · exact ⟨_, rfl⟩
  obtain ⟨result, reached⟩ := settled
  have serves : servesQueue outcome (.settleMutation outcome) = true := by
    simp [servesQueue]
  have atStage : (settleMutation conn call stopped generation sequence outcome).1.wpThread =
      .settled call result generation sequence := by
    rw [reached]
  refine EndsHandler.after outcome serves taken ?_ (endsHandler_settled outcome atStage)
  rw [reached]

theorem endsHandler (conn : WPConnection) : EndsHandler outcome conn := by
  cases atStage : conn.wpThread with
  | idle => exact endsHandler_idle outcome atStage
  | popped call =>
      have taken : step conn .sampleMutation = some ({ conn with
          wpThread := .sampled call conn.stopRequested conn.generation conn.sequence }, []) := by
        simp only [step, stepStage, atStage]
      exact EndsHandler.after outcome rfl taken rfl (endsHandler_sampled outcome rfl)
  | sampled call stopped generation sequence => exact endsHandler_sampled outcome atStage
  | settled call result generation sequence => exact endsHandler_settled outcome atStage
  | completed => exact endsHandler_completed outcome atStage
  | captured =>
      have taken : step conn .captureReset =
          some (runtimeEventsReset { conn with wpThread := .idle }) := by
        simp only [step, stepStage, atStage, if_true]
      exact EndsHandler.after outcome rfl taken rfl (endsHandler_idle outcome rfl)

/-- Left to itself, the dispatcher empties the queue and settles what it holds. -/
theorem drains {history : History} {conn : WPConnection}
    (run : Run machine history conn) :
    ∃ observed final, Steps (dispatcherOnly outcome) conn observed final ∧
      final.wpThread = .idle ∧ final.mutationQueue = [] := by
  generalize size : conn.mutationQueue.length = count
  induction count generalizing history conn with
  | zero =>
      obtain ⟨observed, final, steps, idle, unchanged⟩ := endsHandler outcome conn
      exact ⟨observed, final, steps, idle,
        unchanged.trans (List.length_eq_zero_iff.mp size)⟩
  | succ count inductionHypothesis =>
      obtain ⟨observed, ready, steps, idle, unchanged⟩ := endsHandler outcome conn
      obtain ⟨longer, readyRun, _⟩ := run.extend (steps.mono dispatcherOnly_includes)
      obtain ⟨_, dispatcherRun, _⟩ := dispatcher_of_run readyRun
      have wakeups := (FifoDispatcher.sound_of_run dispatcherRun).wakeups
      have notBusy : (dispatcher ready).stage.busy = false := by
        simp only [dispatcher, idle]
        rfl
      rw [← unchanged] at size
      cases queued : ready.mutationQueue with
      | nil =>
          rw [queued] at size
          cases size
      | cons call rest =>
          have nonempty : (dispatcher ready).queue ≠ [] := by
            simp [dispatcher, queued]
          have woken : ready.mutationSources ≠ 0 := by
            rcases wakeups.ahead nonempty with woken | busy
            · exact woken
            · rw [notBusy] at busy
              cases busy
          have alive : ready.contextAlive = true := by
            cases alive : ready.contextAlive with
            | true => rfl
            | false => exact absurd (wakeups.alive alive).1 nonempty
          have popped : machine.step ready .popMutation = some ({ ready with
              mutationSources := ready.mutationSources - 1, mutationQueue := rest,
              wpThread := .popped call }, []) := by
            simp [machine, step, callbackReady, idle, alive, stepCallback, woken, popMutation, queued]
          have smaller : rest.length = count := by
            simpa [queued] using size
          obtain ⟨later, final, laterSteps, finalIdle, empty⟩ :=
            inductionHypothesis (.step readyRun popped) smaller
          have pop : (dispatcherOnly outcome).step ready .popMutation = some ({ ready with
              mutationSources := ready.mutationSources - 1, mutationQueue := rest,
              wpThread := .popped call }, []) := by
            simp only [dispatcherOnly, servesQueue, if_true]
            exact popped
          exact ⟨_, final, steps.trans (.head .popMutation pop laterSteps), finalIdle, empty⟩

end Progress

/-! ## The contract of the dispatcher -/

def Observation.enqueuedCall : Observation → Option MutationDispatchCall
  | .enqueued call => some call
  | _ => none

def Observation.executedCall : Observation → Option MutationDispatchCall
  | .executed call _ => some call
  | _ => none

def Observation.completedId : Observation → Option Nat
  | .completed id _ _ _ => some id
  | _ => none

def enqueuedCalls (reported : List Observation) : List MutationDispatchCall :=
  reported.filterMap Observation.enqueuedCall

def executedCalls (reported : List Observation) : List MutationDispatchCall :=
  reported.filterMap Observation.executedCall

def completedIds (reported : List Observation) : List Nat :=
  reported.filterMap Observation.completedId

/-- The call that the dispatcher has popped and not completed yet. -/
def heldCalls (conn : WPConnection) : List MutationDispatchCall :=
  (stage conn.wpThread).held

/-- The dispatcher is in the middle of its own step. -/
def dispatching (conn : WPConnection) : Bool :=
  (stage conn.wpThread).busy

def ofGeneration (generation : Nat) (calls : List MutationDispatchCall) :
    List MutationDispatchCall :=
  calls.filter fun call => call.enqueuedGeneration = generation

/-- What holds of every run of the connection.  `accounted` and `distinct` say that
an enqueued call is completed, held or queued, once; `drained` that the dispatcher
completes it. -/
structure DispatchSafety (history : History) (conn : WPConnection) : Prop where
  distinct : ((enqueuedCalls (log history)).map MutationDispatchCall.id).Nodup
  accounted : (completedIds (log history) ++
    (heldCalls conn ++ conn.mutationQueue).map MutationDispatchCall.id).Perm
      ((enqueuedCalls (log history)).map MutationDispatchCall.id)
  completedOnce : (completedIds (log history)).Nodup
  drained : ∀ outcome, ∃ observed final, Steps (dispatcherOnly outcome) conn observed final ∧
    ∀ call ∈ enqueuedCalls (log history), call.id ∈ completedIds (log history ++ observed)
  executedInOrder : (executedCalls (log history)).Sublist (enqueuedCalls (log history))
  executedOnce : ((executedCalls (log history)).map MutationDispatchCall.id).Nodup
  executedOrders : ∀ generation,
    ((ofGeneration generation (executedCalls (log history))).map
      MutationDispatchCall.dispatchOrder).Pairwise (· < ·)
  unfinished : ∀ before call om after,
    log history = before ++ .executed call om :: after → call.id ∉ completedIds before
  contiguous : ∀ generation,
    (ofGeneration generation (enqueuedCalls (log history))).map
        MutationDispatchCall.dispatchOrder =
      List.range' 1 (ofGeneration generation (enqueuedCalls (log history))).length
  woken : conn.mutationQueue ≠ [] → conn.mutationSources ≠ 0 ∨ dispatching conn = true
  stopped : StopCancelled history → ∀ call ∈ enqueuedCalls (log history),
    call.id ∈ completedIds (log history) ∨ call.id ∈ (heldCalls conn).map
      MutationDispatchCall.id

theorem submissions_view (reported : List Observation) :
    submissions (reported.filterMap view) = enqueuedCalls reported := by
  simp only [submissions, enqueuedCalls, List.filterMap_filterMap]
  refine List.filterMap_congr ?_
  intro observation _
  cases observation <;> rfl

theorem executions_view (reported : List Observation) :
    executions (reported.filterMap view) = executedCalls reported := by
  simp only [executions, executedCalls, List.filterMap_filterMap]
  refine List.filterMap_congr ?_
  intro observation _
  cases observation <;> rfl

theorem completions_view (reported : List Observation) :
    completions (reported.filterMap view) = completedIds reported := by
  simp only [completions, completedIds, List.filterMap_filterMap]
  refine List.filterMap_congr ?_
  intro observation _
  cases observation <;> rfl

theorem sound_dispatcher {history : History} {conn : WPConnection}
    (run : Run machine history conn) :
    FifoDispatcher.Sound (dispatcher conn) ((log history).filterMap view) := by
  obtain ⟨dispatcherHistory, dispatcherRun, dispatcherLog⟩ := dispatcher_of_run run
  rw [← dispatcherLog]
  exact FifoDispatcher.sound_of_run dispatcherRun

/-- An enqueued call is completed, held by the dispatcher or queued. -/
theorem accounted_of_run {history : History} {conn : WPConnection}
    (run : Run machine history conn) :
    (completedIds (log history) ++
      (heldCalls conn ++ conn.mutationQueue).map MutationDispatchCall.id).Perm
        ((enqueuedCalls (log history)).map MutationDispatchCall.id) := by
  have placed := (sound_dispatcher run).accounts.placed
  rw [completions_view, submissions_view] at placed
  exact placed

theorem completed_of_settled {history : History} {conn : WPConnection}
    (run : Run machine history conn) (held : heldCalls conn = [])
    (empty : conn.mutationQueue = []) {call : MutationDispatchCall}
    (enqueued : call ∈ enqueuedCalls (log history)) :
    call.id ∈ completedIds (log history) := by
  have accounted := accounted_of_run run
  rw [held, empty, List.map_append, List.map_nil, List.append_nil, List.append_nil]
    at accounted
  exact accounted.mem_iff.mpr (List.mem_map_of_mem enqueued)

/-- What the dispatcher has sampled was enqueued. -/
theorem enqueued_of_sampled {history : History} {conn : WPConnection}
    (run : Run machine history conn) {call : MutationDispatchCall} {stopped : Bool}
    {generation sequence : Nat}
    (atStage : conn.wpThread = .sampled call stopped generation sequence) :
    call ∈ enqueuedCalls (log history) := by
  obtain ⟨past, submitted, -, taken⟩ := (sound_dispatcher run).accounts.tail
  have held : (dispatcher conn).stage = .taken call := by
    rw [dispatcher, atStage]
    rfl
  obtain ⟨front, back, split, -⟩ := taken call held
  rw [submissions_view] at submitted
  rw [submitted, split]
  simp

/-- Safety of the dispatcher in every interleaving of callers, its own steps and
cancellations. -/
theorem dispatchSafety_of_run {history : History} {conn : WPConnection}
    (run : Run machine history conn) : DispatchSafety history conn := by
  have sound := sound_dispatcher run
  have enqueued := submissions_view (log history)
  have executed := executions_view (log history)
  constructor
  · have distinct := sound.keys_nodup
    rw [enqueued] at distinct
    exact distinct
  · exact accounted_of_run run
  · have once := sound.completions_nodup
    rw [completions_view] at once
    exact once
  · intro outcome
    obtain ⟨observed, final, steps, idle, empty⟩ := drains outcome run
    obtain ⟨longer, finalRun, reported⟩ := run.extend (steps.mono dispatcherOnly_includes)
    have held : heldCalls final = [] := by
      rw [heldCalls, idle]
      rfl
    refine ⟨observed, final, steps, ?_⟩
    intro call member
    rw [← reported]
    refine completed_of_settled finalRun held empty ?_
    rw [reported]
    exact List.mem_filterMap.mpr (by
      obtain ⟨observation, inLog, same⟩ := List.mem_filterMap.mp member
      exact ⟨observation, List.mem_append_left _ inLog, same⟩)
  · have ordered := sound.ran_sublist
    rw [executed, enqueued] at ordered
    exact ordered
  · have increasing := sound.ran_keys
    rw [executed] at increasing
    exact increasing.imp Nat.ne_of_lt
  · intro generation
    have orders := sound.ran_orders generation
    rw [executed] at orders
    exact orders
  · intro before call om after split
    obtain ⟨dispatcherHistory, dispatcherRun, dispatcherLog⟩ := dispatcher_of_run run
    have viewed : log dispatcherHistory = before.filterMap view ++
        .ran call :: after.filterMap view := by
      rw [dispatcherLog, split]
      simp [view]
    have unfinished := FifoDispatcher.run_before_finish dispatcherRun viewed
    rw [completions_view] at unfinished
    exact unfinished
  · intro generation
    have orders := sound.numbering.orders generation
    rw [enqueued] at orders
    exact orders
  · exact sound.wakeups.ahead
  · intro cancelled call member
    have empty := (queue_empty_of_stopCancelled run cancelled).2
    have accounted := accounted_of_run run
    rw [empty, List.append_nil] at accounted
    exact List.mem_append.mp
      (accounted.mem_iff.mpr (List.mem_map_of_mem member))

/-- Two calls of one generation; the first is executed, the second is cancelled by a
stop. -/
def executeThenStop : List Action :=
  [.mixerApiLoaded, .coreConnected, .omInstalled, .dispatchRuntimeMutation 1 none,
    .dispatchRuntimeMutation 1 none, .popMutation, .sampleMutation,
    .settleMutation .ready, .completeMutation, .rescheduleMutation, .stopRequest,
    .stopCancel]

theorem dispatchSafety_executeThenStop :
    ∃ history conn, Run machine history conn ∧ StopCancelled history ∧
      (executedCalls (log history)).length = 1 ∧ completedIds (log history) = [0, 1] ∧
      DispatchSafety history conn := by
  have run := exec_run executeThenStop (.start ⟨4, by decide, rfl⟩ : Run machine [] (new 4)) rfl
  refine ⟨_, _, run, ?_, by decide, by decide, dispatchSafety_of_run run⟩
  exact ⟨_, List.mem_append_right _ (List.mem_singleton.mpr rfl), rfl⟩

/-- A call that the dispatcher has popped when a stop cancels. -/
def stopDuringDispatch : List Action :=
  [.mixerApiLoaded, .coreConnected, .omInstalled, .dispatchRuntimeMutation 1 none,
    .popMutation, .stopRequest, .stopCancel]

theorem stopDuringDispatch_uncompleted :
    ¬ ∀ history conn, Run machine history conn → StopCancelled history →
      ∀ call ∈ enqueuedCalls (log history), call.id ∈ completedIds (log history) := by
  intro completed
  have run := exec_run stopDuringDispatch
    (.start ⟨4, by decide, rfl⟩ : Run machine [] (new 4)) rfl
  have finished := completed _ _ run
    ⟨_, List.mem_append_right _ (List.mem_singleton.mpr rfl), rfl⟩
    { id := 0, expectedGeneration := 1, expectedSequence := none,
      enqueuedGeneration := 1, dispatchOrder := 1 } (by decide)
  revert finished
  decide

end WyrePlumber.Native.Dispatcher
