import WyrePlumber.Native.CallSlot
import WyrePlumber.Native.Dispatcher
import WyrePlumber.Native.EventStream
import WyrePlumber.Native.Stopping

/-!
# Who waits when the loop exits

Captures, mutation dispatches, syncs and blocking event reads beside a stop.  A stop
cancels the queued mutations and closes the event queue, which wakes its readers; it does
nothing for a capture or a sync, whose source is lost with the loop.  A capture is safe
where its source is attached before that of the stop, since the context dispatches its
sources in the order of their attachment; a sync is where it has returned by then.
-/

set_option autoImplicit false

namespace WyrePlumber.Native.Waiters

open LabelledMachine
open WyrePlumber.Native.Connection (WPConnection Observation)
open WyrePlumber.Native.Dispatcher (enqueuedCalls completedIds heldCalls)

section Machine

variable {Value Error : Type}

/-- The sources of captures and stops on the WirePlumber context. -/
inductive Source where
  | capture (reader : Nat)
  | stop
  deriving DecidableEq

/-- A connection with the callers that wait on its call slot and the readers that wait for
its events: `blocked` in `g_cond_wait`, `testing` the queue.  `attached` are the sources
that wait to be dispatched, in the order in which they were attached. -/
structure System (Value Error : Type) where
  conn : WPConnection
  slot : CallSlot.WPConnection Value Error
  blocked : List Nat
  testing : List Nat
  attached : List Source

inductive Action (Value Error : Type) where
  | connection (action : Connection.Action)
  | slot (action : CallSlot.Action Value Error)
  | readEvent (reader : Nat)
  | testQueue (reader : Nat)
  | wakeReader (reader : Nat)
  | giveUp (reader : Nat)

/-- `g_cond_broadcast` follows every event that enters the queue, and the close. -/
def broadcasts (conn next : WPConnection) (observed : List Observation) : Bool :=
  (next.runtimeEventClosed && !conn.runtimeEventClosed) ||
    (!conn.runtimeEventClosed && !conn.runtimeEventInvalid && observed.any fun
      | .published _ => true
      | _ => false)

/-- The capture that stands at an index among the captures leaves. -/
def eraseCapture : Nat → List Source → List Source
  | _, [] => []
  | index, .stop :: rest => .stop :: eraseCapture index rest
  | 0, .capture _ :: rest => rest
  | index + 1, .capture reader :: rest => .capture reader :: eraseCapture index rest

/-- `g_source_attach` and `G_SOURCE_REMOVE`, as a step of the connection has them. -/
def attachedAfter (conn : WPConnection) (attached : List Source) :
    Connection.Action → List Source
  | .capturePost reader => attached ++ [.capture reader]
  | .stopPost => if conn.contextAlive then attached ++ [.stop] else attached
  | .capture index _ => eraseCapture index attached
  | .stop => attached.erase .stop
  | _ => attached

/-- A step of the connection wakes the readers where it broadcasts. -/
def native (system : System Value Error) (action : Connection.Action) :
    Option (System Value Error × List Observation) :=
  (Connection.step system.conn action).map fun outcome =>
    let after := { system with
      conn := outcome.1, attached := attachedAfter system.conn system.attached action }
    if broadcasts system.conn outcome.1 outcome.2 then
      ({ after with blocked := [], testing := system.testing ++ system.blocked }, outcome.2)
    else (after, outcome.2)

/-- Only `sync` tests that the context is there; the WirePlumber thread serves the slot
between its callbacks. -/
def slotReady (system : System Value Error) : CallSlot.Action Value Error → Bool
  | .reset kind => kind ≠ .sync || system.conn.contextAlive
  | .attach _ | .test _ | .wake _ => true
  | .handle _ _ | .signal _ _ | .startSync _ | .onSyncDone _ _ _ _ =>
      Connection.callbackReady system.conn

def step (system : System Value Error) :
    Action Value Error → Option (System Value Error × List Observation)
  | .connection action => native system action
  | .slot action =>
      if slotReady system action then
        (CallSlot.step system.slot action).map fun outcome =>
          ({ system with slot := outcome.1 }, [])
      else none
  | .readEvent reader => some ({ system with testing := reader :: system.testing }, [])
  | .testQueue reader =>
      if reader ∈ system.testing then
        let left := { system with testing := system.testing.erase reader }
        if system.conn.runtimeEvents.isEmpty then
          if system.conn.runtimeEventClosed then some (left, [])
          else some ({ left with blocked := reader :: left.blocked }, [])
        else native left (.nextEvent reader)
      else none
  | .wakeReader reader =>
      if reader ∈ system.blocked then
        some ({ system with
          blocked := system.blocked.erase reader, testing := reader :: system.testing }, [])
      else none
  | .giveUp reader =>
      if reader ∈ system.testing then
        some ({ system with testing := system.testing.erase reader }, [])
      else none

def machine (Value Error : Type) :
    Machine (System Value Error) (Action Value Error) Observation where
  initial system := Connection.machine.initial system.conn ∧ system.slot = CallSlot.new ∧
    system.blocked = [] ∧ system.testing = [] ∧ system.attached = []
  step := step

abbrev History (Value Error : Type) :=
  List (Transition (System Value Error) (Action Value Error) Observation)

def SyncsReturned (slot : CallSlot.WPConnection Value Error) : Prop :=
  ∀ id < slot.begun,
    (slot.calls id).all (fun call => call.kind != .sync || call.caller == .returned) = true

instance (slot : CallSlot.WPConnection Value Error) : Decidable (SyncsReturned slot) :=
  inferInstanceAs (Decidable (∀ id < slot.begun, _))

structure Settled (system : System Value Error) : Prop where
  callers : system.conn.captureCallers = []
  sources : system.conn.captureSources = []
  syncs : SyncsReturned system.slot

/-- The source of a stop is attached, or was dispatched. -/
def StopAttached (conn : WPConnection) : Prop := conn.stopSources ≠ 0 ∨ conn.quit = true

instance (conn : WPConnection) : Decidable (StopAttached conn) :=
  inferInstanceAs (Decidable (_ ∨ _))

/-- Captures are admitted and syncs begin before the source of a stop is attached; when
it is, every capture that was admitted has attached its own and every sync has returned.
The context dispatches a stop when no source that was attached before it is left. -/
def InTime (system : System Value Error) (action : Action Value Error) : Prop :=
  match action with
  | .connection (.captureAdmit _) | .slot (.reset .sync) => ¬ StopAttached system.conn
  | .connection .stopPost => system.conn.contextAlive = true →
      system.conn.captureCallers = [] ∧ SyncsReturned system.slot
  | .connection .stop => system.attached.head? = some .stop
  | _ => True

instance (system : System Value Error) (action : Action Value Error) :
    Decidable (InTime system action) := by
  unfold InTime
  split <;> infer_instance

/-- Nobody waits for a handler, a completion or an event. -/
structure Released (system : System Value Error) (reported : List Observation) : Prop where
  settled : Settled system
  mutations : ∀ call ∈ enqueuedCalls reported, call.id ∈ completedIds reported
  readers : system.blocked = []

end Machine

section Exit

variable {conn next : WPConnection} {observed : List Observation}

/-- What a step of the connection does about the sources of captures and stops. -/
inductive SourceEffect (conn next : WPConnection) : Connection.Action → Prop where
  | quiet {action : Connection.Action}
      (apart : ∀ attached, attachedAfter conn attached action = attached)
      (callers : next.captureCallers = conn.captureCallers)
      (sources : next.captureSources = conn.captureSources)
      (stops : next.stopSources = conn.stopSources) (quit : next.quit = conn.quit) :
      SourceEffect conn next action
  | admitted (reader : Nat) (sources : next.captureSources = conn.captureSources)
      (stops : next.stopSources = conn.stopSources) (quit : next.quit = conn.quit) :
      SourceEffect conn next (.captureAdmit reader)
  | posted (reader : Nat) (waiting : reader ∈ conn.captureCallers)
      (sources : next.captureSources = conn.captureSources ++ [reader])
      (stops : next.stopSources = conn.stopSources) (quit : next.quit = conn.quit) :
      SourceEffect conn next (.capturePost reader)
  | captured (index : Nat) (copied : Bool) (within : index < conn.captureSources.length)
      (callers : next.captureCallers = conn.captureCallers)
      (sources : next.captureSources = conn.captureSources.eraseIdx index)
      (stops : next.stopSources = conn.stopSources) (quit : next.quit = conn.quit) :
      SourceEffect conn next (.capture index copied)
  | stopPosted (alive : conn.contextAlive = true)
      (callers : next.captureCallers = conn.captureCallers)
      (sources : next.captureSources = conn.captureSources)
      (stops : next.stopSources = conn.stopSources + 1) (quit : next.quit = conn.quit) :
      SourceEffect conn next .stopPost
  | stopped (pending : conn.stopSources ≠ 0)
      (callers : next.captureCallers = conn.captureCallers)
      (sources : next.captureSources = conn.captureSources)
      (stops : next.stopSources = conn.stopSources - 1) : SourceEffect conn next .stop

/-- What a step of the connection does about its end. -/
structure ExitEffect (conn next : WPConnection) (action : Connection.Action) : Prop where
  lasts : conn.quit = true → next.quit = true
  quits : next.quit = true → conn.quit = true ∨ next.runtimeEventClosed = true
  exits : next.contextAlive = false → conn.contextAlive = false ∨
    (action = .loopExit ∧ conn.quit = true ∧ conn.wpThread = .idle)
  rests : conn.contextAlive = false ∨ action = .loopExit → conn.wpThread = .idle →
    next.wpThread = .idle
  lost : conn.contextAlive = false →
    next.contextAlive = false ∧ conn.captureSources ⊆ next.captureSources
  sources : SourceEffect conn next action

/-- A step that leaves the end of the connection alone. -/
theorem ExitEffect.unrelated {action : Connection.Action} (quit : next.quit = conn.quit)
    (alive : next.contextAlive = conn.contextAlive)
    (rests : conn.contextAlive = false ∨ action = .loopExit → conn.wpThread = .idle →
      next.wpThread = .idle)
    (callers : next.captureCallers = conn.captureCallers)
    (sources : next.captureSources = conn.captureSources)
    (stops : next.stopSources = conn.stopSources)
    (apart : ∀ attached, attachedAfter conn attached action = attached) :
    ExitEffect conn next action where
  lasts := by
    rw [quit]
    exact id
  quits := by
    rw [quit]
    exact .inl
  exits := by
    rw [alive]
    exact .inl
  rests := rests
  lost := by
    rw [alive, sources]
    exact fun gone => ⟨gone, List.Subset.refl _⟩
  sources := .quiet apart callers sources stops quit

theorem ExitEffect.of_eq {action : Connection.Action} {outcome : WPConnection × List Observation}
    (effect : ExitEffect conn outcome.1 action) (taken : outcome = (next, observed)) :
    ExitEffect conn next action := by
  cases taken
  exact effect

theorem stepApplication_exitEffect {action : Connection.Action}
    (taken : Connection.stepApplication conn action = some (next, observed)) :
    ExitEffect conn next action := by
  have same := Connection.stepApplication_sameWpState conn next action observed taken
  have rests : conn.contextAlive = false ∨ action = .loopExit → conn.wpThread = .idle →
      next.wpThread = .idle := fun _ idle => same.wpThread.trans idle
  cases action with
  | captureAdmit reader =>
      have kept : next.captureSources = conn.captureSources ∧
          next.stopSources = conn.stopSources := by
        simp only [Connection.stepApplication] at taken
        split at taken <;> cases taken <;> exact ⟨rfl, rfl⟩
      refine ⟨fun quit => same.quit ▸ quit, fun quit => .inl (same.quit ▸ quit),
        fun gone => .inl (same.contextAlive ▸ gone), rests, ?_,
        .admitted reader kept.1 kept.2 same.quit⟩
      intro gone
      rw [kept.1]
      exact ⟨same.contextAlive.trans gone, List.Subset.refl _⟩
  | capturePost reader =>
      simp only [Connection.stepApplication] at taken
      split at taken
      · rename_i waiting
        cases taken
        exact ⟨id, .inl, .inl, rests,
          fun gone => ⟨gone, List.subset_append_left _ _⟩, .posted reader waiting rfl rfl rfl⟩
      · cases taken
  | dispatchRuntimeMutation expectedGeneration expectedSequence =>
      refine .unrelated same.quit same.contextAlive rests ?_ ?_ ?_ (fun _ => rfl) <;>
      · simp only [Connection.stepApplication, Option.some.injEq] at taken
        unfold Connection.dispatchRuntimeMutation at taken
        split at taken
        · cases taken
          rfl
        · split at taken
          · cases taken
            rfl
          · cases taken
            unfold Connection.scheduleDispatchLocked
            split <;> rfl
  | reconnectCancel =>
      obtain ⟨ids, frame⟩ := Connection.cancelPending_frame conn .generationLost
      simp only [Connection.stepApplication, frame] at taken
      cases taken
      exact .unrelated rfl rfl rests rfl rfl rfl fun _ => rfl
  | stopCancel =>
      obtain ⟨ids, frame⟩ := Connection.cancelPending_frame conn .runtimeStopped
      simp only [Connection.stepApplication, frame] at taken
      split at taken <;> cases taken
      exact .unrelated rfl rfl rests rfl rfl rfl fun _ => rfl
  | drainEvents | stopRequest =>
      cases taken
      exact .unrelated rfl rfl rests rfl rfl rfl fun _ => rfl
  | stopPost =>
      simp only [Connection.stepApplication] at taken
      split at taken
      · cases taken
      · split at taken
        · rename_i alive
          cases taken
          exact ⟨id, .inl, .inl, rests, fun gone => ⟨gone, List.Subset.refl _⟩,
            .stopPosted alive rfl rfl rfl rfl⟩
        · rename_i gone
          cases taken
          exact .unrelated rfl rfl rests rfl rfl rfl fun _ => if_neg gone
  | nextEvent | reconnectPost =>
      simp only [Connection.stepApplication] at taken
      split at taken <;> cases taken <;> exact .unrelated rfl rfl rests rfl rfl rfl fun _ => rfl
  | _ => cases taken

theorem publish_exit (conn : WPConnection) (kind : Connection.EventKind) (subject : Option Nat)
    (requiresResnapshot built : Bool) {action : Connection.Action} {base : WPConnection}
    (quit : conn.quit = base.quit) (alive : conn.contextAlive = base.contextAlive)
    (thread : conn.wpThread = base.wpThread) (callers : conn.captureCallers = base.captureCallers)
    (sources : conn.captureSources = base.captureSources)
    (stops : conn.stopSources = base.stopSources)
    (apart : ∀ attached, attachedAfter base attached action = attached) :
    ExitEffect base (Connection.publish conn kind subject requiresResnapshot built).1 action := by
  obtain ⟨_, _, frame⟩ := Connection.publish_frame conn kind subject requiresResnapshot built
  rw [frame]
  exact .unrelated quit alive (fun _ idle => thread.trans idle) callers sources stops apart

theorem stepCallback_exitEffect {action : Connection.Action}
    (ready : Connection.callbackReady conn = true)
    (taken : Connection.stepCallback conn action = some (next, observed)) :
    ExitEffect conn next action := by
  obtain ⟨idle, alive⟩ : conn.wpThread = .idle ∧ conn.contextAlive = true := by
    simpa [Connection.callbackReady] using ready
  have onlyExit {after : WPConnection} (notExit : action ≠ .loopExit) :
      conn.contextAlive = false ∨ action = .loopExit → conn.wpThread = .idle →
        after.wpThread = .idle := by
    rintro (gone | isExit)
    · rw [alive] at gone
      cases gone
    · exact absurd isExit notExit
  cases action with
  | mixerApiLoaded =>
      cases taken
      obtain ⟨_, _, frame⟩ := Connection.installObjectManager_frame { conn with mixerApi := true }
      rw [Connection.onMixerApiLoaded, frame]
      exact .unrelated rfl rfl (fun _ => id) rfl rfl rfl fun _ => rfl
  | coreConnected =>
      cases taken
      obtain ⟨_, _, frame⟩ :=
        Connection.installObjectManager_frame { conn with coreConnected := true }
      rw [Connection.onCoreConnected, frame]
      exact .unrelated rfl rfl (fun _ => id) rfl rfl rfl fun _ => rfl
  | coreDisconnected =>
      obtain ⟨_, _, _, _, _, frame⟩ := Connection.onCoreDisconnected_frame conn
      simp only [Connection.stepCallback, Option.some.injEq] at taken
      refine ExitEffect.of_eq ?_ taken
      rw [frame]
      exact .unrelated rfl rfl (fun _ => id) rfl rfl rfl fun _ => rfl
  | omInstalled =>
      simp only [Connection.stepCallback] at taken
      split at taken
      · split at taken
        · rename_i om _ _
          simp only [Option.some.injEq] at taken
          refine ExitEffect.of_eq ?_ taken
          exact publish_exit _ _ _ _ _ rfl rfl rfl rfl rfl rfl fun _ => rfl
        · cases taken
      · cases taken
  | objectSignal signal built =>
      simp only [Connection.stepCallback, Option.map_eq_some_iff] at taken
      obtain ⟨manager, _, published⟩ := taken
      refine ExitEffect.of_eq ?_ published
      unfold Connection.publishObjectEvent
      split
      · exact publish_exit _ _ _ _ _ rfl rfl rfl rfl rfl rfl fun _ => rfl
      · exact .unrelated rfl rfl (fun _ => id) rfl rfl rfl fun _ => rfl
  | defaultSignal built =>
      simp only [Connection.stepCallback, Option.map_eq_some_iff] at taken
      obtain ⟨manager, _, published⟩ := taken
      refine ExitEffect.of_eq ?_ published
      unfold Connection.publishDefaultEvent
      split
      · exact publish_exit _ _ _ _ _ rfl rfl rfl rfl rfl rfl fun _ => rfl
      · exact .unrelated rfl rfl (fun _ => id) rfl rfl rfl fun _ => rfl
  | capture index copied =>
      simp only [Connection.stepCallback] at taken
      split at taken
      · cases taken
      · rename_i reader found
        have within : index < conn.captureSources.length :=
          (List.getElem?_eq_some_iff.mp found).1
        have stillThere : ¬ conn.contextAlive = false := by
          rw [alive]
          simp
        cases copied <;> cases taken <;>
          exact ⟨id, .inl, .inl, onlyExit (by simp), fun gone => absurd gone stillThere,
            .captured index _ within rfl rfl rfl rfl⟩
  | reconnect =>
      simp only [Connection.stepCallback] at taken
      split at taken
      · cases taken
      · simp only [Option.some.injEq] at taken
        refine ExitEffect.of_eq ?_ taken
        unfold Connection.reconnectOnWpThread
        split
        · obtain ⟨_, _, _, _, _, frame⟩ := Connection.onCoreDisconnected_frame
            { conn with reconnectSources := conn.reconnectSources - 1 }
          rw [frame]
          exact .unrelated rfl rfl (fun _ => id) rfl rfl rfl fun _ => rfl
        · exact .unrelated rfl rfl (fun _ => id) rfl rfl rfl fun _ => rfl
  | stop =>
      simp only [Connection.stepCallback] at taken
      split at taken
      · cases taken
      · rename_i pending
        simp only [Option.some.injEq] at taken
        refine ExitEffect.of_eq ?_ taken
        have disconnected : ∃ om connected sequence events invalid queue ids,
            (Connection.reconnectOnWpThread
              { conn with stopSources := conn.stopSources - 1 }).1 =
              { conn with
                stopSources := conn.stopSources - 1, om := om, coreConnected := connected,
                sequence := sequence, runtimeEvents := events, runtimeEventInvalid := invalid,
                mutationQueue := queue, completedCalls := ids } := by
          unfold Connection.reconnectOnWpThread
          split
          · obtain ⟨_, _, _, _, _, frame⟩ := Connection.onCoreDisconnected_frame
              { conn with stopSources := conn.stopSources - 1 }
            exact ⟨_, _, _, _, _, _, _, frame⟩
          · exact ⟨_, _, _, _, _, _, _, rfl⟩
        obtain ⟨_, _, _, _, _, _, _, frame⟩ := disconnected
        obtain ⟨_, _, published⟩ := Connection.publish_frame (Connection.reconnectOnWpThread
          { conn with stopSources := conn.stopSources - 1 }).1 .connectionChanged none false true
        have isNext : (Connection.stopOnWpThread
            { conn with stopSources := conn.stopSources - 1 }).1 =
            { (Connection.publish (Connection.reconnectOnWpThread
              { conn with stopSources := conn.stopSources - 1 }).1 .connectionChanged none false
                true).1 with runtimeEventClosed := true, quit := true } := rfl
        rw [isNext, published, frame]
        exact ⟨fun _ => rfl, fun _ => .inr rfl, .inl, fun _ => id,
          fun gone => ⟨gone, List.Subset.refl _⟩, .stopped pending rfl rfl rfl⟩
  | popMutation =>
      simp only [Connection.stepCallback] at taken
      split at taken
      · cases taken
      · cases taken
        unfold Connection.popMutation
        split
        · exact .unrelated rfl rfl (onlyExit (by simp)) rfl rfl rfl fun _ => rfl
        · exact .unrelated rfl rfl (onlyExit (by simp)) rfl rfl rfl fun _ => rfl
  | loopExit =>
      simp only [Connection.stepCallback] at taken
      split at taken
      · rename_i isQuit
        cases taken
        exact ⟨id, .inl, fun _ => .inr ⟨rfl, isQuit, idle⟩, fun _ => id,
          fun _ => ⟨rfl, List.Subset.refl _⟩, .quiet (fun _ => rfl) rfl rfl rfl rfl⟩
      · cases taken
  | _ => cases taken

/-- The stages of a handler never stand in an idle thread. -/
theorem stepStage_exitEffect {action : Connection.Action}
    (taken : Connection.stepStage conn action = some (next, observed)) :
    ExitEffect conn next action := by
  have notIdle : conn.wpThread ≠ .idle := by
    intro idle
    cases action with
    | _ => simp [Connection.stepStage, idle] at taken
  have rests : conn.contextAlive = false ∨ action = .loopExit → conn.wpThread = .idle →
      next.wpThread = .idle := fun _ idle => absurd idle notIdle
  cases action with
  | sampleMutation | captureReset =>
      simp only [Connection.stepStage] at taken
      split at taken
      · cases taken
        exact .unrelated rfl rfl rests rfl rfl rfl fun _ => rfl
      · cases taken
  | settleMutation result =>
      simp only [Connection.stepStage] at taken
      split at taken
      · simp only [Option.some.injEq] at taken
        unfold Connection.settleMutation at taken
        split at taken <;> cases taken <;> exact .unrelated rfl rfl rests rfl rfl rfl fun _ => rfl
      · cases taken
  | completeMutation =>
      simp only [Connection.stepStage] at taken
      split at taken
      · rename_i call result generation sequence _
        obtain ⟨ids, frame⟩ := Connection.completeCall_frame { conn with wpThread := .completed }
          call result generation sequence
        simp only [Option.some.injEq] at taken
        have isNext := congrArg Prod.fst taken
        rw [frame] at isNext
        simp only at isNext
        rw [← isNext] at rests ⊢
        exact .unrelated rfl rfl rests rfl rfl rfl fun _ => rfl
      · cases taken
  | rescheduleMutation =>
      obtain ⟨scheduled, sources, frame⟩ := Connection.scheduleDispatchLocked_frame
        { conn with mutationSourceScheduled := false, wpThread := .idle }
      simp only [Connection.stepStage, frame] at taken
      split at taken
      · cases taken
        exact .unrelated rfl rfl rests rfl rfl rfl fun _ => rfl
      · cases taken
  | _ => cases taken

theorem step_exitEffect {action : Connection.Action}
    (taken : Connection.step conn action = some (next, observed)) : ExitEffect conn next action := by
  rcases Connection.step_cases conn next action observed taken with
    ⟨_, application⟩ | ⟨ready, callback⟩ | stage
  · exact stepApplication_exitEffect application
  · exact stepCallback_exitEffect ready callback
  · exact stepStage_exitEffect stage

theorem closed_lasts {action : Connection.Action}
    (taken : Connection.step conn action = some (next, observed))
    (closed : conn.runtimeEventClosed = true) : next.runtimeEventClosed = true :=
  SequencedStream.steps_closed (EventStream.step_steps taken) closed

end Exit

section Slot

variable {Value Error : Type} {slot after : CallSlot.WPConnection Value Error}

theorem SyncsReturned.caller (returned : SyncsReturned slot) {id : Nat}
    {call : CallSlot.Call Value} (begun : id < slot.begun) (found : slot.calls id = some call)
    (isSync : call.kind = .sync) : call.caller = .returned := by
  have all := returned id begun
  rw [found] at all
  simpa [isSync] using all

theorem syncsReturned_iff : SyncsReturned slot ↔ ∀ id < slot.begun, ∀ call,
    slot.calls id = some call → call.kind = .sync → call.caller = .returned := by
  constructor
  · intro returned id begun call found isSync
    exact returned.caller begun found isSync
  · intro callers id begun
    cases found : slot.calls id with
    | none => rfl
    | some call =>
        by_cases isSync : call.kind = .sync
        · simp [callers id begun call found isSync]
        · simp [isSync]

theorem SyncsReturned.setCall (returned : SyncsReturned slot) {id : Nat}
    {call : CallSlot.Call Value}
    (setReturned : id < slot.begun → call.kind = .sync → call.caller = .returned) :
    SyncsReturned (slot.setCall id call) := by
  rw [syncsReturned_iff]
  intro other begun found isFound isSync
  by_cases same : other = id
  · subst same
    simp only [CallSlot.WPConnection.setCall, Function.update_self] at isFound
    obtain rfl := Option.some.inj isFound
    exact setReturned begun isSync
  · simp only [CallSlot.WPConnection.setCall, Function.update_of_ne same] at isFound
    exact returned.caller begun isFound isSync

/-- What application threads do to the slot without a new sync. -/
theorem stepCaller_returned (returned : SyncsReturned slot) {id : Nat}
    {call : CallSlot.Call Value} {action : CallSlot.Action Value Error}
    {observed : List (CallSlot.Observation Value Error)} (found : slot.calls id = some call)
    (taken : CallSlot.stepCaller slot id call action = some (after, observed)) :
    SyncsReturned after := by
  have itsCaller (begun : id < slot.begun) (isSync : call.kind = .sync) :
      call.caller = .returned := returned.caller begun found isSync
  cases action with
  | attach other =>
      simp only [CallSlot.stepCaller] at taken
      split at taken
      · rename_i preparing
        cases taken
        refine returned.setCall fun begun isSync => ?_
        rw [itsCaller begun isSync] at preparing
        cases preparing
      · cases taken
  | test other =>
      simp only [CallSlot.stepCaller] at taken
      split at taken
      · rename_i testing
        split at taken
        · have isAfter := congrArg Prod.fst (Option.some.inj taken)
          simp only at isAfter
          rw [← isAfter]
          unfold CallSlot.returnCall
          split
          · exact returned.setCall fun _ _ => rfl
          · exact returned.setCall fun _ _ => rfl
        · cases taken
          refine returned.setCall fun begun isSync => ?_
          rw [itsCaller begun isSync] at testing
          cases testing
      · cases taken
  | wake other =>
      simp only [CallSlot.stepCaller] at taken
      split at taken
      · rename_i blocked
        cases taken
        refine returned.setCall fun begun isSync => ?_
        rw [itsCaller begun isSync] at blocked
        cases blocked
      · cases taken
  | _ => cases taken

/-- Waking a call does not concern one that has returned. -/
theorem SyncsReturned.signal (returned : SyncsReturned slot) (woken : List Nat) :
    SyncsReturned (CallSlot.signalCallCompleted slot woken) := by
  obtain ⟨calls, woke, awakened⟩ :=
    CallSlot.wakeCalls_spec woken { slot with callCompleted := true }
  rw [CallSlot.signalCallCompleted, woke, syncsReturned_iff]
  intro id begun call found isSync
  have before := awakened id
  rw [show calls id = some call from found] at before
  obtain ⟨earlier, foundEarlier, sameKind, -, -, callers⟩ := before.of_some
  have wasReturned : earlier.caller = .returned :=
    returned.caller begun foundEarlier (sameKind.trans isSync)
  rcases callers with kept | ⟨blocked, -⟩
  · exact kept.trans wasReturned
  · rw [wasReturned] at blocked
    cases blocked

/-- The handlers of calls leave the callers of returned ones alone. -/
theorem stepHandler_returned (returned : SyncsReturned slot) {id : Nat}
    {call : CallSlot.Call Value} {action : CallSlot.Action Value Error}
    {observed : List (CallSlot.Observation Value Error)} (found : slot.calls id = some call)
    (taken : CallSlot.stepHandler slot id call action = some (after, observed)) :
    SyncsReturned after := by
  have kept {updated : CallSlot.Call Value} (kind : updated.kind = call.kind)
      (caller : updated.caller = call.caller) : SyncsReturned (slot.setCall id updated) := by
    refine returned.setCall fun begun isSync => ?_
    rw [caller]
    exact returned.caller begun found (kind.symm.trans isSync)
  cases action with
  | handle other result =>
      simp only [CallSlot.stepHandler] at taken
      split at taken
      · cases taken
        exact kept rfl rfl
      · cases taken
  | signal other woken =>
      simp only [CallSlot.stepHandler] at taken
      split at taken
      · cases taken
        have before : SyncsReturned (slot.setCall id { call with handler := .finished }) :=
          kept rfl rfl
        exact before.signal woken
      · cases taken
  | startSync other =>
      simp only [CallSlot.stepHandler] at taken
      split at taken
      · cases taken
        exact kept rfl rfl
      · cases taken
  | onSyncDone other ok error woken =>
      simp only [CallSlot.stepHandler] at taken
      split at taken
      · cases taken
        have before : SyncsReturned (slot.setCall id { call with handler := .finished }) :=
          kept rfl rfl
        refine SyncsReturned.signal ?_ woken
        exact before
      · cases taken
  | _ => cases taken

theorem resetCall_returned (returned : SyncsReturned slot) {kind : CallSlot.CallKind}
    (notSync : kind ≠ .sync) : SyncsReturned (CallSlot.resetCall slot kind) := by
  rw [CallSlot.resetCall, if_neg notSync, syncsReturned_iff]
  intro id begun call found isSync
  by_cases same : id = slot.begun
  · subst same
    simp only [Function.update_self] at found
    obtain rfl := Option.some.inj found
    exact absurd isSync notSync
  · simp only [Function.update_of_ne same] at found
    have before : id < slot.begun := by
      have within : id < slot.begun + 1 := begun
      omega
    exact returned.caller before found isSync

/-- Only a new sync waits where all had returned. -/
theorem slotStep_returned (returned : SyncsReturned slot) {action : CallSlot.Action Value Error}
    {observed : List (CallSlot.Observation Value Error)} (noSync : action ≠ .reset .sync)
    (taken : CallSlot.step slot action = some (after, observed)) : SyncsReturned after := by
  cases action with
  | reset kind =>
      cases taken
      exact resetCall_returned returned fun isSync => noSync (by rw [isSync])
  | attach id | test id | wake id =>
      obtain ⟨call, found, changed⟩ := Option.bind_eq_some_iff.mp taken
      exact stepCaller_returned returned found changed
  | handle id | signal id | startSync id | onSyncDone id =>
      obtain ⟨call, found, changed⟩ := Option.bind_eq_some_iff.mp taken
      exact stepHandler_returned returned found changed

end Slot

section Sources

theorem eraseCapture_captures (captures : List Nat) (stops : List Source) {index : Nat}
    (within : index < captures.length) :
    eraseCapture index (captures.map .capture ++ stops) =
      (captures.eraseIdx index).map .capture ++ stops := by
  induction captures generalizing index with
  | nil => simp at within
  | cons reader rest inductionHypothesis =>
      cases index with
      | zero => rfl
      | succ index =>
          have inRest : index < rest.length := by
            rw [List.length_cons] at within
            omega
          simp only [List.map_cons, List.cons_append, eraseCapture, List.eraseIdx_cons_succ,
            inductionHypothesis inRest]

end Sources

section Runs

variable {Value Error : Type} {system next : System Value Error} {observed : List Observation}

theorem native_spec {action : Connection.Action}
    (taken : native system action = some (next, observed)) :
    Connection.step system.conn action = some (next.conn, observed) ∧ next.slot = system.slot ∧
      next.attached = attachedAfter system.conn system.attached action ∧
      (next.blocked = [] ∨ next.blocked = system.blocked ∧
        (next.conn.runtimeEventClosed = true → system.conn.runtimeEventClosed = true)) := by
  obtain ⟨outcome, stepped, isNext⟩ := Option.map_eq_some_iff.mp taken
  dsimp only at isNext
  split at isNext
  · cases isNext
    exact ⟨stepped, rfl, rfl, .inl rfl⟩
  · rename_i quiet
    cases isNext
    refine ⟨stepped, rfl, rfl, .inr ⟨rfl, fun closed => ?_⟩⟩
    simp only [broadcasts, Bool.or_eq_true, not_or, Bool.and_eq_true, not_and, Bool.not_eq_true'] at quiet
    simpa using quiet.1 closed

/-- A step is one of the connection, or it leaves the connection alone. -/
inductive StepEffect (system next : System Value Error) (action : Action Value Error)
    (observed : List Observation) : Prop where
  | native (connAction : Connection.Action)
      (stepped : Connection.step system.conn connAction = some (next.conn, observed))
      (sameSlot : next.slot = system.slot)
      (attached : next.attached = attachedAfter system.conn system.attached connAction)
      (readers : next.blocked = [] ∨ next.blocked = system.blocked ∧
        (next.conn.runtimeEventClosed = true → system.conn.runtimeEventClosed = true))
      (isAction : action = .connection connAction ∨ ∃ reader, connAction = .nextEvent reader)
  | apart (sameConn : next.conn = system.conn) (sameAttached : next.attached = system.attached)
      (nothing : observed = [])
      (readers : system.conn.runtimeEventClosed = true → system.blocked = [] → next.blocked = [])
      (syncs : action ≠ .slot (.reset .sync) → SyncsReturned system.slot → SyncsReturned next.slot)

theorem step_effect {action : Action Value Error} (taken : step system action = some (next, observed)) :
    StepEffect system next action observed := by
  cases action with
  | connection connAction =>
      obtain ⟨stepped, sameSlot, attached, readers⟩ := native_spec taken
      exact .native connAction stepped sameSlot attached readers (.inl rfl)
  | slot slotAction =>
      simp only [step] at taken
      split at taken
      · obtain ⟨outcome, stepped, isNext⟩ := Option.map_eq_some_iff.mp taken
        cases isNext
        refine .apart rfl rfl rfl (fun _ => id) fun noSync returned => ?_
        exact slotStep_returned returned (fun isSync => noSync (by rw [isSync])) stepped
      · cases taken
  | readEvent reader =>
      cases taken
      exact .apart rfl rfl rfl (fun _ => id) fun _ => id
  | testQueue reader =>
      simp only [step] at taken
      split at taken
      · split at taken
        · split at taken
          · cases taken
            exact .apart rfl rfl rfl (fun _ => id) fun _ => id
          · rename_i open_
            cases taken
            exact .apart rfl rfl rfl (fun closed => absurd closed open_) fun _ => id
        · obtain ⟨stepped, sameSlot, attached, readers⟩ := native_spec taken
          exact .native _ stepped sameSlot attached readers (.inr ⟨reader, rfl⟩)
      · cases taken
  | wakeReader reader =>
      simp only [step] at taken
      split at taken
      · cases taken
        refine .apart rfl rfl rfl (fun _ empty => ?_) fun _ => id
        rw [empty]
        rfl
      · cases taken
  | giveUp reader =>
      simp only [step] at taken
      split at taken
      · cases taken
        exact .apart rfl rfl rfl (fun _ => id) fun _ => id
      · cases taken

/-- What holds of the end of the connection, and of its readers. -/
structure Ended (system : System Value Error) : Prop where
  closed : system.conn.quit = true → system.conn.runtimeEventClosed = true
  exited : system.conn.contextAlive = false →
    system.conn.quit = true ∧ system.conn.wpThread = .idle
  readers : system.conn.runtimeEventClosed = true → system.blocked = []

theorem Ended.step {action : Action Value Error} (ended : Ended system)
    (taken : Waiters.step system action = some (next, observed)) : Ended next := by
  cases step_effect taken with
  | native connAction stepped sameSlot attached readers isAction =>
      have effect := step_exitEffect stepped
      refine ⟨fun quit => ?_, fun gone => ?_, fun closed => ?_⟩
      · rcases effect.quits quit with before | now
        · exact closed_lasts stepped (ended.closed before)
        · exact now
      · rcases effect.exits gone with before | ⟨isExit, quit, idle⟩
        · obtain ⟨quit, idle⟩ := ended.exited before
          exact ⟨effect.lasts quit, effect.rests (.inl before) idle⟩
        · exact ⟨effect.lasts quit, effect.rests (.inr isExit) idle⟩
      · rcases readers with woken | ⟨kept, wasClosed⟩
        · exact woken
        · rw [kept]
          exact ended.readers (wasClosed closed)
  | apart sameConn sameAttached nothing readers syncs =>
      refine ⟨?_, ?_, ?_⟩
      · rw [sameConn]
        exact ended.closed
      · rw [sameConn]
        exact ended.exited
      · rw [sameConn]
        exact fun closed => readers closed (ended.readers closed)

theorem ended_of_run {history : History Value Error}
    (run : Run (machine Value Error) history system) : Ended system := by
  refine run.invariant (fun system _ => Ended system) ?_ ?_
  · rintro system ⟨⟨capacity, -, isNew⟩, -, noReaders, -, -⟩
    refine ⟨?_, ?_, fun _ => noReaders⟩
    · rw [isNew]
      intro quit
      cases quit
    · rw [isNew]
      intro gone
      cases gone
  · intro system reported action next observed ended taken
    exact ended.step taken

theorem connection_of_run {history : History Value Error}
    (run : Run (machine Value Error) history system) :
    ∃ connHistory, Run Connection.machine connHistory system.conn ∧
      log connHistory = log history := by
  have simulated : ∃ connHistory, Run Connection.machine connHistory system.conn ∧
      log connHistory = (log history).filterMap some := by
    refine run.simulate System.conn ?_ ?_
    · rintro system ⟨initially, -⟩
      exact initially
    · intro earlier system action next observed _ taken
      rw [List.filterMap_some]
      cases step_effect taken with
      | native connAction stepped sameSlot attached readers isAction => exact .single connAction stepped
      | apart sameConn sameAttached nothing readers syncs =>
          rw [sameConn, nothing]
          exact .refl _
  simpa using simulated

/-- The sources of captures stand before those of stops, and from the first of these on
nobody is on the way to a capture or a sync. -/
structure InOrder (system : System Value Error) : Prop where
  order : system.attached =
    system.conn.captureSources.map .capture ++ List.replicate system.conn.stopSources .stop
  nobody : StopAttached system.conn →
    system.conn.captureCallers = [] ∧ SyncsReturned system.slot
  captured : system.conn.quit = true → system.conn.captureSources = []

/-- A step of the connection keeps the order in time. -/
theorem InOrder.native (inOrder : InOrder system) {connAction : Connection.Action}
    (inTime : InTime system (.connection connAction))
    (effect : SourceEffect system.conn next.conn connAction) (sameSlot : next.slot = system.slot)
    (attached : next.attached = attachedAfter system.conn system.attached connAction) :
    InOrder next := by
  cases effect with
  | quiet apart callers sources stops quit =>
      refine ⟨?_, ?_, ?_⟩
      · rw [attached, apart, sources, stops]
        exact inOrder.order
      · rw [StopAttached, stops, quit, callers, sameSlot]
        exact inOrder.nobody
      · rw [quit, sources]
        exact inOrder.captured
  | admitted reader sources stops quit =>
      refine ⟨?_, ?_, ?_⟩
      · rw [attached, sources, stops]
        exact inOrder.order
      · rw [StopAttached, stops, quit]
        exact fun underway => absurd underway inTime
      · rw [quit, sources]
        exact inOrder.captured
  | posted reader waiting sources stops quit =>
      have before : ¬ StopAttached system.conn := by
        intro underway
        rw [(inOrder.nobody underway).1] at waiting
        cases waiting
      have noStop : system.conn.stopSources = 0 := by
        by_contra pending
        exact before (.inl pending)
      have order := inOrder.order
      rw [noStop, List.replicate_zero, List.append_nil] at order
      refine ⟨?_, ?_, ?_⟩
      · rw [attached, sources, stops, noStop, List.replicate_zero, List.append_nil, attachedAfter,
          order, List.map_append]
        rfl
      · rw [StopAttached, stops, quit]
        exact fun underway => absurd underway before
      · rw [quit]
        exact fun isQuit => absurd (.inr isQuit) before
  | captured index copied within callers sources stops quit =>
      refine ⟨?_, ?_, ?_⟩
      · rw [attached, attachedAfter, inOrder.order, eraseCapture_captures _ _ within, sources, stops]
      · rw [StopAttached, stops, quit, callers, sameSlot]
        exact inOrder.nobody
      · intro isQuit
        rw [quit] at isQuit
        rw [inOrder.captured isQuit] at within
        simp at within
  | stopPosted alive callers sources stops quit =>
      refine ⟨?_, ?_, ?_⟩
      · rw [attached, attachedAfter, if_pos alive, inOrder.order, sources, stops,
          List.replicate_succ', List.append_assoc]
      · intro _
        rw [callers, sameSlot]
        exact inTime alive
      · rw [quit, sources]
        exact inOrder.captured
  | stopped pending callers sources stops =>
      -- the stop is the first source left, so no capture is
      have isFirst : system.attached.head? = some .stop := inTime
      have order := inOrder.order
      have noCapture : system.conn.captureSources = [] := by
        cases isSources : system.conn.captureSources with
        | nil => rfl
        | cons reader rest =>
            rw [order, isSources] at isFirst
            cases isFirst
      refine ⟨?_, ?_, ?_⟩
      · rw [attached, attachedAfter, order, sources, noCapture, stops]
        simp
      · intro _
        rw [callers, sameSlot]
        exact inOrder.nobody (.inl pending)
      · intro _
        rw [sources, noCapture]

theorem InOrder.step {action : Action Value Error} (inOrder : InOrder system)
    (inTime : InTime system action)
    (taken : Waiters.step system action = some (next, observed)) : InOrder next := by
  cases step_effect taken with
  | native connAction stepped sameSlot attached readers isAction =>
      have effect := (step_exitEffect stepped).sources
      refine inOrder.native ?_ effect sameSlot attached
      rcases isAction with rfl | ⟨reader, rfl⟩
      · exact inTime
      · trivial
  | apart sameConn sameAttached nothing readers syncs =>
      refine ⟨?_, ?_, ?_⟩
      · rw [sameAttached, sameConn]
        exact inOrder.order
      · rw [sameConn]
        intro underway
        obtain ⟨callers, returned⟩ := inOrder.nobody underway
        refine ⟨callers, syncs ?_ returned⟩
        rintro rfl
        exact inTime underway
      · rw [sameConn]
        exact inOrder.captured

theorem inOrder_of_run {history : History Value Error}
    (run : Run (machine Value Error) history system)
    (inTime : ∀ transition ∈ history, InTime transition.before transition.action) :
    InOrder system := by
  refine run.invariant_of_allowed (fun system _ => InOrder system) InTime ?_ ?_ inTime
  · rintro system ⟨⟨capacity, -, isNew⟩, -, -, -, noSource⟩
    refine ⟨?_, ?_, ?_⟩
    · rw [noSource, isNew]
      rfl
    · rw [isNew]
      rintro (pending | quit)
      · exact absurd rfl pending
      · cases quit
    · rw [isNew]
      exact fun _ => rfl
  · intro system reported action next observed inOrder allowed taken
    exact inOrder.step allowed taken

/-- In every run in which captures and syncs are in time for the stop, nobody waits
behind the exit of the loop. -/
theorem released_of_run {history : History Value Error}
    (run : Run (machine Value Error) history system)
    (inTime : ∀ transition ∈ history, InTime transition.before transition.action)
    (gone : system.conn.contextAlive = false) : Released system (log history) := by
  obtain ⟨connHistory, connRun, sameLog⟩ := connection_of_run run
  have ended := ended_of_run run
  have inOrder := inOrder_of_run run inTime
  obtain ⟨quit, idle⟩ := ended.exited gone
  obtain ⟨noCallers, returned⟩ := inOrder.nobody (.inr quit)
  refine ⟨⟨noCallers, inOrder.captured quit, returned⟩, ?_, ended.readers (ended.closed quit)⟩
  intro call enqueued
  have empty := ((Stopping.halting_of_run connRun).emptied (.inr (.inr quit))).2
  have held : heldCalls system.conn = [] := by
    rw [heldCalls, idle]
    rfl
  rw [← sameLog] at enqueued ⊢
  exact Dispatcher.completed_of_settled connRun held empty enqueued

/-- A capture whose source the loop did not run before its exit waits for ever. -/
theorem lost_capture {later : System Value Error} (gone : system.conn.contextAlive = false)
    (steps : Steps (machine Value Error) system observed later) :
    system.conn.captureSources ⊆ later.conn.captureSources := by
  induction steps with
  | refl system => exact List.Subset.refl _
  | @head system middle final action first rest taken _ inductionHypothesis =>
      cases step_effect taken with
      | native connAction stepped sameSlot attached readers isAction =>
          obtain ⟨stillGone, kept⟩ := (step_exitEffect stepped).lost gone
          exact List.Subset.trans kept (inductionHypothesis stillGone)
      | apart sameConn sameAttached nothing readers syncs =>
          rw [← sameConn] at gone ⊢
          exact inductionHypothesis gone

end Runs

section Instances

def established : List (Action Unit Unit) :=
  [.connection .mixerApiLoaded, .connection .coreConnected, .connection .omInstalled]

def fresh : System Unit Unit := ⟨Connection.new 4, CallSlot.new, [], [], []⟩

theorem fresh_initial : (machine Unit Unit).initial fresh :=
  ⟨⟨4, by decide, rfl⟩, rfl, rfl, rfl, rfl⟩

/-- A capture is admitted, and attaches its source, while that of a stop waits. -/
def abandonedCapture : List (Action Unit Unit) :=
  established ++ ([.connection .stopRequest, .connection .stopCancel, .connection .stopPost,
    .connection (.captureAdmit 7), .connection (.capturePost 7), .connection .stop,
    .connection .loopExit] : List (Action Unit Unit))

theorem capture_abandoned : ∃ history system, Run (machine Unit Unit) history system ∧
    system.conn.contextAlive = false ∧ ¬ Released system (log history) ∧
      ∀ observed later, Steps (machine Unit Unit) system observed later →
        7 ∈ later.conn.captureSources := by
  have run := exec_run abandonedCapture (.start fresh_initial) rfl
  refine ⟨_, _, run, rfl, fun released => ?_, fun observed later steps => ?_⟩
  · exact absurd released.settled.sources (by decide)
  · exact lost_capture rfl steps (by decide)

/-- A sync returns, a reader blocks, a mutation is queued, and the source of a capture is
attached before that of the stop and dispatched after the stop was called. -/
def inTimeForStop : List (Action Unit Unit) :=
  established ++ ([.slot (.reset .sync), .slot (.attach 0), .slot (.startSync 0),
    .slot (.onSyncDone 0 true none []), .slot (.test 0), .readEvent 3, .testQueue 3,
    .readEvent 3, .testQueue 3, .connection (.dispatchRuntimeMutation 1 none),
    .connection (.captureAdmit 7), .connection (.capturePost 7), .connection .stopRequest,
    .connection .stopCancel, .connection .stopPost, .connection (.capture 0 true),
    .connection .captureReset, .connection .stop, .connection .loopExit] :
    List (Action Unit Unit))

theorem released_inTimeForStop : ∃ history system, Run (machine Unit Unit) history system ∧
    system.conn.contextAlive = false ∧ (enqueuedCalls (log history)).length = 1 ∧
      system.testing = [3] ∧ system.slot.begun = 1 ∧ Released system (log history) := by
  have run := exec_run inTimeForStop (.start fresh_initial) rfl
  exact ⟨_, _, run, rfl, rfl, rfl, rfl, released_of_run run (by decide) rfl⟩

end Instances

end WyrePlumber.Native.Waiters
