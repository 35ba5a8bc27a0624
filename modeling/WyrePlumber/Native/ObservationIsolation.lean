import WyrePlumber.Native.Generation
import WyrePlumber.Native.Reports

/-!
# Observation generation isolation

Events and snapshots are stamped with the generation of the connection.  They are
isolated exactly when the callbacks that stamp them run under a manager that has
emitted `installed`; neither `object-added` nor a posted capture waits for that.
-/

set_option autoImplicit false

namespace WyrePlumber.Native.ObservationIsolation

open LabelledMachine
open WyrePlumber.Native.Connection
open WyrePlumber.Native.Generation
open WyrePlumber.Native.Reports

/-- `enqueue` appends the payload, instead of ignoring or replacing it. -/
def queueTakes (conn : WPConnection) : Bool :=
  !conn.runtimeEventClosed && !conn.runtimeEventInvalid &&
    decide (conn.runtimeEvents.length < conn.runtimeEventCapacity)

/-- The signal puts an event that describes an object on the queue. -/
def queuesObjectEvent (conn : WPConnection) : Action → Bool
  | .objectSignal signal built =>
      signal.event.2.1 && built && conn.started && !conn.stopRequested && queueTakes conn
  | .defaultSignal built =>
      built && conn.started && !conn.stopRequested && queueTakes conn
  | _ => false

theorem enqueue_mem {conn : WPConnection} {payload event : EventPayload}
    (member : event ∈ (enqueue conn payload).1.runtimeEvents) :
    event ∈ conn.runtimeEvents ∨ (event = payload ∧ queueTakes conn = true) ∨
      event.subject = none := by
  unfold enqueue at member
  split at member
  · exact .inl member
  · rename_i accepting
    split at member
    · rw [List.mem_singleton.mp member]
      exact .inr (.inr rfl)
    · rename_i room
      rcases List.mem_append.mp member with before | now
      · exact .inl before
      · have takes : queueTakes conn = true := by
          simp only [Bool.or_eq_true, not_or, Bool.not_eq_true] at accepting
          simp [queueTakes, accepting.1, accepting.2, Nat.lt_of_not_le room]
        exact .inr (.inl ⟨List.mem_singleton.mp now, takes⟩)

theorem enqueue_takes (conn : WPConnection) (payload : EventPayload)
    (takes : queueTakes conn = true) :
    payload ∈ (enqueue conn payload).1.runtimeEvents := by
  simp only [queueTakes, Bool.and_eq_true, Bool.not_eq_true', decide_eq_true_eq] at takes
  obtain ⟨⟨notClosed, valid⟩, room⟩ := takes
  simp [enqueue, notClosed, valid, Nat.not_le_of_lt room]

theorem publish_mem {conn : WPConnection} {kind : EventKind} {subject : Option Nat}
    {requiresResnapshot built : Bool} {event : EventPayload}
    (member : event ∈
      (publish conn kind subject requiresResnapshot built).1.runtimeEvents) :
    event ∈ conn.runtimeEvents ∨ event.subject = none ∨
      (event.subject = subject ∧ event.generation = conn.generation ∧
        built = true ∧ queueTakes conn = true) := by
  cases built with
  | false => exact .inl member
  | true =>
      rcases enqueue_mem member with before | ⟨rfl, takes⟩ | connection
      · exact .inl before
      · exact .inr (.inr ⟨rfl, rfl, rfl, takes⟩)
      · exact .inr (.inl connection)

theorem publishConnection_mem {conn : WPConnection} {event : EventPayload}
    (member : event ∈ (publishConnection conn).1.runtimeEvents) :
    event ∈ conn.runtimeEvents ∨ event.subject = none := by
  rcases publish_mem member with before | connection | ⟨connection, _⟩
  · exact .inl before
  · exact .inr connection
  · exact .inr connection

theorem onCoreDisconnected_mem (conn : WPConnection) {event : EventPayload}
    (member : event ∈ (onCoreDisconnected conn).1.runtimeEvents) :
    event ∈ conn.runtimeEvents ∨ event.subject = none := by
  unfold onCoreDisconnected at member
  split at member
  · rcases publishConnection_mem member with before | connection
    · obtain ⟨ids, frame⟩ := cancelPending_frame
        { conn with coreConnected := false } .generationLost
      rw [frame] at before
      exact .inl before
    · exact .inr connection
  · exact .inl member

/-- What a step adds to the queue and describes an object, describes an object of
the manager in use. -/
structure QueuedNow (conn : WPConnection) (action : Action) (event : EventPayload) :
    Prop where
  queues : queuesObjectEvent conn action = true
  subject : ∃ om, conn.om = some om ∧ event.subject = some om.ordinal
  generation : event.generation = conn.generation

theorem stepApplication_mem {conn next : WPConnection} {action : Action}
    {observed : List Observation}
    (taken : stepApplication conn action = some (next, observed))
    {event : EventPayload} (member : event ∈ next.runtimeEvents) :
    event ∈ conn.runtimeEvents := by
  cases action with
  | dispatchRuntimeMutation expectedGeneration expectedSequence =>
      simp only [stepApplication, Option.some.injEq] at taken
      unfold dispatchRuntimeMutation at taken
      split at taken
      · cases taken
        exact member
      · split at taken
        · cases taken
          exact member
        · cases taken
          obtain ⟨scheduled, sources, frame⟩ := scheduleDispatchLocked_frame
            { conn with
              calls := conn.calls + 1,
              mutationDispatchOrder := conn.mutationDispatchOrder + 1,
              mutationQueue := conn.mutationQueue ++ [{
                id := conn.calls, expectedGeneration := expectedGeneration,
                expectedSequence := expectedSequence, enqueuedGeneration := conn.generation,
                dispatchOrder := conn.mutationDispatchOrder + 1 }] }
          rw [frame] at member
          exact member
  | reconnectCancel =>
      obtain ⟨ids, frame⟩ := cancelPending_frame conn .generationLost
      simp only [stepApplication, frame] at taken
      cases taken
      exact member
  | stopCancel =>
      obtain ⟨ids, frame⟩ := cancelPending_frame conn .runtimeStopped
      simp only [stepApplication, frame] at taken
      split at taken
      · cases taken
      · cases taken
        exact member
  | drainEvents reader maxEvents =>
      cases taken
      exact List.mem_of_mem_drop member
  | nextEvent reader =>
      simp only [stepApplication] at taken
      split at taken
      · cases taken
        exact member
      · rename_i first rest queued
        cases taken
        rw [queued]
        exact List.mem_cons_of_mem _ member
  | stopRequest =>
      cases taken
      exact member
  | stopPost =>
      simp only [stepApplication] at taken
      split at taken
      · cases taken
      · split at taken <;> cases taken <;> exact member
  | reconnectPost | captureAdmit | capturePost =>
      simp only [stepApplication] at taken
      split at taken <;> cases taken <;> exact member
  | _ => cases taken

theorem stepCallback_mem {conn next : WPConnection} {action : Action}
    {observed : List Observation}
    (taken : stepCallback conn action = some (next, observed))
    {event : EventPayload} (member : event ∈ next.runtimeEvents) :
    event ∈ conn.runtimeEvents ∨ event.subject = none ∨ QueuedNow conn action event := by
  have connection (old : event ∈ conn.runtimeEvents ∨ event.subject = none) :
      event ∈ conn.runtimeEvents ∨ event.subject = none ∨ QueuedNow conn action event :=
    old.elim .inl (fun none => .inr (.inl none))
  cases action with
  | mixerApiLoaded =>
      cases taken
      obtain ⟨_, _, frame⟩ := installObjectManager_frame { conn with mixerApi := true }
      rw [onMixerApiLoaded, frame] at member
      exact .inl member
  | coreConnected =>
      cases taken
      obtain ⟨_, _, frame⟩ := installObjectManager_frame { conn with coreConnected := true }
      rw [onCoreConnected, frame] at member
      exact .inl member
  | coreDisconnected =>
      cases taken
      exact connection (onCoreDisconnected_mem conn member)
  | omInstalled =>
      simp only [stepCallback] at taken
      split at taken
      · split at taken
        · cases taken
          rcases publishConnection_mem member with before | absent
          · exact .inl before
          · exact .inr (.inl absent)
        · cases taken
      · cases taken
  | objectSignal signal built =>
      simp only [stepCallback, Option.map_eq_some_iff] at taken
      obtain ⟨manager, present, published⟩ := taken
      unfold publishObjectEvent at published
      split at published
      · rename_i live
        have reached : _ = next := congrArg Prod.fst published
        rw [← reached] at member
        rcases publish_mem member with before | absent | ⟨subject, generation, rfl, takes⟩
        · exact .inl before
        · exact .inr (.inl absent)
        · cases describes : signal.event.2.1 with
          | false => exact .inr (.inl (by simpa [describes] using subject))
          | true =>
              simp only [Bool.and_eq_true] at live
              exact .inr (.inr {
                queues := by simp [queuesObjectEvent, describes, live, takes]
                subject := ⟨manager, present, by simpa [describes] using subject⟩
                generation := generation })
      · cases published
        exact .inl member
  | defaultSignal built =>
      simp only [stepCallback, Option.map_eq_some_iff] at taken
      obtain ⟨manager, present, published⟩ := taken
      unfold publishDefaultEvent at published
      split at published
      · rename_i live
        have reached : _ = next := congrArg Prod.fst published
        rw [← reached] at member
        rcases publish_mem member with before | absent | ⟨subject, generation, rfl, takes⟩
        · exact .inl before
        · exact .inr (.inl absent)
        · simp only [Bool.and_eq_true] at live
          exact .inr (.inr {
            queues := by simp [queuesObjectEvent, live, takes]
            subject := ⟨manager, present, subject⟩
            generation := generation })
      · cases published
        exact .inl member
  | capture index copied =>
      simp only [stepCallback] at taken
      split at taken
      · cases taken
      · cases copied <;> cases taken <;> exact .inl member
  | reconnect =>
      simp only [stepCallback, reconnectOnWpThread] at taken
      split at taken
      · cases taken
      · split at taken
        · cases taken
          exact connection (onCoreDisconnected_mem { conn with
            reconnectSources := conn.reconnectSources - 1 } member)
        · cases taken
          exact .inl member
  | stop =>
      simp only [stepCallback, stopOnWpThread] at taken
      split at taken
      · cases taken
      · cases taken
        rcases publishConnection_mem member with before | absent
        · split at before
          · exact connection (onCoreDisconnected_mem { conn with
              stopSources := conn.stopSources - 1 } before)
          · exact .inl before
        · exact .inr (.inl absent)
  | popMutation =>
      simp only [stepCallback, popMutation] at taken
      split at taken
      · cases taken
      · split at taken <;> cases taken <;> exact .inl member
  | loopExit =>
      simp only [stepCallback] at taken
      split at taken
      · cases taken
        exact .inl member
      · cases taken
  | _ => cases taken

theorem stepStage_mem {conn next : WPConnection} {action : Action}
    {observed : List Observation}
    (taken : stepStage conn action = some (next, observed))
    {event : EventPayload} (member : event ∈ next.runtimeEvents) :
    event ∈ conn.runtimeEvents := by
  cases action with
  | sampleMutation =>
      simp only [stepStage] at taken
      split at taken
      · cases taken
        exact member
      · cases taken
  | settleMutation result =>
      simp only [stepStage] at taken
      split at taken
      · simp only [Option.some.injEq] at taken
        unfold settleMutation at taken
        split at taken <;> cases taken <;> exact member
      · cases taken
  | completeMutation =>
      simp only [stepStage] at taken
      split at taken
      · rename_i finished result sampled number _
        obtain ⟨ids, frame⟩ := completeCall_frame { conn with wpThread := .completed }
          finished result sampled number
        have reached : _ = next := congrArg Prod.fst (Option.some.inj taken)
        rw [← reached, frame] at member
        exact member
      · cases taken
  | rescheduleMutation =>
      obtain ⟨scheduled, sources, frame⟩ := scheduleDispatchLocked_frame
        { conn with mutationSourceScheduled := false, wpThread := .idle }
      simp only [stepStage, frame] at taken
      split at taken
      · cases taken
        exact member
      · cases taken
  | captureReset =>
      simp only [stepStage] at taken
      split at taken
      · cases taken
        cases member
      · cases taken
  | _ => cases taken

theorem step_mem {conn next : WPConnection} {action : Action}
    {observed : List Observation} (taken : step conn action = some (next, observed))
    {event : EventPayload} (member : event ∈ next.runtimeEvents) :
    event ∈ conn.runtimeEvents ∨ event.subject = none ∨ QueuedNow conn action event := by
  rcases step_cases conn next action observed taken with
    ⟨_, application⟩ | ⟨_, callback⟩ | stage
  · exact .inl (stepApplication_mem application member)
  · exact stepCallback_mem callback member
  · exact .inl (stepStage_mem stage member)

/-- A signal that queues an object event does leave such an event in the queue. -/
theorem queuesObjectEvent_mem {conn next : WPConnection} {action : Action}
    {observed : List Observation} (taken : step conn action = some (next, observed))
    (queues : queuesObjectEvent conn action = true) :
    ∃ om event, conn.om = some om ∧ event ∈ next.runtimeEvents ∧
      event.subject = some om.ordinal ∧ event.generation = conn.generation := by
  cases action with
  | objectSignal signal built =>
      simp only [queuesObjectEvent, Bool.and_eq_true, Bool.not_eq_true'] at queues
      obtain ⟨⟨⟨⟨describes, rfl⟩, started⟩, running⟩, takes⟩ := queues
      simp only [step] at taken
      split at taken
      · simp only [stepCallback, Option.map_eq_some_iff] at taken
        obtain ⟨om, present, published⟩ := taken
        simp only [publishObjectEvent, started, running, describes, Bool.not_false,
          Bool.and_self, if_true] at published
        have reached : _ = next := congrArg Prod.fst published
        refine ⟨om, (newEvent conn signal.event.1 (some om.ordinal) signal.event.2.2).2,
          present, ?_, rfl, rfl⟩
        rw [← reached]
        exact enqueue_takes { conn with sequence := conn.sequence + 1 } _ takes
      · cases taken
  | defaultSignal built =>
      simp only [queuesObjectEvent, Bool.and_eq_true, Bool.not_eq_true'] at queues
      obtain ⟨⟨⟨rfl, started⟩, running⟩, takes⟩ := queues
      simp only [step] at taken
      split at taken
      · simp only [stepCallback, Option.map_eq_some_iff] at taken
        obtain ⟨om, present, published⟩ := taken
        simp only [publishDefaultEvent, started, running, Bool.not_false,
          Bool.and_self, if_true] at published
        have reached : _ = next := congrArg Prod.fst published
        refine ⟨om, (newEvent conn .defaultChanged (some om.ordinal) false).2, present, ?_,
          rfl, rfl⟩
        rw [← reached]
        exact enqueue_takes { conn with sequence := conn.sequence + 1 } _ takes
      · cases taken
  | _ => cases queues

/-- What the queue and the snapshots say of a generation, they say of objects of
the manager that established it; no capture runs without such a manager. -/
structure ObservationsIsolated (conn : WPConnection) (reported : List Observation) :
    Prop where
  queued : ∀ event ∈ conn.runtimeEvents, ∀ subject, event.subject = some subject →
    ∀ ordinal, (ordinal, event.generation) ∈ installs reported ↔ ordinal = subject
  snapshots : ∀ reader generation sequence subject,
    .captured reader generation sequence subject ∈ reported →
      ∃ described, subject = some described ∧
        ∀ ordinal, (ordinal, generation) ∈ installs reported ↔ ordinal = described
  handler : ∀ om, .captureRan om ∈ reported →
    ∃ manager, om = some manager ∧ manager.generation.isSome = true

theorem observationsIsolated_new (conn : WPConnection) (initial : machine.initial conn) :
    ObservationsIsolated conn [] := by
  obtain ⟨capacity, _, rfl⟩ := initial
  constructor
  · intro event member
    cases member
  · intro reader generation sequence subject member
    cases member
  · intro om member
    cases member

def runsCapture : Action → Bool
  | .capture _ _ => true
  | _ => false

/-- A callback that queues an object event, and every capture handler, runs while
the manager in use is installed. -/
def observesInstalled (conn : WPConnection) (action : Action) : Bool :=
  !(runsCapture action || queuesObjectEvent conn action) || managerInstalled conn

theorem captureRan_of_capture {conn next : WPConnection} {index : Nat} {copied : Bool}
    {observed : List Observation}
    (taken : step conn (.capture index copied) = some (next, observed)) :
    .captureRan conn.om ∈ observed := by
  simp only [step, stepCallback] at taken
  split at taken
  · split at taken
    · cases taken
    · cases copied with
      | false =>
          cases taken
          exact List.mem_singleton.mpr rfl
      | true =>
          cases taken
          exact List.mem_cons_self
  · cases taken

/-- One step keeps observations isolated exactly when it is allowed. -/
theorem observationsIsolated_step {conn next : WPConnection} {action : Action}
    {reported observed : List Observation} (established : Established conn reported)
    (isolated : ObservationsIsolated conn reported)
    (taken : step conn action = some (next, observed)) :
    ObservationsIsolated next (reported ++ observed) ↔
      observesInstalled conn action = true := by
  have stable {subject generation : Nat}
      (owned : ∀ ordinal, (ordinal, generation) ∈ installs reported ↔ ordinal = subject)
      (ordinal : Nat) :
      (ordinal, generation) ∈ installs (reported ++ observed) ↔ ordinal = subject := by
    have known := (established.bounded _ _ ((owned subject).mpr rfl)).2
    rw [installs_stable taken known]
    exact owned ordinal
  have current {om : ObjectManager} (present : conn.om = some om)
      (installed : managerInstalled conn = true) (ordinal : Nat) :
      (ordinal, conn.generation) ∈ installs reported ↔ ordinal = om.ordinal := by
    have owned := (established.current_iff present).mpr installed
    constructor
    · intro other
      exact established.unique _ _ _ other owned
    · rintro rfl
      exact owned
  constructor
  · intro after
    unfold observesInstalled
    rw [Bool.or_eq_true, Bool.not_eq_true', or_iff_not_imp_left, Bool.not_eq_false,
      Bool.or_eq_true]
    rintro (runs | queues)
    · cases action with
      | capture index copied =>
          have ran := captureRan_of_capture taken
          obtain ⟨manager, present, installed⟩ :=
            after.handler conn.om (List.mem_append_right _ ran)
          rw [managerInstalled_iff present]
          exact Option.isSome_iff_exists.mp installed
      | _ => cases runs
    · obtain ⟨om, event, present, member, subject, generation⟩ :=
        queuesObjectEvent_mem taken queues
      have owned := (after.queued event member om.ordinal subject om.ordinal).mpr rfl
      rw [generation, installs_stable taken (Nat.le_refl _)] at owned
      exact (established.current_iff present).mp owned
  · intro allowed
    have installed (uses : runsCapture action = true ∨
        queuesObjectEvent conn action = true) : managerInstalled conn = true := by
      unfold observesInstalled at allowed
      rw [← Bool.or_eq_true] at uses
      simpa [uses] using allowed
    have captures {observation : Observation} (member : observation ∈ observed)
        (kind : Observation.kind observation = .capture) :
        managerInstalled conn = true := by
      obtain ⟨⟨index, copied, rfl⟩, _⟩ := capture_of_step taken member kind
      exact installed (.inl rfl)
    constructor
    · intro event member subject describes
      rcases step_mem taken member with old | absent | now
      · exact stable (isolated.queued event old subject describes)
      · rw [describes] at absent
        cases absent
      · obtain ⟨om, present, sameSubject⟩ := now.subject
        cases describes.symm.trans sameSubject
        rw [now.generation]
        exact stable (current present (installed (.inr now.queues)))
    · intro reader generation sequence subject member
      rcases List.mem_append.mp member with old | now
      · obtain ⟨described, same, owned⟩ :=
          isolated.snapshots reader generation sequence subject old
        exact ⟨described, same, stable owned⟩
      · obtain ⟨_, ran | ⟨captor, captured⟩⟩ := capture_of_step taken now rfl
        · cases ran
        · cases captured
          have ready := captures now rfl
          obtain ⟨om, present⟩ : ∃ om, conn.om = some om := by
            cases manager : conn.om with
            | none => simp [managerInstalled, manager] at ready
            | some om => exact ⟨om, rfl⟩
          exact ⟨om.ordinal, by rw [present]; rfl, stable (current present ready)⟩
    · intro om member
      rcases List.mem_append.mp member with old | now
      · exact isolated.handler om old
      · obtain ⟨_, ran | ⟨captor, captured⟩⟩ := capture_of_step taken now rfl
        · cases ran
          have ready := captures now rfl
          cases manager : conn.om with
          | none => simp [managerInstalled, manager] at ready
          | some om => exact ⟨om, rfl, by simpa [managerInstalled, manager] using ready⟩
        · cases captured

/-- A run isolates observations throughout exactly when no object event is queued
and no capture runs while the manager in use is missing or not yet installed. -/
theorem observationIsolation_iff {history : History} {conn : WPConnection}
    (run : Run machine history conn) :
    Always ObservationsIsolated history ↔
      ∀ transition ∈ history,
        observesInstalled transition.before transition.action = true := by
  refine Run.always_iff Established
    (fun conn action => observesInstalled conn action = true) ?_ ?_ ?_ run
  · intro history state run
    exact established_of_run run
  · intro conn initial
    exact observationsIsolated_new conn initial
  · intro conn reported action next observed established isolated taken
    exact observationsIsolated_step established isolated taken

/-- An event and a snapshot of one generation, both about its manager. -/
def observeInGeneration : List Action :=
  [.mixerApiLoaded, .coreConnected, .omInstalled, .captureAdmit 7, .capturePost 7,
    .capture 0 true, .captureReset, .objectSignal .objectAdded true]

theorem observeInGeneration_isolated :
    ∃ history conn, Run machine history conn ∧
      .captured 7 1 2 (some 0) ∈ log history ∧
      (∃ event ∈ conn.runtimeEvents, event.subject = some 0) ∧
      Always ObservationsIsolated history := by
  have run := exec_run observeInGeneration
    (.start ⟨4, by decide, rfl⟩ : Run machine [] (new 4)) rfl
  exact ⟨_, _, run, by decide, by decide, (observationIsolation_iff run).mpr (by decide)⟩

/-- The manager created by a reconnect announces an object before `installed`: the
event carries the generation of the lost connection. -/
def announceBeforeInstalled : List Action :=
  [.mixerApiLoaded, .coreConnected, .omInstalled, .coreDisconnected, .coreConnected,
    .objectSignal .objectAdded true]

theorem announceBeforeInstalled_not_isolated :
    ∃ history conn, Run machine history conn ∧ ¬ Always ObservationsIsolated history := by
  have run := exec_run announceBeforeInstalled
    (.start ⟨4, by decide, rfl⟩ : Run machine [] (new 4)) rfl
  refine ⟨_, _, run, ?_⟩
  intro always
  have isolated : ObservationsIsolated _ _ := always.final run observationsIsolated_new
  have owned := (isolated.queued
    { generation := 1, sequence := 3, kind := .objectAdded, subject := some 1,
      requiresResnapshot := false } (by decide) 1 rfl 1).mpr rfl
  revert owned
  decide

end WyrePlumber.Native.ObservationIsolation
