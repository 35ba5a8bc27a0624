import WyrePlumber.Library.SequencedStream
import WyrePlumber.Native.Reports
import Mathlib.Data.List.Nodup

/-!
# The native event stream

The connection refines a sequenced stream: generations are its epochs, a capture
is its snapshot, and `make_discontinuity` makes its marker.  What a consumer that
follows `require_event_continuity` applies is therefore gapless, whatever the
interleaving of publications, captures, overflows and reads.
-/

set_option autoImplicit false

namespace WyrePlumber.Native.EventStream

open LabelledMachine
open WyrePlumber.Native.Connection
open WyrePlumber.Native.Reports
open SequencedStream (Stamped Report Stream continues consume stamp stamps deliveries Gone)

instance : Stamped EventPayload where
  epoch := EventPayload.generation
  number := EventPayload.sequence
  breaks := EventPayload.requiresResnapshot
  spoil := makeDiscontinuity
  epoch_spoil _ := rfl
  number_spoil _ := rfl
  breaks_spoil _ := rfl

/-- The part of the connection that is a stream. -/
def stream (conn : WPConnection) : Stream EventPayload where
  epoch := conn.generation
  number := conn.sequence
  queue := conn.runtimeEvents
  capacity := conn.runtimeEventCapacity
  invalid := conn.runtimeEventInvalid
  closed := conn.runtimeEventClosed

def view : Observation → Option (Report EventPayload)
  | .published event => some (.published event)
  | .dropped event => some (.dropped event)
  | .captured reader generation sequence _ => some (.snapshot reader generation sequence)
  | .delivered reader event => some (.delivered reader event)
  | _ => none

/-! ## Refinement -/

/-- A finite execution of the stream alone. -/
abbrev StreamSteps :
    Stream EventPayload → List (Report EventPayload) → Stream EventPayload → Prop :=
  Steps SequencedStream.machine

theorem quiet_steps {conn next : WPConnection} {observed : List Observation}
    (same : stream next = stream conn) (quiet : observed.filterMap view = []) :
    StreamSteps (stream conn) (observed.filterMap view) (stream next) := by
  rw [same, quiet]
  exact .refl _

theorem steps_of_some {conn next : WPConnection} {observed : List Observation}
    {outcome : WPConnection × List Observation}
    (steps : StreamSteps (stream conn) (outcome.2.filterMap view) (stream outcome.1))
    (taken : some outcome = some (next, observed)) :
    StreamSteps (stream conn) (observed.filterMap view) (stream next) := by
  cases taken
  exact steps

theorem filterMap_view_eq_nil {observed : List Observation}
    (dispatch : ∀ observation ∈ observed, Observation.kind observation = .dispatch) :
    observed.filterMap view = [] := by
  rw [List.filterMap_eq_nil_iff]
  intro observation member
  have kind := dispatch observation member
  cases observation <;> first | rfl | cases kind

@[simp] theorem view_dropped (events : List EventPayload) :
    (events.map Observation.dropped).filterMap view = events.map Report.dropped := by
  simp [List.filterMap_map, Function.comp_def, view]

theorem enqueue_push (conn : WPConnection) (payload : EventPayload) :
    SequencedStream.push (stream conn) payload =
      (stream (enqueue conn payload).1, (enqueue conn payload).2.filterMap view) := by
  by_cases refused : (conn.runtimeEventClosed || conn.runtimeEventInvalid) = true
  · simp only [SequencedStream.push, enqueue, stream, refused, if_true]
    refine Prod.ext rfl ?_
    by_cases closed : conn.runtimeEventClosed = true <;> simp [closed, view]
  · simp only [SequencedStream.push, enqueue, stream, refused, Bool.false_eq_true, if_false]
    by_cases full : conn.runtimeEventCapacity ≤ conn.runtimeEvents.length
    · simp only [full, if_true, view_dropped]
      rfl
    · simp only [full, if_false]
      rfl

theorem publish_steps (conn : WPConnection) (kind : EventKind) (subject : Option Nat)
    (requiresResnapshot built : Bool) :
    StreamSteps (stream conn)
      ((publish conn kind subject requiresResnapshot built).2.filterMap view)
      (stream (publish conn kind subject requiresResnapshot built).1) := by
  cases built with
  | false => exact .single .skip rfl
  | true =>
      let event := (newEvent conn kind subject requiresResnapshot).2
      have pushed := enqueue_push { conn with sequence := conn.sequence + 1 } event
      refine .single (.publish event) ?_
      have numbered : stamp event = toLex ((stream conn).epoch, (stream conn).number + 1) :=
        rfl
      simp only [SequencedStream.machine, SequencedStream.step, numbered, if_true]
      exact congrArg (fun outcome => some (outcome.1, .published event :: outcome.2)) pushed

theorem cancelPending_steps (conn : WPConnection) (result : MutationDispatchResult) :
    StreamSteps (stream conn) ((cancelPending conn result).2.filterMap view)
      (stream (cancelPending conn result).1) := by
  obtain ⟨ids, frame⟩ := cancelPending_frame conn result
  refine quiet_steps ?_ ?_
  · rw [frame]
    rfl
  · exact filterMap_view_eq_nil fun _ => cancelPending_kind conn result

theorem onCoreDisconnected_steps (conn : WPConnection) :
    StreamSteps (stream conn) ((onCoreDisconnected conn).2.filterMap view)
      (stream (onCoreDisconnected conn).1) := by
  unfold onCoreDisconnected
  split
  · simp only [List.filterMap_append]
    have cancelled := cancelPending_steps { conn with coreConnected := false } .generationLost
    exact cancelled.trans (publish_steps _ .connectionChanged none false true)
  · exact .refl _

theorem reconnectOnWpThread_steps (conn : WPConnection) :
    StreamSteps (stream conn) ((reconnectOnWpThread conn).2.filterMap view)
      (stream (reconnectOnWpThread conn).1) := by
  unfold reconnectOnWpThread
  split
  · exact onCoreDisconnected_steps conn
  · exact .refl _

theorem stopOnWpThread_steps (conn : WPConnection) :
    StreamSteps (stream conn) ((stopOnWpThread conn).2.filterMap view)
      (stream (stopOnWpThread conn).1) := by
  have disconnected := reconnectOnWpThread_steps conn
  have published := publish_steps (reconnectOnWpThread conn).1 .connectionChanged none
    false true
  have closed : StreamSteps (stream (publishConnection (reconnectOnWpThread conn).1).1) []
      (stream (stopOnWpThread conn).1) :=
    .single .close rfl
  have reported : (stopOnWpThread conn).2 =
      (reconnectOnWpThread conn).2 ++ (publishConnection (reconnectOnWpThread conn).1).2 :=
    rfl
  have steps := (disconnected.trans published).trans closed
  rw [List.append_nil, ← List.filterMap_append] at steps
  rw [reported]
  exact steps

/-- Draining delivers one event after the other. -/
theorem drain_steps (conn : WPConnection) (reader : Nat) (count : Nat) :
    StreamSteps (stream conn)
      (((conn.runtimeEvents.take count).map (Observation.delivered reader)).filterMap view)
      (stream { conn with runtimeEvents := conn.runtimeEvents.drop count }) := by
  induction count generalizing conn with
  | zero => exact .refl _
  | succ count inductionHypothesis =>
      cases queued : conn.runtimeEvents with
      | nil => exact quiet_steps (by simp [stream, queued]) rfl
      | cons event rest =>
          have deliver : SequencedStream.step (stream conn) (.deliver reader) =
              some (stream { conn with runtimeEvents := rest }, [.delivered reader event]) := by
            simp [SequencedStream.step, stream, queued]
          exact .head (.deliver reader) deliver
            (inductionHypothesis { conn with runtimeEvents := rest })

theorem stepApplication_steps {conn next : WPConnection} {action : Action}
    {observed : List Observation}
    (taken : stepApplication conn action = some (next, observed)) :
    StreamSteps (stream conn) (observed.filterMap view) (stream next) := by
  cases action with
  | dispatchRuntimeMutation expectedGeneration expectedSequence =>
      simp only [stepApplication, Option.some.injEq] at taken
      unfold dispatchRuntimeMutation at taken
      split at taken
      · cases taken
        exact quiet_steps rfl rfl
      · split at taken
        · cases taken
          exact quiet_steps rfl rfl
        · cases taken
          refine quiet_steps ?_ rfl
          unfold scheduleDispatchLocked
          split <;> rfl
  | reconnectCancel =>
      cases taken
      exact cancelPending_steps conn .generationLost
  | stopCancel =>
      simp only [stepApplication] at taken
      split at taken
      · cases taken
      · cases taken
        exact cancelPending_steps conn .runtimeStopped
  | stopPost =>
      simp only [stepApplication] at taken
      split at taken
      · cases taken
      · split at taken
        · cases taken
          exact quiet_steps rfl rfl
        · cases taken
          exact .single .close rfl
  | drainEvents reader maxEvents =>
      cases taken
      exact drain_steps conn reader _
  | nextEvent reader =>
      simp only [stepApplication] at taken
      split at taken
      · cases taken
        exact quiet_steps rfl rfl
      · rename_i event rest queued
        cases taken
        have delivered := drain_steps conn reader 1
        rw [queued] at delivered
        exact delivered
  | stopRequest =>
      cases taken
      exact quiet_steps rfl rfl
  | reconnectPost | captureAdmit | capturePost =>
      simp only [stepApplication] at taken
      split at taken <;> cases taken <;> exact quiet_steps rfl rfl
  | _ => cases taken

theorem installObjectManager_stream (conn : WPConnection) :
    stream (installObjectManager conn) = stream conn := by
  obtain ⟨_, _, frame⟩ := installObjectManager_frame conn
  rw [frame]
  rfl

theorem stepCallback_steps {conn next : WPConnection} {action : Action}
    {observed : List Observation}
    (taken : stepCallback conn action = some (next, observed)) :
    StreamSteps (stream conn) (observed.filterMap view) (stream next) := by
  cases action with
  | mixerApiLoaded =>
      cases taken
      exact quiet_steps (installObjectManager_stream _) rfl
  | coreConnected =>
      cases taken
      exact quiet_steps (installObjectManager_stream _) rfl
  | coreDisconnected =>
      cases taken
      exact onCoreDisconnected_steps conn
  | omInstalled =>
      simp only [stepCallback] at taken
      split at taken
      · rename_i manager _
        split at taken
        · cases taken
          let established := { conn with
            om := some { manager with generation := some (conn.generation + 1) },
            generation := conn.generation + 1, sequence := 0, mutationDispatchOrder := 0,
            started := true }
          have opened : StreamSteps (stream conn) [] (stream established) :=
            .single .openEpoch rfl
          exact opened.trans (publish_steps established .connectionChanged none false true)
        · cases taken
      · cases taken
  | objectSignal signal built =>
      simp only [stepCallback, Option.map_eq_some_iff] at taken
      obtain ⟨manager, _, published⟩ := taken
      unfold publishObjectEvent at published
      split at published
      · have steps := publish_steps conn signal.event.1
          (if signal.event.2.1 then some manager.ordinal else none) signal.event.2.2 built
        rw [published] at steps
        exact steps
      · cases published
        exact quiet_steps rfl rfl
  | defaultSignal built =>
      simp only [stepCallback, Option.map_eq_some_iff] at taken
      obtain ⟨manager, _, published⟩ := taken
      unfold publishDefaultEvent at published
      split at published
      · have steps := publish_steps conn .defaultChanged (some manager.ordinal) false built
        rw [published] at steps
        exact steps
      · cases published
        exact quiet_steps rfl rfl
  | capture index copied =>
      simp only [stepCallback] at taken
      split at taken
      · cases taken
      · rename_i reader _
        cases copied with
        | false =>
            cases taken
            exact quiet_steps rfl rfl
        | true =>
            cases taken
            exact .single (.snapshot reader) rfl
  | reconnect =>
      simp only [stepCallback] at taken
      split at taken
      · cases taken
      · exact steps_of_some (reconnectOnWpThread_steps { conn with
          reconnectSources := conn.reconnectSources - 1 }) taken
  | stop =>
      simp only [stepCallback] at taken
      split at taken
      · cases taken
      · exact steps_of_some (stopOnWpThread_steps { conn with
          stopSources := conn.stopSources - 1 }) taken
  | popMutation =>
      simp only [stepCallback, popMutation] at taken
      split at taken
      · cases taken
      · split at taken <;> cases taken <;> exact quiet_steps rfl rfl
  | loopExit =>
      simp only [stepCallback] at taken
      split at taken
      · cases taken
        exact quiet_steps rfl rfl
      · cases taken
  | _ => cases taken

theorem stepStage_steps {conn next : WPConnection} {action : Action}
    {observed : List Observation}
    (taken : stepStage conn action = some (next, observed)) :
    StreamSteps (stream conn) (observed.filterMap view) (stream next) := by
  cases action with
  | sampleMutation =>
      simp only [stepStage] at taken
      split at taken
      · cases taken
        exact quiet_steps rfl rfl
      · cases taken
  | settleMutation result =>
      simp only [stepStage] at taken
      split at taken
      · simp only [Option.some.injEq] at taken
        unfold settleMutation at taken
        split at taken <;> cases taken <;> exact quiet_steps rfl rfl
      · cases taken
  | completeMutation =>
      simp only [stepStage] at taken
      split at taken
      · rename_i finished result sampled number _
        refine steps_of_some ?_ taken
        obtain ⟨ids, frame⟩ := completeCall_frame { conn with wpThread := .completed }
          finished result sampled number
        refine quiet_steps ?_ ?_
        · rw [frame]
          rfl
        · exact filterMap_view_eq_nil fun _ => completeCall_kind _ _ _ _ _
      · cases taken
  | rescheduleMutation =>
      simp only [stepStage] at taken
      split at taken
      · cases taken
        refine quiet_steps ?_ rfl
        unfold scheduleDispatchLocked
        split <;> rfl
      · cases taken
  | captureReset =>
      simp only [stepStage, runtimeEventsReset] at taken
      split at taken
      · cases taken
        rw [view_dropped]
        exact .single .reset rfl
      · cases taken
  | _ => cases taken

theorem step_steps {conn next : WPConnection} {action : Action}
    {observed : List Observation} (taken : step conn action = some (next, observed)) :
    StreamSteps (stream conn) (observed.filterMap view) (stream next) := by
  rcases step_cases conn next action observed taken with
    ⟨_, application⟩ | ⟨_, callback⟩ | stage
  · exact stepApplication_steps application
  · exact stepCallback_steps callback
  · exact stepStage_steps stage

/-- Every run of the connection is a run of its stream. -/
theorem stream_of_run {history : History} {conn : WPConnection}
    (run : Run machine history conn) :
    ∃ streamHistory, Run SequencedStream.machine streamHistory (stream conn) ∧
      log streamHistory = (log history).filterMap view := by
  refine run.simulate stream ?_ ?_
  · rintro conn ⟨capacity, _, rfl⟩
    exact ⟨rfl, rfl⟩
  · intro _ conn action next observed _ taken
    exact step_steps taken

/-! ## The consumer -/

inductive ContinuityCode where
  | generationChanged
  | sequenceGap
  | resnapshotRequired
  deriving DecidableEq, Repr

structure RuntimeContinuityError where
  code : ContinuityCode
  expectedGeneration : Nat
  expectedSequence : Nat
  event : EventPayload
  deriving DecidableEq, Repr

/-- Validate that an event immediately follows an existing projection. -/
def requireEventContinuity (event : EventPayload) (generation sequence : Nat) :
    Except RuntimeContinuityError EventPayload :=
  let rejected (code : ContinuityCode) : Except RuntimeContinuityError EventPayload :=
    .error { code := code, expectedGeneration := generation,
             expectedSequence := sequence + 1, event := event }
  if event.generation ≠ generation then rejected .generationChanged
  else if event.sequence ≠ sequence + 1 then rejected .sequenceGap
  else if event.requiresResnapshot then rejected .resnapshotRequired
  else .ok event

/-- The events a projection applies, started at a snapshot and shown `seen`. -/
def project : Nat → Nat → List EventPayload → List EventPayload
  | _, _, [] => []
  | generation, sequence, event :: rest =>
      match requireEventContinuity event generation sequence with
      | .ok applied => applied :: project applied.generation applied.sequence rest
      | .error _ => project generation sequence rest

theorem requireEventContinuity_ok {event : EventPayload} {generation sequence : Nat}
    (continued : continues generation sequence event = true) :
    requireEventContinuity event generation sequence = .ok event ∧
      event.generation = generation ∧ event.sequence = sequence + 1 := by
  simp only [continues, Bool.and_eq_true, beq_iff_eq, Bool.not_eq_true'] at continued
  obtain ⟨⟨sameGeneration, next⟩, intact⟩ := continued
  have generationEq : event.generation = generation := sameGeneration
  have sequenceEq : event.sequence = sequence + 1 := next
  have noMarker : event.requiresResnapshot = false := intact
  simp [requireEventContinuity, generationEq, sequenceEq, noMarker]

theorem requireEventContinuity_error {event : EventPayload} {generation sequence : Nat}
    (broken : continues generation sequence event = false) :
    ∃ error, requireEventContinuity event generation sequence = .error error := by
  unfold requireEventContinuity
  by_cases sameGeneration : event.generation = generation
  · by_cases next : event.sequence = sequence + 1
    · cases marker : event.requiresResnapshot with
      | true => exact ⟨_, by simp [sameGeneration, next]; rfl⟩
      | false =>
          have continued : continues generation sequence event = true := by
            simp [continues, Stamped.epoch, Stamped.number, Stamped.breaks,
              sameGeneration, next, marker]
          rw [continued] at broken
          cases broken
    · exact ⟨_, by simp [sameGeneration, next]; rfl⟩
  · exact ⟨_, by simp [sameGeneration]; rfl⟩

theorem project_eq_consume (generation sequence : Nat) (seen : List EventPayload) :
    project generation sequence seen = consume generation sequence seen := by
  induction seen generalizing sequence with
  | nil => rfl
  | cons event rest inductionHypothesis =>
      cases continued : continues generation sequence event with
      | true =>
          obtain ⟨accepted, sameGeneration, next⟩ := requireEventContinuity_ok continued
          simp only [project, accepted, consume, continued, if_true]
          rw [sameGeneration, next, inductionHypothesis]
      | false =>
          obtain ⟨error, rejected⟩ := requireEventContinuity_error continued
          simp only [project, rejected, consume, continued, Bool.false_eq_true, if_false]
          exact inductionHypothesis sequence

/-! ## The contract of the stream -/

def Observation.number : Observation → Option (Nat × Nat)
  | .published event => some (event.generation, event.sequence)
  | .captured _ generation sequence _ => some (generation, sequence)
  | _ => none

/-- The `(generation, sequence)` pairs given to events and captures. -/
def numbers (reported : List Observation) : List (Nat × Nat) :=
  reported.filterMap Observation.number

def Observation.delivery : Observation → Option (Nat × Nat)
  | .delivered _ event => some (event.generation, event.sequence)
  | _ => none

/-- The pairs of the events handed to readers. -/
def deliveredNumbers (reported : List Observation) : List (Nat × Nat) :=
  reported.filterMap Observation.delivery

/-- The event was discarded by the queue, or some reader already took it. -/
def Lost (reported : List Observation) (event : EventPayload) : Prop :=
  .dropped event ∈ reported ∨ ∃ reader, .delivered reader event ∈ reported

/-- No pair is given twice, and none is handed out twice; a projection started at a snapshot applies exactly the
events numbered behind it, which were published after it; and after the loss of
an event the projection still expects, everything delivered is rejected. -/
structure Continuity (reported : List Observation) : Prop where
  numbered : (numbers reported).Nodup
  once : (deliveredNumbers reported).Nodup
  ordered : ∀ generation sequence seen,
    (project generation sequence seen).map (fun event => (event.generation, event.sequence)) =
      (List.range' (sequence + 1) (project generation sequence seen).length).map
        fun next => (generation, next)
  applied : ∀ before reader generation sequence subject after,
    reported = before ++ .captured reader generation sequence subject :: after →
      ∀ seen, (∀ event ∈ seen, ∃ source, .delivered source event ∈ reported) →
        ∀ event, event ∈ project generation sequence seen ↔
          .published event ∈ after ∧ event.generation = generation ∧
            sequence < event.sequence ∧
            event.sequence ≤ sequence + (project generation sequence seen).length
  lost : ∀ before reader event after,
    reported = before ++ .delivered reader event :: after →
      ∀ missed, Lost before missed → ∀ sequence, sequence < missed.sequence →
        ∃ error, requireEventContinuity event missed.generation sequence = .error error

theorem numbers_eq_stamps (reported : List Observation) :
    stamps (reported.filterMap view) = (numbers reported).map toLex := by
  simp only [stamps, numbers, List.filterMap_filterMap, List.map_filterMap]
  refine List.filterMap_congr ?_
  intro observation _
  cases observation <;> rfl

theorem deliveredNumbers_eq_deliveries (reported : List Observation) :
    (deliveries (reported.filterMap view)).map stamp =
      (deliveredNumbers reported).map toLex := by
  simp only [deliveries, deliveredNumbers, List.filterMap_filterMap, List.map_filterMap]
  refine List.filterMap_congr ?_
  intro observation _
  cases observation <;> rfl

theorem lost_gone {reported : List Observation} {event : EventPayload}
    (lost : Lost reported event) : Gone (reported.filterMap view) event := by
  rcases lost with dropped | ⟨reader, delivered⟩
  · exact .inl (List.mem_filterMap.mpr ⟨_, dropped, rfl⟩)
  · exact .inr ⟨reader, List.mem_filterMap.mpr ⟨_, delivered, rfl⟩⟩

theorem published_view {reported : List Observation} {event : EventPayload} :
    .published event ∈ reported.filterMap view ↔ .published event ∈ reported := by
  rw [List.mem_filterMap]
  constructor
  · rintro ⟨observation, member, same⟩
    cases observation <;> cases same
    exact member
  · intro member
    exact ⟨_, member, rfl⟩

/-- Native event stream: no silent loss, no duplication. -/
theorem continuity_of_run {history : History} {conn : WPConnection}
    (run : Run machine history conn) : Continuity (log history) := by
  obtain ⟨streamHistory, streamRun, streamLog⟩ := stream_of_run run
  have sound := SequencedStream.sound_of_run streamRun
  rw [streamLog] at sound
  constructor
  · have distinct := sound.stamps_nodup
    rw [numbers_eq_stamps] at distinct
    exact List.Nodup.of_map _ distinct
  · have distinct := sound.deliveries_nodup
    rw [deliveredNumbers_eq_deliveries] at distinct
    exact List.Nodup.of_map _ distinct
  · intro generation sequence seen
    rw [project_eq_consume]
    have stamped := SequencedStream.consume_stamps generation sequence seen
    have unlabelled := congrArg (List.map ofLex) stamped
    simp only [List.map_map, Function.comp_def, stamp, ofLex_toLex] at unlabelled
    exact unlabelled
  · intro before reader generation sequence subject after split seen delivered event
    have viewed : (log history).filterMap view = before.filterMap view ++
        .snapshot reader generation sequence :: after.filterMap view := by
      simp [split, view]
    rw [project_eq_consume, sound.mem_consume_iff]
    · constructor
      · rintro ⟨published, sameGeneration, above, atMost⟩
        refine ⟨?_, sameGeneration, above, atMost⟩
        rw [viewed] at sound published
        refine published_view.mp (sound.published_after published ?_)
        rw [stamp, Prod.Lex.toLex_lt_toLex]
        exact .inr ⟨sameGeneration.symm, above⟩
      · rintro ⟨published, sameGeneration, above, atMost⟩
        refine ⟨?_, sameGeneration, above, atMost⟩
        rw [viewed]
        exact List.mem_append_right _
          (List.mem_cons_of_mem _ (published_view.mpr published))
    · intro seenEvent member
      obtain ⟨source, arrived⟩ := delivered seenEvent member
      exact SequencedStream.mem_deliveries.mpr
        ⟨source, List.mem_filterMap.mpr ⟨_, arrived, rfl⟩⟩
  · intro before reader event after split missed lost sequence beyond
    have viewed : log streamHistory = before.filterMap view ++
        .delivered reader event :: after.filterMap view := by
      rw [streamLog, split]
      simp [view]
    refine requireEventContinuity_error ?_
    exact SequencedStream.loss_rejected streamRun viewed (lost_gone lost) rfl beyond

/-- A reader takes an event of its projection; then another reader drains one, and
the next event of the first reader is rejected. -/
def sharedQueue : List Action :=
  [.mixerApiLoaded, .coreConnected, .omInstalled, .captureAdmit 7, .capturePost 7,
    .capture 0 true, .captureReset, .objectSignal .objectAdded true,
    .objectSignal .propertiesChanged true, .objectSignal .propertiesChanged true,
    .nextEvent 7, .drainEvents 8 1, .nextEvent 7]

theorem continuity_sharedQueue :
    ∃ history conn, Run machine history conn ∧
      numbers (log history) = [(1, 1), (1, 2), (1, 3), (1, 4), (1, 5)] ∧
      Continuity (log history) := by
  have run := exec_run sharedQueue (.start ⟨4, by decide, rfl⟩ : Run machine [] (new 4)) rfl
  exact ⟨_, _, run, by decide, continuity_of_run run⟩

end WyrePlumber.Native.EventStream
