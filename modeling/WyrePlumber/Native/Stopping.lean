import WyrePlumber.Native.Connection

/-!
# Stopping

`stop` first forbids new mutations and then cancels the queued ones; only after
that the WirePlumber thread is told to quit.  The queue is therefore empty from
the cancellation on, in every interleaving with other callers.
-/

set_option autoImplicit false

namespace WyrePlumber.Native.Stopping

open LabelledMachine
open WyrePlumber.Native.Connection

/-- A stop is past its cancellation, on its way to the WirePlumber thread or done. -/
def StopUnderway (conn : WPConnection) : Prop :=
  conn.stopCancelled ≠ 0 ∨ conn.stopSources ≠ 0 ∨ conn.quit = true

/-- What a step can do to a stop: requests last, an emptied queue stays empty once
a stop is requested, and a stop gets underway from its cancellation only. -/
structure StopEffect (conn next : WPConnection) : Prop where
  requested : conn.stopRequested = true → next.stopRequested = true
  emptied : conn.stopRequested = true → conn.mutationQueue = [] → next.mutationQueue = []
  callers : next.stopCallers ≠ 0 → conn.stopCallers ≠ 0 ∨ next.stopRequested = true
  underway : StopUnderway next →
    StopUnderway conn ∨ (conn.stopCallers ≠ 0 ∧ next.mutationQueue = [])

theorem StopEffect.of_some {conn next : WPConnection} {observed : List Observation}
    {outcome : WPConnection × List Observation} (effect : StopEffect conn outcome.1)
    (taken : some outcome = some (next, observed)) : StopEffect conn next := by
  cases taken
  exact effect

/-- The effect of a step that does not take part in stopping. -/
theorem StopEffect.unrelated {conn next : WPConnection}
    (requested : next.stopRequested = conn.stopRequested)
    (queue : conn.stopRequested = true → conn.mutationQueue = [] → next.mutationQueue = [])
    (callers : next.stopCallers = conn.stopCallers)
    (cancelled : next.stopCancelled = conn.stopCancelled)
    (sources : next.stopSources = conn.stopSources) (quit : next.quit = conn.quit) :
    StopEffect conn next where
  requested := by
    rw [requested]
    exact id
  emptied := queue
  callers := by
    rw [callers]
    exact .inl
  underway := by
    unfold StopUnderway
    rw [cancelled, sources, quit]
    exact .inl

theorem publish_stopEffect (conn base : WPConnection) (kind : EventKind)
    (subject : Option Nat) (requiresResnapshot built : Bool)
    (effect : StopEffect conn base) :
    StopEffect conn (publish base kind subject requiresResnapshot built).1 := by
  obtain ⟨_, _, frame⟩ := publish_frame base kind subject requiresResnapshot built
  rw [frame]
  exact ⟨effect.requested, effect.emptied, effect.callers, effect.underway⟩

theorem cancelPending_stopEffect (conn : WPConnection) (result : MutationDispatchResult) :
    StopEffect conn (cancelPending conn result).1 := by
  obtain ⟨_, frame⟩ := cancelPending_frame conn result
  rw [frame]
  exact .unrelated rfl (fun _ _ => rfl) rfl rfl rfl rfl

theorem installObjectManager_stopEffect (conn : WPConnection) :
    StopEffect conn (installObjectManager conn) := by
  obtain ⟨_, _, frame⟩ := installObjectManager_frame conn
  rw [frame]
  exact .unrelated rfl (fun _ => id) rfl rfl rfl rfl

theorem onCoreDisconnected_stopEffect (conn : WPConnection) :
    StopEffect conn (onCoreDisconnected conn).1 := by
  unfold onCoreDisconnected
  split
  · have cancelled := cancelPending_stopEffect { conn with coreConnected := false }
      .generationLost
    have published := publish_stopEffect { conn with coreConnected := false } _
      .connectionChanged none false true cancelled
    exact ⟨published.requested, published.emptied, published.callers, published.underway⟩
  · exact .unrelated rfl (fun _ => id) rfl rfl rfl rfl

theorem reconnectOnWpThread_stopEffect (conn : WPConnection) :
    StopEffect conn (reconnectOnWpThread conn).1 := by
  unfold reconnectOnWpThread
  split
  · exact onCoreDisconnected_stopEffect conn
  · exact .unrelated rfl (fun _ => id) rfl rfl rfl rfl

theorem dispatchRuntimeMutation_stopEffect (conn : WPConnection)
    (expectedGeneration : Nat) (expectedSequence : Option Nat) :
    StopEffect conn
      (dispatchRuntimeMutation conn expectedGeneration expectedSequence).1 := by
  unfold dispatchRuntimeMutation
  split
  · exact .unrelated rfl (fun _ => id) rfl rfl rfl rfl
  · rename_i accepting
    split
    · exact .unrelated rfl (fun _ => id) rfl rfl rfl rfl
    · have running : conn.stopRequested = false := by
        simp only [Bool.or_eq_true, not_or, Bool.not_eq_true] at accepting
        exact accepting.1
      dsimp only
      obtain ⟨_, _, frame⟩ := scheduleDispatchLocked_frame
        { conn with
          calls := conn.calls + 1,
          mutationDispatchOrder := conn.mutationDispatchOrder + 1,
          mutationQueue := conn.mutationQueue ++ [{
            id := conn.calls, expectedGeneration := expectedGeneration,
            expectedSequence := expectedSequence, enqueuedGeneration := conn.generation,
            dispatchOrder := conn.mutationDispatchOrder + 1 }] }
      rw [frame]
      refine .unrelated rfl ?_ rfl rfl rfl rfl
      intro stopped
      rw [running] at stopped
      cases stopped

theorem stepApplication_stopEffect {conn next : WPConnection} {action : Action}
    {observed : List Observation}
    (taken : stepApplication conn action = some (next, observed)) :
    StopEffect conn next := by
  cases action with
  | dispatchRuntimeMutation expectedGeneration expectedSequence =>
      exact (dispatchRuntimeMutation_stopEffect conn _ _).of_some taken
  | reconnectCancel =>
      cases taken
      have effect := cancelPending_stopEffect conn .generationLost
      exact ⟨effect.requested, effect.emptied, effect.callers, effect.underway⟩
  | stopRequest =>
      cases taken
      exact ⟨fun _ => rfl, fun _ => id, fun _ => .inr rfl, fun underway => .inl underway⟩
  | stopCancel =>
      obtain ⟨ids, frame⟩ := cancelPending_frame conn .runtimeStopped
      simp only [stepApplication, frame] at taken
      split at taken
      · cases taken
      · rename_i waiting
        cases taken
        exact ⟨id, fun _ _ => rfl, fun _ => .inl waiting, fun _ => .inr ⟨waiting, rfl⟩⟩
  | stopPost =>
      simp only [stepApplication] at taken
      split at taken
      · cases taken
      · rename_i cancelled
        split at taken
        · cases taken
          exact ⟨id, fun _ => id, .inl, fun _ => .inl (.inl cancelled)⟩
        · cases taken
          exact ⟨id, fun _ => id, .inl, fun _ => .inl (.inl cancelled)⟩
  | drainEvents =>
      cases taken
      exact .unrelated rfl (fun _ => id) rfl rfl rfl rfl
  | nextEvent | reconnectPost | captureAdmit | capturePost =>
      simp only [stepApplication] at taken
      split at taken <;> cases taken <;>
        exact .unrelated rfl (fun _ => id) rfl rfl rfl rfl
  | _ => cases taken

theorem stepCallback_stopEffect {conn next : WPConnection} {action : Action}
    {observed : List Observation}
    (taken : stepCallback conn action = some (next, observed)) :
    StopEffect conn next := by
  cases action with
  | mixerApiLoaded =>
      cases taken
      have effect := installObjectManager_stopEffect { conn with mixerApi := true }
      exact ⟨effect.requested, effect.emptied, effect.callers, effect.underway⟩
  | coreConnected =>
      cases taken
      have effect := installObjectManager_stopEffect { conn with coreConnected := true }
      exact ⟨effect.requested, effect.emptied, effect.callers, effect.underway⟩
  | coreDisconnected => exact (onCoreDisconnected_stopEffect conn).of_some taken
  | omInstalled =>
      simp only [stepCallback] at taken
      split at taken
      · split at taken
        · refine StopEffect.of_some ?_ taken
          refine publish_stopEffect conn _ _ _ _ _ ?_
          exact .unrelated rfl (fun _ => id) rfl rfl rfl rfl
        · cases taken
      · cases taken
  | objectSignal signal built =>
      simp only [stepCallback, Option.map_eq_some_iff] at taken
      obtain ⟨manager, _, published⟩ := taken
      refine StopEffect.of_some ?_ (congrArg some published)
      unfold publishObjectEvent
      split
      · refine publish_stopEffect conn conn _ _ _ _ ?_
        exact .unrelated rfl (fun _ => id) rfl rfl rfl rfl
      · exact .unrelated rfl (fun _ => id) rfl rfl rfl rfl
  | defaultSignal built =>
      simp only [stepCallback, Option.map_eq_some_iff] at taken
      obtain ⟨manager, _, published⟩ := taken
      refine StopEffect.of_some ?_ (congrArg some published)
      unfold publishDefaultEvent
      split
      · refine publish_stopEffect conn conn _ _ _ _ ?_
        exact .unrelated rfl (fun _ => id) rfl rfl rfl rfl
      · exact .unrelated rfl (fun _ => id) rfl rfl rfl rfl
  | capture index copied =>
      simp only [stepCallback] at taken
      split at taken
      · cases taken
      · cases copied <;> cases taken <;>
          exact .unrelated rfl (fun _ => id) rfl rfl rfl rfl
  | reconnect =>
      simp only [stepCallback] at taken
      split at taken
      · cases taken
      · have effect := reconnectOnWpThread_stopEffect { conn with
          reconnectSources := conn.reconnectSources - 1 }
        refine StopEffect.of_some ?_ taken
        exact ⟨effect.requested, effect.emptied, effect.callers, effect.underway⟩
  | stop =>
      simp only [stepCallback] at taken
      split at taken
      · cases taken
      · rename_i posted
        have effect := publish_stopEffect _ _ .connectionChanged none false true
          (reconnectOnWpThread_stopEffect { conn with stopSources := conn.stopSources - 1 })
        refine StopEffect.of_some ?_ taken
        exact ⟨effect.requested, effect.emptied, effect.callers,
          fun _ => .inl (.inr (.inl posted))⟩
  | popMutation =>
      simp only [stepCallback, popMutation] at taken
      split at taken
      · cases taken
      · split at taken
        · cases taken
          exact .unrelated rfl (fun _ => id) rfl rfl rfl rfl
        · rename_i queued
          cases taken
          refine .unrelated rfl ?_ rfl rfl rfl rfl
          intro _ empty
          rw [queued] at empty
          cases empty
  | loopExit =>
      simp only [stepCallback] at taken
      split at taken
      · cases taken
        exact .unrelated rfl (fun _ => id) rfl rfl rfl rfl
      · cases taken
  | _ => cases taken

theorem stepStage_stopEffect {conn next : WPConnection} {action : Action}
    {observed : List Observation}
    (taken : stepStage conn action = some (next, observed)) :
    StopEffect conn next := by
  cases action with
  | sampleMutation | captureReset =>
      simp only [stepStage] at taken
      split at taken
      · cases taken
        exact .unrelated rfl (fun _ => id) rfl rfl rfl rfl
      · cases taken
  | settleMutation result =>
      simp only [stepStage] at taken
      split at taken
      · simp only [Option.some.injEq] at taken
        unfold settleMutation at taken
        split at taken <;> cases taken <;>
          exact .unrelated rfl (fun _ => id) rfl rfl rfl rfl
      · cases taken
  | completeMutation =>
      simp only [stepStage] at taken
      split at taken
      · rename_i call result generation sequence _
        obtain ⟨ids, frame⟩ := completeCall_frame { conn with wpThread := .completed }
          call result generation sequence
        refine StopEffect.of_some ?_ taken
        rw [frame]
        exact .unrelated rfl (fun _ => id) rfl rfl rfl rfl
      · cases taken
  | rescheduleMutation =>
      obtain ⟨scheduled, sources, frame⟩ := scheduleDispatchLocked_frame
        { conn with mutationSourceScheduled := false, wpThread := .idle }
      simp only [stepStage, frame] at taken
      split at taken
      · cases taken
        exact .unrelated rfl (fun _ => id) rfl rfl rfl rfl
      · cases taken
  | _ => cases taken

theorem step_stopEffect {conn next : WPConnection} {action : Action}
    {observed : List Observation} (taken : step conn action = some (next, observed)) :
    StopEffect conn next := by
  rcases step_cases conn next action observed taken with
    ⟨_, application⟩ | ⟨_, callback⟩ | stage
  · exact stepApplication_stopEffect application
  · exact stepCallback_stopEffect callback
  · exact stepStage_stopEffect stage

/-- Callers that wait to cancel have requested the stop, and from the cancellation
on nothing is queued. -/
structure Halting (conn : WPConnection) : Prop where
  requested : conn.stopCallers ≠ 0 → conn.stopRequested = true
  emptied : StopUnderway conn → conn.stopRequested = true ∧ conn.mutationQueue = []

theorem Halting.step {conn next : WPConnection} {action : Action}
    {observed : List Observation} (halting : Halting conn)
    (taken : Connection.step conn action = some (next, observed)) : Halting next := by
  have effect := step_stopEffect taken
  refine ⟨?_, ?_⟩
  · intro waiting
    rcases effect.callers waiting with before | requested
    · exact effect.requested (halting.requested before)
    · exact requested
  · intro underway
    rcases effect.underway underway with before | ⟨waiting, empty⟩
    · obtain ⟨requested, empty⟩ := halting.emptied before
      exact ⟨effect.requested requested, effect.emptied requested empty⟩
    · exact ⟨effect.requested (halting.requested waiting), empty⟩

theorem halting_of_run {history : History} {conn : WPConnection}
    (run : Run machine history conn) : Halting conn := by
  refine run.invariant (fun conn _ => Halting conn) ?_ ?_
  · rintro conn ⟨capacity, _, rfl⟩
    refine ⟨?_, ?_⟩
    · intro waiting
      exact absurd rfl waiting
    · rintro (cancelled | sources | quit)
      · exact absurd rfl cancelled
      · exact absurd rfl sources
      · cases quit
  · intro conn _ action next observed halting taken
    exact halting.step taken

/-- Some stop has run its `cancel_pending`. -/
def StopCancelled (history : History) : Prop :=
  ∃ transition ∈ history, transition.action = .stopCancel

/-- Once a stop has cancelled, the queue is empty for good. -/
theorem queue_empty_of_stopCancelled {history : History} {conn : WPConnection}
    (run : Run machine history conn) (cancelled : StopCancelled history) :
    conn.stopRequested = true ∧ conn.mutationQueue = [] := by
  induction run with
  | start initial =>
      obtain ⟨_, member, _⟩ := cancelled
      cases member
  | @step history state next action observed run taken inductionHypothesis =>
      have effect := step_stopEffect taken
      obtain ⟨transition, member, isCancel⟩ := cancelled
      rcases List.mem_append.mp member with before | now
      · obtain ⟨requested, empty⟩ := inductionHypothesis ⟨transition, before, isCancel⟩
        exact ⟨effect.requested requested, effect.emptied requested empty⟩
      · rw [List.mem_singleton.mp now] at isCancel
        simp only at isCancel
        subst isCancel
        have stepped : Connection.step state .stopCancel = some (next, observed) := taken
        refine ((halting_of_run run).step stepped).emptied ?_
        simp only [Connection.step, stepApplication] at stepped
        split at stepped
        · split at stepped
          · cases stepped
          · cases stepped
            exact .inl (Nat.succ_ne_zero _)
        · cases stepped

end WyrePlumber.Native.Stopping
