import WyrePlumber.Native.Generation
import WyrePlumber.Native.Reports

/-!
# Mutation generation isolation

A request carries the generation it expects, and that generation names the
manager whose `installed` callback established it.  The result is exact:
`install_object_manager` makes a manager current before `installed` runs, and the
runs that execute in this window are the runs that break isolation.
-/

set_option autoImplicit false

namespace WyrePlumber.Native.MutationIsolation

open LabelledMachine
open WyrePlumber.Native.Connection
open WyrePlumber.Native.Generation
open WyrePlumber.Native.Reports

theorem publish_wpThread (conn : WPConnection) (kind : EventKind) (subject : Option Nat)
    (requiresResnapshot built : Bool) :
    (publish conn kind subject requiresResnapshot built).1.wpThread = conn.wpThread := by
  obtain ⟨_, _, frame⟩ := publish_frame conn kind subject requiresResnapshot built
  rw [frame]

theorem onCoreDisconnected_wpThread (conn : WPConnection) :
    (onCoreDisconnected conn).1.wpThread = conn.wpThread := by
  obtain ⟨_, _, _, _, _, frame⟩ := onCoreDisconnected_frame conn
  rw [frame]

/-- A callback that starts a staged handler leaves its first stage behind. -/
theorem stepCallback_wpThread {conn next : WPConnection} {action : Action}
    {observed : List Observation}
    (taken : stepCallback conn action = some (next, observed)) :
    next.wpThread = conn.wpThread ∨ (∃ call, next.wpThread = .popped call) ∨
      next.wpThread = .captured := by
  cases action with
  | mixerApiLoaded =>
      cases taken
      obtain ⟨_, _, frame⟩ := installObjectManager_frame { conn with mixerApi := true }
      exact .inl (by rw [onMixerApiLoaded, frame])
  | coreConnected =>
      cases taken
      obtain ⟨_, _, frame⟩ := installObjectManager_frame { conn with coreConnected := true }
      exact .inl (by rw [onCoreConnected, frame])
  | coreDisconnected =>
      cases taken
      exact .inl (onCoreDisconnected_wpThread conn)
  | omInstalled =>
      simp only [stepCallback] at taken
      split at taken
      · split at taken
        · cases taken
          exact .inl (publish_wpThread ..)
        · cases taken
      · cases taken
  | objectSignal signal built =>
      simp only [stepCallback, Option.map_eq_some_iff] at taken
      obtain ⟨manager, _, published⟩ := taken
      unfold publishObjectEvent at published
      split at published
      · have reached : _ = next := congrArg Prod.fst published
        exact .inl (reached ▸ publish_wpThread ..)
      · cases published
        exact .inl rfl
  | defaultSignal built =>
      simp only [stepCallback, Option.map_eq_some_iff] at taken
      obtain ⟨manager, _, published⟩ := taken
      unfold publishDefaultEvent at published
      split at published
      · have reached : _ = next := congrArg Prod.fst published
        exact .inl (reached ▸ publish_wpThread ..)
      · cases published
        exact .inl rfl
  | capture index copied =>
      simp only [stepCallback] at taken
      split at taken
      · cases taken
      · cases copied with
        | false =>
            cases taken
            exact .inl rfl
        | true =>
            cases taken
            exact .inr (.inr rfl)
  | reconnect =>
      simp only [stepCallback, reconnectOnWpThread] at taken
      split at taken
      · cases taken
      · split at taken
        · cases taken
          exact .inl (onCoreDisconnected_wpThread _)
        · cases taken
          exact .inl rfl
  | stop =>
      simp only [stepCallback, stopOnWpThread, publishConnection] at taken
      split at taken
      · cases taken
      · cases taken
        refine .inl ((publish_wpThread ..).trans ?_)
        split
        · exact onCoreDisconnected_wpThread _
        · rfl
  | popMutation =>
      simp only [stepCallback, popMutation] at taken
      split at taken
      · cases taken
      · split at taken
        · cases taken
          exact .inl rfl
        · cases taken
          exact .inr (.inl ⟨_, rfl⟩)
  | loopExit =>
      simp only [stepCallback] at taken
      split at taken
      · cases taken
        exact .inl rfl
      · cases taken
  | _ => cases taken

/-- A step that leaves the dispatcher in its sampled stage took the sample, or was
the step of an application thread. -/
theorem sampled_of_step {conn next : WPConnection} {action : Action}
    {observed : List Observation} (taken : Connection.step conn action = some (next, observed))
    {call : MutationDispatchCall} {stopped : Bool} {generation sequence : Nat}
    (atStage : next.wpThread = .sampled call stopped generation sequence) :
    SameWpState conn next ∨
      stopped = next.stopRequested ∧ generation = next.generation ∧ sequence = next.sequence := by
  rcases step_cases conn next action observed taken with
    ⟨_, application⟩ | ⟨ready, callback⟩ | stage
  · exact .inl (stepApplication_sameWpState conn next action observed application)
  · have idle : conn.wpThread = .idle := by
      simp only [callbackReady, Bool.and_eq_true, beq_iff_eq] at ready
      exact ready.1
    rcases stepCallback_wpThread callback with kept | ⟨popped, started⟩ | captured
    · rw [kept, idle] at atStage
      cases atStage
    · rw [started] at atStage
      cases atStage
    · rw [captured] at atStage
      cases atStage
  · cases action with
    | sampleMutation =>
        simp only [stepStage] at stage
        split at stage
        · cases stage
          cases atStage
          exact .inr ⟨rfl, rfl, rfl⟩
        · cases stage
    | settleMutation result =>
        simp only [stepStage] at stage
        split at stage
        · simp only [Option.some.injEq] at stage
          unfold settleMutation at stage
          split at stage <;> cases stage <;> cases atStage
        · cases stage
    | completeMutation =>
        simp only [stepStage] at stage
        split at stage
        · rename_i finished result sampled number _
          obtain ⟨ids, frame⟩ := completeCall_frame { conn with wpThread := .completed }
            finished result sampled number
          have reached : _ = next := congrArg Prod.fst (Option.some.inj stage)
          rw [← reached, frame] at atStage
          cases atStage
        · cases stage
    | rescheduleMutation =>
        obtain ⟨scheduled, sources, frame⟩ := scheduleDispatchLocked_frame
          { conn with mutationSourceScheduled := false, wpThread := .idle }
        simp only [stepStage, frame] at stage
        split at stage
        · cases stage
          cases atStage
        · cases stage
    | captureReset =>
        simp only [stepStage] at stage
        split at stage
        · cases stage
          cases atStage
        · cases stage
    | _ => cases stage

/-- What the dispatcher sampled is still current when it settles the call. -/
def SampledCurrent (conn : WPConnection) : Prop :=
  ∀ call stopped generation sequence,
    conn.wpThread = .sampled call stopped generation sequence →
      generation = conn.generation

theorem SampledCurrent.step {conn next : WPConnection} {action : Action}
    {observed : List Observation} (current : SampledCurrent conn)
    (taken : Connection.step conn action = some (next, observed)) :
    SampledCurrent next := by
  intro call stopped generation sequence atStage
  rcases sampled_of_step taken atStage with same | ⟨-, sampled, -⟩
  · rw [same.generation]
    exact current call stopped generation sequence (same.wpThread ▸ atStage)
  · exact sampled

theorem sampledSequence_of_run {history : History} {conn : WPConnection}
    (run : Run machine history conn) {call : MutationDispatchCall} {stopped : Bool}
    {generation sequence : Nat}
    (atStage : conn.wpThread = .sampled call stopped generation sequence) :
    sequence = conn.sequence := by
  revert call stopped generation sequence
  refine run.invariant (fun conn _ => ∀ {call stopped generation sequence},
    conn.wpThread = .sampled call stopped generation sequence →
      sequence = conn.sequence) ?_ ?_
  · rintro conn ⟨capacity, _, rfl⟩ call stopped generation sequence atStage
    cases atStage
  · intro conn _ action next observed current taken call stopped generation sequence atStage
    rcases sampled_of_step taken atStage with same | ⟨-, -, sampled⟩
    · rw [same.sequence]
      exact current (same.wpThread ▸ atStage)
    · exact sampled

/-- Every executed request ran against the manager that established the
generation the request expects, and no other manager established it. -/
def MutationsIsolated (_ : WPConnection) (reported : List Observation) : Prop :=
  ∀ call om, .executed call om ∈ reported →
    ∀ ordinal, (ordinal, call.expectedGeneration) ∈ installs reported ↔
      ordinal = om.ordinal

/-- The dispatcher settles a call against an uninstalled manager only by
refusing it. -/
def dispatchesInstalled (conn : WPConnection) : Action → Bool
  | .settleMutation _ =>
      match conn.wpThread with
      | .sampled call stopped generation sequence =>
          (refusal conn.om call stopped generation sequence).isSome ||
            managerInstalled conn
      | _ => true
  | _ => true

theorem refusal_eq_none {om : Option ObjectManager} {call : MutationDispatchCall}
    {stopped : Bool} {generation sequence : Nat}
    (passed : refusal om call stopped generation sequence = none) :
    stopped = false ∧ om.isSome = true ∧ generation = call.enqueuedGeneration ∧
      generation = call.expectedGeneration ∧
      ∀ expected, call.expectedSequence = some expected → expected = sequence := by
  unfold refusal at passed
  split at passed
  · cases passed
  · rename_i running
    split at passed
    · cases passed
    · rename_i sameEnqueued
      split at passed
      · cases passed
      · rename_i sameExpected
        split at passed
        · cases passed
        · rename_i sameSequence
          simp only [Bool.or_eq_true, not_or, Bool.not_eq_true] at running
          refine ⟨running.1, ?_, not_not.mp sameEnqueued, not_not.mp sameExpected, ?_⟩
          · cases om with
            | none => simp at running
            | some manager => rfl
          · intro expected carried
            simpa [carried] using sameSequence

theorem settleMutation_executed {conn next : WPConnection}
    {observed : List Observation} {result : MutationDispatchResult}
    {call : MutationDispatchCall} {stopped : Bool} {generation sequence : Nat}
    {om : ObjectManager}
    (atStage : conn.wpThread = .sampled call stopped generation sequence)
    (present : conn.om = some om)
    (passed : refusal conn.om call stopped generation sequence = none)
    (taken : step conn (.settleMutation result) = some (next, observed)) :
    observed = [.executed call om] := by
  have settled : settleMutation conn call stopped generation sequence result =
      (next, observed) := by
    simpa only [step, stepStage, atStage, Option.some.injEq] using taken
  simp only [settleMutation, passed] at settled
  split at settled
  · rename_i manager _ current
    cases settled
    cases present.symm.trans current
    rfl
  · rename_i absent
    cases present.symm.trans absent
  · rename_i impossible
    cases impossible

/-- One step keeps mutations isolated exactly when it is allowed. -/
theorem mutationsIsolated_step {conn next : WPConnection} {action : Action}
    {reported observed : List Observation}
    (established : Established conn reported) (current : SampledCurrent conn)
    (isolated : MutationsIsolated conn reported)
    (taken : step conn action = some (next, observed)) :
    MutationsIsolated next (reported ++ observed) ↔
      dispatchesInstalled conn action = true := by
  have earlier (call : MutationDispatchCall) (om : ObjectManager)
      (member : .executed call om ∈ reported) (ordinal : Nat) :
      (ordinal, call.expectedGeneration) ∈ installs (reported ++ observed) ↔
        ordinal = om.ordinal := by
    have owned := (isolated call om member om.ordinal).mpr rfl
    rw [installs_stable taken (established.bounded _ _ owned).2]
    exact isolated call om member ordinal
  constructor
  · intro after
    cases action with
    | settleMutation result =>
        simp only [dispatchesInstalled]
        split
        · rename_i call stopped generation sequence atStage
          cases passed : refusal conn.om call stopped generation sequence with
          | some refused => rfl
          | none =>
              obtain ⟨_, present, _, sameExpected, _⟩ := refusal_eq_none passed
              obtain ⟨om, present⟩ := Option.isSome_iff_exists.mp present
              have expected : call.expectedGeneration = conn.generation :=
                sameExpected.symm.trans (current _ _ _ _ atStage)
              have executed := settleMutation_executed atStage present passed taken
              have member := (after call om (by simp [executed]) om.ordinal).mpr rfl
              rw [expected, installs_stable taken (Nat.le_refl _)] at member
              exact (established.current_iff present).mp member
        · rfl
    | _ => rfl
  · intro allowed call om member ordinal
    rcases List.mem_append.mp member with before | now
    · exact earlier call om before ordinal
    · obtain ⟨result, stopped, generation, sequence, rfl, atStage, present, passed, rfl⟩ :=
        executed_of_step taken now
      obtain ⟨_, _, _, sameExpected, _⟩ := refusal_eq_none passed
      have expected : call.expectedGeneration = conn.generation :=
        sameExpected.symm.trans (current _ _ _ _ atStage)
      have installed : managerInstalled conn = true := by
        simpa [dispatchesInstalled, atStage, passed] using allowed
      have owned := (established.current_iff present).mpr installed
      rw [expected, installs_stable taken (Nat.le_refl _)]
      constructor
      · intro other
        exact established.unique _ _ _ other owned
      · rintro rfl
        exact owned

theorem sampledCurrent_of_run {history : History} {conn : WPConnection}
    (run : Run machine history conn) : SampledCurrent conn := by
  refine run.invariant (fun conn _ => SampledCurrent conn) ?_ ?_
  · rintro conn ⟨capacity, _, rfl⟩ call stopped generation sequence atStage
    cases atStage
  · intro conn _ action next observed current taken
    exact current.step taken

/-- A run isolates mutations throughout exactly when the dispatcher never
executes against a manager that is installed by `install_object_manager` but has
not emitted `installed`. -/
theorem mutationIsolation_iff {history : History} {conn : WPConnection}
    (run : Run machine history conn) :
    Always MutationsIsolated history ↔
      ∀ transition ∈ history,
        dispatchesInstalled transition.before transition.action = true := by
  refine Run.always_iff
    (fun conn reported => Established conn reported ∧ SampledCurrent conn)
    (fun conn action => dispatchesInstalled conn action = true) ?_ ?_ ?_ run
  · intro history state run
    exact ⟨established_of_run run, sampledCurrent_of_run run⟩
  · rintro conn _ call om member
    cases member
  · rintro conn reported action next observed ⟨established, current⟩ isolated taken
    exact mutationsIsolated_step established current isolated taken

/-- A call that is dispatched while its generation lasts. -/
def dispatchInGeneration : List Action :=
  [.mixerApiLoaded, .coreConnected, .omInstalled, .dispatchRuntimeMutation 1 none,
    .popMutation, .sampleMutation, .settleMutation .ready]

theorem dispatchInGeneration_isolated :
    ∃ history conn, Run machine history conn ∧
      (∃ call om, .executed call om ∈ log history) ∧ Always MutationsIsolated history := by
  have run := exec_run dispatchInGeneration
    (.start ⟨4, by decide, rfl⟩ : Run machine [] (new 4)) rfl
  exact ⟨_, _, run,
    ⟨{ id := 0, expectedGeneration := 1, expectedSequence := none,
        enqueuedGeneration := 1, dispatchOrder := 1 },
      { ordinal := 0, generation := some 1 }, by decide⟩,
    (mutationIsolation_iff run).mpr (by decide)⟩

/-- A request dispatched after a reconnect, before the new manager emits
`installed`, still expects the generation of the lost connection. -/
def reconnectWindow : List Action :=
  [.mixerApiLoaded, .coreConnected, .omInstalled, .coreDisconnected, .coreConnected,
    .dispatchRuntimeMutation 1 none, .popMutation, .sampleMutation,
    .settleMutation .ready]

theorem reconnectWindow_not_isolated :
    ∃ history conn, Run machine history conn ∧ ¬ Always MutationsIsolated history := by
  have run := exec_run reconnectWindow
    (.start ⟨4, by decide, rfl⟩ : Run machine [] (new 4)) rfl
  refine ⟨_, _, run, ?_⟩
  intro always
  have isolated : MutationsIsolated _ _ :=
    always.final run (fun _ _ _ _ member => by cases member)
  have owned := (isolated
    { id := 0, expectedGeneration := 1, expectedSequence := none,
      enqueuedGeneration := 1, dispatchOrder := 1 }
    { ordinal := 1, generation := none } (by decide) 1).mpr rfl
  revert owned
  decide

end WyrePlumber.Native.MutationIsolation
