import WyrePlumber.Native.Connection

/-!
# Which step reports what

The observations fall into kinds.  Mutations are executed by one stage of the
dispatcher and captures are reported by one callback, whatever else a step does.
-/

set_option autoImplicit false

namespace WyrePlumber.Native.Reports

open LabelledMachine
open WyrePlumber.Native.Connection

inductive ObservationKind where
  | installation
  | stream
  | capture
  | dispatch
  | execution
  deriving DecidableEq, Repr

def Observation.kind : Observation → ObservationKind
  | .installed _ _ => .installation
  | .published _ | .dropped _ | .delivered _ _ => .stream
  | .captureRan _ | .captured _ _ _ _ => .capture
  | .enqueued _ | .refused _ _ | .completed _ _ _ _ | .cancelledPending _ => .dispatch
  | .executed _ _ => .execution

theorem enqueue_kind (conn : WPConnection) (payload : EventPayload)
    {observation : Observation} (member : observation ∈ (enqueue conn payload).2) :
    Observation.kind observation = .stream := by
  unfold enqueue at member
  split at member
  · split at member
    · cases member
    · rw [List.mem_singleton.mp member]
      rfl
  · split at member
    · obtain ⟨event, _, rfl⟩ := List.mem_map.mp member
      rfl
    · cases member

theorem publish_kind (conn : WPConnection) (kind : EventKind) (subject : Option Nat)
    (requiresResnapshot built : Bool) {observation : Observation}
    (member : observation ∈ (publish conn kind subject requiresResnapshot built).2) :
    Observation.kind observation = .stream := by
  cases built with
  | false => cases member
  | true =>
      rcases List.mem_cons.mp member with rfl | enqueued
      · rfl
      · exact enqueue_kind _ _ enqueued

theorem completeCall_kind (conn : WPConnection) (call : MutationDispatchCall)
    (result : MutationDispatchResult) (generation sequence : Nat)
    {observation : Observation}
    (member : observation ∈ (completeCall conn call result generation sequence).2) :
    Observation.kind observation = .dispatch := by
  unfold completeCall at member
  split at member
  · cases member
  · rw [List.mem_singleton.mp member]
    rfl

theorem completeCalls_kind (result : MutationDispatchResult) (generation : Nat)
    (calls : List MutationDispatchCall) (conn : WPConnection) {observation : Observation}
    (member : observation ∈ (completeCalls result generation calls conn).2) :
    Observation.kind observation = .dispatch := by
  induction calls generalizing conn with
  | nil => cases member
  | cons call rest inductionHypothesis =>
      rcases List.mem_append.mp member with first | later
      · exact completeCall_kind _ _ _ _ _ first
      · exact inductionHypothesis _ later

theorem cancelPending_kind (conn : WPConnection) (result : MutationDispatchResult)
    {observation : Observation}
    (member : observation ∈ (cancelPending conn result).2) :
    Observation.kind observation = .dispatch := by
  rcases List.mem_cons.mp member with rfl | completed
  · rfl
  · exact completeCalls_kind _ _ _ _ completed

theorem onCoreDisconnected_kind (conn : WPConnection) {observation : Observation}
    (member : observation ∈ (onCoreDisconnected conn).2) :
    Observation.kind observation = .dispatch ∨ Observation.kind observation = .stream := by
  unfold onCoreDisconnected at member
  split at member
  · rcases List.mem_append.mp member with cancelled | published
    · exact .inl (cancelPending_kind _ _ cancelled)
    · exact .inr (publish_kind _ _ _ _ _ published)
  · cases member

theorem stepApplication_kind {conn next : WPConnection} {action : Action}
    {observed : List Observation}
    (taken : stepApplication conn action = some (next, observed))
    {observation : Observation} (member : observation ∈ observed) :
    Observation.kind observation = .dispatch ∨ Observation.kind observation = .stream := by
  cases action with
  | dispatchRuntimeMutation expectedGeneration expectedSequence =>
      simp only [stepApplication, Option.some.injEq] at taken
      unfold dispatchRuntimeMutation at taken
      split at taken
      · cases taken
        rw [List.mem_singleton.mp member]
        exact .inl rfl
      · split at taken
        · cases taken
          rw [List.mem_singleton.mp member]
          exact .inl rfl
        · cases taken
          rw [List.mem_singleton.mp member]
          exact .inl rfl
  | reconnectCancel =>
      cases taken
      exact .inl (cancelPending_kind _ _ member)
  | stopCancel =>
      simp only [stepApplication] at taken
      split at taken
      · cases taken
      · cases taken
        exact .inl (cancelPending_kind _ _ member)
  | drainEvents reader maxEvents =>
      cases taken
      obtain ⟨event, _, rfl⟩ := List.mem_map.mp member
      exact .inr rfl
  | nextEvent reader =>
      simp only [stepApplication] at taken
      split at taken <;> cases taken
      · cases member
      · rw [List.mem_singleton.mp member]
        exact .inr rfl
  | stopRequest =>
      cases taken
      cases member
  | stopPost =>
      simp only [stepApplication] at taken
      split at taken
      · cases taken
      · split at taken <;> cases taken <;> cases member
  | reconnectPost | captureAdmit | capturePost =>
      simp only [stepApplication] at taken
      split at taken <;> cases taken <;> cases member
  | _ => cases taken

/-- The capture handler is the only callback that reports a capture, and no
callback executes a mutation: execution is a later stage of the dispatcher. -/
theorem stepCallback_kind {conn next : WPConnection} {action : Action}
    {observed : List Observation}
    (taken : stepCallback conn action = some (next, observed))
    {observation : Observation} (member : observation ∈ observed) :
    Observation.kind observation ≠ .execution ∧
      (Observation.kind observation = .capture →
        ∃ index copied, action = .capture index copied) := by
  have quiet (kind : Observation.kind observation = .dispatch ∨
      Observation.kind observation = .stream) :
      Observation.kind observation ≠ .execution ∧
        (Observation.kind observation = .capture →
          ∃ index copied, action = .capture index copied) := by
    rcases kind with dispatch | stream
    · simp [dispatch]
    · simp [stream]
  cases action with
  | mixerApiLoaded | coreConnected =>
      cases taken
      cases member
  | coreDisconnected =>
      cases taken
      exact quiet (onCoreDisconnected_kind _ member)
  | omInstalled =>
      simp only [stepCallback] at taken
      split at taken
      · split at taken
        · cases taken
          rcases List.mem_cons.mp member with rfl | published
          · simp [Observation.kind]
          · exact quiet (.inr (publish_kind _ _ _ _ _ published))
        · cases taken
      · cases taken
  | objectSignal signal built =>
      simp only [stepCallback, Option.map_eq_some_iff] at taken
      obtain ⟨manager, _, published⟩ := taken
      unfold publishObjectEvent at published
      split at published
      · have reported : _ = observed := congrArg Prod.snd published
        subst reported
        exact quiet (.inr (publish_kind _ _ _ _ _ member))
      · cases published
        cases member
  | defaultSignal built =>
      simp only [stepCallback, Option.map_eq_some_iff] at taken
      obtain ⟨manager, _, published⟩ := taken
      unfold publishDefaultEvent at published
      split at published
      · have reported : _ = observed := congrArg Prod.snd published
        subst reported
        exact quiet (.inr (publish_kind _ _ _ _ _ member))
      · cases published
        cases member
  | capture index copied =>
      refine ⟨?_, fun _ => ⟨index, copied, rfl⟩⟩
      simp only [stepCallback] at taken
      split at taken
      · cases taken
      · cases copied <;> cases taken <;> simp only [List.mem_cons, List.not_mem_nil,
          or_false] at member
        · rw [member]
          simp [Observation.kind]
        · rcases member with rfl | rfl <;> simp [Observation.kind]
  | reconnect =>
      simp only [stepCallback, reconnectOnWpThread] at taken
      split at taken
      · cases taken
      · split at taken <;> cases taken
        · exact quiet (onCoreDisconnected_kind _ member)
        · cases member
  | stop =>
      simp only [stepCallback, stopOnWpThread] at taken
      split at taken
      · cases taken
      · cases taken
        rcases List.mem_append.mp member with disconnected | published
        · split at disconnected
          · exact quiet (onCoreDisconnected_kind _ disconnected)
          · cases disconnected
        · exact quiet (.inr (publish_kind _ _ _ _ _ published))
  | popMutation | loopExit =>
      simp only [stepCallback] at taken
      split at taken <;> cases taken
      cases member
  | _ => cases taken

/-- A mutation reaches the native execute step in one stage only, after all its
checks passed. -/
theorem executed_of_step {conn next : WPConnection} {action : Action}
    {observed : List Observation} (taken : step conn action = some (next, observed))
    {call : MutationDispatchCall} {om : ObjectManager}
    (member : .executed call om ∈ observed) :
    ∃ result stopped generation sequence, action = .settleMutation result ∧
      conn.wpThread = .sampled call stopped generation sequence ∧ conn.om = some om ∧
      refusal conn.om call stopped generation sequence = none ∧
      observed = [.executed call om] := by
  rcases step_cases conn next action observed taken with
    ⟨_, application⟩ | ⟨_, callback⟩ | stage
  · rcases stepApplication_kind application member with kind | kind <;> cases kind
  · exact absurd rfl (stepCallback_kind callback member).1
  · cases action with
    | settleMutation result =>
        simp only [stepStage] at stage
        split at stage
        · rename_i current stopped generation sequence atStage
          simp only [Option.some.injEq] at stage
          unfold settleMutation at stage
          split at stage
          · rename_i manager passed present
            cases stage
            cases List.mem_singleton.mp member
            exact ⟨result, stopped, generation, sequence, rfl, atStage, present, passed, rfl⟩
          · cases stage
            cases member
          · cases stage
            cases member
        · cases stage
    | sampleMutation | rescheduleMutation =>
        simp only [stepStage] at stage
        split at stage
        · cases stage
          cases member
        · cases stage
    | completeMutation =>
        simp only [stepStage] at stage
        split at stage
        · have reported : _ = observed := congrArg Prod.snd (Option.some.inj stage)
          subst reported
          cases completeCall_kind _ _ _ _ _ member
        · cases stage
    | captureReset =>
        simp only [stepStage] at stage
        split at stage
        · cases stage
          obtain ⟨event, _, same⟩ := List.mem_map.mp member
          cases same
        · cases stage
    | _ => cases stage

/-- A capture is reported by its handler alone, about the manager in use. -/
theorem capture_of_step {conn next : WPConnection} {action : Action}
    {observed : List Observation} (taken : step conn action = some (next, observed))
    {observation : Observation} (member : observation ∈ observed)
    (kind : Observation.kind observation = .capture) :
    (∃ index copied, action = .capture index copied) ∧
      (observation = .captureRan conn.om ∨
        ∃ reader, observation = .captured reader conn.generation (conn.sequence + 1)
          (conn.om.map ObjectManager.ordinal)) := by
  rcases step_cases conn next action observed taken with
    ⟨_, application⟩ | ⟨_, callback⟩ | stage
  · rcases stepApplication_kind application member with other | other <;>
      rw [kind] at other <;> cases other
  · obtain ⟨index, copied, rfl⟩ := (stepCallback_kind callback member).2 kind
    refine ⟨⟨index, copied, rfl⟩, ?_⟩
    simp only [stepCallback] at callback
    split at callback
    · cases callback
    · rename_i reader _
      cases copied with
      | false =>
          cases callback
          exact .inl (List.mem_singleton.mp member)
      | true =>
          cases callback
          rcases List.mem_cons.mp member with ran | captured
          · exact .inl ran
          · exact .inr ⟨reader, List.mem_singleton.mp captured⟩
  · cases action with
    | sampleMutation | rescheduleMutation =>
        simp only [stepStage] at stage
        split at stage
        · cases stage
          cases member
        · cases stage
    | settleMutation result =>
        simp only [stepStage] at stage
        split at stage
        · simp only [Option.some.injEq] at stage
          unfold settleMutation at stage
          split at stage
          · cases stage
            rw [List.mem_singleton.mp member] at kind
            cases kind
          · cases stage
            cases member
          · cases stage
            cases member
        · cases stage
    | completeMutation =>
        simp only [stepStage] at stage
        split at stage
        · have reported : _ = observed := congrArg Prod.snd (Option.some.inj stage)
          subst reported
          rw [completeCall_kind _ _ _ _ _ member] at kind
          cases kind
        · cases stage
    | captureReset =>
        simp only [stepStage] at stage
        split at stage
        · cases stage
          obtain ⟨event, _, rfl⟩ := List.mem_map.mp member
          cases kind
        · cases stage
    | _ => cases stage

end WyrePlumber.Native.Reports
