import WyrePlumber.Native.Connection

/-!
# Generations and the manager in use

`installs` is the history of `on_om_installed`: which manager set
`conn->generation` to which value.  One inversion lemma says what a step can do
to the manager, the generation and that history; the invariant relating the
three follows from it, and both isolation results follow from the invariant.
-/

set_option autoImplicit false

namespace WyrePlumber.Native.Generation

open LabelledMachine
open WyrePlumber.Native.Connection

def Observation.install : Observation → Option (Nat × Nat)
  | .installed ordinal generation => some (ordinal, generation)
  | _ => none

/-- The managers that were installed, each with the generation it established. -/
def installs (reported : List Observation) : List (Nat × Nat) :=
  reported.filterMap Observation.install

@[simp] theorem installs_nil : installs [] = [] := rfl

@[simp] theorem installs_append (reported observed : List Observation) :
    installs (reported ++ observed) = installs reported ++ installs observed := by
  simp [installs]

@[simp] theorem installs_cons (observation : Observation) (observed : List Observation) :
    installs (observation :: observed) =
      (Observation.install observation).toList ++ installs observed := by
  cases installed : Observation.install observation <;> simp [installs, installed]

@[simp] theorem dropped_installs (events : List EventPayload) :
    installs (events.map .dropped) = [] := by
  simp [installs, List.filterMap_map, Observation.install, Function.comp_def]

@[simp] theorem enqueue_installs (conn : WPConnection) (payload : EventPayload) :
    installs (enqueue conn payload).2 = [] := by
  unfold enqueue
  split
  · split <;> rfl
  · split
    · exact dropped_installs _
    · rfl

@[simp] theorem publish_installs (conn : WPConnection) (kind : EventKind)
    (subject : Option Nat) (requiresResnapshot built : Bool) :
    installs (publish conn kind subject requiresResnapshot built).2 = [] := by
  cases built with
  | false => rfl
  | true => simp [publish, Observation.install]

@[simp] theorem completeCall_installs (conn : WPConnection) (call : MutationDispatchCall)
    (result : MutationDispatchResult) (generation sequence : Nat) :
    installs (completeCall conn call result generation sequence).2 = [] := by
  unfold completeCall
  split <;> rfl

@[simp] theorem completeCalls_installs (result : MutationDispatchResult) (generation : Nat)
    (calls : List MutationDispatchCall) (conn : WPConnection) :
    installs (completeCalls result generation calls conn).2 = [] := by
  induction calls generalizing conn with
  | nil => rfl
  | cons call rest inductionHypothesis =>
      simp [completeCalls, inductionHypothesis]

@[simp] theorem cancelPending_installs (conn : WPConnection)
    (result : MutationDispatchResult) : installs (cancelPending conn result).2 = [] := by
  simp [cancelPending, Observation.install]

@[simp] theorem onCoreDisconnected_installs (conn : WPConnection) :
    installs (onCoreDisconnected conn).2 = [] := by
  unfold onCoreDisconnected publishConnection
  split <;> simp

/-! ## What a step does to the manager -/

/-- The four effects a step can have on the manager and its generation. -/
inductive ManagerEffect (conn next : WPConnection) (observed : List Observation) : Prop where
  | kept (om : next.om = conn.om) (generation : next.generation = conn.generation)
      (managers : next.managers = conn.managers) (installs : installs observed = [])
  | dropped (om : next.om = none) (generation : next.generation = conn.generation)
      (managers : next.managers = conn.managers) (installs : installs observed = [])
  | created (om : next.om = some { ordinal := conn.managers, generation := none })
      (generation : next.generation = conn.generation)
      (managers : next.managers = conn.managers + 1) (installs : installs observed = [])
  | installed (manager : ObjectManager) (present : conn.om = some manager)
      (pending : manager.generation = none)
      (om : next.om = some { manager with generation := some (conn.generation + 1) })
      (generation : next.generation = conn.generation + 1)
      (managers : next.managers = conn.managers)
      (installs : installs observed = [(manager.ordinal, conn.generation + 1)])

/-- An outcome is used under the names the machine gives it. -/
theorem ManagerEffect.of_some {conn next : WPConnection} {observed : List Observation}
    {outcome : WPConnection × List Observation}
    (effect : ManagerEffect conn outcome.1 outcome.2)
    (taken : some outcome = some (next, observed)) : ManagerEffect conn next observed := by
  cases taken
  exact effect

theorem installObjectManager_effect (conn base : WPConnection)
    (om : base.om = conn.om) (generation : base.generation = conn.generation)
    (managers : base.managers = conn.managers) :
    ManagerEffect conn (installObjectManager base) [] := by
  unfold installObjectManager
  split
  · exact .created (by simp [managers]) generation (by simp [managers]) rfl
  · exact .kept om generation managers rfl

theorem publish_effect (conn : WPConnection) (kind : EventKind) (subject : Option Nat)
    (requiresResnapshot built : Bool) :
    ManagerEffect conn (publish conn kind subject requiresResnapshot built).1
      (publish conn kind subject requiresResnapshot built).2 := by
  obtain ⟨events, invalid, frame⟩ :=
    publish_frame conn kind subject requiresResnapshot built
  rw [frame]
  exact .kept rfl rfl rfl (publish_installs ..)

theorem onCoreDisconnected_effect (conn base : WPConnection)
    (generation : base.generation = conn.generation)
    (managers : base.managers = conn.managers) :
    ManagerEffect conn (onCoreDisconnected base).1 (onCoreDisconnected base).2 := by
  obtain ⟨_, _, _, _, _, frame⟩ := onCoreDisconnected_frame base
  rw [frame]
  exact .dropped rfl generation managers (onCoreDisconnected_installs base)

theorem stepApplication_installs (conn next : WPConnection) (action : Action)
    (observed : List Observation)
    (taken : stepApplication conn action = some (next, observed)) :
    installs observed = [] := by
  cases action with
  | dispatchRuntimeMutation expectedGeneration expectedSequence =>
      simp only [stepApplication, Option.some.injEq] at taken
      unfold dispatchRuntimeMutation at taken
      split at taken
      · cases taken
        rfl
      · split at taken <;> cases taken <;> rfl
  | reconnectCancel =>
      cases taken
      exact cancelPending_installs ..
  | stopCancel =>
      simp only [stepApplication] at taken
      split at taken
      · cases taken
      · cases taken
        exact cancelPending_installs ..
  | drainEvents reader maxEvents =>
      cases taken
      simp only [installs, List.filterMap_map, List.filterMap_eq_nil_iff]
      intro event _
      rfl
  | stopRequest =>
      cases taken
      rfl
  | stopPost =>
      simp only [stepApplication] at taken
      split at taken
      · cases taken
      · split at taken <;> cases taken <;> rfl
  | nextEvent | reconnectPost | captureAdmit | capturePost =>
      simp only [stepApplication] at taken
      split at taken <;> cases taken <;> rfl
  | _ => cases taken

theorem stepApplication_effect (conn next : WPConnection) (action : Action)
    (observed : List Observation)
    (taken : stepApplication conn action = some (next, observed)) :
    ManagerEffect conn next observed := by
  have same := stepApplication_sameWpState conn next action observed taken
  exact .kept same.om same.generation same.managers
    (stepApplication_installs conn next action observed taken)

theorem stepStage_effect (conn next : WPConnection) (action : Action)
    (observed : List Observation)
    (taken : stepStage conn action = some (next, observed)) :
    ManagerEffect conn next observed := by
  cases action with
  | sampleMutation =>
      simp only [stepStage] at taken
      split at taken <;> cases taken
      exact .kept rfl rfl rfl rfl
  | settleMutation executed =>
      simp only [stepStage] at taken
      split at taken
      · simp only [Option.some.injEq] at taken
        unfold settleMutation at taken
        split at taken <;> cases taken <;> exact .kept rfl rfl rfl rfl
      · cases taken
  | completeMutation =>
      simp only [stepStage] at taken
      split at taken
      · rename_i call result generation sequence _
        obtain ⟨ids, frame⟩ := completeCall_frame { conn with wpThread := .completed }
          call result generation sequence
        refine ManagerEffect.of_some ?_ taken
        rw [frame]
        exact .kept rfl rfl rfl (completeCall_installs ..)
      · cases taken
  | rescheduleMutation =>
      obtain ⟨scheduled, sources, frame⟩ := scheduleDispatchLocked_frame
        { conn with mutationSourceScheduled := false, wpThread := .idle }
      simp only [stepStage, frame] at taken
      split at taken <;> cases taken
      exact .kept rfl rfl rfl rfl
  | captureReset =>
      simp only [stepStage, runtimeEventsReset] at taken
      split at taken <;> cases taken
      exact .kept rfl rfl rfl (dropped_installs _)
  | _ => cases taken

theorem stopOnWpThread_effect (conn base : WPConnection) (om : base.om = conn.om)
    (generation : base.generation = conn.generation)
    (managers : base.managers = conn.managers) :
    ManagerEffect conn (stopOnWpThread base).1 (stopOnWpThread base).2 := by
  simp only [stopOnWpThread, publishConnection]
  split
  · obtain ⟨_, _, _, _, _, frame⟩ := onCoreDisconnected_frame base
    obtain ⟨events, invalid, published⟩ := publish_frame
      (onCoreDisconnected base).1 .connectionChanged none false true
    rw [published, frame]
    exact .dropped rfl generation managers (by simp)
  · obtain ⟨events, invalid, published⟩ := publish_frame base .connectionChanged none
      false true
    rw [published]
    exact .kept om generation managers (by simp)

theorem stepCallback_effect (conn next : WPConnection) (action : Action)
    (observed : List Observation)
    (taken : stepCallback conn action = some (next, observed)) :
    ManagerEffect conn next observed := by
  cases action with
  | mixerApiLoaded =>
      cases taken
      exact installObjectManager_effect conn _ rfl rfl rfl
  | coreConnected =>
      cases taken
      exact installObjectManager_effect conn _ rfl rfl rfl
  | coreDisconnected => exact (onCoreDisconnected_effect conn conn rfl rfl).of_some taken
  | omInstalled =>
      simp only [stepCallback] at taken
      split at taken
      · rename_i manager present
        split at taken
        · rename_i pending
          obtain ⟨events, invalid, frame⟩ := publish_frame
            { conn with
              om := some { manager with generation := some (conn.generation + 1) },
              generation := conn.generation + 1, sequence := 0,
              mutationDispatchOrder := 0, started := true }
            .connectionChanged none false true
          simp only [onOmInstalled, publishConnection, frame, Option.some.injEq,
            Prod.mk.injEq] at taken
          obtain ⟨rfl, rfl⟩ := taken
          exact .installed manager present (Option.isNone_iff_eq_none.mp pending)
            rfl rfl rfl (by simp [Observation.install])
        · cases taken
      · cases taken
  | objectSignal signal built =>
      simp only [stepCallback, Option.map_eq_some_iff] at taken
      obtain ⟨manager, _, published⟩ := taken
      refine ManagerEffect.of_some ?_ (congrArg some published)
      unfold publishObjectEvent
      split
      · exact publish_effect ..
      · exact .kept rfl rfl rfl rfl
  | defaultSignal built =>
      simp only [stepCallback, Option.map_eq_some_iff] at taken
      obtain ⟨manager, _, published⟩ := taken
      refine ManagerEffect.of_some ?_ (congrArg some published)
      unfold publishDefaultEvent
      split
      · exact publish_effect ..
      · exact .kept rfl rfl rfl rfl
  | capture index copied =>
      simp only [stepCallback] at taken
      split at taken
      · cases taken
      · cases copied <;> cases taken <;> exact .kept rfl rfl rfl rfl
  | reconnect =>
      simp only [stepCallback] at taken
      split at taken
      · cases taken
      · refine ManagerEffect.of_some ?_ taken
        unfold reconnectOnWpThread
        split
        · exact onCoreDisconnected_effect conn _ rfl rfl
        · exact .kept rfl rfl rfl rfl
  | stop =>
      simp only [stepCallback] at taken
      split at taken
      · cases taken
      · refine ManagerEffect.of_some ?_ taken
        exact stopOnWpThread_effect conn _ rfl rfl rfl
  | popMutation =>
      simp only [stepCallback] at taken
      split at taken
      · cases taken
      · unfold popMutation at taken
        split at taken <;> cases taken <;> exact .kept rfl rfl rfl rfl
  | loopExit =>
      simp only [stepCallback] at taken
      split at taken <;> cases taken
      exact .dropped rfl rfl rfl rfl
  | _ => cases taken

theorem step_managerEffect (conn next : WPConnection) (action : Action)
    (observed : List Observation) (taken : step conn action = some (next, observed)) :
    ManagerEffect conn next observed := by
  rcases step_cases conn next action observed taken with
    ⟨_, application⟩ | ⟨_, callback⟩ | stage
  · exact stepApplication_effect conn next action observed application
  · exact stepCallback_effect conn next action observed callback
  · exact stepStage_effect conn next action observed stage

/-! ## The start -/

theorem publish_started (conn : WPConnection) (kind : EventKind) (subject : Option Nat)
    (requiresResnapshot built : Bool) :
    (publish conn kind subject requiresResnapshot built).1.started = conn.started := by
  obtain ⟨events, invalid, frame⟩ := publish_frame conn kind subject requiresResnapshot built
  rw [frame]

theorem onCoreDisconnected_started (conn : WPConnection) :
    (onCoreDisconnected conn).1.started = conn.started := by
  obtain ⟨_, _, _, _, _, frame⟩ := onCoreDisconnected_frame conn
  rw [frame]

theorem installObjectManager_started (conn : WPConnection) :
    (installObjectManager conn).started = conn.started := by
  obtain ⟨_, _, frame⟩ := installObjectManager_frame conn
  rw [frame]

/-- Only `on_om_installed` starts the connection, and it opens a generation. -/
theorem stepCallback_started {conn next : WPConnection} {action : Action}
    {observed : List Observation} (taken : stepCallback conn action = some (next, observed)) :
    next.started = conn.started ∨ next.generation = conn.generation + 1 := by
  cases action with
  | mixerApiLoaded | coreConnected =>
      cases taken
      exact .inl (installObjectManager_started _)
  | coreDisconnected =>
      have reached : _ = next := congrArg Prod.fst (Option.some.inj taken)
      rw [← reached]
      exact .inl (onCoreDisconnected_started conn)
  | omInstalled =>
      simp only [stepCallback] at taken
      split at taken
      · split at taken
        · rename_i manager _ _
          have reached : _ = next := congrArg Prod.fst (Option.some.inj taken)
          obtain ⟨events, invalid, frame⟩ := publish_frame
            { conn with
              om := some { manager with generation := some (conn.generation + 1) },
              generation := conn.generation + 1, sequence := 0,
              mutationDispatchOrder := 0, started := true }
            .connectionChanged none false true
          simp only [onOmInstalled, publishConnection, frame] at reached
          rw [← reached]
          exact .inr rfl
        · cases taken
      · cases taken
  | objectSignal signal built =>
      obtain ⟨manager, _, published⟩ := Option.map_eq_some_iff.mp taken
      have reached : _ = next := congrArg Prod.fst published
      rw [← reached, publishObjectEvent]
      split
      · exact .inl (publish_started ..)
      · exact .inl rfl
  | defaultSignal built =>
      obtain ⟨manager, _, published⟩ := Option.map_eq_some_iff.mp taken
      have reached : _ = next := congrArg Prod.fst published
      rw [← reached, publishDefaultEvent]
      split
      · exact .inl (publish_started ..)
      · exact .inl rfl
  | capture index copied =>
      simp only [stepCallback] at taken
      split at taken
      · cases taken
      · cases copied <;> cases taken <;> exact .inl rfl
  | reconnect =>
      simp only [stepCallback] at taken
      split at taken
      · cases taken
      · have reached : _ = next := congrArg Prod.fst (Option.some.inj taken)
        rw [← reached, reconnectOnWpThread]
        split
        · exact .inl (onCoreDisconnected_started _)
        · exact .inl rfl
  | stop =>
      simp only [stepCallback] at taken
      split at taken
      · cases taken
      · have reached : _ = next := congrArg Prod.fst (Option.some.inj taken)
        rw [← reached]
        refine .inl ?_
        simp only [stopOnWpThread, publishConnection, runtimeEventsClose, publish_started]
        split
        · exact onCoreDisconnected_started _
        · rfl
  | popMutation =>
      simp only [stepCallback, popMutation] at taken
      split at taken
      · cases taken
      · split at taken <;> cases taken <;> exact .inl rfl
  | loopExit =>
      simp only [stepCallback] at taken
      split at taken <;> cases taken
      exact .inl rfl
  | _ => cases taken

theorem stepStage_started {conn next : WPConnection} {action : Action}
    {observed : List Observation} (taken : stepStage conn action = some (next, observed)) :
    next.started = conn.started := by
  cases action with
  | sampleMutation =>
      simp only [stepStage] at taken
      split at taken <;> cases taken
      rfl
  | settleMutation executed =>
      simp only [stepStage] at taken
      split at taken
      · simp only [Option.some.injEq] at taken
        unfold settleMutation at taken
        split at taken <;> cases taken <;> rfl
      · cases taken
  | completeMutation =>
      simp only [stepStage] at taken
      split at taken
      · rename_i call result generation sequence _
        obtain ⟨ids, frame⟩ := completeCall_frame { conn with wpThread := .completed }
          call result generation sequence
        have reached : _ = next := congrArg Prod.fst (Option.some.inj taken)
        rw [← reached, frame]
      · cases taken
  | rescheduleMutation =>
      obtain ⟨scheduled, sources, frame⟩ := scheduleDispatchLocked_frame
        { conn with mutationSourceScheduled := false, wpThread := .idle }
      simp only [stepStage, frame] at taken
      split at taken <;> cases taken
      rfl
  | captureReset =>
      simp only [stepStage, runtimeEventsReset] at taken
      split at taken <;> cases taken
      rfl
  | _ => cases taken

/-- A connection that callers hold has had a generation. -/
theorem generation_of_started {history : History} {conn : WPConnection}
    (run : Run machine history conn) (started : conn.started = true) : conn.generation ≠ 0 := by
  revert started
  refine run.invariant (fun conn _ => conn.started = true → conn.generation ≠ 0) ?_ ?_
  · rintro conn ⟨capacity, _, rfl⟩ started
    cases started
  · intro conn _ action next observed before taken started
    have forward : conn.generation ≤ next.generation := by
      cases step_managerEffect conn next action observed taken with
      | kept _ generation | dropped _ generation | created _ generation => omega
      | installed _ _ _ _ generation => omega
    rcases step_cases conn next action observed taken with
      ⟨isStarted, _⟩ | ⟨_, callback⟩ | stage
    · have nonzero := before isStarted
      omega
    · rcases stepCallback_started callback with same | opened
      · have nonzero := before (same ▸ started)
        omega
      · omega
    · have nonzero := before (stepStage_started stage ▸ started)
      omega

/-! ## The invariant -/

/-- The manager in use, the generation and the history of installations agree. -/
structure Established (conn : WPConnection) (reported : List Observation) : Prop where
  current : ∀ om generation, conn.om = some om → om.generation = some generation →
    generation = conn.generation ∧ (om.ordinal, generation) ∈ installs reported
  pending : ∀ om, conn.om = some om → om.generation = none →
    ∀ generation, (om.ordinal, generation) ∉ installs reported
  created : ∀ om, conn.om = some om → om.ordinal < conn.managers
  bounded : ∀ ordinal generation, (ordinal, generation) ∈ installs reported →
    ordinal < conn.managers ∧ generation ≤ conn.generation
  unique : ∀ ordinal other generation, (ordinal, generation) ∈ installs reported →
    (other, generation) ∈ installs reported → ordinal = other

theorem established_new (capacity : Nat) : Established (new capacity) [] where
  current := by simp [new]
  pending := by simp
  created := by simp [new]
  bounded := by simp
  unique := by simp

theorem Established.step {conn next : WPConnection} {reported observed : List Observation}
    {action : Action} (established : Established conn reported)
    (taken : Connection.step conn action = some (next, observed)) :
    Established next (reported ++ observed) := by
  cases step_managerEffect conn next action observed taken with
  | kept om generation managers quiet =>
      constructor <;> simp only [installs_append, quiet, List.append_nil, om, generation, managers]
      · exact established.current
      · exact established.pending
      · exact established.created
      · exact established.bounded
      · exact established.unique
  | dropped om generation managers quiet =>
      constructor <;> simp only [installs_append, quiet, List.append_nil, om, generation, managers]
      · simp
      · simp
      · simp
      · exact established.bounded
      · exact established.unique
  | created om generation managers quiet =>
      have unused : ∀ generation, (conn.managers, generation) ∉ installs reported := by
        intro generation member
        exact Nat.lt_irrefl _ (established.bounded _ _ member).1
      constructor <;>
        simp only [installs_append, quiet, List.append_nil, om, generation, managers,
          Option.some.injEq]
      · rintro manager generation rfl absent
        simp at absent
      · rintro manager rfl _
        exact unused
      · rintro manager rfl
        exact Nat.lt_succ_self _
      · intro ordinal generation member
        obtain ⟨below, atMost⟩ := established.bounded ordinal generation member
        exact ⟨Nat.lt_succ_of_lt below, atMost⟩
      · exact established.unique
  | installed manager present absent om generation managers installed =>
      have fresh : ∀ ordinal, (ordinal, conn.generation + 1) ∉ installs reported := by
        intro ordinal member
        have atMost := (established.bounded _ _ member).2
        omega
      constructor <;>
        simp only [installs_append, installed, om, generation, managers, List.mem_append,
          List.mem_singleton, Prod.mk.injEq, Option.some.injEq]
      · rintro current generation rfl established
        have same : conn.generation + 1 = generation := Option.some.inj established
        exact ⟨same.symm, .inr ⟨rfl, same.symm⟩⟩
      · rintro current rfl none
        simp at none
      · rintro current rfl
        exact established.created manager present
      · rintro ordinal generation (member | ⟨rfl, rfl⟩)
        · obtain ⟨below, atMost⟩ := established.bounded ordinal generation member
          exact ⟨below, Nat.le_succ_of_le atMost⟩
        · exact ⟨established.created manager present, Nat.le_refl _⟩
      · rintro ordinal other generation (member | ⟨rfl, rfl⟩) (second | ⟨rfl, same⟩)
        · exact established.unique _ _ _ member second
        · exact absurd (same ▸ member) (fresh _)
        · exact absurd second (fresh _)
        · rfl

/-- In every reachable state the three agree. -/
theorem established_of_run {history : History} {conn : WPConnection}
    (run : Run machine history conn) : Established conn (log history) := by
  refine run.invariant Established ?_ ?_
  · rintro conn ⟨capacity, _, rfl⟩
    exact established_new capacity
  · intro conn reported action next observed established taken
    exact established.step taken

/-- The manager in use has run its `installed` callback. -/
def managerInstalled (conn : WPConnection) : Bool :=
  conn.om.any fun om => om.generation.isSome

theorem managerInstalled_iff {conn : WPConnection} {om : ObjectManager}
    (present : conn.om = some om) :
    managerInstalled conn = true ↔ ∃ generation, om.generation = some generation := by
  simp [managerInstalled, present, Option.isSome_iff_exists]

/-- Being established by the manager in use is the same as having installed. -/
theorem Established.current_iff {conn : WPConnection} {reported : List Observation}
    (established : Established conn reported) {om : ObjectManager}
    (present : conn.om = some om) :
    (om.ordinal, conn.generation) ∈ installs reported ↔ managerInstalled conn = true := by
  rw [managerInstalled_iff present]
  constructor
  · intro member
    cases generation : om.generation with
    | none => exact absurd member (established.pending om present generation _)
    | some value => exact ⟨value, rfl⟩
  · rintro ⟨generation, installed⟩
    obtain ⟨same, member⟩ := established.current om generation present installed
    rw [← same]
    exact member

/-- What a generation was established by does not change when later managers
install: they establish greater generations. -/
theorem installs_stable {conn next : WPConnection}
    {reported observed : List Observation} {action : Action}
    (taken : Connection.step conn action = some (next, observed))
    {generation : Nat} (known : generation ≤ conn.generation) (ordinal : Nat) :
    (ordinal, generation) ∈ installs (reported ++ observed) ↔
      (ordinal, generation) ∈ installs reported := by
  rw [installs_append, List.mem_append, or_iff_left_iff_imp]
  intro later
  cases step_managerEffect conn next action observed taken with
  | kept _ _ _ quiet | dropped _ _ _ quiet | created _ _ _ quiet =>
      rw [quiet] at later
      cases later
  | installed _ _ _ _ _ _ installed =>
      simp only [installed, List.mem_singleton, Prod.mk.injEq] at later
      omega

end WyrePlumber.Native.Generation
