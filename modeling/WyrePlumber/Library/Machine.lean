import Mathlib.Data.List.Basic
import Mathlib.Order.Basic

/-!
# Labelled machines and their runs

A machine takes labelled steps and reports what each step did.  A run keeps
every transition it took, so that a property of all steps, of the reported
log, or of the states in between is a statement about one list.
-/

set_option autoImplicit false

namespace LabelledMachine

universe u v w

/-- A deterministic step function on labels; the labels carry every choice. -/
structure Machine (State : Type u) (Action : Type v) (Observation : Type w) where
  initial : State → Prop
  step : State → Action → Option (State × List Observation)

structure Transition (State : Type u) (Action : Type v) (Observation : Type w) where
  before : State
  action : Action
  after : State
  observed : List Observation

variable {State : Type u} {Action : Type v} {Observation : Type w}

/-- `Run machine history state`: the transitions of `history`, in order, lead
from an initial state to `state`. -/
inductive Run (machine : Machine State Action Observation) :
    List (Transition State Action Observation) → State → Prop where
  | start {state : State} (initial : machine.initial state) : Run machine [] state
  | step {history : List (Transition State Action Observation)}
      {state next : State} {action : Action} {observed : List Observation}
      (run : Run machine history state)
      (taken : machine.step state action = some (next, observed)) :
      Run machine (history ++ [⟨state, action, next, observed⟩]) next

/-- Everything the run reported, oldest first. -/
def log (history : List (Transition State Action Observation)) : List Observation :=
  history.flatMap Transition.observed

@[simp] theorem log_nil : log ([] : List (Transition State Action Observation)) = [] := rfl

@[simp] theorem log_append
    (history later : List (Transition State Action Observation)) :
    log (history ++ later) = log history ++ log later := by
  simp [log]

@[simp] theorem log_singleton (transition : Transition State Action Observation) :
    log [transition] = transition.observed := by
  simp [log]

/-- A report in the log was made by one transition, between two of its reports. -/
theorem log_split {history : List (Transition State Action Observation)}
    {before after : List Observation} {observation : Observation}
    (split : log history = before ++ observation :: after) :
    ∃ earlier transition later front back, history = earlier ++ transition :: later ∧
      transition.observed = front ++ observation :: back ∧
      before = log earlier ++ front ∧ after = back ++ log later := by
  induction history generalizing before with
  | nil => simp at split
  | cons first rest inductionHypothesis =>
      have inRest {unread : List Observation}
          (restSplit : log rest = unread ++ observation :: after) :
          ∃ earlier transition later front back,
            first :: rest = earlier ++ transition :: later ∧
            transition.observed = front ++ observation :: back ∧
            first.observed ++ unread = log earlier ++ front ∧
            after = back ++ log later := by
        obtain ⟨earlier, transition, later, front, back, inHistory, observed, same, tail⟩ :=
          inductionHypothesis restSplit
        exact ⟨first :: earlier, transition, later, front, back, by simp [inHistory],
          observed, by simp [log, same], tail⟩
      have consSplit : first.observed ++ log rest = before ++ observation :: after := by
        simpa [log] using split
      rcases List.append_eq_append_iff.mp consSplit with
        ⟨unread, rfl, restSplit⟩ | ⟨own, observed, tail⟩
      · exact inRest restSplit
      · cases own with
        | nil =>
            have whole : before = first.observed ++ [] := by
              simpa using observed.symm
            rw [whole]
            exact inRest (by simpa using tail.symm)
        | cons head back =>
            obtain ⟨rfl, rfl⟩ := List.cons.inj tail
            exact ⟨[], first, rest, before, back, rfl, observed, rfl, rfl⟩

section Invariants

variable {machine : Machine State Action Observation}

/-- The run rule for a property of the state and of what was reported so far. -/
theorem Run.invariant (property : State → List Observation → Prop)
    (initially : ∀ state, machine.initial state → property state [])
    (preserved : ∀ state reported action next observed,
      property state reported → machine.step state action = some (next, observed) →
        property next (reported ++ observed))
    {history : List (Transition State Action Observation)} {state : State}
    (run : Run machine history state) : property state (log history) := by
  induction run with
  | start initial => exact initially _ initial
  | @step history state next action observed run taken inductionHypothesis =>
      rw [log_append, log_singleton]
      exact preserved state (log history) action next observed inductionHypothesis taken

/-- The run rule when every step taken satisfies a side condition. -/
theorem Run.invariant_of_allowed (property : State → List Observation → Prop)
    (allowed : State → Action → Prop)
    (initially : ∀ state, machine.initial state → property state [])
    (preserved : ∀ state reported action next observed,
      property state reported → allowed state action →
        machine.step state action = some (next, observed) →
          property next (reported ++ observed))
    {history : List (Transition State Action Observation)} {state : State}
    (run : Run machine history state)
    (met : ∀ transition ∈ history, allowed transition.before transition.action) :
    property state (log history) := by
  induction run with
  | start initial => exact initially _ initial
  | @step history state next action observed run taken inductionHypothesis =>
      have earlier : ∀ transition ∈ history,
          allowed transition.before transition.action := by
        intro transition member
        exact met transition (List.mem_append_left _ member)
      have last : allowed state action :=
        met ⟨state, action, next, observed⟩ (by simp)
      rw [log_append, log_singleton]
      exact preserved state (log history) action next observed
        (inductionHypothesis earlier) last taken

/-- Every split of a run cuts it into a shorter run and a step taken from there. -/
theorem Run.of_split {history : List (Transition State Action Observation)}
    {state : State} (run : Run machine history state)
    {earlier later : List (Transition State Action Observation)}
    {transition : Transition State Action Observation}
    (split : history = earlier ++ transition :: later) :
    Run machine earlier transition.before ∧
      machine.step transition.before transition.action =
        some (transition.after, transition.observed) := by
  induction run generalizing later with
  | start initial => simp at split
  | @step history state next action observed run taken inductionHypothesis =>
      rcases List.eq_nil_or_concat later with rfl | ⟨front, last, rfl⟩
      · obtain ⟨rfl, isLast⟩ := List.append_inj' split rfl
        simp only [List.cons.injEq, and_true] at isLast
        subst isLast
        exact ⟨run, taken⟩
      · have shorter : history = earlier ++ transition :: front := by
          have aligned : history ++ [⟨state, action, next, observed⟩] =
              (earlier ++ transition :: front) ++ [last] := by
            simpa using split
          exact (List.append_inj' aligned rfl).1
        exact inductionHypothesis shorter

/-- The run rule from a transition on: what holds after it and is preserved by
every step holds of the state and of what was reported since. -/
theorem Run.since (property : State → List Observation → Prop)
    (preserved : ∀ state reported action next observed,
      property state reported → machine.step state action = some (next, observed) →
        property next (reported ++ observed))
    {history : List (Transition State Action Observation)} {state : State}
    (run : Run machine history state)
    {earlier later : List (Transition State Action Observation)}
    {transition : Transition State Action Observation}
    (split : history = earlier ++ transition :: later)
    (afterwards : property transition.after []) : property state (log later) := by
  induction run generalizing later with
  | start initial => simp at split
  | @step history state next action observed run taken inductionHypothesis =>
      rcases List.eq_nil_or_concat later with rfl | ⟨front, last, rfl⟩
      · obtain ⟨rfl, isLast⟩ := List.append_inj' split rfl
        simp only [List.cons.injEq, and_true] at isLast
        subst isLast
        exact afterwards
      · have aligned : history ++ [⟨state, action, next, observed⟩] =
            (earlier ++ transition :: front) ++ [last] := by
          simpa using split
        obtain ⟨shorter, isLast⟩ := List.append_inj' aligned rfl
        simp only [List.cons.injEq, and_true] at isLast
        rw [List.concat_eq_append, ← isLast, log_append, log_singleton]
        exact preserved state (log front) action next observed (inductionHypothesis shorter) taken

/-- A view that no step lowers is at least what it was after any transition. -/
theorem Run.view_le_of_split {Value : Type*} [Preorder Value] (view : State → Value)
    (monotone : ∀ state action next observed,
      machine.step state action = some (next, observed) → view state ≤ view next)
    {history : List (Transition State Action Observation)} {state : State}
    (run : Run machine history state)
    {earlier later : List (Transition State Action Observation)}
    {transition : Transition State Action Observation}
    (split : history = earlier ++ transition :: later) :
    view transition.after ≤ view state := by
  refine run.since (fun state _ => view transition.after ≤ view state) ?_ split (le_refl _)
  intro state _ action next observed reached taken
  exact reached.trans (monotone state action next observed taken)

/-- A view of the state has its present value since the last transition that
changed it, or from the start. -/
theorem Run.last_change {Value : Type*} (view : State → Value)
    {history : List (Transition State Action Observation)} {state : State}
    (run : Run machine history state) :
    (∃ initial, machine.initial initial ∧ view initial = view state) ∨
      ∃ earlier transition later, history = earlier ++ transition :: later ∧
        view transition.before ≠ view transition.after ∧
        view transition.after = view state ∧
        ∀ kept ∈ later, view kept.before = view state ∧ view kept.after = view state := by
  classical
  induction run with
  | @start state initial => exact .inl ⟨state, initial, rfl⟩
  | @step history state next action observed run taken inductionHypothesis =>
      by_cases same : view state = view next
      · rcases inductionHypothesis with ⟨initial, isInitial, equal⟩ |
          ⟨earlier, transition, later, split, changed, value, kept⟩
        · exact .inl ⟨initial, isInitial, equal.trans same⟩
        · refine .inr ⟨earlier, transition, later ++ [⟨state, action, next, observed⟩],
            by simp [split], changed, value.trans same, ?_⟩
          intro transition member
          rcases List.mem_append.mp member with before | last
          · rw [← same]
            exact kept transition before
          · rw [List.mem_singleton.mp last]
            exact ⟨same, rfl⟩
      · exact .inr ⟨history, ⟨state, action, next, observed⟩, [], rfl, same, rfl, by simp⟩

/-- A monotone view that has one value before and after a stretch of a run keeps
it throughout. -/
theorem Run.constant_between {Value : Type*} [PartialOrder Value] (view : State → Value)
    (monotone : ∀ state action next observed,
      machine.step state action = some (next, observed) → view state ≤ view next)
    {history : List (Transition State Action Observation)} {state : State}
    (run : Run machine history state)
    {earlier later : List (Transition State Action Observation)}
    {transition : Transition State Action Observation}
    (split : history = earlier ++ transition :: later)
    (returned : view state = view transition.after) :
    ∀ kept ∈ later, view kept.before = view state ∧ view kept.after = view state := by
  induction run generalizing later with
  | start initial => simp at split
  | @step history state next action observed run taken inductionHypothesis =>
      rcases List.eq_nil_or_concat later with rfl | ⟨front, last, rfl⟩
      · simp
      · have aligned : history ++ [⟨state, action, next, observed⟩] =
            (earlier ++ transition :: front) ++ [last] := by
          simpa using split
        obtain ⟨shorter, isLast⟩ := List.append_inj' aligned rfl
        simp only [List.cons.injEq, and_true] at isLast
        have reached : view transition.after ≤ view state :=
          run.view_le_of_split view monotone shorter
        have forward : view state ≤ view next := monotone state action next observed taken
        have same : view state = view next :=
          le_antisymm forward (returned ▸ reached)
        have earlierKept := inductionHypothesis shorter (same.trans returned)
        intro kept member
        rw [List.concat_eq_append] at member
        rcases List.mem_append.mp member with before | now
        · rw [← same]
          exact earlierKept kept before
        · rw [List.mem_singleton.mp now, ← isLast]
          exact ⟨same, rfl⟩

/-- `property` holds after every transition of the history, of the state it
reached and of everything reported up to there. -/
def Always (property : State → List Observation → Prop)
    (history : List (Transition State Action Observation)) : Prop :=
  ∀ earlier transition later, history = earlier ++ transition :: later →
    property transition.after (log (earlier ++ [transition]))

theorem always_append_iff {property : State → List Observation → Prop}
    {history : List (Transition State Action Observation)}
    {last : Transition State Action Observation} :
    Always property (history ++ [last]) ↔
      Always property history ∧ property last.after (log (history ++ [last])) := by
  constructor
  · intro always
    refine ⟨?_, always history last [] rfl⟩
    intro earlier transition later split
    exact always earlier transition (later ++ [last]) (by simp [split])
  · rintro ⟨always, atLast⟩ earlier transition later split
    rcases List.eq_nil_or_concat later with rfl | ⟨front, final, rfl⟩
    · obtain ⟨rfl, isLast⟩ := List.append_inj' split rfl
      simp only [List.cons.injEq, and_true] at isLast
      subst isLast
      exact atLast
    · have aligned : history ++ [last] = (earlier ++ transition :: front) ++ [final] := by
        simpa using split
      exact always earlier transition front (List.append_inj' aligned rfl).1

theorem Always.final {property : State → List Observation → Prop}
    {history : List (Transition State Action Observation)} {state : State}
    (always : Always property history) (run : Run machine history state)
    (initially : ∀ state, machine.initial state → property state []) :
    property state (log history) := by
  cases run with
  | start initial => exact initially _ initial
  | step earlier taken => exact (always_append_iff.mp always).2

/-- The exact-condition rule.  If, where the invariant and the property hold, a
step keeps the property exactly when it is allowed, then a run keeps the property
throughout exactly when all its steps are allowed. -/
theorem Run.always_iff (invariant : State → List Observation → Prop)
    {property : State → List Observation → Prop} (allowed : State → Action → Prop)
    (established : ∀ {history state}, Run machine history state →
      invariant state (log history))
    (initially : ∀ state, machine.initial state → property state [])
    (exact : ∀ state reported action next observed,
      invariant state reported → property state reported →
        machine.step state action = some (next, observed) →
          (property next (reported ++ observed) ↔ allowed state action))
    {history : List (Transition State Action Observation)} {state : State}
    (run : Run machine history state) :
    Always property history ↔
      ∀ transition ∈ history, allowed transition.before transition.action := by
  induction run with
  | start initial =>
      refine ⟨fun _ => by simp, fun _ => ?_⟩
      intro earlier transition later split
      simp at split
  | @step history state next action observed run taken inductionHypothesis =>
      rw [always_append_iff, log_append, log_singleton]
      have step (always : Always property history) :=
        exact state (log history) action next observed (established run)
          (always.final run initially) taken
      constructor
      · rintro ⟨always, after⟩ transition member
        rcases List.mem_append.mp member with inEarlier | isLast
        · exact inductionHypothesis.mp always transition inEarlier
        · rw [List.mem_singleton.mp isLast]
          exact (step always).mp after
      · intro met
        have always : Always property history := by
          refine inductionHypothesis.mpr ?_
          intro transition member
          exact met transition (List.mem_append_left _ member)
        refine ⟨always, (step always).mpr ?_⟩
        exact met ⟨state, action, next, observed⟩ (by simp)

/-- The exact-condition rule for what a run reports: when a step reports nothing
unwanted exactly when it is allowed, so does a run. -/
theorem Run.log_iff {wanted : Observation → Prop} (allowed : State → Action → Prop)
    (exact : ∀ state action next observed,
      machine.step state action = some (next, observed) →
        ((∀ observation ∈ observed, wanted observation) ↔ allowed state action))
    {history : List (Transition State Action Observation)} {state : State}
    (run : Run machine history state) :
    (∀ observation ∈ log history, wanted observation) ↔
      ∀ transition ∈ history, allowed transition.before transition.action := by
  induction run with
  | start initial => simp
  | @step history state next action observed run taken inductionHypothesis =>
      rw [log_append, log_singleton, List.forall_mem_append, List.forall_mem_append,
        List.forall_mem_singleton, inductionHypothesis]
      exact and_congr_right fun _ => exact state action next observed taken

end Invariants

section Simulation

/-- A finite execution from any state, with what it reported. -/
inductive Steps (machine : Machine State Action Observation) :
    State → List Observation → State → Prop where
  | refl (state : State) : Steps machine state [] state
  | head {state middle final : State} (action : Action)
      {observed later : List Observation}
      (taken : machine.step state action = some (middle, observed))
      (rest : Steps machine middle later final) :
      Steps machine state (observed ++ later) final

variable {machine : Machine State Action Observation}

theorem Steps.single {state next : State} (action : Action) {observed : List Observation}
    (taken : machine.step state action = some (next, observed)) :
    Steps machine state observed next := by
  simpa using Steps.head action taken (.refl next)

theorem Steps.trans {state middle final : State} {observed later : List Observation}
    (first : Steps machine state observed middle)
    (second : Steps machine middle later final) :
    Steps machine state (observed ++ later) final := by
  induction first with
  | refl state => simpa using second
  | head action taken rest inductionHypothesis =>
      rw [List.append_assoc]
      exact .head action taken (inductionHypothesis second)

/-- A machine that takes more steps has the executions of one that takes fewer. -/
theorem Steps.mono {wider : Machine State Action Observation}
    (includes : ∀ state action outcome,
      machine.step state action = some outcome → wider.step state action = some outcome)
    {state final : State} {observed : List Observation}
    (steps : Steps machine state observed final) : Steps wider state observed final := by
  induction steps with
  | refl state => exact .refl state
  | head action taken rest inductionHypothesis =>
      exact .head action (includes _ _ _ taken) inductionHypothesis

theorem Run.extend {history : List (Transition State Action Observation)}
    {state final : State} {observed : List Observation}
    (run : Run machine history state) (steps : Steps machine state observed final) :
    ∃ longer, Run machine (history ++ longer) final ∧
      log (history ++ longer) = log history ++ observed := by
  induction steps generalizing history with
  | refl state => exact ⟨[], by simpa using run, by simp⟩
  | @head state middle final action first later taken rest inductionHypothesis =>
      obtain ⟨longer, extended, reported⟩ := inductionHypothesis (.step run taken)
      refine ⟨⟨state, action, middle, first⟩ :: longer, ?_, ?_⟩
      · simpa using extended
      · simpa using reported

/-- Forward simulation.  When each concrete step is a finite abstract execution
that reports the abstract view of what the concrete step reported, the view of a
concrete run is reported by an abstract run. -/
theorem Run.simulate {AbstractState AbstractAction AbstractObservation : Type*}
    (abstraction : State → AbstractState)
    {view : Observation → Option AbstractObservation}
    {abstract : Machine AbstractState AbstractAction AbstractObservation}
    (initially : ∀ state, machine.initial state → abstract.initial (abstraction state))
    (simulated : ∀ history state action next observed, Run machine history state →
      machine.step state action = some (next, observed) →
        Steps abstract (abstraction state) (observed.filterMap view) (abstraction next))
    {history : List (Transition State Action Observation)} {state : State}
    (run : Run machine history state) :
    ∃ abstractHistory, Run abstract abstractHistory (abstraction state) ∧
      log abstractHistory = (log history).filterMap view := by
  induction run with
  | start initial => exact ⟨[], .start (initially _ initial), rfl⟩
  | @step history state next action observed run taken inductionHypothesis =>
      obtain ⟨earlier, abstractRun, reported⟩ := inductionHypothesis
      obtain ⟨longer, extended, later⟩ :=
        abstractRun.extend (simulated history state action next observed run taken)
      exact ⟨earlier ++ longer, extended, by simp [later, reported]⟩

end Simulation

section Execution

/-- The transitions taken by a list of labels, when every label is enabled. -/
def exec (machine : Machine State Action Observation) :
    List (Transition State Action Observation) → State → List Action →
      Option (List (Transition State Action Observation) × State)
  | history, state, [] => some (history, state)
  | history, state, action :: rest =>
      match machine.step state action with
      | none => none
      | some (next, observed) =>
          exec machine (history ++ [⟨state, action, next, observed⟩]) next rest

theorem exec_run {machine : Machine State Action Observation}
    {history result : List (Transition State Action Observation)}
    {state final : State} (actions : List Action)
    (run : Run machine history state)
    (executed : exec machine history state actions = some (result, final)) :
    Run machine result final := by
  induction actions generalizing history state with
  | nil =>
      simp only [exec, Option.some.injEq, Prod.mk.injEq] at executed
      obtain ⟨rfl, rfl⟩ := executed
      exact run
  | cons action rest inductionHypothesis =>
      simp only [exec] at executed
      cases taken : machine.step state action with
      | none => simp [taken] at executed
      | some outcome =>
          obtain ⟨next, observed⟩ := outcome
          rw [taken] at executed
          exact inductionHypothesis (.step run taken) executed

end Execution

end LabelledMachine
