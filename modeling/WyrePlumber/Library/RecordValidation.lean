import Mathlib.Logic.Function.Basic
import Mathlib.Data.List.Basic

/-!
# Validating constructors

The body of a constructor is a list of steps over a record of named values: a
step replaces one field by a value computed from some fields, or refuses the
record after reading some fields.  A list is `Ordered` when no step replaces a
field that an earlier step read or replaced; then the record a run leaves is
accepted by every step as it stands, so that a second run changes nothing.
-/

set_option autoImplicit false

namespace RecordValidation

variable {Name Value Error : Type} [DecidableEq Name]

/-- A step of a constructor, with the fields it reads.  What it computes is a
function of these fields, and computing again from the result changes nothing. -/
inductive Step (Name Value Error : Type) [DecidableEq Name] where
  | assign (target : Name) (reads : List Name)
      (compute : (Name → Value) → Except Error Value)
      (local_reads : ∀ {record other : Name → Value},
        (∀ name ∈ reads, record name = other name) → compute record = compute other)
      (idempotent : ∀ {record : Name → Value} {value : Value}, compute record = .ok value →
        compute (Function.update record target value) = .ok value)
  | require (reads : List Name) (check : (Name → Value) → Except Error Unit)
      (local_reads : ∀ {record other : Name → Value},
        (∀ name ∈ reads, record name = other name) → check record = check other)

namespace Step

def run : Step Name Value Error → (Name → Value) → Except Error (Name → Value)
  | assign target _ compute _ _, record =>
      (compute record).map (Function.update record target)
  | require _ check _, record => (check record).map fun _ => record

def target : Step Name Value Error → Option Name
  | assign target _ _ _ _ => some target
  | require _ _ _ => none

/-- The fields on which acceptance of a record depends. -/
def footprint : Step Name Value Error → List Name
  | assign target reads _ _ _ => target :: reads
  | require reads _ _ => reads

variable {step : Step Name Value Error} {record other : Name → Value}

theorem run_frame (finished : step.run record = .ok other) {name : Name}
    (notTarget : step.target ≠ some name) : other name = record name := by
  cases step with
  | assign target reads compute local_reads idempotent =>
      simp only [run] at finished
      cases computed : compute record with
      | error error => simp [computed, Except.map] at finished
      | ok value =>
          simp only [computed, Except.map, Except.ok.injEq] at finished
          have different : name ≠ target := fun same => notTarget (congrArg some same.symm)
          rw [← finished, Function.update_of_ne different]
  | require reads check local_reads =>
      simp only [run] at finished
      cases checked : check record with
      | error error => simp [checked, Except.map] at finished
      | ok accepted =>
          simp only [checked, Except.map, Except.ok.injEq] at finished
          rw [finished]

/-- A step accepts its own result as it stands. -/
theorem run_settled (finished : step.run record = .ok other) : step.run other = .ok other := by
  cases step with
  | assign target reads compute local_reads idempotent =>
      simp only [run] at finished ⊢
      cases computed : compute record with
      | error error => simp [computed, Except.map] at finished
      | ok value =>
          simp only [computed, Except.map, Except.ok.injEq] at finished
          subst finished
          rw [idempotent computed]
          simp [Except.map]
  | require reads check local_reads =>
      simp only [run] at finished ⊢
      cases checked : check record with
      | error error => simp [checked, Except.map] at finished
      | ok accepted =>
          simp only [checked, Except.map, Except.ok.injEq] at finished
          rw [← finished, checked]
          rfl

/-- Acceptance as it stands depends on the footprint only. -/
theorem settled_congr (agree : ∀ name ∈ step.footprint, record name = other name)
    (settled : step.run record = .ok record) : step.run other = .ok other := by
  cases step with
  | assign target reads compute local_reads idempotent =>
      simp only [run] at settled ⊢
      have same := local_reads fun name member => agree name (List.mem_cons_of_mem _ member)
      rw [← same]
      cases computed : compute record with
      | error error => simp [computed, Except.map] at settled
      | ok value =>
          simp only [computed, Except.map, Except.ok.injEq] at settled
          have kept : value = record target := by
            rw [← congrFun settled target, Function.update_self]
          have inOther : value = other target := kept.trans (agree target List.mem_cons_self)
          simp [Except.map, inOther]
  | require reads check local_reads =>
      simp only [run] at settled ⊢
      rw [← local_reads agree]
      cases checked : check record with
      | error error => simp [checked, Except.map] at settled
      | ok accepted => rfl

/-- A field outside the footprint passes through a step. -/
theorem run_update_map {name : Name} {value : Value} (untouched : name ∉ step.footprint) :
    step.run (Function.update record name value) =
      (step.run record).map (Function.update · name value) := by
  cases step with
  | assign target reads compute local_reads idempotent =>
      rw [footprint, List.mem_cons, not_or] at untouched
      have same : compute (Function.update record name value) = compute record := by
        refine local_reads fun read isRead => Function.update_of_ne ?_ _ _
        rintro rfl
        exact untouched.2 isRead
      simp only [run]
      rw [same]
      cases compute record with
      | error error => rfl
      | ok result =>
          simp only [Except.map]
          rw [Function.update_comm untouched.1]
  | require reads check local_reads =>
      have same : check (Function.update record name value) = check record := by
        refine local_reads fun read isRead => Function.update_of_ne ?_ _ _
        rintro rfl
        exact untouched isRead
      simp only [run]
      rw [same]
      cases check record with
      | error error => rfl
      | ok accepted => rfl

end Step

/-- The steps in order; the first refusal ends the run. -/
def runSteps : List (Step Name Value Error) → (Name → Value) → Except Error (Name → Value)
  | [], record => .ok record
  | step :: rest, record => (step.run record).bind (runSteps rest)

/-- No step replaces a field that an earlier step read or replaced. -/
def Ordered (steps : List (Step Name Value Error)) : Prop :=
  steps.Pairwise fun earlier later => ∀ name ∈ later.target, name ∉ earlier.footprint

instance (steps : List (Step Name Value Error)) : Decidable (Ordered steps) :=
  inferInstanceAs (Decidable (List.Pairwise _ _))

section Runs

variable {steps : List (Step Name Value Error)} {record final : Name → Value}

theorem runSteps_cons {step : Step Name Value Error}
    (finished : runSteps (step :: steps) record = .ok final) :
    ∃ next, step.run record = .ok next ∧ runSteps steps next = .ok final := by
  rw [runSteps] at finished
  cases stepped : step.run record with
  | error error => simp [stepped, Except.bind] at finished
  | ok next => exact ⟨next, rfl, by simpa [stepped, Except.bind] using finished⟩

/-- What every step preserves, a run preserves. -/
theorem runSteps_invariant (Invariant : (Name → Value) → Prop)
    (preserved : ∀ step ∈ steps, ∀ {before after : Name → Value},
      step.run before = .ok after → Invariant before → Invariant after)
    (finished : runSteps steps record = .ok final) (initially : Invariant record) :
    Invariant final := by
  induction steps generalizing record with
  | nil =>
      cases finished
      exact initially
  | cons step rest inductionHypothesis =>
      obtain ⟨next, stepped, continued⟩ := runSteps_cons finished
      have afterStep := preserved step List.mem_cons_self stepped initially
      exact inductionHypothesis
        (fun later member => preserved later (List.mem_cons_of_mem _ member)) continued afterStep

theorem runSteps_frame {name : Name} (notTarget : ∀ step ∈ steps, step.target ≠ some name)
    (finished : runSteps steps record = .ok final) : final name = record name := by
  refine runSteps_invariant (fun current => current name = record name) ?_ finished rfl
  intro step member before after stepped unchanged
  rw [Step.run_frame stepped (notTarget step member), unchanged]

theorem runSteps_update_map {name : Name} {value : Value}
    (untouched : ∀ step ∈ steps, name ∉ step.footprint) :
    runSteps steps (Function.update record name value) =
      (runSteps steps record).map (Function.update · name value) := by
  induction steps generalizing record with
  | nil => rfl
  | cons step rest inductionHypothesis =>
      obtain ⟨stepUntouched, restUntouched⟩ := List.forall_mem_cons.mp untouched
      rw [runSteps, runSteps, Step.run_update_map stepUntouched]
      cases step.run record with
      | error error => rfl
      | ok next => exact inductionHypothesis restUntouched

theorem runSteps_update {name : Name} {value : Value}
    (untouched : ∀ step ∈ steps, name ∉ step.footprint)
    (finished : runSteps steps record = .ok final) :
    runSteps steps (Function.update record name value) =
      .ok (Function.update final name value) := by
  rw [runSteps_update_map untouched, finished]
  rfl

theorem runSteps_append {more : List (Step Name Value Error)} :
    runSteps (steps ++ more) record = (runSteps steps record).bind (runSteps more) := by
  induction steps generalizing record with
  | nil => rfl
  | cons step rest inductionHypothesis =>
      rw [List.cons_append, runSteps, runSteps]
      cases step.run record with
      | error error => rfl
      | ok next => exact inductionHypothesis

/-- Every step of an ordered list accepts the record that the run leaves. -/
theorem runSteps_settled (ordered : Ordered steps)
    (finished : runSteps steps record = .ok final) :
    ∀ step ∈ steps, step.run final = .ok final := by
  induction steps generalizing record with
  | nil => simp
  | cons step rest inductionHypothesis =>
      obtain ⟨next, stepped, continued⟩ := runSteps_cons finished
      obtain ⟨headOrdered, restOrdered⟩ := List.pairwise_cons.mp ordered
      intro candidate member
      rcases List.mem_cons.mp member with isHead | inRest
      · have agree : ∀ name ∈ step.footprint, next name = final name := by
          intro name inFootprint
          refine (runSteps_frame ?_ continued).symm
          intro later laterMember isTarget
          exact headOrdered later laterMember name isTarget inFootprint
        rw [isHead]
        exact Step.settled_congr agree (Step.run_settled stepped)
      · exact inductionHypothesis restOrdered continued candidate inRest

theorem runSteps_cons_ok {step : Step Name Value Error} {next : Name → Value}
    (stepped : step.run record = .ok next) (continued : runSteps steps next = .ok final) :
    runSteps (step :: steps) record = .ok final := by
  rw [runSteps, stepped]
  exact continued

/-- A field that only its own step reads and replaces holds what that step
computes from the initial value. -/
theorem runSteps_assign (ordered : Ordered steps) (finished : runSteps steps record = .ok final)
    {target : Name} {reads : List Name} {compute : (Name → Value) → Except Error Value}
    {local_reads idempotent}
    (member : .assign target reads compute local_reads idempotent ∈ steps)
    (readsTarget : ∀ name ∈ reads, name = target) : compute record = .ok (final target) := by
  induction steps generalizing record with
  | nil => simp at member
  | cons step rest inductionHypothesis =>
      obtain ⟨next, stepped, continued⟩ := runSteps_cons finished
      obtain ⟨headOrdered, restOrdered⟩ := List.pairwise_cons.mp ordered
      rcases List.mem_cons.mp member with isHead | inRest
      · subst isHead
        have notLater : ∀ later ∈ rest, later.target ≠ some target :=
          fun later laterMember isTarget =>
            headOrdered later laterMember target isTarget List.mem_cons_self
        rw [runSteps_frame notLater continued]
        simp only [Step.run] at stepped
        cases computed : compute record with
        | error error => simp [computed, Except.map] at stepped
        | ok value =>
            simp only [computed, Except.map, Except.ok.injEq] at stepped
            rw [← stepped, Function.update_self]
      · have notHead : step.target ≠ some target := by
          intro isTarget
          have inFootprint : target ∈ step.footprint := by
            cases step with
            | assign headTarget headReads headCompute =>
                cases isTarget
                exact List.mem_cons_self
            | require => cases isTarget
          exact headOrdered _ inRest target rfl inFootprint
        rw [← inductionHypothesis restOrdered continued inRest]
        refine local_reads fun name isRead => ?_
        rw [readsTarget name isRead, Step.run_frame stepped notHead]

/-- A run fails with the error of the first step that refuses. -/
theorem runSteps_error_iff {error : Error} :
    runSteps steps record = .error error ↔
      ∃ before step after reached, steps = before ++ step :: after ∧
        runSteps before record = .ok reached ∧ step.run reached = .error error := by
  induction steps generalizing record with
  | nil =>
      constructor
      · intro failed
        cases failed
      · rintro ⟨before, step, after, reached, split, -⟩
        simp at split
  | cons first rest inductionHypothesis =>
      cases stepped : first.run record with
      | error firstError =>
          have failsHere : runSteps (first :: rest) record = .error firstError := by
            rw [runSteps, stepped]
            rfl
          rw [failsHere]
          constructor
          · intro same
            exact ⟨[], first, rest, record, rfl, rfl, stepped.trans (by cases same; rfl)⟩
          · rintro ⟨before, step, after, reached, split, ran, failed⟩
            cases before with
            | nil =>
                rw [List.nil_append, List.cons.injEq] at split
                cases ran
                rw [← split.1, stepped] at failed
                cases failed
                rfl
            | cons head tail =>
                rw [List.cons_append, List.cons.injEq] at split
                obtain ⟨next, headStepped, -⟩ := runSteps_cons ran
                rw [← split.1, stepped] at headStepped
                cases headStepped
      | ok next =>
          have continues : runSteps (first :: rest) record = runSteps rest next := by
            rw [runSteps, stepped]
            rfl
          rw [continues, inductionHypothesis]
          constructor
          · rintro ⟨before, step, after, reached, split, ran, failed⟩
            exact ⟨first :: before, step, after, reached, by rw [split, List.cons_append],
              runSteps_cons_ok stepped ran, failed⟩
          · rintro ⟨before, step, after, reached, split, ran, failed⟩
            cases before with
            | nil =>
                rw [List.nil_append, List.cons.injEq] at split
                cases ran
                rw [← split.1, stepped] at failed
                cases failed
            | cons head tail =>
                rw [List.cons_append, List.cons.injEq] at split
                obtain ⟨afterHead, headStepped, tailRan⟩ := runSteps_cons ran
                rw [← split.1, stepped, Except.ok.injEq] at headStepped
                subst headStepped
                exact ⟨tail, step, after, reached, split.2, tailRan, failed⟩

theorem runSteps_of_settled (settled : ∀ step ∈ steps, step.run record = .ok record) :
    runSteps steps record = .ok record := by
  induction steps with
  | nil => rfl
  | cons step rest inductionHypothesis =>
      rw [runSteps, settled step List.mem_cons_self]
      exact inductionHypothesis fun later member => settled later (List.mem_cons_of_mem _ member)

end Runs

end RecordValidation
