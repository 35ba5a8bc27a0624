import WyrePlumber.Library.Results

/-!
# Gathering loops

A loop that reads an item and moves its state until a step finds none.  The
rounds are bounded from outside; a measure that every step lowers says how many
are enough.
-/

set_option autoImplicit false

namespace Gathering

open Results

variable {Error State Item : Type}

/-- The items that a step reads from a state on; `exhausted` when the rounds end
before the step does. -/
def gather (exhausted : Error) (step : State → Except Error (Option (Item × State))) :
    Nat → State → Except Error (List Item)
  | 0, _ => .error exhausted
  | rounds + 1, state => do
      let found ← step state
      match found with
      | none => .ok []
      | some (item, next) => (gather exhausted step rounds next).map (item :: ·)

variable {exhausted : Error} {step : State → Except Error (Option (Item × State))}
  {rounds : Nat} {state : State}

theorem gather_stop (stopped : step state = .ok none) :
    gather exhausted step (rounds + 1) state = .ok [] := by
  rw [gather, stopped]
  rfl

theorem gather_next {item : Item} {next : State} (found : step state = .ok (some (item, next))) :
    gather exhausted step (rounds + 1) state =
      (gather exhausted step rounds next).map (item :: ·) := by
  rw [gather, found]
  rfl

theorem gather_error {error : Error} (failed : step state = .error error) :
    gather exhausted step (rounds + 1) state = .error error := by
  rw [gather, failed]
  rfl

/-- A property of every item that a step can read holds of all gathered items. -/
theorem gather_forall {Holds : Item → Prop}
    (each : ∀ state item next, step state = .ok (some (item, next)) → Holds item)
    {items : List Item} (gathered : gather exhausted step rounds state = .ok items) :
    ∀ item ∈ items, Holds item := by
  induction rounds generalizing state items with
  | zero => cases gathered
  | succ rounds inductionHypothesis =>
      cases found : step state with
      | error error =>
          rw [gather_error found] at gathered
          cases gathered
      | ok result =>
          cases result with
          | none =>
              rw [gather_stop found] at gathered
              rw [← Except.ok.inj gathered]
              simp
          | some pair =>
              obtain ⟨item, next⟩ := pair
              rw [gather_next found] at gathered
              obtain ⟨others, later, whole⟩ := map_ok gathered
              rw [← whole]
              exact List.forall_mem_cons.mpr
                ⟨each state item next found, inductionHypothesis later⟩

section Agreement

variable {Value Result : Type} {ends : Prop}

/-- Two computations with one outcome, which comes before the rounds end where that is
asked. -/
def Agrees (exhausted : Error) (ends : Prop) (first second : Except Error Value) : Prop :=
  first = second ∧ (ends → first ≠ .error exhausted)

theorem agrees_ok (value : Value) : Agrees exhausted ends (.ok value) (.ok value) :=
  ⟨rfl, fun _ same => nomatch same⟩

theorem Agrees.bind {first second : Except Error Value} {next other : Value → Except Error Result}
    (agrees : Agrees exhausted ends first second)
    (later : ∀ value, first = .ok value → Agrees exhausted ends (next value) (other value)) :
    Agrees exhausted ends (first >>= next) (second >>= other) := by
  obtain ⟨same, ending⟩ := agrees
  rw [← same]
  cases finished : first with
  | error error =>
      rw [finished] at ending
      exact ⟨rfl, fun asked isError => ending asked (congrArg _ (Except.error.inj isError))⟩
  | ok value => exact later value finished

theorem Agrees.map {first second : Except Error Value} {function : Value → Result}
    (agrees : Agrees exhausted ends first second) :
    Agrees exhausted ends (first.map function) (second.map function) := by
  obtain ⟨same, ending⟩ := agrees
  rw [← same]
  cases finished : first with
  | error error =>
      rw [finished] at ending
      exact ⟨rfl, fun asked isError => ending asked (congrArg _ (Except.error.inj isError))⟩
  | ok value => exact agrees_ok _

/-- Loops whose steps agree wherever they come agree; rounds beyond a measure that every
step lowers are never used up. -/
theorem gather_agrees {other : State → Except Error (Option (Item × State))}
    {Comes : State → Prop} {measure : State → Nat}
    (agrees : ∀ state, Comes state → Agrees exhausted ends (step state) (other state))
    (lowers : ∀ state item next, Comes state → step state = .ok (some (item, next)) →
      Comes next ∧ measure next < measure state)
    (comes : Comes state) (enough : measure state < rounds) :
    Agrees exhausted ends (gather exhausted step rounds state)
      (gather exhausted other rounds state) := by
  induction rounds generalizing state with
  | zero => omega
  | succ rounds inductionHypothesis =>
      rw [gather, gather]
      refine (agrees state comes).bind fun found isFound => ?_
      cases found with
      | none => exact agrees_ok []
      | some pair =>
          obtain ⟨item, next⟩ := pair
          obtain ⟨comesNext, lower⟩ := lowers state item next comes isFound
          exact (inductionHypothesis comesNext (by omega)).map

end Agreement

end Gathering
