import Mathlib.Control.Basic

/-!
# Code whose allocations may fail

A computation draws the answers of the allocator from a list, in the order of its
allocations, and ends at its first failing step.  What it has drawn stays drawn,
so a caller that goes on after a failure meets the answers that are left.
-/

set_option autoImplicit false

namespace Fallible

/-- Whether each coming allocation succeeds; after the list they all do. -/
abbrev Heap := List Bool

/-- Code that returns `NULL` when one of its steps fails. -/
abbrev Copy := OptionT (StateM Heap)

variable {α β : Type}

def allocate : Copy Unit := OptionT.mk fun heap =>
  match heap with
  | [] => (some (), [])
  | answer :: rest => (if answer then some () else none, rest)

/-- The result, and the answers that are left. -/
def on (copy : Copy α) (heap : Heap) : Option α × Heap := copy.run.run heap

/-- A value that was copied before, or `NULL`. -/
def owned (value : Option α) : Copy α := OptionT.mk (pure value)

/-- A step whose failure the code goes on after. -/
def attempt (copy : Copy α) : Copy (Option α) := OptionT.mk fun heap =>
  (some (on copy heap).1, (on copy heap).2)

@[simp] theorem on_pure (value : α) (heap : Heap) : on (pure value) heap = (some value, heap) := rfl

@[simp] theorem on_failure (heap : Heap) : on (failure : Copy α) heap = (none, heap) := rfl

@[simp] theorem on_owned (value : Option α) (heap : Heap) :
    on (owned value) heap = (value, heap) := rfl

@[simp] theorem on_attempt (copy : Copy α) (heap : Heap) :
    on (attempt copy) heap = (some (on copy heap).1, (on copy heap).2) := rfl

@[simp] theorem on_allocate : on allocate [] = (some (), []) := rfl

theorem on_bind (copy : Copy α) (next : α → Copy β) (heap : Heap) :
    on (copy >>= next) heap =
      match on copy heap with
      | (some value, rest) => on (next value) rest
      | (none, rest) => (none, rest) := by
  simp only [on, OptionT.run_bind, Option.elimM, StateT.run_bind]
  generalize copy.run.run heap = outcome
  obtain ⟨result, rest⟩ := outcome
  cases result <;> rfl

theorem on_bind_some {copy : Copy α} {next : α → Copy β} {heap rest : Heap} {value : α}
    (copied : on copy heap = (some value, rest)) : on (copy >>= next) heap = on (next value) rest := by
  rw [on_bind, copied]

theorem on_bind_none {copy : Copy α} {next : α → Copy β} {heap rest : Heap}
    (failed : on copy heap = (none, rest)) : on (copy >>= next) heap = (none, rest) := by
  rw [on_bind, failed]

/-- A result was reached through a result of every step. -/
theorem on_bind_eq_some {copy : Copy α} {next : α → Copy β} {heap : Heap} {result : β} :
    (on (copy >>= next) heap).1 = some result ↔
      ∃ value rest, on copy heap = (some value, rest) ∧ (on (next value) rest).1 = some result := by
  obtain ⟨copied, rest, ran⟩ : ∃ copied rest, on copy heap = (copied, rest) := ⟨_, _, rfl⟩
  cases copied with
  | none => simp [on_bind_none ran, ran]
  | some value =>
      rw [on_bind_some ran, ran]
      constructor
      · intro reached
        exact ⟨value, rest, rfl, reached⟩
      · rintro ⟨_, _, same, reached⟩
        cases same
        exact reached

/-- Where no allocation fails, whether the code succeeds. -/
def Succeeds (copy : Copy α) (ok : Bool) : Prop :=
  ∃ result, on copy [] = (result, []) ∧ result.isSome = ok

theorem succeeds_pure (value : α) : Succeeds (pure value) true := ⟨some value, rfl, rfl⟩

theorem succeeds_owned (value : Option α) : Succeeds (owned value) value.isSome :=
  ⟨value, rfl, rfl⟩

theorem succeeds_allocate : Succeeds allocate true := ⟨some (), rfl, rfl⟩

theorem Succeeds.bind {copy : Copy α} {next : α → Copy β} {ok later : Bool}
    (first : Succeeds copy ok) (rest : ∀ value, Succeeds (next value) later) :
    Succeeds (copy >>= next) (ok && later) := by
  obtain ⟨result, ran, isOk⟩ := first
  cases result with
  | none =>
      refine ⟨none, on_bind_none ran, ?_⟩
      rw [← isOk]
      rfl
  | some value =>
      obtain ⟨reached, last, isLater⟩ := rest value
      refine ⟨reached, (on_bind_some ran).trans last, ?_⟩
      rw [isLater, ← isOk]
      rfl

/-- A step that succeeds does not decide. -/
theorem Succeeds.after {copy : Copy α} {next : α → Copy β} {ok : Bool}
    (first : Succeeds copy true) (rest : ∀ value, Succeeds (next value) ok) :
    Succeeds (copy >>= next) ok :=
  first.bind rest

/-- A step that decides is followed by steps that succeed. -/
theorem Succeeds.before {copy : Copy α} {next : α → Copy β} {ok : Bool}
    (first : Succeeds copy ok) (rest : ∀ value, Succeeds (next value) true) :
    Succeeds (copy >>= next) ok := by
  have both := first.bind rest
  rwa [Bool.and_true] at both

theorem Succeeds.attempt {copy : Copy α} {ok : Bool} (made : Succeeds copy ok) :
    Succeeds (attempt copy) true := by
  obtain ⟨result, ran, -⟩ := made
  exact ⟨some result, by rw [on_attempt, ran], rfl⟩

/-! ## What a result is like -/

/-- Whatever the allocator answers, a result is like this. -/
def Yields (copy : Copy α) (holds : α → Prop) : Prop :=
  ∀ heap result, (on copy heap).1 = some result → holds result

theorem yields_owned (value : Option α) : Yields (owned value) fun result => value = some result :=
  fun _ _ reached => reached

theorem yields_pure {value : α} {holds : α → Prop} (held : holds value) :
    Yields (pure value) holds := by
  rintro _ _ ⟨⟩
  exact held

theorem Yields.bind {copy : Copy α} {next : α → Copy β} {holds : α → Prop} {after : β → Prop}
    (first : Yields copy holds) (rest : ∀ value, holds value → Yields (next value) after) :
    Yields (copy >>= next) after := by
  intro heap result reached
  obtain ⟨value, remaining, ran, later⟩ := on_bind_eq_some.mp reached
  have held : holds value := first heap value (congrArg Prod.fst ran)
  exact rest value held remaining result later

/-- Of the first step nothing need be known. -/
theorem yields_after {copy : Copy α} {next : α → Copy β} {after : β → Prop}
    (rest : ∀ value, Yields (next value) after) : Yields (copy >>= next) after := by
  have first : Yields copy fun _ => True := fun _ _ _ => trivial
  exact first.bind fun value _ => rest value

/-! ## What the answers decide -/

/-- Whatever the allocator answers to either of two computations, their results are
related. -/
def Agree {γ : Type} (related : α → γ → Prop) (copy : Copy α) (other : Copy γ) : Prop :=
  ∀ heap answers result second, (on copy heap).1 = some result →
    (on other answers).1 = some second → related result second

section Agree

variable {γ δ : Type} {related : α → γ → Prop} {after : β → δ → Prop}

theorem agree_pure {value : α} {second : γ} (holds : related value second) :
    Agree related (pure value) (pure second) := by
  rintro _ _ _ _ ⟨⟩ ⟨⟩
  exact holds

theorem Agree.bind {copy : Copy α} {other : Copy γ} {next : α → Copy β} {last : γ → Copy δ}
    (first : Agree related copy other)
    (rest : ∀ value second, related value second → Agree after (next value) (last second)) :
    Agree after (copy >>= next) (other >>= last) := by
  intro heap answers result second reached arrived
  obtain ⟨value, remaining, ran, later⟩ := on_bind_eq_some.mp reached
  obtain ⟨counterpart, unused, went, final⟩ := on_bind_eq_some.mp arrived
  have holds : related value counterpart :=
    first heap answers value counterpart (congrArg Prod.fst ran) (congrArg Prod.fst went)
  exact rest value counterpart holds remaining unused result second later final

theorem Agree.mono {weaker : α → γ → Prop} {copy : Copy α} {other : Copy γ}
    (agree : Agree related copy other)
    (weaken : ∀ value second, related value second → weaker value second) :
    Agree weaker copy other := by
  intro heap answers result second reached arrived
  exact weaken result second (agree heap answers result second reached arrived)

end Agree

/-- Allocations decide whether there is a result, and not what it is: it is the one
that is made where none fails. -/
def Determined (copy : Copy α) : Prop :=
  ∀ heap result, (on copy heap).1 = some result → on copy [] = (some result, [])

theorem Determined.agree {copy : Copy α} (determined : Determined copy) : Agree Eq copy copy := by
  intro heap answers result second reached arrived
  have first := determined heap result reached
  rw [determined answers second arrived] at first
  exact (Option.some.inj (congrArg Prod.fst first)).symm

theorem determined_pure (value : α) : Determined (pure value) := by
  rintro _ _ ⟨⟩
  rfl

theorem determined_owned (value : Option α) : Determined (owned value) := by
  intro heap result reached
  have same : value = some result := reached
  rw [on_owned, same]

theorem determined_allocate : Determined allocate := fun _ _ _ => rfl

theorem determined_failure : Determined (failure : Copy α) := by
  intro _ _ reached
  cases reached

theorem Determined.bind {copy : Copy α} {next : α → Copy β} (first : Determined copy)
    (rest : ∀ value, Determined (next value)) : Determined (copy >>= next) := by
  intro heap result reached
  obtain ⟨value, remaining, ran, later⟩ := on_bind_eq_some.mp reached
  have made : on copy [] = (some value, []) := first heap value (congrArg Prod.fst ran)
  rw [on_bind_some made]
  exact rest value remaining result later

/-- An attempt whose outcome makes no difference decides nothing. -/
theorem determined_attempt {γ : Type} {copy : Copy α} {middle : Option α → Copy γ}
    {next : γ → Copy β} {same : γ} {ok : Bool} (made : Succeeds copy ok)
    (ignores : ∀ value, middle value = pure same) (rest : Determined (next same)) :
    Determined (attempt copy >>= fun value => middle value >>= next) := by
  intro heap result reached
  obtain ⟨value, ran, -⟩ := made
  obtain ⟨outcome, remaining, -, later⟩ := on_bind_eq_some.mp reached
  have whole : on (attempt copy) [] = (some value, []) := by rw [on_attempt, ran]
  rw [ignores, pure_bind] at later
  rw [on_bind_some whole, ignores, pure_bind]
  exact rest remaining result later

end Fallible
