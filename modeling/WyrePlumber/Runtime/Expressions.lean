import WyrePlumber.Runtime.Constructible

/-!
# Expressions that build values

Literals and calls of the runtime classes.  What an expression evaluates to is a
value that a program can build, so a concrete value is given by its expression.
-/

set_option autoImplicit false
set_option linter.constructorNameAsVariable false

namespace WyrePlumber.Runtime

open Python Results

/-- A Python expression of literals and calls with keyword arguments. -/
inductive Expression where
  | none
  | bool (value : Bool)
  | int (value : Int)
  | str (value : PyString)
  | tuple (items : List Expression)
  | dict (items : List (PyString × Expression))
  | call (type : ValueType) (arguments : List (FieldName × Expression))

namespace Expression

def duplicateKey : PyError := .valueError (plain "duplicate key in a dictionary display")

mutual

/-- The value of an expression; displays with a repeated key are left out. -/
def eval : Expression → Except PyError PyValue
  | none => .ok .none
  | bool value => .ok (.bool value)
  | int value => .ok (.int value)
  | str value => .ok (.str value)
  | tuple items => (evalAll items).map .tuple
  | dict items => do
      let values ← evalItems items
      if (values.map Prod.fst).Nodup then .ok (.dict values) else .error duplicateKey
  | call type arguments => do
      let values ← evalArguments arguments
      construct type values
termination_by structural expression => expression

def evalAll : List Expression → Except PyError (List PyValue)
  | [] => .ok []
  | item :: rest => do
      let value ← eval item
      let values ← evalAll rest
      .ok (value :: values)
termination_by structural items => items

def evalItems : List (PyString × Expression) → Except PyError (List (PyString × PyValue))
  | [] => .ok []
  | (key, item) :: rest => do
      let value ← eval item
      let values ← evalItems rest
      .ok ((key, value) :: values)
termination_by structural items => items

def evalArguments : List (FieldName × Expression) → Except PyError (List (FieldName × PyValue))
  | [] => .ok []
  | (name, argument) :: rest => do
      let value ← eval argument
      let values ← evalArguments rest
      .ok ((name, value) :: values)
termination_by structural arguments => arguments

end

mutual

/-- An expression evaluates to a value that a program can build. -/
theorem eval_constructible (expression : Expression) {value : PyValue}
    (evaluated : eval expression = .ok value) : Constructible value := by
  cases expression with
  | none => cases evaluated; exact .none
  | bool flag => cases evaluated; exact .bool flag
  | int number => cases evaluated; exact .int number
  | str string => cases evaluated; exact .str string
  | tuple items =>
      obtain ⟨values, valuesOk, isValue⟩ := map_ok evaluated
      rw [← isValue]
      exact .tuple (evalAll_constructible items valuesOk)
  | dict items =>
      obtain ⟨values, valuesOk, checked⟩ := bind_ok evaluated
      split at checked
      · rename_i distinct
        cases checked
        exact .dict distinct (evalItems_constructible items valuesOk)
      · cases checked
  | call type arguments =>
      obtain ⟨values, valuesOk, made⟩ := bind_ok evaluated
      exact .runtime (evalArguments_constructible arguments valuesOk) made
termination_by structural expression

theorem evalAll_constructible (items : List Expression) {values : List PyValue}
    (evaluated : evalAll items = .ok values) : ∀ value ∈ values, Constructible value := by
  cases items with
  | nil => cases evaluated; simp
  | cons item rest =>
      obtain ⟨first, firstOk, continued⟩ := bind_ok evaluated
      obtain ⟨others, othersOk, whole⟩ := bind_ok continued
      rw [← Except.ok.inj whole, List.forall_mem_cons]
      exact ⟨eval_constructible item firstOk, evalAll_constructible rest othersOk⟩
termination_by structural items

theorem evalItems_constructible (items : List (PyString × Expression))
    {values : List (PyString × PyValue)} (evaluated : evalItems items = .ok values) :
    ∀ value ∈ values, Constructible value.2 := by
  cases items with
  | nil => cases evaluated; simp
  | cons item rest =>
      obtain ⟨key, item⟩ := item
      obtain ⟨first, firstOk, continued⟩ := bind_ok evaluated
      obtain ⟨others, othersOk, whole⟩ := bind_ok continued
      rw [← Except.ok.inj whole, List.forall_mem_cons]
      exact ⟨eval_constructible item firstOk, evalItems_constructible rest othersOk⟩
termination_by structural items

theorem evalArguments_constructible (arguments : List (FieldName × Expression))
    {values : List (FieldName × PyValue)} (evaluated : evalArguments arguments = .ok values) :
    ∀ value ∈ values, Constructible value.2 := by
  cases arguments with
  | nil => cases evaluated; simp
  | cons argument rest =>
      obtain ⟨name, argument⟩ := argument
      obtain ⟨first, firstOk, continued⟩ := bind_ok evaluated
      obtain ⟨others, othersOk, whole⟩ := bind_ok continued
      rw [← Except.ok.inj whole, List.forall_mem_cons]
      exact ⟨eval_constructible argument firstOk, evalArguments_constructible rest othersOk⟩
termination_by structural arguments

end

end Expression

/-- A value of a class that a program can build. -/
def Built (type : ValueType) (value : PyValue) : Prop :=
  Constructible value ∧ value.isA type = true

theorem Built.stored {type : ValueType} {value : PyValue} (built : Built type value) :
    Stored value ∧ value.isA type = true :=
  ⟨built.1.usable.stored_of_isA built.2, built.2⟩

namespace Expression

/-- The value of an expression that evaluates. -/
def value (expression : Expression) : PyValue :=
  match expression.eval with
  | .ok value => value
  | .error _ => .none

theorem value_built {expression : Expression} {type : ValueType}
    (evaluates : expression.value.isA type = true) : Built type expression.value := by
  refine ⟨?_, evaluates⟩
  rw [value] at evaluates ⊢
  cases evaluated : expression.eval with
  | ok value => exact eval_constructible expression evaluated
  | error error =>
      rw [evaluated] at evaluates
      cases evaluates

end Expression

end WyrePlumber.Runtime
