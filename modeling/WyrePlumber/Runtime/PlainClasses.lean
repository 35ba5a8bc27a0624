import WyrePlumber.Runtime.Outcomes
import WyrePlumber.Runtime.Tampering

/-!
# Classes whose fields stand alone

A class is plain when its constructor only checks its fields, each on its own.  Such a
constructor accepts its arguments exactly when every check accepts its field, and what it
makes of one field does not depend on the others.
-/

set_option autoImplicit false
set_option linter.constructorNameAsVariable false

namespace WyrePlumber.Runtime

open Python RecordValidation Results

section Plain

def Check.isField : Check → Bool
  | .field _ _ => true
  | _ => false

/-- A class without rules between its fields. -/
def IsPlain (type : ValueType) : Prop := (checks type).all Check.isField = true

instance (type : ValueType) : Decidable (IsPlain type) :=
  inferInstanceAs (Decidable ((checks type).all Check.isField = true))

variable {type : ValueType} {arguments others : List (FieldName × PyValue)} {value other : PyValue}

/-- The checks of a class that has no others, each on its own field. -/
theorem runSteps_fields {list : List Check} (fields : list.all Check.isField = true)
    (ordered : Ordered (list.map Check.step)) {record : Record}
    (each : ∀ name kind, Check.field name kind ∈ list →
      ∃ value, kind.normalize name.text (record name) = .ok value) :
    ∃ final, runSteps (list.map Check.step) record = .ok final := by
  induction list generalizing record with
  | nil => exact ⟨record, rfl⟩
  | cons check rest inductionHypothesis =>
      rw [List.all_cons, Bool.and_eq_true] at fields
      rw [List.map_cons] at ordered
      obtain ⟨headOrdered, restOrdered⟩ := List.pairwise_cons.mp ordered
      cases check with
      | field name kind =>
          obtain ⟨value, normalized⟩ := each name kind List.mem_cons_self
          have later : ∀ next nextKind, Check.field next nextKind ∈ rest →
              ∃ result, nextKind.normalize next.text
                ((Function.update record name value : Record) next) = .ok result := by
            intro next nextKind member
            have different : next ≠ name := by
              intro same
              refine headOrdered _ (List.mem_map_of_mem member) next rfl ?_
              rw [same]
              exact List.mem_cons_self
            rw [Function.update_of_ne different]
            exact each next nextKind (List.mem_cons_of_mem _ member)
          obtain ⟨final, finished⟩ := inductionHypothesis fields.2 restOrdered later
          exact ⟨final, runSteps_cons_ok (fieldStep_run normalized) finished⟩
      | rule1 | rule2 | rule3 | tolerance | relationships => cases fields.1

theorem construct_normalizes (made : construct type arguments = .ok value) (name : FieldName)
    (kind : FieldKind) (member : Check.field name kind ∈ checks type) :
    ∃ result, kind.normalize name.text (initialRecord type arguments name) = .ok result := by
  obtain ⟨record, finished, -⟩ := construct_ok made
  exact ⟨_, runSteps_assign (steps_ordered type) finished
    (List.mem_map.mpr ⟨_, member, rfl⟩) (by simp)⟩

/-- Values of one class are equal when their fields are. -/
theorem construct_ext (made : construct type arguments = .ok value)
    (otherMade : construct type others = .ok other)
    (same : ∀ name ∈ fieldNames type, value.get name = other.get name) : value = other := by
  obtain ⟨record, -, isValue⟩ := construct_ok made
  obtain ⟨otherRecord, -, isOther⟩ := construct_ok otherMade
  rw [isValue, isOther]
  refine congrArg (PyValue.runtime type) (List.map_congr_left fun name member => ?_)
  have sameField := same name member
  rw [isValue, isOther, get_toRuntime member, get_toRuntime member] at sameField
  rw [sameField]

/-- A field of a plain class depends on its own argument alone. -/
theorem get_of_same (plain : IsPlain type) (made : construct type arguments = .ok value)
    (otherMade : construct type others = .ok other) {name : FieldName}
    (member : name ∈ fieldNames type)
    (same : initialRecord type others name = initialRecord type arguments name) :
    other.get name = value.get name := by
  obtain ⟨check, inChecks, isTarget⟩ := checks_cover type name member
  have isField := List.all_eq_true.mp plain check inChecks
  cases check with
  | field target kind =>
      obtain rfl : target = name := Option.some.inj isTarget
      have normalized := construct_field target kind made inChecks member
      have otherNormalized := construct_field target kind otherMade inChecks member
      rw [same, normalized] at otherNormalized
      exact (Except.ok.inj otherNormalized).symm
  | rule1 | rule2 | rule3 | tolerance | relationships => cases isField

/-- Arguments with the same names, and the same values under the names that do not change. -/
def Alike (changed : List FieldName) (arguments others : List (FieldName × PyValue)) : Prop :=
  List.Forall₂ (fun first second => first.1 = second.1 ∧ (first.1 ∉ changed → first.2 = second.2))
    arguments others

def replaced (changes arguments : List (FieldName × PyValue)) : List (FieldName × PyValue) :=
  arguments.map fun argument => (argument.1, (changes.lookup argument.1).getD argument.2)

theorem alike_replaced (changes arguments : List (FieldName × PyValue)) :
    Alike (changes.map Prod.fst) arguments (replaced changes arguments) := by
  induction arguments with
  | nil => exact .nil
  | cons argument rest inductionHypothesis =>
      refine .cons ⟨rfl, fun notChanged => ?_⟩ inductionHypothesis
      have absent : changes.lookup argument.1 = none := by
        rw [List.lookup_eq_none_iff]
        intro change member
        exact bne_iff_ne.mpr fun same => notChanged (same ▸ List.mem_map_of_mem member)
      simp only [absent, Option.getD_none]

variable {changed : List FieldName}

theorem Alike.lookup_isNone (alike : Alike changed arguments others) (name : FieldName) :
    (others.lookup name).isNone = (arguments.lookup name).isNone := by
  induction alike with
  | nil => rfl
  | @cons first second arguments others here _ inductionHypothesis =>
      rw [List.lookup_cons, List.lookup_cons, ← here.1]
      cases name == first.1 with
      | true => rfl
      | false => exact inductionHypothesis

theorem Alike.initialRecord_same (alike : Alike changed arguments others) {name : FieldName}
    (notChanged : name ∉ changed) :
    initialRecord type others name = initialRecord type arguments name := by
  have sameLookup : others.lookup name = arguments.lookup name := by
    induction alike with
    | nil => rfl
    | @cons first second arguments others here _ inductionHypothesis =>
        rw [List.lookup_cons, List.lookup_cons, ← here.1]
        cases isFirst : name == first.1 with
        | true =>
            have sameName : name = first.1 := eq_of_beq isFirst
            simp only [here.2 (sameName ▸ notChanged)]
        | false => exact inductionHypothesis
  rw [initialRecord, sameLookup]
  rfl

theorem Alike.known (alike : Alike changed arguments others)
    (known : ∀ argument ∈ arguments, argument.1 ∈ fieldNames type) :
    ∀ argument ∈ others, argument.1 ∈ fieldNames type := by
  induction alike with
  | nil => exact known
  | cons here _ inductionHypothesis =>
      obtain ⟨first, rest⟩ := List.forall_mem_cons.mp known
      exact List.forall_mem_cons.mpr ⟨here.1 ▸ first, inductionHypothesis rest⟩

theorem Alike.missingArguments (alike : Alike changed arguments others) :
    missingArguments type others = Runtime.missingArguments type arguments := by
  unfold Runtime.missingArguments
  simp only [alike.lookup_isNone]

/-- A plain constructor on other values of some fields, which their checks accept: it makes
the same value exactly where these fields are the same. -/
theorem construct_changed (plain : IsPlain type) (made : construct type arguments = .ok value)
    (alike : Alike changed arguments others)
    (accepted : ∀ name kind, Check.field name kind ∈ checks type → name ∈ changed →
      ∃ result, kind.normalize name.text (initialRecord type others name) = .ok result) :
    ∃ other, construct type others = .ok other ∧
      (other = value ↔ ∀ name ∈ fieldNames type, name ∈ changed → other.get name = value.get name) := by
  obtain ⟨known, complete⟩ := construct_arguments made
  obtain ⟨other, otherMade⟩ := construct_succeeds (alike.known known)
    (alike.missingArguments.trans complete)
    (runSteps_fields plain (steps_ordered type) fun name kind member => by
      by_cases isChanged : name ∈ changed
      · exact accepted name kind member isChanged
      · rw [alike.initialRecord_same isChanged]
        exact construct_normalizes made name kind member)
  refine ⟨other, otherMade, fun same name _ _ => by rw [same], fun sameChanged => ?_⟩
  refine construct_ext otherMade made fun name member => ?_
  by_cases isChanged : name ∈ changed
  · exact sameChanged name member isChanged
  · exact get_of_same plain made otherMade member (alike.initialRecord_same isChanged)

end Plain

end WyrePlumber.Runtime
