import WyrePlumber.Library.Dictionary
import WyrePlumber.Runtime.Classes

/-!
# The arguments of a value

A class called with the fields of a value in normal form gives the value back.
-/

set_option autoImplicit false
set_option linter.constructorNameAsVariable false

namespace WyrePlumber.Runtime

open Python RecordValidation Results

section Arguments

variable {type : ValueType} {record : Record}

/-- Keyword arguments may come in any order. -/
theorem construct_perm {arguments others : List (FieldName × PyValue)}
    (distinct : (arguments.map Prod.fst).Nodup) (reordered : arguments.Perm others) :
    construct type others = construct type arguments := by
  have sameLookup (name : FieldName) : others.lookup name = arguments.lookup name :=
    Dictionary.lookup_perm distinct reordered
  have sameRecord : initialRecord type others = initialRecord type arguments := by
    funext name
    rw [initialRecord, initialRecord, sameLookup]
  have sameMissing : missingArguments type others = missingArguments type arguments := by
    simp only [missingArguments, sameLookup]
  have sameKnown : (others.all fun argument => argument.1 ∈ fieldNames type) =
      arguments.all fun argument => argument.1 ∈ fieldNames type := by
    rw [Bool.eq_iff_iff, List.all_eq_true, List.all_eq_true]
    exact ⟨fun known argument member => known argument (reordered.subset member),
      fun known argument member => known argument (reordered.symm.subset member)⟩
  rw [construct, construct, sameRecord, sameMissing, sameKnown]

/-- The fields that `to_dict` writes. -/
def writtenNames (type : ValueType) (record : Record) : List FieldName :=
  (fieldNames type).filter fun name => !(omitsNone type name && (record name).isNone)

/-- The arguments that the decoded fields make. -/
def argumentsOf (names : List FieldName) (values : Record) : List (FieldName × PyValue) :=
  names.map fun name => (name, values name)

theorem exists_values {names : List FieldName} {read : FieldName → Except PyError PyValue}
    {arguments : List (FieldName × PyValue)}
    (finished : (names.mapM fun name => (read name).map fun value => (name, value)) =
      .ok arguments) :
    ∃ values, (∀ name ∈ names, read name = .ok (values name)) ∧
      arguments = argumentsOf names values := by
  refine ⟨fun name => match read name with | .ok value => value | .error _ => .none, ?_⟩
  induction names generalizing arguments with
  | nil => exact ⟨by simp, (Except.ok.inj finished).symm⟩
  | cons name rest inductionHypothesis =>
      rw [List.mapM_cons] at finished
      obtain ⟨first, firstOk, continued⟩ := bind_ok finished
      obtain ⟨value, valueOk, isFirst⟩ := map_ok firstOk
      obtain ⟨others, othersOk, whole⟩ := bind_ok continued
      obtain ⟨restOk, isRest⟩ := inductionHypothesis othersOk
      refine ⟨List.forall_mem_cons.mpr ⟨?_, restOk⟩, ?_⟩
      · simp only [valueOk]
      · rw [← Except.ok.inj whole, ← isFirst, isRest]
        simp only [argumentsOf, List.map_cons, valueOk]

theorem lookup_argumentsOf (names : List FieldName) (values : Record) (name : FieldName) :
    (argumentsOf names values).lookup name =
      if name ∈ names then some (values name) else none := by
  induction names with
  | nil => rfl
  | cons first rest inductionHypothesis =>
      rw [argumentsOf] at inductionHypothesis
      rw [argumentsOf, List.map_cons, List.lookup_cons, inductionHypothesis]
      by_cases isFirst : name = first
      · simp [isFirst]
      · simp [beq_eq_false_iff_ne.mpr isFirst, isFirst]

theorem argumentsOf_nodup (values : Record) :
    ((argumentsOf (writtenNames type record) values).map Prod.fst).Nodup := by
  have sameNames : (argumentsOf (writtenNames type record) values).map Prod.fst =
      writtenNames type record := by
    rw [argumentsOf, List.map_map]
    exact List.map_id _
  rw [sameNames]
  exact List.filter_sublist.nodup (fieldNames_nodup type)

theorem omitsNone_iff {name : FieldName} : omitsNone type name = true ↔
    type = .confirmationPredicate ∧ name = .tolerance := by
  simp [omitsNone]

/-- At the entry of the body an argument stands for each written field, and an
omitted field holds `None`. -/
theorem initialRecord_arguments {name : FieldName} (member : name ∈ fieldNames type)
    (values : Record) :
    initialRecord type (argumentsOf (writtenNames type record) values) name =
      if name ∈ writtenNames type record then values name else .none := by
  rw [initialRecord, lookup_argumentsOf]
  by_cases isWritten : name ∈ writtenNames type record
  · rw [if_pos isWritten, if_pos isWritten]
    rfl
  · rw [if_neg isWritten, if_neg isWritten]
    have omitted : omitsNone type name = true := by
      by_contra kept
      exact isWritten (List.mem_filter.mpr ⟨member, by simp [kept]⟩)
    obtain ⟨isPredicate, isTolerance⟩ := omitsNone_iff.mp omitted
    rw [isPredicate, isTolerance]
    rfl

theorem known_arguments (values : Record) :
    ∀ argument ∈ argumentsOf (writtenNames type record) values,
      argument.1 ∈ fieldNames type := by
  intro argument member
  obtain ⟨name, inNames, isArgument⟩ := List.mem_map.mp member
  rw [← isArgument]
  exact (List.mem_filter.mp inNames).1

theorem complete_arguments (values : Record) :
    missingArguments type (argumentsOf (writtenNames type record) values) = [] := by
  rw [missingArguments, List.filter_eq_nil_iff]
  intro spec member isMissing
  rw [Bool.and_eq_true, lookup_argumentsOf] at isMissing
  obtain ⟨noDefault, notGiven⟩ := isMissing
  have isField : spec.name ∈ fieldNames type := List.mem_map_of_mem member
  by_cases isWritten : spec.name ∈ writtenNames type record
  · rw [if_pos isWritten] at notGiven
    cases notGiven
  · have omitted : omitsNone type spec.name = true := by
      by_contra kept
      exact isWritten (List.mem_filter.mpr ⟨isField, by simp [kept]⟩)
    obtain ⟨isPredicate, isTolerance⟩ := omitsNone_iff.mp omitted
    subst isPredicate
    have hasDefault : ∀ spec ∈ fieldSpecs .confirmationPredicate, spec.name = .tolerance →
        spec.default.isNone = false := by decide
    rw [hasDefault spec member isTolerance] at noDefault
    cases noDefault

/-- The class accepts its own normal form and gives it back. -/
theorem construct_settled (settled : ∀ step ∈ steps type, step.run record = .ok record) :
    construct type (argumentsOf (writtenNames type record) record) =
      .ok (toRuntime type (fieldNames type) record) := by
  have agree : ∀ name ∈ fieldNames type, record name =
      initialRecord type (argumentsOf (writtenNames type record) record) name := by
    intro name member
    rw [initialRecord_arguments member]
    split
    · rfl
    · rename_i notWritten
      cases held : record name with
      | none => rfl
      | _ => exact absurd (List.mem_filter.mpr ⟨member, by simp [held, PyValue.isNone]⟩) notWritten
  have finished := runSteps_of_settled fun step member =>
    Step.settled_congr (fun name inFootprint =>
      agree name (steps_footprints type step member name inFootprint)) (settled step member)
  rw [construct_of_run (known_arguments record) (complete_arguments record) finished, toRuntime,
    toRuntime]
  congr 2
  exact List.map_congr_left fun name member => by rw [← agree name member]

end Arguments

end WyrePlumber.Runtime
