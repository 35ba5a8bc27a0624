import WyrePlumber.Runtime.Controls
import WyrePlumber.Runtime.Evaluation

/-!
# The requests of the control helpers

What the targets, predicates and requests that the helpers construct hold, and
what a snapshot shows to their predicates.
-/

set_option autoImplicit false
set_option linter.constructorNameAsVariable false

namespace WyrePlumber.Runtime

open Python RecordValidation Results Calendar

section Targets

variable {kind : RuntimeObjectKind} {objectId target : PyValue}
  {selector : List (PyString × PyValue)}

structure IsTarget (kind : RuntimeObjectKind) (objectId : PyValue)
    (selector : List (PyString × PyValue)) (target : PyValue) : Prop where
  stored : Stored target
  isA : target.isA .mutationTarget = true
  objectKind : target.get .objectKind = .member kind
  objectId : target.get .objectId = objectId
  selector : target.get .selector = .frozenDict selector

theorem usable_dict {items : List (PyString × PyValue)} (distinct : (items.map Prod.fst).Nodup)
    (frozen : ∀ item ∈ items, Frozen item.2) : Usable (.dict items) := by
  refine .plain ?_ rfl fun _ => rfl
  intro result accepted
  have fixed := @mapping_frozen [] items frozen
  rw [show freezeJson (.dict items) = .ok (.frozenDict items) from fixed] at accepted
  cases accepted
  exact .frozenDict distinct frozen

theorem mutationTarget_made (made : mutationTarget kind objectId selector = .ok target)
    (distinct : (selector.map Prod.fst).Nodup) (frozen : ∀ item ∈ selector, Frozen item.2)
    (identityFrozen : Frozen objectId) : IsTarget kind objectId selector target := by
  have usable : ∀ argument ∈ [(FieldName.objectKind, PyValue.member kind), (.objectId, objectId),
      (.selector, .dict selector)], Usable argument.2 := by
    simp only [List.forall_mem_cons]
    exact ⟨.stored (.frozen (.str _)), .stored (.frozen identityFrozen),
      usable_dict distinct frozen, by simp⟩
  refine ⟨construct_stored (defaults_usable _) usable made, construct_isA made, ?_, ?_, ?_⟩
  · exact enumeration_same (construct_field .objectKind (.enumeration
      (StringEnum.texts RuntimeObjectKind) (invalidValue "object_kind")) made
      (by simp [checks, enumField]) (by decide))
  · exact identity_same (construct_field .objectId .identity made (by simp [checks]) (by decide))
  · have mapped := construct_field .selector .mapping made (by simp [checks]) (by decide)
    exact (Except.ok.inj ((mapping_frozen frozen).symm.trans mapped)).symm

end Targets

section Predicates

variable {target predicate expected : PyValue} {path : List PyValue}

structure IsPredicate (operator : ConfirmationOperator) (target : PyValue) (path : List PyValue)
    (expected predicate : PyValue) : Prop where
  stored : Stored predicate
  isA : predicate.isA .confirmationPredicate = true
  target : predicate.get .target = target
  operator : predicate.get .operator = .member operator
  path : predicate.get .path = .tuple path
  expected : contractValue expected = .ok (predicate.get .expected)
  evaluable : Evaluable (predicate.get .expected)

theorem evaluable_of_contractValue {value result : PyValue} (usable : Usable value)
    (accepted : contractValue value = .ok result) : Evaluable result := by
  have stored := storing_contractValue accepted usable
  unfold contractValue at accepted
  split at accepted
  · cases accepted
    exact .runtime stored
  · exact .frozen (usable.freezes accepted)

theorem contractValue_frozen {value : PyValue} (frozen : Frozen value) :
    contractValue value = .ok value := by
  have fixed := frozen.freezeJson_self
  cases frozen <;> exact fixed

/-- A path of field names, as the constructor of a predicate checks it. -/
def IsPath (path : List PyValue) : Prop :=
  ∀ component ∈ path, Frozen component ∧ pathComponent component = .ok component

theorem isPath_name {name : PyString} (notEmpty : name ≠ []) : IsPath [.str name] := by
  intro component member
  rw [List.mem_singleton.mp member]
  refine ⟨.str name, ?_⟩
  have isNotEmpty : name.isEmpty = false := by simpa using notEmpty
  simp [pathComponent, requiredString, isNotEmpty, Except.map]

theorem predicate_made {operator : ConfirmationOperator}
    {arguments : List (FieldName × PyValue)} {path : List PyValue}
    (made : construct .confirmationPredicate arguments = .ok predicate)
    (operatorGiven : initialRecord .confirmationPredicate arguments .operator = .member operator)
    (targetGiven : initialRecord .confirmationPredicate arguments .target = target)
    (pathGiven : initialRecord .confirmationPredicate arguments .path = .tuple path)
    (expectedGiven : initialRecord .confirmationPredicate arguments .expected = expected)
    (usable : ∀ argument ∈ arguments, Usable argument.2) (isPath : IsPath path)
    (usableExpected : Usable expected) : IsPredicate operator target path expected predicate := by
  have accepted : contractValue expected = .ok (predicate.get .expected) := by
    rw [← expectedGiven]
    exact construct_field .expected .contractValue made (by simp [checks]) (by decide)
  refine ⟨construct_stored (defaults_usable _) usable made, construct_isA made, ?_, ?_, ?_,
    accepted, evaluable_of_contractValue usableExpected accepted⟩
  · have checked := construct_field .target (.runtimeValue .mutationTarget) made
      (by simp [checks]) (by decide)
    rw [targetGiven] at checked
    exact runtimeValue_same checked
  · have checked := construct_field .operator (.enumeration (StringEnum.texts ConfirmationOperator)
      (invalidValue "operator")) made (by simp [checks, enumField]) (by decide)
    rw [operatorGiven] at checked
    exact enumeration_same checked
  · have checked := construct_field .path .path made (by simp [checks]) (by decide)
    rw [pathGiven] at checked
    have fixed : FieldKind.path.normalize FieldName.path.text (.tuple path) = .ok (.tuple path) := by
      have same : path.mapM pathComponent = .ok path :=
        mapM_ok_self fun component member => (isPath component member).2
      simp only [FieldKind.normalize, sequenceOf, PyValue.sequence?, same, Except.map]
    exact (Except.ok.inj (fixed.symm.trans checked)).symm

theorem usable_path (isPath : IsPath path) : Usable (.tuple path) :=
  .stored (.tuple fun component member => .frozen (isPath component member).1)

theorem equalsPredicate_made (made : equalsPredicate target path expected = .ok predicate)
    (storedTarget : Stored target) (isPath : IsPath path) (usable : Usable expected) :
    IsPredicate .equals target path expected predicate := by
  refine predicate_made made rfl rfl rfl rfl ?_ isPath usable
  simp only [List.forall_mem_cons]
  exact ⟨.stored storedTarget, .stored (.frozen (.str _)), usable_path isPath, usable, by simp⟩

end Predicates

section Requests

variable {now : DateTime} {call : CallArguments} {operation : MutationOperation}
  {target request : PyValue} {payload : List (PyString × PyValue)} {wanted : List PyValue}

/-- A call whose arguments a program can build. -/
structure CallArguments.Built (call : CallArguments) : Prop where
  expectedGeneration : Constructible call.expectedGeneration
  expectedSequence : Constructible call.expectedSequence
  requestId : Constructible call.requestId

theorem createRequest_made
    (made : createRequest now call operation target payload wanted = .ok request)
    (built : call.Built) (storedTarget : Stored target) (usablePayload : Usable (.dict payload))
    (predicatesOk : ∀ predicate ∈ wanted, Stored predicate ∧
      predicate.isA .confirmationPredicate = true) :
    IsRequest request ∧ predicates request = wanted := by
  obtain ⟨seconds, -, afterTimeout⟩ := bind_ok made
  obtain ⟨requested, -, afterNow⟩ := bind_ok afterTimeout
  obtain ⟨deadline, -, constructed⟩ := bind_ok afterNow
  have isRequest : IsRequest request := by
    refine ⟨construct_stored (defaults_usable _) ?_ constructed, construct_isA constructed⟩
    have identity : Usable (requestIdentity call) := by
      unfold requestIdentity
      split
      · exact .stored (.frozen (.str _))
      · exact .stored (.frozen (.str _))
      · exact built.requestId.usable
    have plainTime : ∀ moment : DateTime, Usable (.datetime moment) := fun moment =>
      .plain (fun frozen accepted => by cases accepted) rfl fun _ => rfl
    simp only [List.forall_mem_cons]
    exact ⟨identity, built.expectedGeneration.usable, built.expectedSequence.usable,
      .stored (.frozen (.str _)), .stored storedTarget, plainTime _, plainTime _, usablePayload,
      .stored (.tuple fun predicate member => (predicatesOk predicate member).1), by simp⟩
  refine ⟨isRequest, ?_⟩
  have checked := construct_field .confirmationPredicates .predicateValues constructed
    (by simp [checks]) (by decide)
  have same : runtimeValues FieldName.confirmationPredicates.text .confirmationPredicate
      (.tuple wanted) = .ok (.tuple wanted) :=
    runtimeItems_same _ fun item member => (predicatesOk item member).2
  change predicateValues FieldName.confirmationPredicates.text (.tuple wanted) = _ at checked
  unfold predicateValues at checked
  split at checked
  · cases checked
  · rw [same] at checked
    rw [predicates, ← Except.ok.inj checked]
    rfl

end Requests

section Evaluation

variable {inputs : Inputs} {snapshot : PyValue} {wanted : List PyValue}

theorem Evaluable.contractValue {value : PyValue} (evaluable : Evaluable value) :
    contractValue value = .ok value := by
  cases evaluable with
  | frozen frozen => exact contractValue_frozen frozen
  | runtime => rfl

/-- A satisfied predicate is confirmed by the snapshot. -/
theorem confirmation_made {predicate observation : PyValue} (isSnapshot : IsSnapshot snapshot)
    (isPredicate : predicate.isA .confirmationPredicate = true) (evaluable : Evaluable observation)
    (satisfied : predicateMatches predicate observation = .ok true) :
    ∃ made, confirmation snapshot predicate observation = .ok made := by
  obtain ⟨stored, isA⟩ := isSnapshot
  have generation := Stored.field_settled .generation .identifier stored isA (by simp [checks])
    (by decide)
  have sequence := Stored.field_settled .sequence .identifier stored isA (by simp [checks])
    (by decide)
  have captured := namedTimestamp_of_timestamp FieldName.observedAt.text
    (Stored.field_settled .capturedAt .timestamp stored isA (by simp [checks]) (by decide))
  have ruled : confirmationRule predicate observation = .ok () := by
    rw [confirmationRule, satisfied]
    rfl
  let arguments : List (FieldName × PyValue) :=
    [(.generation, snapshot.get .generation), (.sequence, snapshot.get .sequence),
      (.observedAt, snapshot.get .capturedAt), (.predicate, predicate),
      (.observation, observation)]
  have known : ∀ argument ∈ arguments, argument.1 ∈ fieldNames .mutationConfirmation := by
    simp only [arguments, List.forall_mem_cons]
    decide
  refine construct_succeeds known rfl ⟨initialRecord .mutationConfirmation arguments, ?_⟩
  refine runSteps_cons_ok (fieldStep_same generation) ?_
  refine runSteps_cons_ok (fieldStep_same sequence) ?_
  refine runSteps_cons_ok (fieldStep_same captured) ?_
  refine runSteps_cons_ok (fieldStep_same (if_pos isPredicate)) ?_
  refine runSteps_cons_ok (fieldStep_same evaluable.contractValue) ?_
  exact runSteps_cons_ok (rule2Step_run ruled) rfl

/-- The snapshot answers a predicate, with a value or without. -/
structure Answers (inputs : Inputs) (snapshot predicate : PyValue) : Prop where
  isA : predicate.isA .confirmationPredicate = true
  evaluable : Evaluable (snapshotObservation inputs snapshot (predicate.get .target))
  evaluated : ∃ satisfied, predicateMatches predicate
    (snapshotObservation inputs snapshot (predicate.get .target)) = .ok satisfied

/-- The snapshot satisfies every predicate. -/
def Satisfies (inputs : Inputs) (snapshot : PyValue) (wanted : List PyValue) : Prop :=
  ∀ predicate ∈ wanted, predicateMatches predicate
    (snapshotObservation inputs snapshot (predicate.get .target)) = .ok true

theorem confirmations_total (isSnapshot : IsSnapshot snapshot)
    (answers : ∀ predicate ∈ wanted, Answers inputs snapshot predicate) :
    ∃ confirmed, confirmationsFromSnapshot inputs snapshot wanted = .ok confirmed := by
  induction wanted with
  | nil => exact ⟨[], rfl⟩
  | cons predicate rest inductionHypothesis =>
      obtain ⟨first, ofRest⟩ := List.forall_mem_cons.mp answers
      obtain ⟨others, othersOk⟩ := inductionHypothesis ofRest
      obtain ⟨satisfied, evaluated⟩ := first.evaluated
      cases satisfied with
      | true =>
          obtain ⟨made, madeOk⟩ := confirmation_made isSnapshot first.isA first.evaluable evaluated
          refine ⟨made :: others, ?_⟩
          simp only [confirmationsFromSnapshot, evaluated, madeOk, othersOk, bind, Except.bind,
            if_true]
      | false =>
          refine ⟨others, ?_⟩
          simp only [confirmationsFromSnapshot, evaluated, othersOk, bind, Except.bind,
            Bool.false_eq_true, if_false]

/-- As many confirmations as predicates are collected exactly when all are satisfied. -/
theorem confirmations_length_iff (isSnapshot : IsSnapshot snapshot) {confirmed : List PyValue}
    (collected : confirmationsFromSnapshot inputs snapshot wanted = .ok confirmed) :
    confirmed.length = wanted.length ↔ Satisfies inputs snapshot wanted := by
  constructor
  · intro complete predicate member
    obtain ⟨index, isIndex, isPredicate⟩ := List.mem_iff_getElem.mp member
    have related := confirmations_complete isSnapshot collected complete
    have confirms := related.get isIndex (complete ▸ isIndex)
    simp only [List.get_eq_getElem, isPredicate] at confirms
    exact confirms.satisfied
  · exact confirmations_length collected

end Evaluation

section Observations

variable {inputs : Inputs} {snapshot target value : PyValue}

theorem exists_fields_of_isA {type : ValueType} (isType : value.isA type = true) :
    ∃ fields, value = .runtime type fields := by
  cases value with
  | runtime actual fields =>
      have same : actual = type := by simpa [PyValue.isA] using isType
      exact ⟨fields, by rw [same]⟩
  | _ => cases isType

theorem evaluable_of_isA {type : ValueType} (stored : Stored value)
    (isType : value.isA type = true) : Evaluable value := by
  obtain ⟨fields, isValue⟩ := exists_fields_of_isA isType
  subst isValue
  exact .runtime stored

/-- The collections of a snapshot hold values of their class in normal form. -/
theorem IsSnapshot.item (isSnapshot : IsSnapshot snapshot) (name : FieldName) (type : ValueType)
    (member : Check.field name (.runtimeValues type) ∈ checks .runtimeSnapshot)
    (isField : name ∈ fieldNames .runtimeSnapshot) :
    ∀ item ∈ (snapshot.get name).items, Stored item ∧ item.isA type = true := by
  obtain ⟨stored, isA⟩ := isSnapshot
  have settled := Stored.field_settled name (.runtimeValues type) stored isA member isField
  obtain ⟨record, isRecord, -, fieldsStored⟩ := stored.record isA
  have fieldStored : Stored (snapshot.get name) := by
    rw [isRecord, get_toRuntime isField]
    exact fieldsStored name isField
  change runtimeValues _ _ _ = _ at settled
  unfold runtimeValues sequenceOf at settled
  intro item inItems
  split at settled
  · rename_i items isSequence
    rw [PyValue.items, isSequence] at inItems
    refine ⟨fieldStored.items isSequence item inItems, ?_⟩
    obtain ⟨values, valuesOk, isTuple⟩ := map_ok settled
    obtain ⟨checked, -, itemOk⟩ := exists_of_mem_mapM_left valuesOk inItems
    unfold runtimeItem at itemOk
    split at itemOk
    · assumption
    · cases itemOk
  · cases settled

theorem selected_lookup {kind : RuntimeObjectKind} {objectId : PyValue}
    {selector : List (PyString × PyValue)} (isTarget : IsTarget kind objectId selector target)
    (key : String) : selected target key = (selector.lookup (text key)).getD .none := by
  rw [selected, isTarget.selector]
  rfl

theorem observation_profile {deviceId index : Int}
    (isTarget : IsTarget .device (.int deviceId) [(text "profile_index", .int index)] target) :
    snapshotObservation inputs snapshot target =
      (byKey (snapshot.get .profiles).items [.deviceId, .index]
        [.int deviceId, .int index]).getD .none := by
  simp only [snapshotObservation, selected_lookup isTarget, isTarget.objectKind, isTarget.objectId]
  rfl

theorem observation_route {deviceId index : Int}
    (isTarget : IsTarget .device (.int deviceId) [(text "route_index", .int index)] target) :
    snapshotObservation inputs snapshot target =
      (byKey (snapshot.get .routes).items [.deviceId, .index]
        [.int deviceId, .int index]).getD .none := by
  simp only [snapshotObservation, selected_lookup isTarget, isTarget.objectKind, isTarget.objectId]
  rfl

/-- What an index of a snapshot holds under a key can be observed. -/
theorem evaluable_byKey (isSnapshot : IsSnapshot snapshot) (name : FieldName) (type : ValueType)
    (member : Check.field name (.runtimeValues type) ∈ checks .runtimeSnapshot)
    (isField : name ∈ fieldNames .runtimeSnapshot) (fields : List FieldName)
    (wanted : List PyValue) :
    Evaluable ((byKey (snapshot.get name).items fields wanted).getD .none) := by
  cases found : byKey (snapshot.get name).items fields wanted with
  | none => exact .frozen .none
  | some item =>
      obtain ⟨stored, isType⟩ := isSnapshot.item name type member isField item
        (List.mem_of_find?_eq_some found)
      exact evaluable_of_isA stored isType

/-- A predicate of a helper has an answer wherever its target can be observed. -/
theorem IsPredicate.answers {operator : ConfirmationOperator} {predicate expected : PyValue}
    {path : List PyValue} (isPredicate : IsPredicate operator target path expected predicate)
    (notApproximate : operator ≠ .approximatelyEquals)
    (evaluable : Evaluable (snapshotObservation inputs snapshot target)) :
    Answers inputs snapshot predicate := by
  have isOperator : (predicate.get .operator).isMember
      ConfirmationOperator.approximatelyEquals = false := by
    rw [isPredicate.operator]
    cases operator with
    | approximatelyEquals => exact absurd rfl notApproximate
    | equals | present | absent => decide
  rw [← isPredicate.target] at evaluable
  exact ⟨isPredicate.isA, evaluable,
    predicateMatches_total evaluable isPredicate.evaluable isOperator⟩

end Observations

section SelectionRequests

variable {display : Spa.SpaValue → PyString} {now : DateTime} {call : CallArguments}
  {operation : MutationOperation} {request deviceId selected target : PyValue}
  {selection : ParameterSelection} {wanted : List PyValue}

theorem parameterSelectionRequest_made {parameterId : String}
    (made : parameterSelectionRequest display now call operation parameterId deviceId selection =
      .ok request) (built : call.Built) (frozen : Frozen deviceId)
    (predicatesOk : ∀ predicate ∈ selection.predicates, Stored predicate ∧
      predicate.isA .confirmationPredicate = true) :
    IsRequest request ∧ predicates request = selection.predicates := by
  obtain ⟨pod, -, afterPod⟩ := bind_ok made
  obtain ⟨writeTarget, targetWritten, afterTarget⟩ := bind_ok afterPod
  have targetMade := mapError_ok targetWritten
  have created := mapError_ok afterTarget
  have isTarget := mutationTarget_made targetMade (by simp) (by
    simp only [List.forall_mem_singleton]
    exact .str _) frozen
  refine createRequest_made created built isTarget.stored (usable_dict ?_ ?_) predicatesOk
  · have different : text "flags" ≠ text "pod_base64" := by decide
    simp [different]
  · simp only [List.forall_mem_cons]
    exact ⟨.int 0, .str _, by simp⟩

/-- The predicates of a selection compare fields of the entry. -/
theorem selectionPredicates_made (made : selectionPredicates target selected = .ok wanted)
    (stored : Stored target) (frozen : Frozen (selected.get .name)) :
    ∀ predicate ∈ wanted, ∃ path expected, IsPredicate .equals target path expected predicate := by
  obtain ⟨active, activeMade, continued⟩ := bind_ok made
  obtain ⟨named, namedMade, both⟩ := bind_ok continued
  have isActive := equalsPredicate_made activeMade stored (isPath_name (by decide))
    (.stored (.frozen (.bool true)))
  have isNamed := equalsPredicate_made namedMade stored (isPath_name (by decide))
    (.stored (.frozen frozen))
  rw [← Except.ok.inj both]
  simp only [List.forall_mem_cons]
  exact ⟨⟨_, _, isActive⟩, ⟨_, _, isNamed⟩, by simp⟩

end SelectionRequests

section Entries

variable {value : PyValue} {type : ValueType}

theorem Stored.identifier_int (name : FieldName) (stored : Stored value)
    (isType : value.isA type = true) (member : Check.field name .identifier ∈ checks type)
    (isField : name ∈ fieldNames type) : ∃ number : Int, value.get name = .int number := by
  obtain ⟨number, accepted, -⟩ :=
    map_ok (Stored.field_settled name .identifier stored isType member isField)
  exact ⟨number, (identifier_ok accepted).1⟩

theorem Stored.name_frozen (stored : Stored value) (isType : value.isA type = true)
    (member : Check.field .name (.requiredString false) ∈ checks type)
    (isField : .name ∈ fieldNames type) : Frozen (value.get .name) := by
  obtain ⟨string, -, isString⟩ :=
    map_ok (Stored.field_settled .name (.requiredString false) stored isType member isField)
  exact isString ▸ .str string

end Entries

section Identifiers

theorem pipewireIdentifier_ok_iff {name : String} {value : PyValue} {number : Int} :
    pipewireIdentifier name value = .ok number ↔
      value = .int number ∧ 0 ≤ number ∧ number ≤ 0xFFFFFFFF := by
  constructor
  · intro accepted
    obtain ⟨result, identified, inRange⟩ := bind_ok accepted
    obtain ⟨isInt, notNegative⟩ := identifier_ok identified
    split at inRange
    · cases inRange
    · rename_i notGreater
      cases inRange
      exact ⟨isInt, by omega, by omega⟩
  · rintro ⟨isInt, notNegative, notGreater⟩
    have notLess : ¬ number < 0 := by omega
    have notAbove : ¬ 0xFFFFFFFF < number := by omega
    simp only [pipewireIdentifier, isInt, identifier, integer, bind, Except.bind, notLess, notAbove,
      if_false]

/-- An f-string can write the value: an integer has no more digits than the limit. -/
def Writable (value : PyValue) : Prop :=
  ∀ number : Int, value = .int number → number.natAbs < 10 ^ maxStrDigits

theorem writable_iff {value : PyValue} :
    Writable value ↔ ∃ written, Contents.shown value = some written := by
  cases value with
  | int number =>
      have onlyNumber : Writable (.int number) ↔ number.natAbs < 10 ^ maxStrDigits :=
        ⟨fun writable => writable number rfl, fun few other same => PyValue.int.inj same ▸ few⟩
      have isText : Contents.shown (.int number) = intText? number := rfl
      rw [onlyNumber, isText]
      by_cases few : number.natAbs < 10 ^ maxStrDigits
      · exact iff_of_true few ⟨_, intText?_of_lt few le_rfl⟩
      · rw [intText?_eq_none few]
        exact iff_of_false few (by simp)
  | _ =>
      refine iff_of_true ?_ ⟨_, rfl⟩
      intro number same
      cases same

/-- An identifier of PipeWire has ten digits at most. -/
theorem writable_identifier {number : Int} (inRange : 0 ≤ number ∧ number ≤ 0xFFFFFFFF) :
    Writable (.int number) :=
  writable_iff.mpr ⟨_, intText?_of_lt (show number.natAbs < 10 ^ 10 by omega) (by decide)⟩

end Identifiers

section Audio

variable {audio : AudioArguments}

def UsableItem (item : PyString × PyValue) : Prop := item.1 ≠ [] ∧ Usable item.2

theorem volumeProperty_usable {volume : Option PyValue} {written : AudioProperties}
    (made : volumeProperty volume = .ok written) : ∀ item ∈ written.expected, UsableItem item := by
  cases volume with
  | none =>
      cases made
      simp
  | some value =>
      obtain ⟨number, -, afterNumber⟩ := bind_ok made
      obtain ⟨single, -, isWritten⟩ := bind_ok afterNumber
      cases isWritten
      simp only [List.forall_mem_singleton]
      exact ⟨(by decide : text "volume" ≠ []), (Constructible.float single).usable⟩

theorem muteProperty_usable {mute : Option PyValue} {written : AudioProperties}
    (made : muteProperty mute = .ok written) : ∀ item ∈ written.expected, UsableItem item := by
  cases mute with
  | none =>
      cases made
      simp
  | some value =>
      obtain ⟨flag, -, isWritten⟩ := bind_ok made
      cases isWritten
      simp only [List.forall_mem_singleton]
      exact ⟨(by decide : text "mute" ≠ []), (Constructible.bool flag).usable⟩

theorem channelVolumesProperty_usable {volumes : Option PyValue} {written : AudioProperties}
    (made : channelVolumesProperty volumes = .ok written) :
    ∀ item ∈ written.expected, UsableItem item := by
  cases volumes with
  | none =>
      cases made
      simp
  | some value =>
      unfold channelVolumesProperty at made
      split at made
      · contradiction
      · rename_i given isGiven
        cases isGiven
        split at made
        · cases made
        · obtain ⟨numbers, -, afterNumbers⟩ := bind_ok made
          split at afterNumbers
          · cases afterNumbers
          · obtain ⟨singles, -, isWritten⟩ := bind_ok afterNumbers
            cases isWritten
            simp only [List.forall_mem_singleton]
            refine ⟨(by decide : text "channel_volumes" ≠ []), .tuple fun item member => ?_⟩
            obtain ⟨single, -, isItem⟩ := List.mem_map.mp member
            exact isItem ▸ (Constructible.float single).usable

theorem audioProperties_usable {written : AudioProperties}
    (made : audioProperties audio = .ok written) : ∀ item ∈ written.expected, UsableItem item := by
  obtain ⟨volume, volumeMade, afterVolume⟩ := bind_ok made
  obtain ⟨mute, muteMade, afterMute⟩ := bind_ok afterVolume
  obtain ⟨volumes, volumesMade, isWritten⟩ := bind_ok afterMute
  cases isWritten
  intro item member
  rcases List.mem_append.mp member with inFirst | inVolumes
  · rcases List.mem_append.mp inFirst with inVolume | inMute
    · exact volumeProperty_usable volumeMade item inVolume
    · exact muteProperty_usable muteMade item inMute
  · exact channelVolumesProperty_usable volumesMade item inVolumes

end Audio

section Selecting

variable {inputs : Inputs} {display : Spa.SpaValue → PyString} {call : CallArguments}
  {now : DateTime} {operation : MutationOperation} {parameterId selector : String}
  {snapshot selected profile route request save target : PyValue} {audio : AudioArguments}
  {selection : ParameterSelection} {device index : Int}

/-- The checked arguments of a selection: identifiers in range, and predicates that
compare fields of the entry that the target selects. -/
structure Selects (selector : String) (selected : PyValue) (selection : ParameterSelection)
    (device index : Int) (target : PyValue) : Prop where
  deviceId : selected.get .deviceId = .int device
  entryIndex : selected.get .index = .int index
  deviceInRange : 0 ≤ device ∧ device ≤ 0xFFFFFFFF
  indexInRange : 0 ≤ index ∧ index ≤ 0xFFFFFFFF
  isTarget : IsTarget .device (.int device) [(text selector, .int index)] target
  predicates : ∀ predicate ∈ selection.predicates, ∃ path expected,
    IsPredicate .equals target path expected predicate

theorem selectionTarget_made
    (made : mutationTarget .device (.int device) [(text selector, .int index)] = .ok target) :
    IsTarget .device (.int device) [(text selector, .int index)] target := by
  refine mutationTarget_made made (by simp) ?_ (.int _)
  simp only [List.forall_mem_singleton]
  exact .int _

theorem profileArguments_selects (made : profileArguments profile = .ok selection)
    (named : Frozen (profile.get .name)) :
    ∃ device index target, Selects "profile_index" profile selection device index target := by
  obtain ⟨⟨⟩, -, afterType⟩ := bind_ok made
  obtain ⟨device, deviceOk, afterDevice⟩ := bind_ok afterType
  obtain ⟨index, indexOk, afterIndex⟩ := bind_ok afterDevice
  obtain ⟨target, targetMade, afterTarget⟩ := bind_ok afterIndex
  obtain ⟨wanted, wantedMade, isSelection⟩ := bind_ok afterTarget
  cases isSelection
  obtain ⟨isDevice, deviceInRange⟩ := pipewireIdentifier_ok_iff.mp deviceOk
  obtain ⟨isIndex, indexInRange⟩ := pipewireIdentifier_ok_iff.mp indexOk
  rw [isDevice, isIndex] at targetMade
  have isTarget := selectionTarget_made targetMade
  exact ⟨device, index, target, isDevice, isIndex, deviceInRange, indexInRange, isTarget,
    selectionPredicates_made wantedMade isTarget.stored named⟩

theorem routeArguments_selects {spaDevice : Int}
    (made : routeArguments route save audio = .ok (spaDevice, selection))
    (named : Frozen (route.get .name)) : routeSpaDevice route = .ok spaDevice ∧
      ∃ device index target, Selects "route_index" route selection device index target := by
  obtain ⟨⟨⟩, -, afterType⟩ := bind_ok made
  obtain ⟨device, deviceOk, afterDevice⟩ := bind_ok afterType
  obtain ⟨index, indexOk, afterIndex⟩ := bind_ok afterDevice
  obtain ⟨saved, -, afterSave⟩ := bind_ok afterIndex
  obtain ⟨written, writtenMade, afterAudio⟩ := bind_ok afterSave
  obtain ⟨spa, spaRead, afterSpa⟩ := bind_ok afterAudio
  obtain ⟨target, targetMade, afterTarget⟩ := bind_ok afterSpa
  obtain ⟨chosen, chosenMade, afterChosen⟩ := bind_ok afterTarget
  obtain ⟨observed, observedMade, isSelection⟩ := bind_ok afterChosen
  cases isSelection
  obtain ⟨isDevice, deviceInRange⟩ := pipewireIdentifier_ok_iff.mp deviceOk
  obtain ⟨isIndex, indexInRange⟩ := pipewireIdentifier_ok_iff.mp indexOk
  rw [isDevice, isIndex] at targetMade
  have isTarget := selectionTarget_made targetMade
  refine ⟨spaRead, device, index, target, isDevice, isIndex, deviceInRange, indexInRange, isTarget,
    fun predicate member => ?_⟩
  rcases List.mem_append.mp member with inChosen | inObserved
  · exact selectionPredicates_made chosenMade isTarget.stored named predicate inChosen
  · obtain ⟨item, inItems, itemMade⟩ := exists_of_mem_mapM observedMade inObserved
    obtain ⟨notEmpty, usable⟩ := audioProperties_usable writtenMade item inItems
    exact ⟨_, _, equalsPredicate_made itemMade isTarget.stored (isPath_name notEmpty) usable⟩

/-- What the guard needs of a request: its predicates compare fields of the entry, and the
identifiers of the detached value can be written. -/
structure Compares (inputs : Inputs) (request snapshot selected : PyValue) : Prop where
  isRequest : IsRequest request
  answers : ∀ predicate ∈ predicates request, Answers inputs snapshot predicate
  deviceWritable : Writable (selected.get .deviceId)
  indexWritable : Writable (selected.get .index)

theorem Selects.request_compares
    (selects : Selects selector selected selection device index target)
    (created : parameterSelectionRequest display now call operation parameterId
      (selected.get .deviceId) selection = .ok request) (callBuilt : call.Built)
    (observed : Evaluable (snapshotObservation inputs snapshot target)) :
    Compares inputs request snapshot selected := by
  rw [selects.deviceId] at created
  obtain ⟨isRequest, isWanted⟩ := parameterSelectionRequest_made created callBuilt (.int _)
    fun predicate member => by
      obtain ⟨path, expected, isPredicate⟩ := selects.predicates predicate member
      exact ⟨isPredicate.stored, isPredicate.isA⟩
  refine ⟨isRequest, fun predicate member => ?_, ?_, ?_⟩
  · rw [isWanted] at member
    obtain ⟨path, expected, isPredicate⟩ := selects.predicates predicate member
    exact isPredicate.answers (by decide) observed
  · rw [selects.deviceId]
    exact writable_identifier selects.deviceInRange
  · rw [selects.entryIndex]
    exact writable_identifier selects.indexInRange

theorem profileRequest_compares (made : profileRequest display now call profile = .ok request)
    (callBuilt : call.Built) (built : Built .profile profile) (isSnapshot : IsSnapshot snapshot) :
    Compares inputs request snapshot profile := by
  obtain ⟨selection, checked, created⟩ := bind_ok made
  have named := Stored.name_frozen built.stored.1 built.stored.2 (by simp [checks]) (by decide)
  obtain ⟨device, index, target, selects⟩ := profileArguments_selects (mapError_ok checked) named
  refine selects.request_compares created callBuilt ?_
  rw [observation_profile selects.isTarget]
  exact evaluable_byKey isSnapshot .profiles .profile (by simp [checks]) (by decide) _ _

theorem routeRequest_compares {spaDevice : Int}
    (made : routeRequest display now call route save audio = .ok (spaDevice, request))
    (callBuilt : call.Built) (built : Built .route route) (isSnapshot : IsSnapshot snapshot) :
    routeSpaDevice route = .ok spaDevice ∧ Compares inputs request snapshot route := by
  obtain ⟨⟨chosenDevice, selection⟩, checked, afterArguments⟩ := bind_ok made
  obtain ⟨chosenRequest, created, isPair⟩ := bind_ok afterArguments
  cases isPair
  have named := Stored.name_frozen built.stored.1 built.stored.2 (by simp [checks]) (by decide)
  obtain ⟨spaRead, device, index, target, selects⟩ :=
    routeArguments_selects (mapError_ok checked) named
  refine ⟨spaRead, selects.request_compares created callBuilt ?_⟩
  rw [observation_route selects.isTarget]
  exact evaluable_byKey isSnapshot .routes .route (by simp [checks]) (by decide) _ _

end Selecting

end WyrePlumber.Runtime
