import Mathlib.Data.List.Perm.Basic
import WyrePlumber.Runtime.Arguments
import WyrePlumber.Runtime.DecoderTotality

/-!
# Tampered relationship lists

A serialized snapshot carries its unresolved relationships.  The constructor
compares a list that is given with the one it computes, but takes an empty list
for one that is not given.
-/

set_option autoImplicit false
set_option linter.constructorNameAsVariable false

namespace WyrePlumber.Runtime

open Python RecordValidation Results

def valueTypeText : PyValue → PyString
  | .runtime type _ => type.text
  | _ => []

def fromDict (order : SetOrder) (expected : ValueType) (document : PyValue) :
    Except PyError PyValue := do
  let decoded ← runtimeValueFromDict order document
  if decoded.isA expected then .ok decoded
  else .error (.decodeError (text "unexpected_value_type") (text "$")
    [.text (text "expected "), .repr (.str expected.text), .text (text ", received "),
      .repr (.str (valueTypeText decoded))])

/-- The document without its list of unresolved relationships. -/
def withoutList (items : List (PyString × PyValue)) : List (PyString × PyValue) :=
  items.filter fun item => item.1 ≠ FieldName.unresolvedRelationships.text

/-- A document whose contents make a snapshot, with a list that differs from the
relationships computed from these contents. -/
structure Tampered (order : SetOrder) (items : List (PyString × PyValue))
    (supplied : List PyValue) (snapshot : PyValue) (computed : List PyValue) : Prop where
  distinct : (items.map Prod.fst).Nodup
  given : items.lookup FieldName.unresolvedRelationships.text = some (.list supplied)
  restored : runtimeValueFromDict order (.dict (withoutList items)) = .ok snapshot
  isSnapshot : snapshot.isA .runtimeSnapshot = true
  computes : (contents snapshot.get).findUnresolvedRelationships = .ok computed
  differs : ∀ values, deserialize order [] (.list supplied) = .ok (.tuple values) →
    (PyValue.tuple values).eq (.tuple computed) = false

def Rejected (order : SetOrder) (items : List (PyString × PyValue)) : Prop :=
  ∃ code path message,
    fromDict order .runtimeSnapshot (.dict items) = .error (.decodeError code path message)

section Documents

theorem lookup_withoutList {items : List (PyString × PyValue)} {key : PyString}
    (different : key ≠ FieldName.unresolvedRelationships.text) :
    (withoutList items).lookup key = items.lookup key := by
  induction items with
  | nil => rfl
  | cons item rest inductionHypothesis =>
      unfold withoutList at inductionHypothesis ⊢
      rw [List.filter_cons]
      by_cases isKey : key = item.1
      · have kept : decide (item.1 ≠ FieldName.unresolvedRelationships.text) = true :=
          decide_eq_true (isKey ▸ different)
        rw [if_pos kept, List.lookup_cons, List.lookup_cons, isKey]
        simp
      · have notHere : (key == item.1) = false := beq_eq_false_iff_ne.mpr isKey
        split
        · rw [List.lookup_cons, List.lookup_cons, notHere]
          exact inductionHypothesis
        · rw [List.lookup_cons, notHere]
          exact inductionHypothesis

/-- A document with distinct keys around one of its items. -/
theorem split_of_lookup {items : List (PyString × PyValue)} {key : PyString} {value : PyValue}
    (distinct : (items.map Prod.fst).Nodup) (found : items.lookup key = some value) :
    ∃ before after, items = before ++ (key, value) :: after ∧
      items.filter (fun item => item.1 ≠ key) = before ++ after := by
  induction items with
  | nil => simp at found
  | cons item rest inductionHypothesis =>
      rw [List.map_cons, List.nodup_cons] at distinct
      rw [List.lookup_cons] at found
      by_cases isKey : key = item.1
      · have isItem : item = (key, value) := by
          rw [isKey, beq_self_eq_true] at found
          exact Prod.ext isKey.symm (Option.some.inj found)
        refine ⟨[], rest, by rw [isItem, List.nil_append], ?_⟩
        have keeps : ∀ other ∈ rest, decide (other.1 ≠ key) = true := by
          intro other member
          refine decide_eq_true fun same => distinct.1 ?_
          rw [← isKey, ← same]
          exact List.mem_map_of_mem member
        rw [List.filter_cons, isItem, if_neg (by simp), List.nil_append,
          List.filter_eq_self.mpr keeps]
      · rw [beq_eq_false_iff_ne.mpr isKey] at found
        obtain ⟨before, after, split, others⟩ := inductionHypothesis distinct.2 found
        refine ⟨item :: before, after, by rw [split, List.cons_append], ?_⟩
        rw [List.filter_cons, if_pos (by simpa using fun same => isKey same.symm), others,
          List.cons_append]

end Documents

section Contents

/-- A list of relationships that is no copy of the computed one is refused, an
empty one is taken. -/
theorem resolveRelationships_differing {snapshot : Contents} {default result : PyValue}
    {values computed : List PyValue} (accepted : snapshot.resolveRelationships default = .ok result)
    (computes : snapshot.findUnresolvedRelationships = .ok computed)
    (differs : (PyValue.tuple values).eq (.tuple computed) = false) :
    (values = [] → ∃ unresolved, snapshot.resolveRelationships (.tuple values) = .ok unresolved) ∧
      (values ≠ [] → ∃ error, snapshot.resolveRelationships (.tuple values) = .error error ∧
        error.isTypeOrValueError = true ∧ error.escape = some .value) := by
  obtain ⟨suppliedItems, -, afterSupplied⟩ := bind_ok accepted
  obtain ⟨indexed, indexesOk, -⟩ := bind_ok afterSupplied
  constructor
  · intro empty
    refine ⟨.tuple computed, ?_⟩
    subst empty
    have nothing : runtimeValues FieldName.unresolvedRelationships.text .unresolvedRelationship
        (.tuple []) = .ok (.tuple []) := rfl
    simp [Contents.resolveRelationships, nothing, indexesOk, computes, bind, Except.bind,
      requireValue, PyValue.items, PyValue.sequence?]
  · intro someValues
    unfold Contents.resolveRelationships
    cases checked : runtimeValues FieldName.unresolvedRelationships.text .unresolvedRelationship
        (.tuple values) with
    | error error =>
        refine ⟨error, rfl, ?_⟩
        change Except.map PyValue.tuple (values.mapM (runtimeItem
          FieldName.unresolvedRelationships.text .unresolvedRelationship)) = _ at checked
        cases traversed : values.mapM (runtimeItem FieldName.unresolvedRelationships.text
            .unresolvedRelationship) with
        | ok others =>
            rw [traversed] at checked
            cases checked
        | error itemError =>
            rw [traversed] at checked
            cases checked
            obtain ⟨before, item, after, -, -, here⟩ := mapM_error_iff.mp traversed
            unfold runtimeItem at here
            split at here
            · cases here
            · cases here
              exact ⟨rfl, rfl⟩
    | ok items =>
        have sameItems : items = .tuple values := by
          obtain ⟨others, traversed, isTuple⟩ := map_ok checked
          have same := mapM_ok_iff.mp traversed
          rw [← isTuple]
          congr 1
          clear checked traversed isTuple someValues differs
          induction same with
          | nil => rfl
          | cons itemOk _ inductionHypothesis =>
              rw [inductionHypothesis, runtimeItem_same itemOk]
        have refused : requireValue (items.items.isEmpty || items.eq (.tuple computed))
            (plain "serialized unresolved relationships do not match snapshot contents") =
            .error (.valueError
              (plain "serialized unresolved relationships do not match snapshot contents")) := by
          have notEmpty : values.isEmpty = false := by simpa using someValues
          rw [sameItems, differs]
          simp [requireValue, PyValue.items, PyValue.sequence?, notEmpty]
        refine ⟨.valueError
          (plain "serialized unresolved relationships do not match snapshot contents"), ?_, rfl, rfl⟩
        simp only [bind, Except.bind, indexesOk, computes, refused]

end Contents

section Construction

/-- The steps of a snapshot before the relationships. -/
def snapshotFront : List ClassStep := (checks .runtimeSnapshot).dropLast.map Check.step

theorem steps_runtimeSnapshot : steps .runtimeSnapshot = snapshotFront ++ [relationshipsStep] := rfl

theorem snapshotFront_untouched :
    ∀ step ∈ snapshotFront, FieldName.unresolvedRelationships ∉ step.footprint := by
  decide

variable {before after : List (FieldName × PyValue)} {snapshot : PyValue}

theorem construct_arguments {type : ValueType} {arguments : List (FieldName × PyValue)}
    {value : PyValue} (made : construct type arguments = .ok value) :
    (∀ argument ∈ arguments, argument.1 ∈ fieldNames type) ∧
      missingArguments type arguments = [] := by
  unfold construct at made
  split at made
  · cases made
  · rename_i known
    split at made
    · cases made
    · rename_i complete
      exact ⟨by simpa using known, by simpa using complete⟩

theorem initialRecord_insert (type : ValueType) {name : FieldName} {value : PyValue}
    (absent : name ∉ before.map Prod.fst) :
    initialRecord type (before ++ (name, value) :: after) =
      Function.update (initialRecord type (before ++ after)) name value := by
  funext other
  unfold initialRecord
  by_cases isName : other = name
  · have notBefore : before.lookup name = none := by
      rw [List.lookup_eq_none_iff]
      intro entry member
      exact bne_iff_ne.mpr fun same => absent (same ▸ List.mem_map_of_mem member)
    rw [isName, Function.update_self, List.lookup_append, notBefore]
    simp
  · rw [Function.update_of_ne isName, List.lookup_append, List.lookup_append, List.lookup_cons,
      beq_eq_false_iff_ne.mpr isName]

theorem missingArguments_insert (type : ValueType) (name : FieldName) (value : PyValue)
    (complete : missingArguments type (before ++ after) = []) :
    missingArguments type (before ++ (name, value) :: after) = [] := by
  rw [missingArguments, List.filter_eq_nil_iff] at complete ⊢
  intro spec member
  have present := complete spec member
  rw [Bool.and_eq_true, not_and] at present ⊢
  intro noDefault
  have found := present noDefault
  rw [List.lookup_append, Option.isNone_iff_eq_none] at found ⊢
  rw [List.lookup_cons]
  intro missing
  refine found ?_
  rw [Option.or_eq_none_iff] at missing ⊢
  refine ⟨missing.1, ?_⟩
  have missingAfter := missing.2
  split at missingAfter
  · cases missingAfter
  · exact missingAfter

/-- A snapshot with the list among its arguments: the list is compared with what
the same snapshot computes without it. -/
theorem construct_list (made : construct .runtimeSnapshot (before ++ after) = .ok snapshot)
    (absent : FieldName.unresolvedRelationships ∉ before.map Prod.fst) (list : PyValue) :
    (∃ default result, (contents snapshot.get).resolveRelationships default = .ok result) ∧
    (∀ unresolved, (contents snapshot.get).resolveRelationships list = .ok unresolved →
      ∃ value, construct .runtimeSnapshot
        (before ++ (.unresolvedRelationships, list) :: after) = .ok value) ∧
    ∀ error, (contents snapshot.get).resolveRelationships list = .error error →
      construct .runtimeSnapshot (before ++ (.unresolvedRelationships, list) :: after) =
        .error error := by
  obtain ⟨known, complete⟩ := construct_arguments made
  obtain ⟨record, finished, isSnapshot⟩ := construct_ok made
  rw [steps_runtimeSnapshot, runSteps_append] at finished
  obtain ⟨front, frontRan, lastRan⟩ := bind_ok finished
  obtain ⟨last, lastStep, isLast⟩ := runSteps_cons lastRan
  cases isLast
  obtain ⟨unresolved, resolved, isRecord⟩ := map_ok lastStep
  have sameContents : contents snapshot.get = contents front := by
    have same : ∀ name ∈ contentFields, snapshot.get name = front name := by
      intro name member
      have isField : name ∈ fieldNames .runtimeSnapshot := by
        revert name
        decide
      have different : name ≠ .unresolvedRelationships := by
        revert name
        decide
      rw [isSnapshot, get_toRuntime isField, ← isRecord, Function.update_of_ne different]
    simp only [contents, same .devices (by decide), same .nodes (by decide),
      same .ports (by decide), same .links (by decide), same .metadata (by decide),
      same .parameters (by decide), same .profiles (by decide), same .routes (by decide),
      same .defaults (by decide)]
  have updatedContents : contents (Function.update front .unresolvedRelationships list) =
      contents front := by
    simp [contents, Function.update]
  have constructs : construct .runtimeSnapshot
      (before ++ (.unresolvedRelationships, list) :: after) =
      (((contents front).resolveRelationships list).map (Function.update
        (Function.update front .unresolvedRelationships list) .unresolvedRelationships)).map
          (toRuntime .runtimeSnapshot (fieldNames .runtimeSnapshot)) := by
    have allKnown : ((before ++ (.unresolvedRelationships, list) :: after).all fun argument =>
        argument.1 ∈ fieldNames .runtimeSnapshot) = true := by
      have isField : FieldName.unresolvedRelationships ∈ fieldNames .runtimeSnapshot := by decide
      simp only [List.all_append, List.all_cons, Bool.and_eq_true, List.all_eq_true,
        decide_eq_true_eq]
      exact ⟨fun argument member => known argument (List.mem_append_left _ member), isField,
        fun argument member => known argument (List.mem_append_right _ member)⟩
    rw [construct, allKnown, missingArguments_insert _ _ _ complete, initialRecord_insert _ absent,
      steps_runtimeSnapshot, runSteps_append, runSteps_update snapshotFront_untouched frontRan]
    change ((runSteps [relationshipsStep] _).map _) = _
    congr 1
    rw [runSteps, relationshipsStep, Step.run, Function.update_self, updatedContents]
    cases (contents front).resolveRelationships list <;> rfl
  rw [sameContents]
  refine ⟨⟨_, unresolved, resolved⟩, ?_, ?_⟩
  · intro value accepted
    rw [constructs, accepted]
    exact ⟨_, rfl⟩
  · intro error refused
    rw [constructs, refused]
    rfl

end Construction

section Rejection

variable {order : SetOrder} {items before after : List (PyString × PyValue)} {type : ValueType}

theorem documentFields_list (list : PyValue) :
    documentFields .runtimeSnapshot
      (before ++ (FieldName.unresolvedRelationships.text, list) :: after) =
      documentFields .runtimeSnapshot before ++
        (.unresolvedRelationships, list) :: documentFields .runtimeSnapshot after := by
  have isField : fieldOf .runtimeSnapshot FieldName.unresolvedRelationships.text =
      some .unresolvedRelationships := fieldOf_text (by decide)
  have listFirst : documentFields .runtimeSnapshot
      ((FieldName.unresolvedRelationships.text, list) :: after) =
      (.unresolvedRelationships, list) :: documentFields .runtimeSnapshot after := by
    simp only [documentFields, List.filterMap_cons, isField, Option.map_some]
  rw [documentFields_append, listFirst]

/-- The walk meets the list once, among the fields it meets without the list. -/
theorem fieldItems_list {list : PyValue} (distinct : (items.map Prod.fst).Nodup)
    (split : items = before ++ (FieldName.unresolvedRelationships.text, list) :: after)
    (others : withoutList items = before ++ after) :
    ∃ first second, fieldItems order .runtimeSnapshot items =
        first ++ (.unresolvedRelationships, list) :: second ∧
      (first ++ second).Perm (fieldItems order .runtimeSnapshot (withoutList items)) ∧
      ((first ++ second).map Prod.fst).Nodup ∧
      FieldName.unresolvedRelationships ∉ first.map Prod.fst := by
  have othersDistinct : ((withoutList items).map Prod.fst).Nodup :=
    (List.filter_sublist.map Prod.fst).nodup distinct
  have walked : (fieldItems order .runtimeSnapshot items).Perm
      (documentFields .runtimeSnapshot items) := fieldItems_perm order distinct
  have walkedOthers : (fieldItems order .runtimeSnapshot (withoutList items)).Perm
      (documentFields .runtimeSnapshot (withoutList items)) := fieldItems_perm order othersDistinct
  have names : ((fieldItems order .runtimeSnapshot items).map Prod.fst).Nodup :=
    (walked.map Prod.fst).nodup_iff.mpr (documentFields_names distinct)
  have inDocument : documentFields .runtimeSnapshot items =
      documentFields .runtimeSnapshot before ++
        (.unresolvedRelationships, list) :: documentFields .runtimeSnapshot after := by
    rw [split]
    exact documentFields_list list
  have member : (FieldName.unresolvedRelationships, list) ∈
      fieldItems order .runtimeSnapshot items := by
    refine walked.symm.subset ?_
    rw [inDocument]
    exact List.mem_append_right _ List.mem_cons_self
  obtain ⟨first, second, isWalk⟩ := List.append_of_mem member
  have rest : (first ++ second).Perm (documentFields .runtimeSnapshot (withoutList items)) := by
    rw [others, documentFields_append]
    rw [isWalk, inDocument] at walked
    exact (List.perm_middle.symm.trans (walked.trans List.perm_middle)).cons_inv
  rw [isWalk, List.map_append, List.map_cons] at names
  refine ⟨first, second, isWalk, rest.trans walkedOthers.symm, ?_, ?_⟩
  · rw [List.map_append]
    exact (List.nodup_middle.mp names).of_cons
  · intro inFirst
    exact (List.nodup_append.mp names).2.2 _ inFirst _ List.mem_cons_self rfl

/-- The list changes nothing about the header of the envelope. -/
theorem header_list {list : PyValue} (split : items =
      before ++ (FieldName.unresolvedRelationships.text, list) :: after)
    (others : withoutList items = before ++ after)
    (header : Header (withoutList items) .runtimeSnapshot) : Header items .runtimeSnapshot where
  version := by
    rw [← header.version, checkSchemaVersion, checkSchemaVersion, lookup_withoutList (by decide)]
  valueType := by
    rw [← header.valueType, checkValueType, checkValueType, lookup_withoutList (by decide)]
  names := by
    have isKnown : (!isTag FieldName.unresolvedRelationships.text &&
        (fieldOf .runtimeSnapshot FieldName.unresolvedRelationships.text).isNone) = false := by
      rw [fieldOf_text (by decide), Option.isNone_some, Bool.and_false]
    have sameUnknown : unknownNames .runtimeSnapshot items =
        unknownNames .runtimeSnapshot (withoutList items) := by
      rw [others, split, unknownNames, unknownNames]
      simp only [List.map_append, List.map_cons, List.filter_append, List.filter_cons, isKnown,
        Bool.false_eq_true, if_false]
    rw [← header.names, checkNames, checkNames, sameUnknown]

theorem decodeEnvelope_header {decoded : List (PyString × Except PyError PyValue)}
    (header : Header items type) :
    decodeEnvelope order items decoded = payload order type decoded >>= decodeConstruct type := by
  simp only [decodeEnvelope, header.version, header.valueType, header.names, bind, Except.bind]

theorem decodeEnvelope_header_of_ok {decoded : List (PyString × Except PyError PyValue)}
    {value : PyValue} (restored : decodeEnvelope order items decoded = .ok value) :
    ∃ type arguments, Header items type ∧ payload order type decoded = .ok arguments ∧
      construct type arguments = .ok value := by
  obtain ⟨⟨⟩, version, afterVersion⟩ := bind_ok restored
  obtain ⟨type, valueType, afterType⟩ := bind_ok afterVersion
  obtain ⟨⟨⟩, names, afterNames⟩ := bind_ok afterType
  obtain ⟨arguments, decodedOk, constructed⟩ := bind_ok afterNames
  exact ⟨type, arguments, ⟨version, valueType, names⟩, decodedOk, decodeConstruct_ok constructed⟩

theorem exists_of_forall₂ {Item Value : Type} {Related : Item → Value → Prop} {items : List Item}
    {values : List Value} (related : List.Forall₂ Related items values) {item : Item}
    (member : item ∈ items) : ∃ value, Related item value := by
  induction related with
  | nil => cases member
  | cons here _ inductionHypothesis =>
      rcases List.mem_cons.mp member with isFirst | inRest
      · exact ⟨_, isFirst ▸ here⟩
      · exact inductionHypothesis inRest

theorem arguments_names {fields arguments : List (FieldName × PyValue)}
    (decoded : List.Forall₂ (fun item argument => argument.1 = item.1 ∧
      deserialize order [] item.2 = .ok argument.2) fields arguments) :
    arguments.map Prod.fst = fields.map Prod.fst := by
  induction decoded with
  | nil => rfl
  | cons same _ inductionHypothesis =>
      rw [List.map_cons, List.map_cons, same.1, inductionHypothesis]

theorem rejected_of_error {error : PyError}
    (failed : runtimeValueFromDict order (.dict items) = .error error) :
    Rejected order items ↔ error.escape = none := by
  rw [Rejected, fromDict, failed]
  cases error <;> simp [bind, Except.bind]

theorem not_rejected_of_ok {value : PyValue} (isSnapshot : value.isA .runtimeSnapshot = true)
    (restored : runtimeValueFromDict order (.dict items) = .ok value) : ¬ Rejected order items := by
  rintro ⟨code, path, message, failed⟩
  rw [fromDict, restored] at failed
  simp only [bind, Except.bind, isSnapshot, if_true] at failed
  cases failed

/-- A tampered document is rejected exactly when the list is not empty and
nothing escapes from its items, whatever the order in which sets are walked. -/
theorem rejected_iff (order : SetOrder) {supplied computed : List PyValue} {snapshot : PyValue}
    (tampered : Tampered order items supplied snapshot computed) :
    Rejected order items ↔ supplied ≠ [] ∧ ∀ kind, ¬ Escapes order kind (.list supplied) := by
  obtain ⟨earlier, later, split, others⟩ := split_of_lookup tampered.distinct tampered.given
  obtain ⟨type, arguments, headerOthers, payloadOthers, made⟩ :=
    decodeEnvelope_header_of_ok (show decodeEnvelope order (withoutList items)
      (deserializeItems order (text "$") (withoutList items)) = .ok snapshot from tampered.restored)
  have isType : type = .runtimeSnapshot := by
    obtain ⟨record, -, isValue⟩ := construct_ok made
    have isSnapshot := tampered.isSnapshot
    rw [isValue] at isSnapshot
    simpa [toRuntime, PyValue.isA] using isSnapshot
  subst isType
  have header : Header items .runtimeSnapshot := header_list split others headerOthers
  have decodes : runtimeValueFromDict order (.dict items) =
      payload order .runtimeSnapshot (deserializeItems order (text "$") items) >>=
        decodeConstruct .runtimeSnapshot := decodeEnvelope_header header
  -- the fields that the walk meets before and after the list, and their arguments
  obtain ⟨before, after, isWalk, sameOthers, names, notBefore⟩ :=
    @fieldItems_list order items earlier later _ tampered.distinct split others
  rw [payload_ok] at payloadOthers
  obtain ⟨reordered, decodedOthers, sameArguments⟩ :=
    List.perm_comp_forall₂ sameOthers payloadOthers
  obtain ⟨first, second, isArguments, ofBefore, ofAfter⟩ := forall₂_append decodedOthers
  subst isArguments
  have absent : FieldName.unresolvedRelationships ∉ first.map Prod.fst := by
    rw [arguments_names ofBefore]
    exact notBefore
  have othersMade : construct .runtimeSnapshot (first ++ second) = .ok snapshot := by
    rw [← arguments_names decodedOthers] at names
    rw [← construct_perm names sameArguments, made]
  cases decoded : deserialize order [] (.list supplied) with
  | error listError =>
      let path := text "$" ++ text "." ++ FieldName.unresolvedRelationships.text
      cases here : deserialize order path (.list supplied) with
      | ok list =>
          rw [pathless _ _ [] _ here] at decoded
          cases decoded
      | error error =>
          have failed : payload order .runtimeSnapshot (deserializeItems order (text "$") items) =
              .error error := by
            rw [payload_deserializeItems]
            refine mapM_error_iff.mpr ⟨_, _, _, isWalk, fun entry member => ?_, ?_⟩
            · obtain ⟨argument, entryOk⟩ := exists_of_forall₂ ofBefore member
              rw [pathless _ _ (text "$" ++ text "." ++ entry.1.text) _ entryOk.2]
              exact ⟨_, rfl⟩
            · rw [show deserialize order (text "$" ++ text "." ++ FieldName.unresolvedRelationships.text)
                (.list supplied) = .error error from here]
              rfl
          rw [failed] at decodes
          rw [rejected_of_error decodes]
          have escapes : ∀ kind, Escapes order kind (.list supplied) ↔ error.escape = some kind := by
            intro kind
            rw [← escaping_deserialize _ path kind, here, escaping_error]
          simp only [escapes]
          have given : supplied ≠ [] := by
            rintro rfl
            cases here
          constructor
          · intro isDecodeError
            refine ⟨given, fun kind same => ?_⟩
            rw [isDecodeError] at same
            cases same
          · intro nothing
            exact Option.eq_none_iff_forall_ne_some.mpr nothing.2
  | ok list =>
      obtain ⟨values, valuesOk, isTuple⟩ := map_ok decoded
      subst isTuple
      have payloadOk : payload order .runtimeSnapshot (deserializeItems order (text "$") items) =
          .ok (first ++ (.unresolvedRelationships, .tuple values) :: second) := by
        rw [payload_ok, isWalk]
        exact List.rel_append ofBefore (.cons ⟨rfl, decoded⟩ ofAfter)
      obtain ⟨⟨default, result, resolved⟩, accepts, refuses⟩ :=
        construct_list othersMade absent (.tuple values)
      obtain ⟨whenEmpty, whenGiven⟩ := resolveRelationships_differing resolved tampered.computes
        (tampered.differs values decoded)
      have sameEmpty : values = [] ↔ supplied = [] := by
        cases supplied with
        | nil =>
            cases valuesOk
            simp
        | cons item rest =>
            obtain ⟨firstValue, -, afterFirst⟩ := bind_ok valuesOk
            obtain ⟨others, -, whole⟩ := bind_ok afterFirst
            cases whole
            simp
      have quiet : ∀ kind, ¬ Escapes order kind (.list supplied) := by
        intro kind escapes
        have escaping := (escaping_deserialize _ [] kind).mpr escapes
        rw [decoded] at escaping
        exact escaping_ok _ escaping
      rw [payloadOk] at decodes
      by_cases empty : supplied = []
      · obtain ⟨unresolved, accepted⟩ := whenEmpty (sameEmpty.mpr empty)
        obtain ⟨value, constructed⟩ := accepts unresolved accepted
        have restored : runtimeValueFromDict order (.dict items) = .ok value := by
          rw [decodes]
          change decodeConstruct _ _ = _
          rw [decodeConstruct, constructed]
        exact iff_of_false (not_rejected_of_ok (construct_isA constructed) restored)
          fun nothing => nothing.1 empty
      · obtain ⟨error, refused, isCaught, isValue⟩ := whenGiven (empty ∘ sameEmpty.mp)
        have constructed := refuses error refused
        have failed : ∃ decodeError, runtimeValueFromDict order (.dict items) = .error decodeError ∧
            decodeError.escape = none := by
          rw [decodes]
          change ∃ decodeError, decodeConstruct _ _ = _ ∧ _
          rw [decodeConstruct, constructed]
          cases error with
          | typeError message | valueError message => exact ⟨_, rfl, rfl⟩
          | overflowError message => cases isCaught
          | decodeError code path message => exact ⟨_, rfl, rfl⟩
        obtain ⟨decodeError, isError, noEscape⟩ := failed
        exact iff_of_true ((rejected_of_error isError).mpr noEscape) ⟨empty, quiet⟩

end Rejection

section Documents

/-- A serialized snapshot of a node with a parameter that the snapshot lacks. -/
def danglingItems : List (PyString × PyValue) :=
  let tagged (type : ValueType) (items : List (PyString × PyValue)) : PyValue :=
    .dict (tags type ++ items)
  tags .runtimeSnapshot ++
    [(FieldName.generation.text, .int 1), (FieldName.sequence.text, .int 1),
      (FieldName.capturedAt.text, .str (text "2026-01-01T00:00:01Z")),
      (FieldName.health.text, tagged .connectionHealth
        [(FieldName.state.text, .str (text "connected")), (FieldName.generation.text, .int 1)]),
      (FieldName.nodes.text, .list [tagged .node
        [(FieldName.id.text, .int 7),
          (FieldName.parameterIds.text, .list [.str (text "Props")])]])]

def withList (supplied : List PyValue) : List (PyString × PyValue) :=
  danglingItems ++ [(FieldName.unresolvedRelationships.text, .list supplied)]

/-- Whether the list differs from what the snapshot computes. -/
def tampers (supplied : List PyValue) : Bool :=
  match runtimeValueFromDict .document (.dict (withoutList (withList supplied))),
      deserialize .document [] (.list supplied) with
  | .ok snapshot, .ok list =>
      match (contents snapshot.get).findUnresolvedRelationships with
      | .ok computed => snapshot.isA .runtimeSnapshot && !list.eq (.tuple computed)
      | .error _ => false
  | _, _ => false

theorem tampered_of_tampers {supplied : List PyValue} (isTampering : tampers supplied = true) :
    ∃ snapshot computed, Tampered .document (withList supplied) supplied snapshot computed := by
  unfold tampers at isTampering
  split at isTampering
  · rename_i snapshot list restored decoded
    split at isTampering
    · rename_i computed computes
      rw [Bool.and_eq_true, Bool.not_eq_true'] at isTampering
      have absent : danglingItems.lookup FieldName.unresolvedRelationships.text = none := by
        have isNone : (danglingItems.lookup FieldName.unresolvedRelationships.text).isNone =
            true := by decide +kernel
        simpa using isNone
      have distinct : ((withList supplied).map Prod.fst).Nodup := by
        have keys : (withList supplied).map Prod.fst = danglingItems.map Prod.fst ++
            [FieldName.unresolvedRelationships.text] := by simp [withList]
        rw [keys]
        decide +kernel
      refine ⟨snapshot, computed, distinct, ?_, restored, isTampering.1, computes, ?_⟩
      · simp [withList, List.lookup_append, absent]
      · intro values same
        rw [decoded, Except.ok.injEq] at same
        exact same ▸ isTampering.2
    · cases isTampering
  · cases isTampering

def fabricated : PyValue :=
  .dict (tags .unresolvedRelationship ++
    ([(FieldName.sourceType.text, .str (text "node")), (FieldName.sourceId.text, .int 7),
      (FieldName.relation.text, .str (text "device")),
      (FieldName.targetType.text, .str (text "device")), (FieldName.targetId.text, .int 999),
      (FieldName.reason.text, .str (text "fabricated"))] : List (PyString × PyValue)))

theorem fabricated_rejected : Rejected .document (withList [fabricated]) := by
  obtain ⟨snapshot, computed, tampered⟩ :=
    tampered_of_tampers (show tampers [fabricated] = true by decide +kernel)
  refine (rejected_iff .document tampered).mpr ⟨List.cons_ne_nil _ _, fun kind escapes => ?_⟩
  have decodes : (deserialize .document [] (.list [fabricated])).isOk = true := by decide +kernel
  have escaping := (escaping_deserialize _ [] kind).mpr escapes
  obtain ⟨error, failed, -⟩ := escaping
  rw [failed] at decodes
  cases decodes

theorem emptied_accepted : (∃ snapshot computed, Tampered .document (withList []) [] snapshot computed) ∧
    ¬ Rejected .document (withList []) := by
  refine ⟨tampered_of_tampers (show tampers [] = true by decide +kernel), ?_⟩
  rintro ⟨code, path, message, failed⟩
  have accepted : (fromDict .document .runtimeSnapshot (.dict (withList []))).isOk = true := by
    decide +kernel
  rw [failed] at accepted
  cases accepted

end Documents

end WyrePlumber.Runtime
