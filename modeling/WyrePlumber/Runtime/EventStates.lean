import WyrePlumber.Runtime.NativeEvents
import WyrePlumber.Runtime.PlainClasses

/-!
# Records in events and in snapshots

The same record read as a part of a snapshot and as the state of an event.  An event has
no other records, so that what a snapshot derives from them is missing in its state.
-/

set_option autoImplicit false
set_option linter.constructorNameAsVariable false

namespace WyrePlumber.Runtime

open Python Spa RecordValidation Results Snapshot

section Paths

/-! The paths of a reader stand in its errors only. -/

variable (path other : PyString)

theorem mapping_below (value : SpaValue) :
    Below (Snapshot.mapping value path) (Snapshot.mapping value other) := by
  unfold Snapshot.mapping
  split
  · split
    · exact Below.refl _
    · exact below_error _ _
  · exact below_error _ _

theorem sequence_below (value : SpaValue) :
    Below (Snapshot.sequence value path) (Snapshot.sequence value other) := by
  unfold Snapshot.sequence
  split
  · exact Below.refl _
  · exact below_error _ _

theorem string_below (value : SpaValue) (allowEmpty : Bool) :
    Below (Snapshot.string value path allowEmpty) (Snapshot.string value other allowEmpty) := by
  unfold Snapshot.string
  split
  · split
    · exact below_error _ _
    · exact Below.refl _
  · exact below_error _ _

theorem optionalString_below (value : SpaValue) :
    Below (Snapshot.optionalString value path) (Snapshot.optionalString value other) := by
  unfold Snapshot.optionalString
  split
  · exact Below.refl _
  · exact (string_below path other _ true).map _

theorem integer_below (value : SpaValue) :
    Below (Snapshot.integer value path) (Snapshot.integer value other) := by
  unfold Snapshot.integer
  split
  · exact Below.refl _
  · exact Below.refl _
  · exact below_error _ _

theorem identifier_below (value : SpaValue) :
    Below (Snapshot.identifier value path) (Snapshot.identifier value other) := by
  refine (integer_below path other value).bind fun number => ?_
  split
  · exact below_error _ _
  · exact Below.refl _

theorem required_below (record : Snapshot.Record) (name : String) :
    Below (Snapshot.required record name path) (Snapshot.required record name other) := by
  unfold Snapshot.required
  split
  · exact Below.refl _
  · exact below_error _ _

theorem requiredIdentifier_below (record : Snapshot.Record) (name : String) :
    Below (requiredIdentifier record name path) (requiredIdentifier record name other) :=
  (required_below path other record name).bind fun value => identifier_below _ _ value

theorem eachIndexed_below {Item Value : Type} {read otherRead : Nat → Item → Except PyError Value}
    (below : ∀ index otherIndex item, Below (read index item) (otherRead otherIndex item))
    (index otherIndex : Nat) (items : List Item) :
    Below (eachIndexed read index items) (eachIndexed otherRead otherIndex items) := by
  induction items generalizing index otherIndex with
  | nil => exact Below.refl _
  | cons item rest inductionHypothesis =>
      rw [eachIndexed, eachIndexed]
      refine (below index otherIndex item).bind fun value => ?_
      refine (inductionHypothesis (index + 1) (otherIndex + 1)).bind fun values => ?_
      exact Below.refl _

theorem stringSequence_below (value : SpaValue) :
    Below (stringSequence value path) (stringSequence value other) := by
  refine (sequence_below path other value).bind fun items => ?_
  exact eachIndexed_below (fun _ _ item => string_below _ _ item false) 0 0 items

theorem properties_below (record : Snapshot.Record) :
    Below (Snapshot.properties record path) (Snapshot.properties record other) :=
  mapping_below _ _ _

theorem propertyIdentifier_below (held : Snapshot.Record) (name : String) :
    Below (propertyIdentifier held name path) (propertyIdentifier held name other) := by
  unfold propertyIdentifier
  split
  · exact Below.refl _
  · split
    · exact (identifier_below path other _).map _
    · exact below_error _ _
  · exact (identifier_below path other _).map _

theorem wrapping_below {Value : Type} {first second : Except PyError Value} (code : String)
    (below : Below first second) : Below (wrapping code path first) (wrapping code other second) := by
  intro value given
  rw [below value (wrapping_ok given)]
  rfl

theorem parameterValue_below (index otherIndex : Nat) (value : SpaValue) :
    Below (parameterValue path index value) (parameterValue other otherIndex value) := by
  unfold parameterValue
  split
  · exact Below.refl _
  · exact below_error _ _

theorem normalizeRecord_below (cases : CaseTables) (record : Snapshot.Record) (values : List SpaValue) :
    Below (normalizeRecord cases path record values) (normalizeRecord cases other record values) := by
  refine (required_below path other record "owner_type").bind fun ownerType => ?_
  refine (string_below _ _ ownerType false).bind fun ownerType => ?_
  refine (required_below path other record "owner_id").bind fun ownerId => ?_
  refine (identifier_below _ _ ownerId).bind fun ownerId => ?_
  refine (required_below path other record "id").bind fun parameterId => ?_
  refine (string_below _ _ parameterId false).bind fun parameterId => ?_
  refine (required_below path other record "permissions").bind fun permissions => ?_
  refine (string_below _ _ permissions true).bind fun permissions => ?_
  exact Below.refl _

theorem parameter_below (cases : CaseTables) (index otherIndex : Nat) (item : SpaValue) :
    Below (Snapshot.parameter cases index item) (Snapshot.parameter cases otherIndex item) := by
  refine (mapping_below _ _ item).bind fun record => ?_
  refine (required_below _ _ record "values").bind fun values => ?_
  refine (sequence_below _ _ values).bind fun values => ?_
  refine (eachIndexed_below (fun _ _ => parameterValue_below _ _ _ _) 0 0 values).bind fun parsed => ?_
  exact wrapping_below _ _ _ (normalizeRecord_below _ _ cases record parsed)

theorem port_below (index otherIndex : Nat) (item : SpaValue) :
    Below (Snapshot.port index item) (Snapshot.port otherIndex item) := by
  refine (mapping_below _ _ item).bind fun record => ?_
  refine (properties_below _ _ record).bind fun held => ?_
  refine (required_below _ _ record "direction").bind fun direction => ?_
  refine (integer_below _ _ direction).bind fun direction => ?_
  refine (propertyIdentifier_below _ _ held "node.id").bind fun nodeId => ?_
  split
  · exact below_error _ _
  · refine (required_below _ _ record "id").bind fun id => ?_
    refine (identifier_below _ _ id).bind fun id => ?_
    refine (stringSequence_below _ _ _).bind fun parameterIds => ?_
    exact Below.refl _

theorem link_below (index otherIndex : Nat) (item : SpaValue) :
    Below (Snapshot.link index item) (Snapshot.link otherIndex item) := by
  refine (mapping_below _ _ item).bind fun record => ?_
  refine (properties_below _ _ record).bind fun held => ?_
  refine (integer_below _ _ _).bind fun state => ?_
  refine (requiredIdentifier_below _ _ record "id").bind fun id => ?_
  refine (requiredIdentifier_below _ _ record "output_node_id").bind fun outputNodeId => ?_
  refine (requiredIdentifier_below _ _ record "output_port_id").bind fun outputPortId => ?_
  refine (requiredIdentifier_below _ _ record "input_node_id").bind fun inputNodeId => ?_
  refine (requiredIdentifier_below _ _ record "input_port_id").bind fun inputPortId => ?_
  exact Below.refl _

theorem metadataEntry_below (index otherIndex : Nat) (item : SpaValue) :
    Below (metadataEntry path index item) (metadataEntry other otherIndex item) := by
  refine (mapping_below _ _ item).bind fun entry => ?_
  refine (requiredIdentifier_below _ _ entry "subject").bind fun subject => ?_
  refine (required_below _ _ entry "key").bind fun key => ?_
  refine (string_below _ _ key false).bind fun key => ?_
  refine (optionalString_below _ _ _).bind fun typeName => ?_
  refine (optionalString_below _ _ _).bind fun value => ?_
  exact Below.refl _

theorem metadataOf_below (index otherIndex : Nat) (item : SpaValue) :
    Below (metadataOf index item) (metadataOf otherIndex item) := by
  refine (mapping_below _ _ item).bind fun record => ?_
  refine (sequence_below _ _ _).bind fun entries => ?_
  refine (eachIndexed_below (fun _ _ => metadataEntry_below _ _ _ _) 0 0 entries).bind fun entries => ?_
  refine (requiredIdentifier_below _ _ record "id").bind fun id => ?_
  refine (optionalString_below _ _ _).bind fun name => ?_
  refine (properties_below _ _ record).bind fun held => ?_
  exact Below.refl _

mutual

/-- A value that is detached under one path is so under every path. -/
theorem validateDetached_below (path other : PyString) (value : SpaValue) :
    Below (validateDetached path value) (validateDetached other value) := by
  cases value with
  | list items =>
      rw [validateDetached, validateDetached]
      exact validateAll_below path other 0 0 items
  | dict items =>
      rw [validateDetached, validateDetached]
      exact validateItems_below path other items
  | object header properties =>
      rw [validateDetached, validateDetached]
      exact validateItems_below path other properties
  | other className => exact below_error _ _
  | none | bool | int | member | float | str | bytes => exact Below.refl _
termination_by structural value

theorem validateAll_below (path other : PyString) (index otherIndex : Nat) (items : List SpaValue) :
    Below (validateAll path index items) (validateAll other otherIndex items) := by
  cases items with
  | nil => exact Below.refl _
  | cons item rest =>
      rw [validateAll, validateAll]
      refine (validateDetached_below _ _ item).bind fun _ => ?_
      exact validateAll_below path other (index + 1) (otherIndex + 1) rest
termination_by structural items

theorem validateItems_below (path other : PyString) (items : List (SpaKey × SpaValue)) :
    Below (validateItems path items) (validateItems other items) := by
  cases items with
  | nil => exact Below.refl _
  | cons item rest =>
      obtain ⟨key, value⟩ := item
      cases key with
      | name name =>
          rw [validateItems, validateItems]
          refine (validateDetached_below _ _ value).bind fun _ => ?_
          exact validateItems_below path other rest
      | number => exact below_error _ _
termination_by structural items

end

end Paths

section Identifiers

/-- The identifier of a record. -/
def recordId (record : SpaValue) : Option Int :=
  (record.mapping?.bind fun items => getField items "id").bind SpaValue.integral?

theorem integral_of_integer {given : SpaValue} {path : PyString} {number : Int}
    (read : Snapshot.integer given path = .ok number) : given.integral? = some number := by
  unfold Snapshot.integer at read
  split at read
  · rw [← Except.ok.inj read]
    rfl
  · rw [← Except.ok.inj read]
    rfl
  · cases read

theorem recordId_of_required {item : SpaValue} {record : Snapshot.Record} {path other : PyString}
    {given : SpaValue} {id : Int} (isRecord : Snapshot.mapping item path = .ok record)
    (isGiven : Snapshot.required record "id" path = .ok given)
    (isId : Snapshot.identifier given other = .ok id) : recordId item = some id := by
  rw [recordId, (mapping_read isRecord).1, Option.bind_some, required_read isGiven, Option.bind_some,
    integral_of_integer (identifier_read isId).1]

end Identifiers

section Derived

variable {profileKeys routeKeys : List ActiveKey} {ports : List PyValue} {index : Nat}
  {item : SpaValue} {value : PyValue}

theorem integers_eq_nil {ids : List Int} : integers [] = integers ids ↔ ids = [] := by
  cases ids <;> simp [integers]

/-- Identifiers that a class accepts are kept. -/
theorem identifiers_normalized {name : PyString} {ids : List Int} {value : PyValue}
    (normalized : FieldKind.identifiers.normalize name (integers ids) = .ok value) :
    value = integers ids := by
  obtain ⟨values, checked, isValue⟩ := map_ok normalized
  have related := mapM_ok_iff.mp checked
  have same : values = ids.map .int := by
    clear checked isValue normalized
    induction ids generalizing values with
    | nil =>
        cases related
        rfl
    | cons id rest inductionHypothesis =>
        cases related with
        | cons first later =>
            obtain ⟨number, accepted, isNumber⟩ := map_ok first
            rw [inductionHypothesis _ later, ← isNumber, ← (Runtime.identifier_ok accepted).1]
            rfl
  rw [← isValue, same]
  rfl

theorem portIdsOf_nil (isInput : Bool) (nodeId : Int) : portIdsOf [] isInput nodeId = [] := by
  simp [portIdsOf]

/-- A node in an event has no ports. -/
theorem node_alone (read : Snapshot.node ports index item = .ok value) :
    ∃ other id, Snapshot.node [] 0 item = .ok other ∧ recordId item = some id ∧
      (other = value ↔ portIdsOf ports true id = [] ∧ portIdsOf ports false id = []) := by
  obtain ⟨record, isRecord, afterRecord⟩ := bind_ok read
  obtain ⟨given, isGiven, afterGiven⟩ := bind_ok afterRecord
  obtain ⟨id, isId, afterId⟩ := bind_ok afterGiven
  obtain ⟨held, isHeld, afterHeld⟩ := bind_ok afterId
  obtain ⟨state, isState, afterState⟩ := bind_ok afterHeld
  obtain ⟨deviceId, isDevice, afterDevice⟩ := bind_ok afterState
  obtain ⟨error, isError, afterError⟩ := bind_ok afterDevice
  obtain ⟨parameterIds, isParameters, made⟩ := bind_ok afterError
  obtain ⟨other, otherMade, isSame⟩ := construct_changed (by decide) made
    (alike_replaced [(.inputPortIds, integers []), (.outputPortIds, integers [])] _) (by
      intro name kind member isChanged
      simp only [List.map_cons, List.map_nil, List.mem_cons, List.not_mem_nil, or_false] at isChanged
      rcases isChanged with rfl | rfl <;> simp [checks, eachField, enumField] at member <;>
        rw [member] <;> exact ⟨integers [], rfl⟩)
  have reread : Snapshot.node [] 0 item = .ok other := by
    rw [Snapshot.node, mapping_below _ _ item record isRecord, ok_bind,
      required_below _ _ record "id" given isGiven, ok_bind, identifier_below _ _ given id isId,
      ok_bind, properties_below _ _ record held isHeld, ok_bind,
      integer_below _ _ _ state isState, ok_bind,
      propertyIdentifier_below _ _ held "device.id" deviceId isDevice, ok_bind,
      optionalString_below _ _ _ error isError, ok_bind,
      stringSequence_below _ _ _ parameterIds isParameters, ok_bind, portIdsOf_nil, portIdsOf_nil]
    exact otherMade
  have inputs := identifiers_normalized
    (construct_field .inputPortIds .identifiers made (by simp [checks]) (by decide))
  have outputs := identifiers_normalized
    (construct_field .outputPortIds .identifiers made (by simp [checks]) (by decide))
  have otherInputs := identifiers_normalized
    (construct_field .inputPortIds .identifiers otherMade (by simp [checks]) (by decide))
  have otherOutputs := identifiers_normalized
    (construct_field .outputPortIds .identifiers otherMade (by simp [checks]) (by decide))
  refine ⟨other, id, reread, recordId_of_required isRecord isGiven isId, ?_⟩
  · rw [isSame, ← integers_eq_nil, ← integers_eq_nil, ← inputs, ← outputs]
    constructor
    · intro same
      exact ⟨otherInputs.symm.trans (same .inputPortIds (by decide) (by simp)),
        otherOutputs.symm.trans (same .outputPortIds (by decide) (by simp))⟩
    · rintro ⟨sameInputs, sameOutputs⟩ name - isChanged
      simp only [List.map_cons, List.map_nil, List.mem_cons, List.not_mem_nil, or_false] at isChanged
      rcases isChanged with rfl | rfl
      · exact otherInputs.trans sameInputs
      · exact otherOutputs.trans sameOutputs

/-- A device in an event has no profiles and no routes. -/
theorem device_alone (read : Snapshot.device profileKeys routeKeys index item = .ok value) :
    ∃ other id, Snapshot.device [] [] 0 item = .ok other ∧ recordId item = some id ∧
      (other = value ↔ indexesOf profileKeys id = [] ∧ indexesOf routeKeys id = []) := by
  obtain ⟨record, isRecord, afterRecord⟩ := bind_ok read
  obtain ⟨given, isGiven, afterGiven⟩ := bind_ok afterRecord
  obtain ⟨id, isId, afterId⟩ := bind_ok afterGiven
  obtain ⟨held, isHeld, afterHeld⟩ := bind_ok afterId
  obtain ⟨parameterIds, isParameters, made⟩ := bind_ok afterHeld
  obtain ⟨other, otherMade, isSame⟩ := construct_changed (by decide) made
    (alike_replaced [(.profileIds, integers []), (.routeIds, integers [])] _) (by
      intro name kind member isChanged
      simp only [List.map_cons, List.map_nil, List.mem_cons, List.not_mem_nil, or_false] at isChanged
      rcases isChanged with rfl | rfl <;> simp [checks, eachField] at member <;>
        rw [member] <;> exact ⟨integers [], rfl⟩)
  have reread : Snapshot.device [] [] 0 item = .ok other := by
    rw [Snapshot.device, mapping_below _ _ item record isRecord, ok_bind,
      required_below _ _ record "id" given isGiven, ok_bind, identifier_below _ _ given id isId,
      ok_bind, properties_below _ _ record held isHeld, ok_bind,
      stringSequence_below _ _ _ parameterIds isParameters, ok_bind]
    exact otherMade
  have profiles := identifiers_normalized
    (construct_field .profileIds .identifiers made (by simp [checks]) (by decide))
  have routes := identifiers_normalized
    (construct_field .routeIds .identifiers made (by simp [checks]) (by decide))
  have otherProfiles := identifiers_normalized
    (construct_field .profileIds .identifiers otherMade (by simp [checks]) (by decide))
  have otherRoutes := identifiers_normalized
    (construct_field .routeIds .identifiers otherMade (by simp [checks]) (by decide))
  refine ⟨other, id, reread, recordId_of_required isRecord isGiven isId, ?_⟩
  · rw [isSame, ← integers_eq_nil, ← integers_eq_nil, ← profiles, ← routes]
    constructor
    · intro same
      exact ⟨otherProfiles.symm.trans (same .profileIds (by decide) (by simp)),
        otherRoutes.symm.trans (same .routeIds (by decide) (by simp))⟩
    · rintro ⟨sameProfiles, sameRoutes⟩ name - isChanged
      simp only [List.map_cons, List.map_nil, List.mem_cons, List.not_mem_nil, or_false] at isChanged
      rcases isChanged with rfl | rfl
      · exact otherProfiles.trans sameProfiles
      · exact otherRoutes.trans sameRoutes

end Derived

section Owners

variable (cases : CaseTables)

/-- The node that a port names in its properties. -/
def portNode (record : SpaValue) : Option Int :=
  match record.mapping?.bind fun items => (getOr items "properties" (.dict [])).mapping? with
  | some held => (propertyIdentifier held "node.id" []).toOption.join
  | none => none

/-- The class of the values of a parameter that a snapshot gathers. -/
def selectionType? (parameterId : PyString) : Option ValueType :=
  if parameterId = text "Profile" ∨ parameterId = text "EnumProfile" then some .profile
  else if parameterId = text "Route" ∨ parameterId = text "EnumRoute" then some .route
  else none

/-- The owner of a parameter record with profiles or routes. -/
def selectionOwner (record : SpaValue) : Option Int := do
  let items ← record.mapping?
  let parameterId ← (getField items "id").bind Snapshot.string?
  let _ ← selectionType? parameterId
  let values ← (getField items "values").bind SpaValue.sequence?
  if values = [] then none else (getField items "owner_id").bind SpaValue.integral?

variable {cases} {ports : List PyValue} {index : Nat} {item : SpaValue} {value : PyValue}

theorem int_of_identifier {name : PyString} {number : Int} {value : PyValue}
    (normalized : FieldKind.identifier.normalize name (.int number) = .ok value) :
    value = .int number := by
  obtain ⟨result, accepted, isValue⟩ := map_ok normalized
  rw [← isValue, ← (Runtime.identifier_ok accepted).1]

/-- The number of the direction of a port. -/
def portSide (record : SpaValue) : Option Int :=
  (record.mapping?.bind fun items => getField items "direction").bind SpaValue.integral?

theorem enumeration_kept {members : List PyString} {problem : PyValue → Message} {name : PyString}
    {given value : PyValue}
    (normalized : (FieldKind.enumeration members problem).normalize name given = .ok value) :
    value = given := enumeration_same normalized

/-- What a decoded port says of its node and its direction. -/
theorem port_read (read : Snapshot.port index item = .ok value) :
    ∃ id nodeId direction, value.get .id = .int id ∧ value.get .nodeId = .int nodeId ∧
      value.get .direction = .member (portDirection direction) ∧
      portNode item = some nodeId ∧ portSide item = some direction := by
  obtain ⟨record, isRecord, afterRecord⟩ := bind_ok read
  obtain ⟨held, isHeld, afterHeld⟩ := bind_ok afterRecord
  obtain ⟨given, isGiven, afterGiven⟩ := bind_ok afterHeld
  obtain ⟨direction, isDirection, afterDirection⟩ := bind_ok afterGiven
  obtain ⟨nodeId, isNode, afterNode⟩ := bind_ok afterDirection
  cases nodeId with
  | none => cases afterNode
  | some nodeId =>
      obtain ⟨givenId, -, afterGivenId⟩ := bind_ok afterNode
      obtain ⟨id, -, afterId⟩ := bind_ok afterGivenId
      obtain ⟨parameterIds, -, made⟩ := bind_ok afterId
      have keptId := int_of_identifier (construct_field .id .identifier made (by simp [checks])
        (by decide))
      have keptNode := int_of_identifier (construct_field .nodeId .identifier made
        (by simp [checks]) (by decide))
      have keptDirection := enumeration_kept (construct_field .direction
        (.enumeration (StringEnum.texts PortDirection) (invalidValue "direction")) made
        (by simp [checks, enumField]) (by decide))
      have sameHeld : (record.lookup (.name (text "properties")) |>.getD (.dict [])).mapping? =
          some held := (mapping_read isHeld).1
      have found := propertyIdentifier_below _ [] held "node.id" _ isNode
      refine ⟨id, nodeId, direction, keptId, keptNode, keptDirection, ?_, ?_⟩
      · simp only [portNode, (mapping_read isRecord).1, Option.bind_some, getOr, getField, sameHeld,
          found]
        rfl
      · rw [portSide, (mapping_read isRecord).1, Option.bind_some, required_read isGiven,
          Option.bind_some, integral_of_integer isDirection]

/-- The node of a decoded port. -/
theorem port_node (read : Snapshot.port index item = .ok value) :
    portNode item = some (Snapshot.intField value .nodeId) := by
  obtain ⟨id, nodeId, direction, -, isNode, -, named, -⟩ := port_read read
  rw [named, Snapshot.intField, isNode]
  rfl

theorem portIdsOf_eq_nil {isInput : Bool} {nodeId : Int} :
    portIdsOf ports isInput nodeId = [] ↔ ∀ port ∈ ports,
      (port.get .direction).isMember PortDirection.input = isInput → Snapshot.intField port .nodeId ≠ nodeId := by
  have sorted : ∀ ids : List Int, ids.mergeSort = [] ↔ ids = [] := by
    intro ids
    rw [← List.length_eq_zero_iff, List.length_mergeSort, List.length_eq_zero_iff]
  rw [portIdsOf, sorted, List.map_eq_nil_iff, List.filter_eq_nil_iff]
  simp only [Bool.and_eq_true, beq_iff_eq, decide_eq_true_eq, not_and, ne_eq]

/-- A node has no derived ports when no port names it. -/
theorem noPorts_iff {records : List SpaValue} {nodeId : Int}
    (read : List.Forall₂ (fun record port => ∃ index, Snapshot.port index record = .ok port)
      records ports) :
    (portIdsOf ports true nodeId = [] ∧ portIdsOf ports false nodeId = []) ↔
      ∀ record ∈ records, portNode record ≠ some nodeId := by
  have others : (portIdsOf ports true nodeId = [] ∧ portIdsOf ports false nodeId = []) ↔
      ∀ port ∈ ports, Snapshot.intField port .nodeId ≠ nodeId := by
    rw [portIdsOf_eq_nil, portIdsOf_eq_nil]
    constructor
    · rintro ⟨inputs, outputs⟩ port member
      cases isInput : (port.get .direction).isMember PortDirection.input with
      | true => exact inputs port member isInput
      | false => exact outputs port member isInput
    · intro all
      exact ⟨fun port member _ => all port member, fun port member _ => all port member⟩
  rw [others]
  clear others
  induction read with
  | nil => simp
  | cons here _ inductionHypothesis =>
      obtain ⟨index, isPort⟩ := here
      rw [List.forall_mem_cons, List.forall_mem_cons]
      refine and_congr ?_ inductionHypothesis
      rw [port_node isPort, ne_eq, ne_eq, Option.some.injEq]

/-- The keys of the gathered values. -/
theorem mem_merged {values : List PyValue} {found : List (ActiveKey × PyValue)} {key : ActiveKey} :
    key ∈ (values.foldl mergeActive found).map Prod.fst ↔
      key ∈ found.map Prod.fst ∨ ∃ value ∈ values, activeKey value = key := by
  induction values generalizing found with
  | nil => simp
  | cons value rest inductionHypothesis =>
      have step : key ∈ (mergeActive found value).map Prod.fst ↔
          key ∈ found.map Prod.fst ∨ activeKey value = key := by
        have setKeys : key ∈ (Dictionary.set found (activeKey value) value).map Prod.fst ↔
            key ∈ found.map Prod.fst ∨ activeKey value = key := by
          rw [Dictionary.mem_keys_set, or_comm, eq_comm]
        unfold mergeActive
        split
        · exact setKeys
        · rename_i previous isPrevious
          split
          · exact setKeys
          · obtain ⟨before, after, isSplit, -⟩ := List.lookup_eq_some_iff.mp isPrevious
            refine ⟨.inl, fun either => either.elim id fun same => ?_⟩
            rw [isSplit, ← same]
            simp
      rw [List.foldl_cons, inductionHypothesis, step, List.exists_mem_cons_iff, or_assoc]

theorem indexesOf_merged {type : ValueType} {parameters : List PyValue} {deviceId : Int} :
    indexesOf ((merged type parameters).map Prod.fst) deviceId = [] ↔
      ∀ parameter ∈ parameters, ∀ value ∈ (parameter.get .values).items,
        value.isA type = true → Snapshot.intField value .deviceId ≠ deviceId := by
  rw [indexesOf, List.map_eq_nil_iff, List.filter_eq_nil_iff, merged]
  simp only [mem_merged, List.map_nil, List.not_mem_nil, false_or, decide_eq_true_eq,
    List.mem_filter, List.mem_flatMap, forall_exists_index, and_imp]
  constructor
  · intro none parameter inParameters value inValues isType
    exact none (activeKey value) value parameter inParameters inValues isType rfl
  · intro all key value parameter inParameters inValues isType isKey
    rw [← isKey]
    exact all parameter inParameters value inValues isType

end Owners

section Selections

variable {cases : CaseTables} {value : PyValue}

/-- A made value is of its class and of no other. -/
theorem isA_construct {type expected : ValueType} {arguments : List (FieldName × PyValue)} :
    Yields (fun value => value.isA expected = decide (type = expected)) (construct type arguments) := by
  intro value made
  obtain ⟨record, -, isValue⟩ := construct_ok made
  rw [isValue, toRuntime, PyValue.isA]

theorem isA_normalizeSpaJson {expected : ValueType} (value : SpaValue) :
    Yields (fun value => value.isA expected = false) (normalizeSpaJson value) := by
  cases value with
  | member | none | bool | int | float | str | bytes =>
      rw [normalizeSpaJson]
      exact yields_ok rfl
  | dict | object | list =>
      rw [normalizeSpaJson]
      exact yields_map fun _ => rfl
  | other =>
      rw [normalizeSpaJson]
      exact yields_error _

theorem normalizeAudioProperties_isA {expected : ValueType} (value : SpaValue) :
    Yields (fun value => value.isA expected = decide (ValueType.audioProperties = expected))
      (normalizeAudioProperties cases value) := by
  unfold normalizeAudioProperties
  refine yields_bind fun items => ?_
  dsimp only
  iterate 9 refine yields_bind fun _ => ?_
  exact isA_construct

theorem normalizeAudioFormat_isA {expected : ValueType} (value : SpaValue) :
    Yields (fun value => value.isA expected = decide (ValueType.audioFormat = expected))
      (normalizeAudioFormat cases value) := by
  unfold normalizeAudioFormat
  refine yields_bind fun items => ?_
  dsimp only
  iterate 8 refine yields_bind fun _ => ?_
  exact isA_construct

/-- A value of a class that a snapshot gathers, of an owner. -/
def OwnedBy (type : ValueType) (ownerId : Int) (value : PyValue) : Prop :=
  (∀ expected, value.isA expected = decide (type = expected)) ∧
    value.get .deviceId = .int ownerId ∧ ∃ index, value.get .index = .int index

theorem ownedBy_construct {type : ValueType} {arguments : List (FieldName × PyValue)}
    {ownerId index : Int} (isChecked : Check.field .deviceId .identifier ∈ checks type)
    (isField : FieldName.deviceId ∈ fieldNames type)
    (isChecked' : Check.field .index .identifier ∈ checks type)
    (isField' : FieldName.index ∈ fieldNames type)
    (given : initialRecord type arguments .deviceId = .int ownerId)
    (given' : initialRecord type arguments .index = .int index) :
    Yields (OwnedBy type ownerId) (construct type arguments) := by
  intro value made
  have owner := construct_field .deviceId .identifier made isChecked isField
  have place := construct_field .index .identifier made isChecked' isField'
  rw [given] at owner
  rw [given'] at place
  exact ⟨fun expected => isA_construct value made, int_of_identifier owner, index,
    int_of_identifier place⟩

theorem normalizeProfile_owned {ownerId : Int} {active : Bool} (value : SpaValue) :
    Yields (OwnedBy .profile ownerId) (normalizeProfile cases (.int ownerId) active value) := by
  unfold normalizeProfile
  refine yields_bind fun items => yields_bind fun index => yields_bind fun name => ?_
  dsimp only
  iterate 7 refine yields_bind fun _ => ?_
  exact ownedBy_construct (by simp [checks]) (by decide) (by simp [checks]) (by decide) rfl rfl

theorem normalizeRoute_owned {ownerId : Int} {active : Bool} (value : SpaValue) :
    Yields (OwnedBy .route ownerId) (normalizeRoute cases (.int ownerId) active value) := by
  unfold normalizeRoute
  refine yields_bind fun items => yields_bind fun index => yields_bind fun direction =>
    yields_bind fun name => ?_
  dsimp only
  iterate 11 refine yields_bind fun _ => ?_
  exact ownedBy_construct (by simp [checks]) (by decide) (by simp [checks]) (by decide) rfl rfl

/-- What a parameter makes of one of its values. -/
def SelectedAs (selection : Option ValueType) (ownerId : Int) (value : PyValue) : Prop :=
  match selection with
  | some type => OwnedBy type ownerId value
  | none => value.isA .profile = false ∧ value.isA .route = false

theorem parameterNormalizer_selected {ownerId : Int} {parameterId : PyString} (value : SpaValue) :
    Yields (SelectedAs (selectionType? parameterId) ownerId)
      (parameterNormalizer cases (.int ownerId) parameterId value) := by
  unfold parameterNormalizer
  by_cases isProps : parameterId = text "Props"
  · rw [if_pos isProps, selectionType?, if_neg (by rw [isProps]; decide),
      if_neg (by rw [isProps]; decide)]
    exact fun made given => ⟨normalizeAudioProperties_isA value made given,
      normalizeAudioProperties_isA value made given⟩
  rw [if_neg isProps]
  by_cases isFormat : parameterId = text "Format" ∨ parameterId = text "EnumFormat"
  · have noProfile : ¬ (parameterId = text "Profile" ∨ parameterId = text "EnumProfile") := by
      rcases isFormat with same | same <;> rw [same] <;> decide
    have noRoute : ¬ (parameterId = text "Route" ∨ parameterId = text "EnumRoute") := by
      rcases isFormat with same | same <;> rw [same] <;> decide
    rw [if_pos isFormat, selectionType?, if_neg noProfile, if_neg noRoute]
    exact fun made given => ⟨normalizeAudioFormat_isA value made given,
      normalizeAudioFormat_isA value made given⟩
  rw [if_neg isFormat, selectionType?]
  split
  · exact normalizeProfile_owned value
  split
  · exact normalizeRoute_owned value
  · exact fun made given => ⟨isA_normalizeSpaJson value made given,
      isA_normalizeSpaJson value made given⟩

theorem isA_contractValue {value result : PyValue} (kept : contractValue value = .ok result) :
    (∀ type, result.isA type = value.isA type) ∧
      ∀ type, value.isA type = true → result = value := by
  cases value with
  | runtime type fields =>
      rw [← Except.ok.inj kept]
      exact ⟨fun _ => rfl, fun _ _ => rfl⟩
  | none | bool | int | str | frozenDict =>
      rw [← Except.ok.inj kept]
      exact ⟨fun _ => rfl, fun _ _ => rfl⟩
  | float value =>
      change (if value.isFinite then _ else _) = _ at kept
      split at kept
      · rw [← Except.ok.inj kept]
        exact ⟨fun _ => rfl, fun _ _ => rfl⟩
      · cases kept
  | dict | list | tuple =>
      simp only [contractValue, freezeJson] at kept
      obtain ⟨items, -, isResult⟩ := map_ok kept
      rw [← isResult]
      refine ⟨fun _ => rfl, fun type isType => ?_⟩
      cases isType
  | _ => cases kept

theorem selectedAs_contractValue {selection : Option ValueType} {ownerId : Int}
    {value result : PyValue} (selected : SelectedAs selection ownerId value)
    (kept : contractValue value = .ok result) : SelectedAs selection ownerId result := by
  obtain ⟨sameClass, same⟩ := isA_contractValue kept
  cases selection with
  | some type =>
      have isType : value.isA type = true := by rw [selected.1 type, decide_eq_true_eq]
      rw [same type isType]
      exact selected
  | none => exact ⟨(sameClass _).trans selected.1, (sameClass _).trans selected.2⟩

theorem eachIndexed_length {Item Value : Type} {read : Nat → Item → Except PyError Value}
    {index : Nat} {items : List Item} {values : List Value}
    (finished : eachIndexed read index items = .ok values) : values.length = items.length :=
  (eachIndexed_ok finished).length_eq.symm

/-- The values of a decoded parameter, one for each raw value. -/
theorem parameter_values {index : Nat} {item : SpaValue}
    (read : Snapshot.parameter cases index item = .ok value) :
    ∃ parameterId ownerId raw kept,
      (item.mapping?.bind fun items => getField items "id").bind Snapshot.string? = some parameterId ∧
      (item.mapping?.bind fun items => getField items "owner_id").bind SpaValue.integral? = some ownerId ∧
      (item.mapping?.bind fun items => getField items "values").bind SpaValue.sequence? = some raw ∧
      value.get .values = .tuple kept ∧ kept.length = raw.length ∧
      ∀ held ∈ kept, SelectedAs (selectionType? parameterId) ownerId held := by
  obtain ⟨record, isRecord, afterRecord⟩ := bind_ok read
  obtain ⟨givenValues, hasValues, afterValues⟩ := bind_ok afterRecord
  obtain ⟨raw, isRaw, afterRaw⟩ := bind_ok afterValues
  obtain ⟨parsed, isParsed, wrapped⟩ := bind_ok afterRaw
  obtain ⟨givenType, -, afterGivenType⟩ := bind_ok (wrapping_ok wrapped)
  obtain ⟨ownerType, -, afterType⟩ := bind_ok afterGivenType
  obtain ⟨givenOwner, hasOwner, afterGivenOwner⟩ := bind_ok afterType
  obtain ⟨ownerId, isOwner, afterOwner⟩ := bind_ok afterGivenOwner
  obtain ⟨givenId, hasId, afterGivenId⟩ := bind_ok afterOwner
  obtain ⟨parameterId, isId, afterId⟩ := bind_ok afterGivenId
  obtain ⟨givenPermissions, -, afterGivenPermissions⟩ := bind_ok afterId
  obtain ⟨permissions, -, afterPermissions⟩ := bind_ok afterGivenPermissions
  obtain ⟨parameter, isParameter, afterParameter⟩ := bind_ok afterPermissions
  obtain ⟨normalized, isNormalized, made⟩ := bind_ok isParameter
  have ofValues := construct_field .values .contractValues made (by simp [checks]) (by decide)
  obtain ⟨kept, isKept, keptValues⟩ := map_ok ofValues
  have sameValues : value.get .values = parameter.get .values := by
    split at afterParameter
    · have again := construct_field .values .contractValues afterParameter (by simp [checks])
        (by decide)
      exact Except.ok.inj (again.symm.trans (FieldKind.normalize_settling .contractValues _ ofValues))
    · cases afterParameter
  have isString : givenId = .str parameterId := by
    unfold Snapshot.string at isId
    split at isId
    · split at isId
      · cases isId
      · rw [Except.ok.inj isId]
    · cases isId
  refine ⟨parameterId, ownerId, raw, kept, ?_, ?_, ?_, ?_, ?_, ?_⟩
  · rw [(mapping_read isRecord).1, Option.bind_some, required_read hasId, isString]
    rfl
  · rw [(mapping_read isRecord).1, Option.bind_some, required_read hasOwner, Option.bind_some]
    exact integral_of_integer (identifier_read isOwner).1
  · rw [(mapping_read isRecord).1, Option.bind_some, required_read hasValues, Option.bind_some]
    exact sequence_read isRaw
  · rw [sameValues, ← keptValues]
  · rw [← (mapM_ok_iff.mp isKept).length_eq, ← (mapM_ok_iff.mp isNormalized).length_eq,
      eachIndexed_length isParsed]
  · intro held member
    obtain ⟨before, inNormalized, isHeld⟩ := exists_of_mem_mapM isKept member
    obtain ⟨given, -, isGiven⟩ := exists_of_mem_mapM isNormalized inNormalized
    exact selectedAs_contractValue (parameterNormalizer_selected given before isGiven) isHeld

theorem selectionType?_cases {parameterId : PyString} {type : ValueType}
    (isType : selectionType? parameterId = some type) : type = .profile ∨ type = .route := by
  unfold selectionType? at isType
  split at isType
  · exact .inl (Option.some.inj isType).symm
  · split at isType
    · exact .inr (Option.some.inj isType).symm
    · cases isType

/-- A decoded parameter has a profile or a route of an owner when its record says so. -/
theorem parameter_selects {index : Nat} {item : SpaValue} {deviceId : Int}
    (read : Snapshot.parameter cases index item = .ok value) :
    (∀ held ∈ (value.get .values).items, held.isA .profile = true ∨ held.isA .route = true →
      Snapshot.intField held .deviceId ≠ deviceId) ↔ selectionOwner item ≠ some deviceId := by
  obtain ⟨parameterId, ownerId, raw, kept, hasId, hasOwner, hasValues, isValues, sameLength,
    selected⟩ := parameter_values read
  have isItems : (value.get .values).items = kept := by rw [isValues]; rfl
  obtain ⟨items, isMapping⟩ : ∃ items, item.mapping? = some items := by
    cases found : item.mapping? with
    | none => rw [found] at hasId; cases hasId
    | some items => exact ⟨items, rfl⟩
  rw [isMapping, Option.bind_some] at hasId hasOwner hasValues
  have owner : selectionOwner item =
      ((selectionType? parameterId).bind fun _ => if raw = [] then none else some ownerId) := by
    simp only [selectionOwner, isMapping, hasId, hasValues, hasOwner, Option.bind_eq_bind,
      Option.bind_some]
  rw [owner, isItems]
  cases isType : selectionType? parameterId with
  | none =>
      rw [isType] at selected
      constructor
      · intro _ same
        cases same
      · intro _ held member either
        have neither := selected held member
        rcases either with isProfile | isRoute
        · exact absurd (isProfile.symm.trans neither.1) (by decide)
        · exact absurd (isRoute.symm.trans neither.2) (by decide)
  | some type =>
      rw [isType] at selected
      cases kept with
      | nil =>
          have isNil : raw = [] := List.length_eq_zero_iff.mp sameLength.symm
          simp [isNil]
      | cons first rest =>
          have notNil : raw ≠ [] := by
            intro isNil
            rw [isNil] at sameLength
            cases sameLength
          have ofKept : ∀ held ∈ first :: rest, (held.isA .profile = true ∨ held.isA .route = true) ∧
              Snapshot.intField held .deviceId = ownerId := by
            intro held member
            have owned := selected held member
            refine ⟨?_, by rw [Snapshot.intField, owned.2.1]; rfl⟩
            rw [owned.1, owned.1, decide_eq_true_eq, decide_eq_true_eq]
            exact selectionType?_cases isType
          rw [Option.bind_some, if_neg notNil, ne_eq, Option.some.injEq]
          constructor
          · intro none same
            have ofFirst := ofKept first List.mem_cons_self
            exact none first List.mem_cons_self ofFirst.1 (ofFirst.2.trans same)
          · intro different held member _ same
            exact different ((ofKept held member).2.symm.trans same)

theorem exists_of_mem_eachIndexed {Item Value : Type} {read : Nat → Item → Except PyError Value}
    {index : Nat} {items : List Item} {values : List Value}
    (finished : eachIndexed read index items = .ok values) {value : Value} (member : value ∈ values) :
    ∃ place, ∃ item ∈ items, read place item = .ok value := by
  have related := eachIndexed_ok finished
  clear finished
  induction related with
  | nil => cases member
  | cons here _ inductionHypothesis =>
      rcases List.mem_cons.mp member with isFirst | inRest
      · obtain ⟨place, isValue⟩ := here
        exact ⟨place, _, List.mem_cons_self, isFirst ▸ isValue⟩
      · obtain ⟨place, item, inItems, isValue⟩ := inductionHypothesis inRest
        exact ⟨place, item, List.mem_cons_of_mem _ inItems, isValue⟩

/-- The parameter of a mixer holds audio properties. -/
theorem mixerParameter_values {path : PyString} {node mixer : Snapshot.Record}
    {extra : List (PyString × PyValue)} (made : mixerParameter path node mixer extra = .ok value) :
    ∀ held ∈ (value.get .values).items, held.isA .profile = false ∧ held.isA .route = false := by
  obtain ⟨givenOwner, -, afterGivenOwner⟩ := bind_ok made
  obtain ⟨ownerId, -, afterOwner⟩ := bind_ok afterGivenOwner
  obtain ⟨givenVolume, -, afterGivenVolume⟩ := bind_ok afterOwner
  obtain ⟨volume, -, afterVolume⟩ := bind_ok afterGivenVolume
  obtain ⟨givenMute, -, afterGivenMute⟩ := bind_ok afterVolume
  obtain ⟨mute, -, afterMute⟩ := bind_ok afterGivenMute
  obtain ⟨audio, isAudio, built⟩ := bind_ok afterMute
  obtain ⟨kept, isKept, keptValues⟩ := map_ok
    (construct_field .values .contractValues built (by simp [checks]) (by decide))
  rw [← keptValues]
  intro held member
  obtain ⟨before, inGiven, isHeld⟩ := exists_of_mem_mapM isKept member
  obtain rfl : before = audio := List.mem_singleton.mp inGiven
  have sameClass := (isA_contractValue isHeld).1
  rw [sameClass, sameClass]
  exact ⟨isA_construct _ isAudio, isA_construct _ isAudio⟩

/-- The mixers give no profiles and no routes. -/
theorem mixers_select_nothing {nodes : SpaValue} {mixers : List PyValue}
    (read : mixerParameters nodes = .ok mixers) {parameter : PyValue} (member : parameter ∈ mixers) :
    ∀ held ∈ (parameter.get .values).items, held.isA .profile = false ∧ held.isA .route = false := by
  obtain ⟨records, -, afterRecords⟩ := bind_ok read
  obtain ⟨found, isFound, whole⟩ := bind_ok afterRecords
  rw [← Except.ok.inj whole, List.mem_flatten] at member
  obtain ⟨list, inFound, inList⟩ := member
  obtain ⟨place, item, -, isList⟩ := exists_of_mem_eachIndexed isFound inFound
  obtain ⟨node, -, afterNode⟩ := bind_ok isList
  split at afterNode
  · rw [← Except.ok.inj afterNode] at inList
    cases inList
  · obtain ⟨mixer, -, afterMixer⟩ := bind_ok afterNode
    obtain ⟨base, -, afterBase⟩ := bind_ok afterMixer
    obtain ⟨step, -, afterStep⟩ := bind_ok afterBase
    obtain ⟨made, isMade, isSingle⟩ := bind_ok afterStep
    rw [← Except.ok.inj isSingle, List.mem_singleton] at inList
    rw [inList]
    exact mixerParameter_values (wrapping_ok isMade)

/-- A device has no derived profiles and routes when no parameter record gives one. -/
theorem noSelections_iff {items : Snapshot.Record} {parts : Parts} {records : List SpaValue}
    {deviceId : Int} (read : PartsRead cases items parts)
    (isRecords : (payloadField items "parameters").sequence? = some records) :
    (indexesOf (parts.profiles.map Prod.fst) deviceId = [] ∧
      indexesOf (parts.routes.map Prod.fst) deviceId = []) ↔
      ∀ record ∈ records, selectionOwner record ≠ some deviceId := by
  obtain ⟨given, isGiven, isNormalized⟩ := bind_ok read.readParameters
  obtain rfl : records = given :=
    Option.some.inj (isRecords.symm.trans (sequence_read isGiven))
  have related := eachIndexed_ok isNormalized
  have fromNormalized : (∀ record ∈ records, selectionOwner record ≠ some deviceId) ↔
      ∀ parameter ∈ read.normalized, ∀ held ∈ (parameter.get .values).items,
        held.isA .profile = true ∨ held.isA .route = true → Snapshot.intField held .deviceId ≠ deviceId := by
    clear isNormalized isRecords isGiven
    generalize read.normalized = normalized at related
    induction related with
    | nil => simp
    | cons here _ inductionHypothesis =>
        obtain ⟨index, isParameter⟩ := here
        rw [List.forall_mem_cons, List.forall_mem_cons]
        exact and_congr (parameter_selects isParameter).symm inductionHypothesis
  rw [Parts.profiles, Parts.routes, indexesOf_merged, indexesOf_merged, fromNormalized,
    read.allParameters]
  constructor
  · rintro ⟨profiles, routes⟩ parameter member held inHeld (isProfile | isRoute)
    · exact profiles parameter (List.mem_append_left _ member) held inHeld isProfile
    · exact routes parameter (List.mem_append_left _ member) held inHeld isRoute
  · intro all
    constructor
    · intro parameter member held inHeld isProfile
      rcases List.mem_append.mp member with inNormalized | inMixers
      · exact all parameter inNormalized held inHeld (.inl isProfile)
      · exact absurd isProfile (by
          rw [(mixers_select_nothing read.readMixers inMixers held inHeld).1]; decide)
    · intro parameter member held inHeld isRoute
      rcases List.mem_append.mp member with inNormalized | inMixers
      · exact all parameter inNormalized held inHeld (.inr isRoute)
      · exact absurd isRoute (by
          rw [(mixers_select_nothing read.readMixers inMixers held inHeld).2]; decide)

end Selections

section Kinds

/-- The kinds of records that a snapshot and an event share. -/
inductive RecordKind where
  | device | node | port | link | metadata | parameter
  deriving DecidableEq

namespace RecordKind

/-- The field of a payload with the records of a kind. -/
def payloadName : RecordKind → String
  | device => "devices"
  | node => "nodes"
  | port => "ports"
  | link => "links"
  | metadata => "metadata"
  | parameter => "parameters"

/-- The field of a snapshot with their values. -/
def snapshotField : RecordKind → FieldName
  | device => .devices
  | node => .nodes
  | port => .ports
  | link => .links
  | metadata => .metadata
  | parameter => .parameters

def objectKind : RecordKind → RuntimeObjectKind
  | device => .device
  | node => .node
  | port => .port
  | link => .link
  | metadata => .metadata
  | parameter => .parameter

/-- The kind of the event that reports a change. -/
def changeKind : RecordKind → RuntimeEventKind
  | parameter => .parameterChanged
  | _ => .objectChanged

/-- The records of a kind in a payload. -/
def records (kind : RecordKind) (items : Snapshot.Record) : List SpaValue :=
  ((payloadField items kind.payloadName).sequence?).getD []

/-- The values of a kind in a snapshot. -/
def values (kind : RecordKind) (snapshot : PyValue) : List PyValue :=
  (snapshot.get kind.snapshotField).items

/-- The payload derives nothing for a record from other records: no profile or route of the
device is in its parameters, no port names the node. -/
def Underived (kind : RecordKind) (items : Snapshot.Record) (record : SpaValue) : Prop :=
  match kind with
  | device => ∀ other ∈ parameter.records items, selectionOwner other ≠ recordId record
  | node => ∀ other ∈ port.records items, portNode other ≠ recordId record
  | _ => True

/-- The payload of the event that a record of the kind has changed. -/
def changedEvent (kind : RecordKind) (generation sequence : Nat) (occurredAt : PyString)
    (objectId record : SpaValue) : SpaValue :=
  .dict [field "payload_version" (.int 1), field "generation" (.int generation),
    field "sequence" (.int sequence), field "occurred_at" (.str occurredAt),
    field "kind" (.str (StringEnum.text kind.changeKind)),
    field "object_kind" (.str (StringEnum.text kind.objectKind)), field "object_id" objectId,
    field "current" record, field "previous" .none, field "requires_resnapshot" (.bool false),
    field "reason" .none]

end RecordKind

end Kinds

section Events

variable {cases : CaseTables} {items : Snapshot.Record} {snapshot value : PyValue} {record : SpaValue}

/-- An instance of some class. -/
def IsRuntime (value : PyValue) : Prop := ∃ type fields, value = .runtime type fields

theorem isRuntime_construct {type : ValueType} {arguments : List (FieldName × PyValue)} :
    Yields IsRuntime (construct type arguments) := by
  intro value made
  obtain ⟨record, -, isValue⟩ := construct_ok made
  exact ⟨type, _, isValue⟩

theorem isRuntime_device (record : SpaValue) : Yields IsRuntime (Snapshot.device [] [] 0 record) := by
  unfold Snapshot.device
  iterate 5 refine yields_bind fun _ => ?_
  exact isRuntime_construct

theorem isRuntime_node (record : SpaValue) : Yields IsRuntime (Snapshot.node [] 0 record) := by
  unfold Snapshot.node
  iterate 8 refine yields_bind fun _ => ?_
  exact isRuntime_construct

theorem isRuntime_port (record : SpaValue) : Yields IsRuntime (Snapshot.port 0 record) := by
  unfold Snapshot.port
  iterate 5 refine yields_bind fun _ => ?_
  split
  · exact yields_error _
  · iterate 3 refine yields_bind fun _ => ?_
    exact isRuntime_construct

theorem isRuntime_link (record : SpaValue) : Yields IsRuntime (Snapshot.link 0 record) := by
  unfold Snapshot.link
  iterate 9 refine yields_bind fun _ => ?_
  exact isRuntime_construct

theorem isRuntime_metadata (record : SpaValue) : Yields IsRuntime (metadataOf 0 record) := by
  unfold metadataOf
  iterate 6 refine yields_bind fun _ => ?_
  exact isRuntime_construct

theorem isRuntime_parameter (record : SpaValue) :
    Yields IsRuntime (Snapshot.parameter cases 0 record) := by
  unfold Snapshot.parameter
  iterate 4 refine yields_bind fun _ => ?_
  intro value wrapped
  have normalizes : ∀ path record values,
      Yields IsRuntime (normalizeRecord cases path record values) := by
    intro path record values
    unfold normalizeRecord
    iterate 9 refine yields_bind fun _ => ?_
    split
    · exact isRuntime_construct
    · exact yields_error _
  exact normalizes _ _ _ value (wrapping_ok wrapped)

/-- The items of a sequence and the values that are read from them, side by side. -/
theorem read_of_zip {read : Nat → SpaValue → Except PyError PyValue} {given : SpaValue}
    {path : PyString} {values others : List PyValue} {value : PyValue}
    (finished : (do
      let items ← Snapshot.sequence given path
      eachIndexed read 0 items) = .ok values)
    (observed : (record, value) ∈ (given.sequence?.getD []).zip (values ++ others)) :
    ∃ index, read index record = .ok value := by
  obtain ⟨items, isItems, each⟩ := bind_ok finished
  have sameLength := eachIndexed_length each
  have zipped : items.zip (values ++ others) = items.zip values := by
    have split := @List.zip_append _ _ items [] values others sameLength.symm
    simpa using split
  rw [sequence_read isItems, Option.getD_some, zipped] at observed
  exact List.forall₂_zip (eachIndexed_ok each) observed

theorem read_of_zip_all {read : Nat → SpaValue → Except PyError PyValue} {given : SpaValue}
    {path : PyString} {values : List PyValue} {value : PyValue}
    (finished : (do
      let items ← Snapshot.sequence given path
      eachIndexed read 0 items) = .ok values)
    (observed : (record, value) ∈ (given.sequence?.getD []).zip values) :
    ∃ index, read index record = .ok value := by
  rw [← List.append_nil values] at observed
  exact read_of_zip finished observed

theorem exists_mapping {Value : Type} {path : PyString}
    {next : Snapshot.Record → Except PyError Value} {value : Value}
    (finished : (Snapshot.mapping record path >>= next) = .ok value) :
    ∃ path fields, Snapshot.mapping record path = .ok fields := by
  obtain ⟨fields, isMapping, -⟩ := bind_ok finished
  exact ⟨path, fields, isMapping⟩

/-- A record of a snapshot read again as the state of an event. -/
theorem state_of_zip (kind : RecordKind) (generation : Int)
    (decoded : runtimeSnapshotFromPayload cases (.dict items) = .ok snapshot)
    (observed : (record, value) ∈ (kind.records items).zip (kind.values snapshot)) :
    ∃ read state, stateReader cases kind.changeKind kind.objectKind generation = some read ∧
      (∃ path fields, Snapshot.mapping record path = .ok fields) ∧
      read record = .ok state ∧ IsRuntime state ∧ (state = value ↔ kind.Underived items record) := by
  obtain ⟨found, isFound, ⟨decoding⟩⟩ := exists_decoding decoded
  obtain rfl : items = found := Option.some.inj isFound
  obtain ⟨read⟩ := exists_partsRead decoding.readParts
  have holds := snapshotValue_holds decoding.built
  cases kind with
  | device =>
      rw [RecordKind.values, RecordKind.snapshotField, holds.devices] at observed
      obtain ⟨index, isValue⟩ := read_of_zip_all read.readDevices observed
      obtain ⟨state, id, isState, isId, same⟩ := device_alone isValue
      obtain ⟨given, isGiven, -⟩ := bind_ok read.readParameters
      refine ⟨_, state, rfl, exists_mapping isState, isState, isRuntime_device record state isState, same.trans ?_⟩
      rw [noSelections_iff read (sequence_read isGiven), RecordKind.Underived, isId,
        RecordKind.records, RecordKind.payloadName, sequence_read isGiven]
      rfl
  | node =>
      rw [RecordKind.values, RecordKind.snapshotField, holds.nodes] at observed
      obtain ⟨index, isValue⟩ := read_of_zip_all read.readNodes observed
      obtain ⟨state, id, isState, isId, same⟩ := node_alone isValue
      obtain ⟨given, isGiven, each⟩ := bind_ok read.readPorts
      refine ⟨_, state, rfl, exists_mapping isState, isState, isRuntime_node record state isState, same.trans ?_⟩
      rw [noPorts_iff (eachIndexed_ok each), RecordKind.Underived, isId, RecordKind.records,
        RecordKind.payloadName, sequence_read isGiven]
      rfl
  | port =>
      rw [RecordKind.values, RecordKind.snapshotField, holds.ports] at observed
      obtain ⟨index, isValue⟩ := read_of_zip_all read.readPorts observed
      have isState := port_below index 0 record value isValue
      exact ⟨_, value, rfl, exists_mapping isState, isState, isRuntime_port record value isState, by simp [RecordKind.Underived]⟩
  | link =>
      rw [RecordKind.values, RecordKind.snapshotField, holds.links] at observed
      obtain ⟨index, isValue⟩ := read_of_zip_all read.readLinks observed
      have isState := link_below index 0 record value isValue
      exact ⟨_, value, rfl, exists_mapping isState, isState, isRuntime_link record value isState, by simp [RecordKind.Underived]⟩
  | metadata =>
      rw [RecordKind.values, RecordKind.snapshotField, holds.metadata] at observed
      obtain ⟨index, isValue⟩ := read_of_zip_all read.readMetadata observed
      have isState := metadataOf_below index 0 record value isValue
      exact ⟨_, value, rfl, exists_mapping isState, isState, isRuntime_metadata record value isState,
        by simp [RecordKind.Underived]⟩
  | parameter =>
      rw [RecordKind.values, RecordKind.snapshotField, holds.parameters, read.allParameters] at observed
      obtain ⟨index, isValue⟩ := read_of_zip read.readParameters observed
      have isState := parameter_below cases index 0 record value isValue
      exact ⟨_, value, rfl, exists_mapping isState, isState, isRuntime_parameter record value isState,
        by simp [RecordKind.Underived]⟩

/-- The arguments of the event of a changed object. -/
def changedArguments (kind : RecordKind) (generation sequence : Nat) (occurredAt : PyString)
    (objectId state : PyValue) : List (FieldName × PyValue) :=
  [(.generation, .int generation), (.sequence, .int sequence), (.occurredAt, .str occurredAt),
    (.kind, .member kind.changeKind), (.objectKind, .member kind.objectKind), (.objectId, objectId),
    (.current, state), (.previous, .none), (.requiresResnapshot, .bool false), (.reason, .none)]

/-- The event of a changed object is accepted with a state of some class. -/
theorem changed_constructs (kind : RecordKind) {generation sequence : Nat}
    {occurredAt stamped : PyString} {objectId id state : PyValue}
    (timed : Runtime.timestamp (.str occurredAt) = .ok stamped)
    (identified : Runtime.identity FieldName.objectId.text objectId = .ok id)
    (isRuntime : IsRuntime state) :
    ∃ event, construct .runtimeEvent
      (changedArguments kind generation sequence occurredAt objectId state) = .ok event ∧
      event.get .current = state := by
  obtain ⟨type, fields, isState⟩ := isRuntime
  have sameId := identity_same identified
  rw [sameId] at identified
  have nonNegative : ∀ (name : PyString) (number : Nat),
      FieldKind.identifier.normalize name (.int number) = .ok (.int number) := by
    intro name number
    have notNegative : ¬ (number : Int) < 0 := by omega
    simp only [FieldKind.normalize, Runtime.identifier, Runtime.integer, ok_bind, if_neg notNegative]
    rfl
  have stampedAt : FieldKind.timestamp.normalize FieldName.occurredAt.text (.str occurredAt) =
      .ok (.str stamped) := by
    rw [FieldKind.normalize, timed]
    rfl
  have keptState : contractValue state = .ok state := by
    rw [isState]
    rfl
  have run : runSteps (steps .runtimeEvent) (initialRecord .runtimeEvent
      (changedArguments kind generation sequence occurredAt objectId state)) =
      .ok (Function.update (initialRecord .runtimeEvent
        (changedArguments kind generation sequence occurredAt objectId state)) .occurredAt
          (.str stamped)) := by
    refine runSteps_cons_ok (fieldStep_same (nonNegative _ generation)) ?_
    refine runSteps_cons_ok (fieldStep_same (nonNegative _ sequence)) ?_
    refine runSteps_cons_ok (fieldStep_run stampedAt) ?_
    refine runSteps_cons_ok (fieldStep_same (by cases kind <;> rfl)) ?_
    refine runSteps_cons_ok (fieldStep_same (by cases kind <;> rfl)) ?_
    refine runSteps_cons_ok (fieldStep_same identified) ?_
    refine runSteps_cons_ok (fieldStep_same keptState) ?_
    refine runSteps_cons_ok (fieldStep_same rfl) ?_
    refine runSteps_cons_ok (fieldStep_same rfl) ?_
    refine runSteps_cons_ok (fieldStep_same rfl) ?_
    refine runSteps_cons_ok (rule2Step_run (by cases kind <;> rfl)) ?_
    refine runSteps_cons_ok (rule2Step_run (by cases kind <;> rfl)) ?_
    exact runSteps_cons_ok (rule2Step_run (by cases kind <;> rfl)) rfl
  obtain ⟨event, made⟩ := construct_succeeds (by
    simp [changedArguments, fieldNames, fieldSpecs, Runtime.required, noneDefault, withDefault])
    rfl ⟨_, run⟩
  refine ⟨event, made, ?_⟩
  have current := construct_field .current .contractValue made (by simp [checks]) (by decide)
  exact (Except.ok.inj (keptState.symm.trans current)).symm

/-- The records of a valid payload are detached under every path. -/
theorem detached_of_items {path : PyString} {items : Snapshot.Record}
    (valid : validateItems path items = .ok ()) {name : String} {value : SpaValue}
    (found : getField items name = some value) (other : PyString) :
    validateDetached other value = .ok () := by
  induction items with
  | nil => cases found
  | cons item rest inductionHypothesis =>
      obtain ⟨key, given⟩ := item
      cases key with
      | number => cases valid
      | name own =>
          rw [validateItems] at valid
          obtain ⟨⟨⟩, isValid, restValid⟩ := bind_ok valid
          rw [getField, List.lookup_cons] at found
          split at found
          · rw [← Option.some.inj found]
            exact validateDetached_below _ other given _ isValid
          · exact inductionHypothesis restValid found

theorem detached_of_list {path : PyString} {index : Nat} {items : List SpaValue}
    (valid : validateAll path index items = .ok ()) {value : SpaValue} (member : value ∈ items)
    (other : PyString) : validateDetached other value = .ok () := by
  induction items generalizing index with
  | nil => cases member
  | cons item rest inductionHypothesis =>
      rw [validateAll] at valid
      obtain ⟨⟨⟩, isValid, restValid⟩ := bind_ok valid
      rcases List.mem_cons.mp member with isFirst | inRest
      · rw [isFirst]
        exact validateDetached_below _ other item _ isValid
      · exact inductionHypothesis restValid inRest

/-- A record of a decoded payload is detached. -/
theorem detached_record {kind : RecordKind}
    (decoded : runtimeSnapshotFromPayload cases (.dict items) = .ok snapshot)
    (member : record ∈ kind.records items) (path : PyString) :
    validateDetached path record = .ok () := by
  obtain ⟨found, isItems, -⟩ := bind_ok decoded
  obtain ⟨-, valid⟩ := payloadItems_ok isItems
  rw [validateDetached] at valid
  rw [RecordKind.records, payloadField, getOr] at member
  cases isField : getField items kind.payloadName with
  | none =>
      rw [isField] at member
      cases member
  | some given =>
      rw [isField, Option.getD_some] at member
      have validGiven := detached_of_items valid isField path
      cases given with
      | list values =>
          rw [validateDetached] at validGiven
          exact detached_of_list validGiven member path
      | _ => cases member

/-- A payload with exactly the required fields passes its first checks. -/
theorem payloadItems_of {noMapping kind : String} {fields : List PyString} {items : Snapshot.Record}
    (valid : validateItems (text "$") items = .ok ())
    (complete : (fields.filter (· ∉ items.filterMap fun item => keyName? item.1)) = [])
    (known : ((items.filterMap fun item => keyName? item.1).filter (· ∉ fields)) = []) :
    payloadItems noMapping kind fields (.dict items) = .ok items := by
  have detached : validateDetached (text "$") (.dict items) = .ok () := by
    rw [validateDetached]
    exact valid
  simp only [payloadItems, SpaValue.mapping?, detached, ok_bind, complete, known, ne_eq,
    not_true_eq_false, if_false]

theorem detached_of_identity {name path : PyString} {objectId : SpaValue} {id : PyValue}
    (identified : Runtime.identity name (rawValue objectId) = .ok id) :
    validateDetached path objectId = .ok () := by
  cases objectId with
  | int | member | str => rfl
  | _ => cases identified

/-- The event with a record of a snapshot is accepted, and its state is the value in the
snapshot exactly where the snapshot derives nothing for the record from others. -/
theorem eventState_iff (kind : RecordKind)
    (decoded : runtimeSnapshotFromPayload cases (.dict items) = .ok snapshot)
    (observed : (record, value) ∈ (kind.records items).zip (kind.values snapshot))
    (generation sequence : Nat) {occurredAt stamped : PyString} {objectId : SpaValue} {id : PyValue}
    (timed : Runtime.timestamp (.str occurredAt) = .ok stamped)
    (identified : Runtime.identity FieldName.objectId.text (rawValue objectId) = .ok id) :
    ∃ event, runtimeEventFromPayload cases
        (kind.changedEvent generation sequence occurredAt objectId record) = .ok event ∧
      (event.get .current = value ↔ kind.Underived items record) := by
  obtain ⟨read, state, isReader, ⟨path, fields, isMapping⟩, isState, isRuntime, same⟩ :=
    state_of_zip kind generation decoded observed
  obtain ⟨event, made, isCurrent⟩ := changed_constructs kind timed identified isRuntime
  have inRecords : record ∈ kind.records items := (List.of_mem_zip observed).1
  have detached := fun path => detached_record decoded inRecords path
  have accepted : payloadItems "invalid_event_payload" "event payload" requiredEventFields
      (kind.changedEvent generation sequence occurredAt objectId record) = .ok
        [field "payload_version" (.int 1), field "generation" (.int generation),
          field "sequence" (.int sequence), field "occurred_at" (.str occurredAt),
          field "kind" (.str (StringEnum.text kind.changeKind)),
          field "object_kind" (.str (StringEnum.text kind.objectKind)), field "object_id" objectId,
          field "current" record, field "previous" .none,
          field "requires_resnapshot" (.bool false), field "reason" .none] := by
    refine payloadItems_of ?_ rfl rfl
    simp only [field, validateItems, validateDetached, ok_bind, detached,
      detached_of_identity identified]
  have current : eventState cases kind.changeKind kind.objectKind generation record = .ok state := by
    have readAgain := mapping_below path (text "$.event_state") record fields isMapping
    have notNone : record ≠ .none := by
      intro isNone
      rw [isNone] at isMapping
      cases isMapping
    rw [eventState_of_ne_none cases notNone, readAgain, ok_bind, isReader]
    simp only [isState, keptState]
  have notNegative : ∀ (name : PyString) (number : Nat),
      Runtime.identifier name (rawValue (.int number)) = .ok (number : Int) := by
    intro name number
    simp only [rawValue, Runtime.identifier, Runtime.integer, ok_bind,
      if_neg (show ¬ (number : Int) < 0 by omega)]
  refine ⟨event, ?_, by rw [isCurrent]; exact same⟩
  rw [runtimeEventFromPayload, accepted, ok_bind]
  change (eventMember RuntimeEventKind (.str (StringEnum.text kind.changeKind)) >>= _) = _
  rw [show eventMember RuntimeEventKind (.str (StringEnum.text kind.changeKind)) =
    .ok kind.changeKind by cases kind <;> rfl, ok_bind]
  change (eventMember RuntimeObjectKind (.str (StringEnum.text kind.objectKind)) >>= _) = _
  rw [show eventMember RuntimeObjectKind (.str (StringEnum.text kind.objectKind)) =
    .ok kind.objectKind by cases kind <;> rfl, ok_bind]
  change (Runtime.identifier _ (rawValue (.int generation)) >>= _) = _
  rw [notNegative, ok_bind]
  change (Runtime.identifier _ (rawValue (.int sequence)) >>= _) = _
  rw [notNegative, ok_bind]
  change wrapping _ _ (eventState cases _ _ _ record >>= _) = _
  rw [current, ok_bind]
  change wrapping _ _ (construct .runtimeEvent
    (changedArguments kind generation sequence occurredAt (rawValue objectId) state)) = _
  rw [made]
  rfl

end Events

section Instances

def namedNode (id : Int) (name : String) : SpaValue :=
  .dict [field "id" (.int id), field "properties" (.dict [field "node.name" (.str (text name))])]

def nodePort (id direction : Int) (node : String) : SpaValue :=
  .dict [field "id" (.int id), field "direction" (.int direction),
    field "properties" (.dict [field "node.id" (.str (text node))])]

def payloadWith (nodes ports : List SpaValue) : Snapshot.Record :=
  [field "payload_version" (.int 1), field "generation" (.int 1), field "sequence" (.int 0),
    field "captured_at" (.str (text "2026-01-01T00:00:00Z")),
    field "health" (.dict [field "state" (.str (text "connected")), field "generation" (.int 1)]),
    field "devices" (.list []), field "nodes" (.list nodes), field "ports" (.list ports),
    field "links" (.list []), field "metadata" (.list []), field "parameters" (.list []),
    field "profiles" (.list []), field "routes" (.list []), field "defaults" (.list [])]

def connectedNode : SpaValue := namedNode 1 "a"

/-- An input port of that node. -/
def inputPort : SpaValue := nodePort 2 0 "1"

def connectedPayload : Snapshot.Record := payloadWith [connectedNode] [inputPort]

/-- Three nodes with two, one and no ports, and a port of a node that is not there. -/
def portedPayload : Snapshot.Record :=
  payloadWith [connectedNode, namedNode 4 "b", namedNode 7 "c"]
    [nodePort 3 1 "1", inputPort, nodePort 5 0 "4", nodePort 6 0 "9"]

def snapshotFrom (payload : Snapshot.Record) : Except PyError PyValue :=
  runtimeSnapshotFromPayload unchangedCases (.dict payload)

/-- How many input ports each node of a snapshot lists. -/
def inputCounts (snapshot : PyValue) : List Nat :=
  (RecordKind.node.values snapshot).map fun node => (node.get .inputPortIds).items.length

theorem snapshotFrom_ported : ∃ snapshot, snapshotFrom portedPayload = .ok snapshot ∧
    inputCounts snapshot = [1, 1, 0] ∧
    (snapshot.get .unresolvedRelationships).items.length = 1 := by
  obtain ⟨snapshot, decoded, held⟩ := exists_of_gives (show gives (fun snapshot =>
    inputCounts snapshot == [1, 1, 0] && (snapshot.get .unresolvedRelationships).items.length == 1)
    (snapshotFrom portedPayload) = true by decide +kernel)
  obtain ⟨counted, single⟩ := Bool.and_eq_true_iff.mp held
  exact ⟨snapshot, decoded, beq_iff_eq.mp counted, beq_iff_eq.mp single⟩

theorem snapshotFrom_connected : ∃ snapshot, snapshotFrom connectedPayload = .ok snapshot ∧
    inputCounts snapshot = [1] ∧ (snapshot.get .unresolvedRelationships).items = [] := by
  obtain ⟨snapshot, decoded, held⟩ := exists_of_gives (show gives (fun snapshot =>
    inputCounts snapshot == [1] && (snapshot.get .unresolvedRelationships).items.isEmpty)
    (snapshotFrom connectedPayload) = true by decide +kernel)
  obtain ⟨counted, nothing⟩ := Bool.and_eq_true_iff.mp held
  exact ⟨snapshot, decoded, beq_iff_eq.mp counted, List.isEmpty_iff.mp nothing⟩

/-- The node without ports is read alike. -/
theorem eventState_node : ∃ snapshot value event,
    snapshotFrom portedPayload = .ok snapshot ∧
      (namedNode 7 "c", value) ∈ (RecordKind.node.records portedPayload).zip
        (RecordKind.node.values snapshot) ∧
      runtimeEventFromPayload unchangedCases (RecordKind.node.changedEvent 1 1
        (text "2026-01-01T00:00:00Z") (.int 7) (namedNode 7 "c")) = .ok event ∧
      event.get .current = value := by
  obtain ⟨snapshot, decoded, counted, -⟩ := snapshotFrom_ported
  obtain ⟨first, others, isValues, -, afterFirst⟩ := List.map_eq_cons_iff.mp counted
  obtain ⟨second, rest, isOthers, -, afterSecond⟩ := List.map_eq_cons_iff.mp afterFirst
  obtain ⟨value, isRest, -⟩ := List.map_eq_singleton_iff.mp afterSecond
  have observed : (namedNode 7 "c", value) ∈ (RecordKind.node.records portedPayload).zip
      (RecordKind.node.values snapshot) := by
    rw [isValues, isOthers, isRest]
    exact .tail _ (.tail _ (.head _))
  obtain ⟨event, isEvent, same⟩ := eventState_iff .node decoded observed 1 1
    (show Runtime.timestamp (.str (text "2026-01-01T00:00:00Z")) =
      .ok (text "2026-01-01T00:00:00Z") from rfl)
    (show Runtime.identity _ (rawValue (.int 7)) = .ok (.int 7) from rfl)
  have underived : ∀ port ∈ RecordKind.port.records portedPayload,
      portNode port ≠ recordId (namedNode 7 "c") := by decide +kernel
  exact ⟨snapshot, value, event, decoded, observed, isEvent, same.mpr underived⟩

/-- The event that the node with an input port has changed. -/
def changedNode : SpaValue :=
  RecordKind.node.changedEvent 1 1 (text "2026-01-01T00:00:00Z") (.int 1) connectedNode

/-- The changed node of the payload comes without its port. -/
theorem eventState_differs : ∃ snapshot value event,
    snapshotFrom connectedPayload = .ok snapshot ∧
      (connectedNode, value) ∈ (RecordKind.node.records connectedPayload).zip
        (RecordKind.node.values snapshot) ∧
      runtimeEventFromPayload unchangedCases changedNode = .ok event ∧
      event.get .current ≠ value := by
  obtain ⟨snapshot, decoded, counted, -⟩ := snapshotFrom_connected
  obtain ⟨value, isValues, onePort⟩ := List.map_eq_singleton_iff.mp counted
  obtain ⟨event, isEvent, noPorts⟩ := exists_of_gives (show gives (fun event =>
    ((event.get .current).get .inputPortIds).items.length == 0)
    (runtimeEventFromPayload unchangedCases changedNode) = true by decide +kernel)
  refine ⟨snapshot, value, event, decoded, ?_, isEvent, fun same => ?_⟩
  · rw [isValues]
    exact List.mem_singleton.mpr rfl
  · rw [same, onePort] at noPorts
    cases noPorts

end Instances

end WyrePlumber.Runtime
