import Mathlib.Data.List.Find
import WyrePlumber.Library.Preference
import WyrePlumber.Runtime.DerivedRelations

/-!
# Derived fields of a snapshot

What a decoded snapshot gathers from its records: one profile and one route for each device
and index, and the ports of each node.  A snapshot that reports nothing as unresolved is
closed: what its records refer to is in it.
-/

set_option autoImplicit false
set_option linter.constructorNameAsVariable false

namespace WyrePlumber.Runtime

open Python Spa RecordValidation Results Snapshot Contents

section Selections

variable {cases : CaseTables} {items : Snapshot.Record} {snapshot : PyValue} {parts : Parts}

/-- The values of a class among the values of parameters, in their order. -/
def selections (type : ValueType) (parameters : List PyValue) : List PyValue :=
  (parameters.flatMap fun parameter => (parameter.get .values).items).filter (PyValue.isA type)

def isActive (value : PyValue) : Bool := (value.get .active).eq (.bool true)

/-- The fields of a snapshot and of a device for a class of selections. -/
structure SelectionFields where
  type : ValueType
  ofSnapshot : FieldName
  ofDevice : FieldName

def selectionFields : List SelectionFields :=
  [⟨.profile, .profiles, .profileIds⟩, ⟨.route, .routes, .routeIds⟩]

/-- A snapshot has one value for each key in its parameters: the first active one, or the
first of all.  A device lists the indexes of its keys. -/
structure Gathered (snapshot : PyValue) (fields : SelectionFields) (given : List PyValue) : Prop where
  kept : (snapshot.get fields.ofSnapshot).items = (given.map activeKey).eraseDups.filterMap fun key =>
    Preference.best isActive (Preference.under activeKey given key)
  found : ∀ deviceId index : Int,
    byKey (snapshot.get fields.ofSnapshot).items [.deviceId, .index] [.int deviceId, .int index] =
      Preference.best isActive (Preference.under activeKey given (deviceId, index))
  listed : ∀ device ∈ (snapshot.get .devices).items, ∃ id : Int, device.get .id = .int id ∧
    device.get fields.ofDevice = integers (indexesOf (given.map activeKey).eraseDups id)

/-- Keys are compared in one way only. -/
theorem activeKeys_beq : (instBEqOfDecidableEq : BEq ActiveKey) = instBEqProd :=
  lawful_beq_subsingleton _ _

theorem mergeActive_eq (found : List (ActiveKey × PyValue)) (value : PyValue) :
    mergeActive found value = Preference.place activeKey isActive found value := by
  unfold mergeActive Preference.place
  rw [← activeKeys_beq]
  cases @List.lookup ActiveKey PyValue instBEqOfDecidableEq (activeKey value) found with
  | none => rfl
  | some previous => rfl

theorem merged_eq (type : ValueType) (parameters : List PyValue) :
    merged type parameters = Preference.gather activeKey isActive (selections type parameters) := by
  have same : mergeActive = Preference.place activeKey isActive :=
    funext fun found => funext fun value => mergeActive_eq found value
  rw [merged, same]
  rfl

theorem merged_values (type : ValueType) (parameters : List PyValue) :
    (merged type parameters).map Prod.snd =
      ((selections type parameters).map activeKey).eraseDups.filterMap fun key =>
        Preference.best isActive (Preference.under activeKey (selections type parameters) key) := by
  rw [merged_eq, Preference.gather_eq, List.map_filterMap, activeKeys_beq]
  refine List.filterMap_congr fun key _ => ?_
  rw [Option.map_map]
  exact Option.map_id'

theorem merged_keys (type : ValueType) (parameters : List PyValue) :
    (merged type parameters).map Prod.fst =
      ((selections type parameters).map activeKey).eraseDups := by
  rw [merged_eq, Preference.keys_gather, activeKeys_beq]

theorem byKey_merged (read : PartsRead cases items parts) {type : ValueType}
    (isSelection : type = .profile ∨ type = .route) (deviceId index : Int) :
    byKey ((merged type parts.parameters).map Prod.snd) [.deviceId, .index]
        [.int deviceId, .int index] =
      Preference.best isActive
        (Preference.under activeKey (selections type parts.parameters) (deviceId, index)) := by
  rw [← Preference.find?_gather, ← merged_eq, byKey]
  refine List.find?_congr fun value member => ?_
  obtain ⟨pair, inMerged, rfl⟩ := List.mem_map.mp member
  obtain ⟨-, isType, parameter, inParameters, inValues⟩ := mem_merged_pair inMerged
  have isA : pair.2.isA .profile = true ∨ pair.2.isA .route = true := by
    rcases isSelection with rfl | rfl
    · exact .inl isType
    · exact .inr isType
  obtain ⟨owner, place, isOwner, isPlace⟩ := selection_numbered read inParameters inValues isA
  have itsKey : activeKey pair.2 = (owner, place) := by
    rw [activeKey, Snapshot.intField, Snapshot.intField, isOwner, isPlace]
    rfl
  rw [itsKey, Bool.eq_iff_iff, decide_eq_true_eq, Prod.mk.injEq]
  simp only [key, List.map_cons, List.map_nil, isOwner, isPlace, PyValue.eqAll,
    Bool.and_eq_true, int_eq_iff, List.isEmpty_nil, and_true]
  rw [@eq_comm _ deviceId, @eq_comm _ index]

/-- The profiles and the routes of a decoded snapshot are gathered from its parameters. -/
theorem gathered_of_decoded {payload : SpaValue}
    (decoded : runtimeSnapshotFromPayload cases payload = .ok snapshot)
    {fields : SelectionFields} (isField : fields ∈ selectionFields) :
    Gathered snapshot fields (selections fields.type (snapshot.get .parameters).items) := by
  obtain ⟨items, -, ⟨decoding⟩⟩ := exists_decoding decoded
  obtain ⟨read⟩ := exists_partsRead decoding.readParts
  have holds := snapshotValue_holds decoding.built
  have isParameters : (snapshot.get .parameters).items = decoding.parts.parameters := by
    rw [holds.parameters]
    rfl
  have isSelection : fields.type = .profile ∨ fields.type = .route := by
    simp only [selectionFields, List.mem_cons, List.not_mem_nil, or_false] at isField
    rcases isField with rfl | rfl
    · exact .inl rfl
    · exact .inr rfl
  have isKept : (snapshot.get fields.ofSnapshot).items =
      (merged fields.type decoding.parts.parameters).map Prod.snd := by
    simp only [selectionFields, List.mem_cons, List.not_mem_nil, or_false] at isField
    rcases isField with rfl | rfl
    · rw [holds.profiles]
      rfl
    · rw [holds.routes]
      rfl
  rw [isParameters]
  constructor
  · rw [isKept, merged_values]
  · intro deviceId index
    rw [isKept, byKey_merged read isSelection]
  · intro device member
    have inParts : device ∈ decoding.parts.devices := by
      rw [holds.devices] at member
      exact member
    obtain ⟨place, item, -, isDevice⟩ := exists_of_mem_read read.readDevices inParts
    obtain ⟨id, isId, profileIds, routeIds⟩ := device_selections isDevice
    refine ⟨id, isId, ?_⟩
    simp only [selectionFields, List.mem_cons, List.not_mem_nil, or_false] at isField
    rcases isField with rfl | rfl
    · rw [profileIds, Parts.profiles, merged_keys]
    · rw [routeIds, Parts.routes, merged_keys]

end Selections

section Ports

variable {cases : CaseTables} {snapshot : PyValue}

/-- A side of a node: the field that lists its ports, and whether these are inputs. -/
def nodeSides : List (FieldName × Bool) := [(.inputPortIds, true), (.outputPortIds, false)]

/-- A node lists the ports that name it, its inputs in one list and all others in the other
one; each list ascends. -/
def ListsPorts (ports : List PyValue) (node : PyValue) : Prop :=
  ∀ side ∈ nodeSides, ∃ ids : List Int, node.get side.1 = integers ids ∧ ids.Pairwise (· < ·) ∧
    ∀ portId, portId ∈ ids ↔ ∃ port ∈ ports, port.get .id = .int portId ∧
      port.get .nodeId = node.get .id ∧
      (port.get .direction).isMember PortDirection.input = side.2

theorem portIdsOf_ascending {ports : List PyValue} (distinct :
    (ports.map fun port => Snapshot.intField port .id).Nodup) (isInput : Bool) (nodeId : Int) :
    (portIdsOf ports isInput nodeId).Pairwise (· < ·) := by
  have ordered : (portIdsOf ports isInput nodeId).Pairwise (· ≤ ·) := by
    refine (List.pairwise_mergeSort ?_ ?_ _).imp of_decide_eq_true
    · intro first second third
      simp only [decide_eq_true_eq]
      omega
    · intro first second
      simp only [Bool.or_eq_true, decide_eq_true_eq]
      omega
  have different : (portIdsOf ports isInput nodeId).Pairwise (· ≠ ·) := by
    rw [portIdsOf, ← List.nodup_iff_pairwise_ne, (List.mergeSort_perm _ _).nodup_iff]
    exact distinct.sublist (List.filter_sublist.map _)
  exact ordered.imp₂ (fun first second atMost notSame => lt_of_le_of_ne atMost notSame) different

theorem listsPorts_of_decoded {payload : SpaValue}
    (decoded : runtimeSnapshotFromPayload cases payload = .ok snapshot) :
    ∀ node ∈ (snapshot.get .nodes).items, ListsPorts (snapshot.get .ports).items node := by
  obtain ⟨items, -, ⟨decoding⟩⟩ := exists_decoding decoded
  obtain ⟨read⟩ := exists_partsRead decoding.readParts
  have holds := snapshotValue_holds decoding.built
  have indexed := holds.indexed
  rw [contents_of_holds holds] at indexed
  have distinct := (identifiers_nodup (ports_numbered read) [] (ports_unique indexed)).2
  have isPorts : (snapshot.get .ports).items = decoding.parts.ports := by
    rw [holds.ports]
    rfl
  have isNodes : (snapshot.get .nodes).items = decoding.parts.nodes := by
    rw [holds.nodes]
    rfl
  rw [isPorts, isNodes]
  intro node member
  obtain ⟨place, item, -, isNode⟩ := exists_of_mem_read read.readNodes member
  obtain ⟨id, -, isId, inputIds, outputIds⟩ := node_ports isNode
  have listed : ∀ isInput portId, portId ∈ portIdsOf decoding.parts.ports isInput id ↔
      ∃ port ∈ decoding.parts.ports, port.get .id = .int portId ∧
        port.get .nodeId = node.get .id ∧
        (port.get .direction).isMember PortDirection.input = isInput := by
    intro isInput portId
    rw [mem_portIdsOf]
    refine exists_congr fun port => and_congr_right fun inPorts => ?_
    obtain ⟨portPlace, portItem, -, isPort⟩ := exists_of_mem_read read.readPorts inPorts
    obtain ⟨ownId, nodeId, direction, isOwn, isNodeField, -⟩ := port_read isPort
    have ownIs : Snapshot.intField port .id = ownId := by
      rw [Snapshot.intField, isOwn]
      rfl
    have nodeIs : Snapshot.intField port .nodeId = nodeId := by
      rw [Snapshot.intField, isNodeField]
      rfl
    rw [isOwn, isNodeField, isId, ownIs, nodeIs, PyValue.int.injEq, PyValue.int.injEq]
    constructor
    · rintro ⟨side, named, isPortId⟩
      exact ⟨isPortId, named, side⟩
    · rintro ⟨isPortId, named, side⟩
      exact ⟨side, named, isPortId⟩
  intro side isSide
  simp only [nodeSides, List.mem_cons, List.not_mem_nil, or_false] at isSide
  rcases isSide with rfl | rfl
  · exact ⟨_, inputIds, portIdsOf_ascending distinct _ _, listed true⟩
  · exact ⟨_, outputIds, portIdsOf_ascending distinct _ _, listed false⟩

end Ports

section Closed

variable {cases : CaseTables} {contents : Contents} {snapshot : PyValue}

/-- A value has an identifier that another value names. -/
def Names (values : List PyValue) (wanted : PyValue) : Prop :=
  ∃ value ∈ values, (value.get .id).eq wanted = true

/-- What the records of a snapshot refer to is in it. -/
structure Closed (snapshot : Contents) : Prop where
  wired : ∀ link ∈ snapshot.links, ∀ linkEnd ∈ linkEnds,
    Names snapshot.nodes (link.get linkEnd.nodeField) ∧
    Names snapshot.ports (link.get linkEnd.portField) ∧
    ∀ port ∈ snapshot.ports, (port.get .id).eq (link.get linkEnd.portField) = true →
      (port.get .nodeId).eq (link.get linkEnd.nodeField) = true ∧
      (port.get .direction).isMember linkEnd.direction = true
  placed : ∀ port ∈ snapshot.ports, Names snapshot.nodes (port.get .nodeId) ∧
    port.get .direction ≠ .member PortDirection.unknown
  attached : ∀ node ∈ snapshot.nodes, (node.get .deviceId).isNone = false →
    Names snapshot.devices (node.get .deviceId)
  selected : ∀ values ∈ [snapshot.profiles, snapshot.routes], ∀ value ∈ values,
    Names snapshot.devices (value.get .deviceId)
  routed : ∀ route ∈ snapshot.routes, ∀ profileId ∈ (route.get .profileIds).items,
    Target.Present ⟨snapshot.profiles, [.deviceId, .index], [route.get .deviceId, profileId]⟩
  owned : ∀ parameter ∈ snapshot.parameters, ∃ owners,
    snapshot.ownerIndex (parameter.get .ownerType) = some owners ∧
    Names owners (parameter.get .ownerId)
  listed : ∀ kind ∈ [("device", snapshot.devices), ("node", snapshot.nodes),
    ("port", snapshot.ports)], ∀ owner ∈ kind.2, ∀ parameterId ∈ (owner.get .parameterIds).items,
    Target.Present ⟨snapshot.parameters, [.ownerType, .ownerId, .id],
      [.str (text kind.1), owner.get .id, parameterId]⟩
  stored : (snapshot.defaults.get .metadataId).isNone = false →
    Names snapshot.metadata (snapshot.defaults.get .metadataId)

theorem linkEnd_fields {linkEnd : LinkEnd} (isEnd : linkEnd ∈ linkEnds) :
    ∃ nodeRelation portRelation,
      ((nodeRelation, "node", linkEnd.nodeField, contents.nodes) ∈
        [("output_node", "node", FieldName.outputNodeId, contents.nodes),
          ("input_node", "node", .inputNodeId, contents.nodes),
          ("output_port", "port", .outputPortId, contents.ports),
          ("input_port", "port", .inputPortId, contents.ports)]) ∧
      (portRelation, "port", linkEnd.portField, contents.ports) ∈
        [("output_node", "node", FieldName.outputNodeId, contents.nodes),
          ("input_node", "node", .inputNodeId, contents.nodes),
          ("output_port", "port", .outputPortId, contents.ports),
          ("input_port", "port", .inputPortId, contents.ports)] := by
  simp only [linkEnds, List.mem_cons, List.not_mem_nil, or_false] at isEnd
  rcases isEnd with rfl | rfl
  · exact ⟨"output_node", "output_port", by simp, by simp⟩
  · exact ⟨"input_node", "input_port", by simp, by simp⟩

/-- A port names a node where the node has the identifier. -/
def SymmetricPlaces (snapshot : Contents) : Prop :=
  ∀ node ∈ snapshot.nodes, ∀ port ∈ snapshot.ports,
    (node.get .id).eq (port.get .nodeId) = (port.get .nodeId).eq (node.get .id)

/-- Where nothing is unmet and no port is misfiled, the records are closed. -/
theorem closed_of_met (sides : SymmetricPlaces contents) (met : ∀ report, ¬ contents.Unmet report)
    (filed : ∀ node port, ¬ Misfiled contents node port) : Closed contents := by
  have present {report : Missing} {target : Target} (refers : contents.Refers report target) :
      target.Present := by
    by_contra notPresent
    exact met report (.absent refers notPresent)
  have placed : ∀ port ∈ contents.ports, Names contents.nodes (port.get .nodeId) :=
    fun port member => present_id.mp (present (.nodeOfPort member))
  constructor
  · intro link member linkEnd isEnd
    obtain ⟨nodeRelation, portRelation, isNode, isPort⟩ := linkEnd_fields isEnd
    refine ⟨present_id.mp (present (.endOfLink member isNode)),
      present_id.mp (present (.endOfLink member isPort)), fun port inPorts named => ?_⟩
    by_contra differs
    rw [not_and_or, Bool.not_eq_true, Bool.not_eq_true] at differs
    exact met _ (.contradicted isEnd member inPorts named differs)
  · intro port member
    refine ⟨placed port member, fun isUnknown => ?_⟩
    obtain ⟨node, inNodes, named⟩ := placed port member
    exact filed node port ⟨inNodes, member, sides node inNodes port member ▸ named, isUnknown⟩
  · intro node member named
    exact present_id.mp (present (.deviceOfNode member named))
  · intro values isKind value member
    simp only [List.mem_cons, List.not_mem_nil, or_false] at isKind
    rcases isKind with rfl | rfl
    · exact present_id.mp (present (@Refers.deviceOfSelection _ "profile" _ _ (by simp) member))
    · exact present_id.mp (present (@Refers.deviceOfSelection _ "route" _ _ (by simp) member))
  · intro route member profileId isListed
    exact present (.profileOfRoute member isListed)
  · intro parameter member
    cases supported : contents.ownerIndex (parameter.get .ownerType) with
    | none => exact absurd (.unsupported member supported) (met _)
    | some owners =>
        exact ⟨owners, rfl, present_id.mp (present (.ownerOfParameter member supported))⟩
  · intro kind isKind owner member parameterId isListed
    exact present (.parameter isKind member isListed)
  · intro named
    exact present_id.mp (present (.metadataOfDefaults named))

/-- The records of a closed snapshot refer to nothing that is absent or contradicts them. -/
theorem Closed.met (closed : Closed contents) {report : Missing} : ¬ contents.Unmet report := by
  intro unmet
  cases unmet with
  | absent refers notPresent =>
      cases refers with
      | parameter isKind member isListed => exact notPresent (closed.listed _ isKind _ member _ isListed)
      | deviceOfNode member named => exact notPresent (present_id.mpr (closed.attached _ member named))
      | nodeOfPort member => exact notPresent (present_id.mpr (closed.placed _ member).1)
      | @endOfLink link relation targetType field values member isEnd =>
          obtain ⟨outputNode, outputPort, -⟩ := closed.wired _ member _ List.mem_cons_self
          obtain ⟨inputNode, inputPort, -⟩ := closed.wired _ member _
            (List.mem_cons_of_mem _ List.mem_cons_self)
          refine notPresent (present_id.mpr ?_)
          simp only [List.mem_cons, Prod.mk.injEq, List.not_mem_nil, or_false] at isEnd
          rcases isEnd with ⟨rfl, rfl, rfl, rfl⟩ | ⟨rfl, rfl, rfl, rfl⟩ | ⟨rfl, rfl, rfl, rfl⟩ |
            ⟨rfl, rfl, rfl, rfl⟩
          · exact outputNode
          · exact inputNode
          · exact outputPort
          · exact inputPort
      | deviceOfSelection isKind member =>
          simp only [List.mem_cons, Prod.mk.injEq, List.not_mem_nil, or_false] at isKind
          refine notPresent (present_id.mpr (closed.selected _ ?_ _ member))
          rcases isKind with ⟨-, rfl⟩ | ⟨-, rfl⟩ <;> simp
      | profileOfRoute member isListed => exact notPresent (closed.routed _ member _ isListed)
      | ownerOfParameter member supported =>
          obtain ⟨owners, isOwners, named⟩ := closed.owned _ member
          rw [supported] at isOwners
          exact notPresent (present_id.mpr (Option.some.inj isOwners ▸ named))
      | metadataOfDefaults named => exact notPresent (present_id.mpr (closed.stored named))
  | contradicted isEnd member present named differs =>
      obtain ⟨sameNode, sameDirection⟩ := (closed.wired _ member _ isEnd).2.2 _ present named
      rw [sameNode, sameDirection] at differs
      rcases differs with impossible | impossible <;> cases impossible
  | unsupported member notSupported =>
      obtain ⟨owners, isOwners, -⟩ := closed.owned _ member
      rw [notSupported] at isOwners
      cases isOwners

theorem symmetricPlaces {items : Snapshot.Record} {parts : Parts}
    (read : PartsRead cases items parts) : SymmetricPlaces parts.contents := by
  intro node inNodes port inPorts
  obtain ⟨id, isId⟩ := nodes_numbered read node inNodes
  obtain ⟨place, item, -, isPort⟩ := exists_of_mem_read read.readPorts inPorts
  obtain ⟨portId, nodeId, direction, -, isNodeId, -⟩ := port_read isPort
  rw [isId, isNodeId, Bool.eq_iff_iff, int_eq_iff, int_eq_iff, eq_comm]

/-- A decoded snapshot reports nothing as unresolved exactly where its records are closed. -/
theorem unresolved_nil_iff {payload : SpaValue}
    (decoded : runtimeSnapshotFromPayload cases payload = .ok snapshot) :
    (snapshot.get .unresolvedRelationships).items = [] ↔ Closed (Runtime.contents snapshot.get) := by
  obtain ⟨items, -, ⟨decoding⟩⟩ := exists_decoding decoded
  obtain ⟨read⟩ := exists_partsRead decoding.readParts
  have holds := snapshotValue_holds decoding.built
  have indexed := holds.indexed
  have reported : ∀ report, report ∈ (Runtime.contents snapshot.get).missingRelationships ↔
      (Runtime.contents snapshot.get).Unmet report ∨
        ∃ node port, Misfiled (Runtime.contents snapshot.get) node port ∧ report = misfiled node port := by
    rw [contents_of_holds holds] at indexed ⊢
    intro report
    rw [mem_missingRelationships (linked_of_read read indexed), derived_iff read indexed]
  obtain ⟨computed, isComputed, isUnresolved⟩ := holds.resolved
  have sides : SymmetricPlaces (Runtime.contents snapshot.get) := by
    rw [contents_of_holds holds]
    exact symmetricPlaces read
  have empty_iff : (snapshot.get .unresolvedRelationships).items = [] ↔
      (Runtime.contents snapshot.get).missingRelationships = [] := by
    rw [isUnresolved, ← List.length_eq_zero_iff, ← List.length_eq_zero_iff,
      (mapM_ok_iff.mp isComputed).length_eq]
    rfl
  rw [empty_iff, List.eq_nil_iff_forall_not_mem]
  constructor
  · intro none
    refine closed_of_met sides (fun report unmet => none report ((reported report).mpr (.inl unmet)))
      fun node port isMisfiled => none _ ((reported _).mpr (.inr ⟨node, port, isMisfiled, rfl⟩))
  · intro closed report isReported
    rcases (reported report).mp isReported with unmet | ⟨node, port, isMisfiled, -⟩
    · exact closed.met unmet
    · exact (closed.placed port isMisfiled.inPorts).2 isMisfiled.isUnknown

end Closed

section Instances

/-- A device whose parameters name two profiles, the second one as active. -/
def profiledPayload : Snapshot.Record :=
  connectedPayload.map fun item =>
    if item.1 = .name (text "devices") then
      field "devices" (.list [.dict [field "id" (.int 5), field "properties" (.dict [])]])
    else if item.1 = .name (text "parameters") then
      field "parameters" (.list [profilesOf "EnumProfile" [(0, "off"), (1, "on")],
        profilesOf "Profile" [(1, "on")]])
    else item
where
  profilesOf (parameterId : String) (profiles : List (Int × String)) : SpaValue :=
    .dict [field "owner_type" (.str (text "device")), field "owner_id" (.int 5),
      field "id" (.str (text parameterId)), field "permissions" (.str (text "r")),
      field "values" (.list (profiles.map fun profile =>
        .dict [field "index" (.int profile.1), field "name" (.str (text profile.2))]))]

def profiledSnapshot : Except PyError PyValue :=
  runtimeSnapshotFromPayload unchangedCases (.dict profiledPayload)

/-- The second profile is active, though it is given first without that. -/
theorem gathered_profiled : ∃ snapshot, profiledSnapshot = .ok snapshot ∧
    (snapshot.get .profiles).items.map isActive = [false, true] ∧
    Gathered snapshot ⟨.profile, .profiles, .profileIds⟩
      (selections .profile (snapshot.get .parameters).items) := by
  obtain ⟨snapshot, decoded, active⟩ := exists_of_gives (show gives (fun snapshot =>
    (snapshot.get .profiles).items.map isActive == [false, true]) profiledSnapshot = true by
      decide +kernel)
  exact ⟨snapshot, decoded, beq_iff_eq.mp active,
    gathered_of_decoded decoded (show ⟨.profile, .profiles, .profileIds⟩ ∈ selectionFields by
      simp [selectionFields])⟩

theorem listsPorts_ported : ∃ snapshot, snapshotFrom portedPayload = .ok snapshot ∧
    inputCounts snapshot = [1, 1, 0] ∧
    ∀ node ∈ (snapshot.get .nodes).items, ListsPorts (snapshot.get .ports).items node := by
  obtain ⟨snapshot, decoded, counted, -⟩ := snapshotFrom_ported
  exact ⟨snapshot, decoded, counted, listsPorts_of_decoded decoded⟩

theorem closed_connected : ∃ snapshot, snapshotFrom connectedPayload = .ok snapshot ∧
    Closed (Runtime.contents snapshot.get) := by
  obtain ⟨snapshot, decoded, -, nothing⟩ := snapshotFrom_connected
  exact ⟨snapshot, decoded, (unresolved_nil_iff decoded).mp nothing⟩

end Instances

end WyrePlumber.Runtime
