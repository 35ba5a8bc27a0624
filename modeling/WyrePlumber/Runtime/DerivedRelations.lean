import WyrePlumber.Runtime.DefaultDevices
import WyrePlumber.Runtime.EventStates

/-!
# Relations that a snapshot derives

A snapshot derives the ports of its nodes, the profiles and the routes of its devices and
the nodes of its defaults.  Of these it reports only the ports whose direction it does not
know: it files them as outputs, and finds later that they are none.
-/

set_option autoImplicit false
set_option linter.constructorNameAsVariable false

namespace WyrePlumber.Runtime

open Python Spa RecordValidation Results Snapshot

section References

/-- What a reference names: a value of an index with some key. -/
structure Target where
  values : List PyValue
  fields : List FieldName
  wanted : List PyValue

def Target.Present (target : Target) : Prop :=
  ∃ value ∈ target.values, PyValue.eqAll (key target.fields value) target.wanted = true

/-- An end of a link: its port and its node, and what is reported where these do not fit. -/
structure LinkEnd where
  portField : FieldName
  nodeField : FieldName
  direction : PortDirection
  relation : String
  problem : String

def linkEnds : List LinkEnd :=
  [⟨.outputPortId, .outputNodeId, .output, "output_endpoint",
      "output port does not belong to the output node or has the wrong direction"⟩,
    ⟨.inputPortId, .inputNodeId, .input, "input_endpoint",
      "input port does not belong to the input node or has the wrong direction"⟩]

namespace Contents

variable (snapshot : Contents)

/-- A record that a report is about refers to a target. -/
inductive Refers : Missing → Target → Prop where
  | parameter {sourceType : String} {owners : List PyValue} {owner parameterId : PyValue}
      (isKind : (sourceType, owners) ∈
        [("device", snapshot.devices), ("node", snapshot.nodes), ("port", snapshot.ports)])
      (member : owner ∈ owners) (listed : parameterId ∈ (owner.get .parameterIds).items) :
      Refers (missing sourceType (owner.get .id) "parameter" "parameter" parameterId absent)
        ⟨snapshot.parameters, [.ownerType, .ownerId, .id],
          [.str (text sourceType), owner.get .id, parameterId]⟩
  | deviceOfNode {node : PyValue} (member : node ∈ snapshot.nodes)
      (named : (node.get .deviceId).isNone = false) :
      Refers (missing "node" (node.get .id) "device" "device" (node.get .deviceId) absent)
        ⟨snapshot.devices, [.id], [node.get .deviceId]⟩
  | nodeOfPort {port : PyValue} (member : port ∈ snapshot.ports) :
      Refers (missing "port" (port.get .id) "node" "node" (port.get .nodeId) absent)
        ⟨snapshot.nodes, [.id], [port.get .nodeId]⟩
  | endOfLink {link : PyValue} {relation targetType : String} {field : FieldName}
      {values : List PyValue} (member : link ∈ snapshot.links)
      (isEnd : (relation, targetType, field, values) ∈
        [("output_node", "node", FieldName.outputNodeId, snapshot.nodes),
          ("input_node", "node", .inputNodeId, snapshot.nodes),
          ("output_port", "port", .outputPortId, snapshot.ports),
          ("input_port", "port", .inputPortId, snapshot.ports)]) :
      Refers (missing "link" (link.get .id) relation targetType (link.get field) absent)
        ⟨values, [.id], [link.get field]⟩
  | deviceOfSelection {sourceType : String} {values : List PyValue} {value : PyValue}
      (isKind : (sourceType, values) ∈ [("profile", snapshot.profiles), ("route", snapshot.routes)])
      (member : value ∈ values) :
      Refers (missing sourceType (value.get .index) "device" "device" (value.get .deviceId) absent)
        ⟨snapshot.devices, [.id], [value.get .deviceId]⟩
  | profileOfRoute {route profileId : PyValue} (member : route ∈ snapshot.routes)
      (listed : profileId ∈ (route.get .profileIds).items) :
      Refers (missing "route" (route.get .index) "profile" "profile" profileId absent)
        ⟨snapshot.profiles, [.deviceId, .index], [route.get .deviceId, profileId]⟩
  | ownerOfParameter {parameter : PyValue} {values : List PyValue}
      (member : parameter ∈ snapshot.parameters)
      (supported : snapshot.ownerIndex (parameter.get .ownerType) = some values) :
      Refers (ownerReport parameter absent) ⟨values, [.id], [parameter.get .ownerId]⟩
  | metadataOfDefaults (named : (snapshot.defaults.get .metadataId).isNone = false) :
      Refers (missing "defaults" (.str (text "defaults")) "metadata" "metadata"
          (snapshot.defaults.get .metadataId) absent)
        ⟨snapshot.metadata, [.id], [snapshot.defaults.get .metadataId]⟩

/-- A record refers to a target that is absent, or that contradicts it. -/
inductive Unmet : Missing → Prop where
  | absent {report : Missing} {target : Target} (refers : snapshot.Refers report target)
      (notPresent : ¬ target.Present) : Unmet report
  | contradicted {link port : PyValue} {linkEnd : LinkEnd} (isEnd : linkEnd ∈ linkEnds)
      (member : link ∈ snapshot.links) (present : port ∈ snapshot.ports)
      (named : (port.get .id).eq (link.get linkEnd.portField) = true)
      (differs : (port.get .nodeId).eq (link.get linkEnd.nodeField) = false ∨
        (port.get .direction).isMember linkEnd.direction = false) :
      Unmet (missing "link" (link.get .id) linkEnd.relation "port" (link.get linkEnd.portField)
        (text linkEnd.problem))
  | unsupported {parameter : PyValue} (member : parameter ∈ snapshot.parameters)
      (notSupported : snapshot.ownerIndex (parameter.get .ownerType) = none) :
      Unmet (ownerReport parameter
        (text "owner type is unsupported by this snapshot contract"))

/-! What is derived from other records, and checked again with the rest. -/

/-- The derived profiles and routes of a device that are reported. -/
def missingSelections (device : PyValue) : List Missing :=
  (((device.get .profileIds).items.filter fun profileId =>
    (byKey snapshot.profiles [.deviceId, .index] [device.get .id, profileId]).isNone).map
      fun profileId => missing "device" (device.get .id) "profile" "profile" profileId absent) ++
  (((device.get .routeIds).items.filter fun routeId =>
    (byKey snapshot.routes [.deviceId, .index] [device.get .id, routeId]).isNone).map
      fun routeId => missing "device" (device.get .id) "route" "route" routeId absent)

/-- The derived ports of a node that are reported. -/
def missingPorts (node : PyValue) : List Missing :=
  (node.get .inputPortIds).items.flatMap (snapshot.missingPort node .input "input_port") ++
  (node.get .outputPortIds).items.flatMap (snapshot.missingPort node .output "output_port")

def missingTargets : List Missing :=
  snapshot.missingDefault .audioSink ++ snapshot.missingDefault .audioSource ++
  snapshot.missingDefault .videoSource

def Derived (report : Missing) : Prop :=
  (∃ device ∈ snapshot.devices, report ∈ snapshot.missingSelections device) ∨
    (∃ node ∈ snapshot.nodes, report ∈ snapshot.missingPorts node) ∨
    report ∈ snapshot.missingTargets

end Contents

end References

section Reports

open Contents

variable {snapshot : Contents} {report : Missing}

theorem byKey_isNone {values : List PyValue} {fields : List FieldName} {wanted : List PyValue} :
    (byKey values fields wanted).isNone = true ↔ ¬ Target.Present ⟨values, fields, wanted⟩ := by
  rw [byKey, Option.isNone_iff_eq_none, List.find?_eq_none]
  simp [Target.Present]

theorem byId_isNone {values : List PyValue} {wanted : PyValue} :
    (byId values wanted).isNone = true ↔ ¬ Target.Present ⟨values, [.id], [wanted]⟩ := byKey_isNone

theorem present_id {values : List PyValue} {wanted : PyValue} :
    Target.Present ⟨values, [.id], [wanted]⟩ ↔ ∃ value ∈ values, (value.get .id).eq wanted = true := by
  simp [Target.Present, key, PyValue.eqAll]

theorem byId_of_mem {values : List PyValue} {description : String} (numbered : Numbered values)
    (unique : uniqueIndex [.id] description [] values = .ok ()) {value : PyValue} {number : Int}
    (member : value ∈ values) (isNumber : value.get .id = .int number) :
    byId values (.int number) = some value := by
  cases found : byId values (.int number) with
  | none =>
      have notPresent := byId_isNone.mp (Option.isNone_iff_eq_none.mpr found)
      refine absurd (present_id.mpr ⟨value, member, ?_⟩) notPresent
      rw [isNumber, int_eq_iff]
  | some first =>
      have inValues := List.mem_of_find?_eq_some found
      have named : (first.get .id).eq (.int number) = true := by
        simpa [key, PyValue.eqAll] using List.find?_some found
      obtain ⟨other, isOther⟩ := numbered first inValues
      rw [isOther, int_eq_iff] at named
      have sameId : Snapshot.intField first .id = Snapshot.intField value .id := by
        rw [Snapshot.intField, Snapshot.intField, isOther, isNumber, named]
      rw [List.inj_on_of_nodup_map (identifiers_nodup numbered [] unique).2 inValues member sameId]

theorem mem_missingParameters {sourceType : String} {owner : PyValue} :
    report ∈ snapshot.missingParameters sourceType owner ↔
      ∃ parameterId ∈ (owner.get .parameterIds).items,
        ¬ Target.Present ⟨snapshot.parameters, [.ownerType, .ownerId, .id],
          [.str (text sourceType), owner.get .id, parameterId]⟩ ∧
        report = missing sourceType (owner.get .id) "parameter" "parameter" parameterId absent := by
  rw [missingParameters, List.mem_map]
  refine exists_congr fun parameterId => ?_
  rw [List.mem_filter, byKey_isNone, and_assoc, eq_comm]

theorem mem_missingEndpoint {link : PyValue} {relation targetType : String} {field : FieldName}
    {values : List PyValue} :
    report ∈ missingEndpoint link relation targetType field values ↔
      ¬ Target.Present ⟨values, [.id], [link.get field]⟩ ∧
        report = missing "link" (link.get .id) relation targetType (link.get field) absent := by
  rw [missingEndpoint, List.mem_ite_nil_right, byId_isNone, List.mem_singleton]

theorem mem_missingDevice {sourceType : String} {value : PyValue} :
    report ∈ snapshot.missingDevice sourceType value ↔
      ¬ Target.Present ⟨snapshot.devices, [.id], [value.get .deviceId]⟩ ∧
        report = missing sourceType (value.get .index) "device" "device" (value.get .deviceId)
          absent := by
  rw [missingDevice, List.mem_ite_nil_right, byId_isNone, List.mem_singleton]

theorem mem_contradictedEndpoint {link : PyValue} {linkEnd : LinkEnd} :
    report ∈ snapshot.contradictedEndpoint link linkEnd.portField linkEnd.nodeField
        linkEnd.direction linkEnd.relation linkEnd.problem ↔
      ∃ port, byId snapshot.ports (link.get linkEnd.portField) = some port ∧
        ((port.get .nodeId).eq (link.get linkEnd.nodeField) = false ∨
          (port.get .direction).isMember linkEnd.direction = false) ∧
        report = missing "link" (link.get .id) linkEnd.relation "port"
          (link.get linkEnd.portField) (text linkEnd.problem) := by
  unfold contradictedEndpoint
  split
  · rename_i notFound
    simp [notFound]
  · rename_i port isFound
    rw [List.mem_ite_nil_right, Bool.or_eq_true, Bool.not_eq_true', Bool.not_eq_true',
      List.mem_singleton]
    simp only [isFound, Option.some.injEq, exists_eq_left']

theorem mem_missingOfNode {node : PyValue} :
    report ∈ snapshot.missingOfNode node ↔
      ((node.get .deviceId).isNone = false ∧
        ¬ Target.Present ⟨snapshot.devices, [.id], [node.get .deviceId]⟩ ∧
        report = missing "node" (node.get .id) "device" "device" (node.get .deviceId) absent) ∨
      report ∈ snapshot.missingParameters "node" node ∨ report ∈ snapshot.missingPorts node := by
  rw [missingOfNode, missingPorts, List.mem_append, List.mem_append, List.mem_append,
    List.mem_append, List.mem_ite_nil_right, Bool.and_eq_true, Bool.not_eq_true', byId_isNone,
    List.mem_singleton, and_assoc, or_assoc, or_assoc]

theorem mem_missingOfPort {port : PyValue} :
    report ∈ snapshot.missingOfPort port ↔
      (¬ Target.Present ⟨snapshot.nodes, [.id], [port.get .nodeId]⟩ ∧
        report = missing "port" (port.get .id) "node" "node" (port.get .nodeId) absent) ∨
      report ∈ snapshot.missingParameters "port" port := by
  rw [missingOfPort, List.mem_append, List.mem_ite_nil_right, byId_isNone, List.mem_singleton]

theorem mem_missingOfDevice {device : PyValue} :
    report ∈ snapshot.missingOfDevice device ↔
      report ∈ snapshot.missingParameters "device" device ∨
        report ∈ snapshot.missingSelections device := by
  rw [missingOfDevice, missingSelections, List.append_assoc, List.mem_append]

theorem mem_missingOfRoute {route : PyValue} :
    report ∈ snapshot.missingOfRoute route ↔
      report ∈ snapshot.missingDevice "route" route ∨
      ∃ profileId ∈ (route.get .profileIds).items,
        ¬ Target.Present ⟨snapshot.profiles, [.deviceId, .index], [route.get .deviceId, profileId]⟩ ∧
        report = missing "route" (route.get .index) "profile" "profile" profileId absent := by
  rw [missingOfRoute, List.mem_append, List.mem_map]
  refine or_congr_right (exists_congr fun profileId => ?_)
  rw [List.mem_filter, byKey_isNone, and_assoc, eq_comm]

theorem mem_missingOfParameter {parameter : PyValue} :
    report ∈ snapshot.missingOfParameter parameter ↔
      (snapshot.ownerIndex (parameter.get .ownerType) = none ∧
        report = ownerReport parameter
          (text "owner type is unsupported by this snapshot contract")) ∨
      ∃ values, snapshot.ownerIndex (parameter.get .ownerType) = some values ∧
        ¬ Target.Present ⟨values, [.id], [parameter.get .ownerId]⟩ ∧
        report = ownerReport parameter absent := by
  unfold missingOfParameter
  split
  · rename_i notSupported
    simp [notSupported]
  · rename_i values supported
    rw [List.mem_ite_nil_right, byId_isNone, List.mem_singleton]
    simp [supported]

theorem mem_missingOfDefaults :
    report ∈ snapshot.missingOfDefaults ↔
      report ∈ snapshot.missingTargets ∨
      ((snapshot.defaults.get .metadataId).isNone = false ∧
        ¬ Target.Present ⟨snapshot.metadata, [.id], [snapshot.defaults.get .metadataId]⟩ ∧
        report = missing "defaults" (.str (text "defaults")) "metadata" "metadata"
          (snapshot.defaults.get .metadataId) absent) := by
  rw [missingOfDefaults, missingTargets, List.mem_append, List.mem_ite_nil_right, Bool.and_eq_true,
    Bool.not_eq_true', byId_isNone, List.mem_singleton, and_assoc]

theorem mem_missingOfLink {link : PyValue} :
    report ∈ snapshot.missingOfLink link ↔
      (∃ relation targetType field values, (relation, targetType, field, values) ∈
          [("output_node", "node", FieldName.outputNodeId, snapshot.nodes),
            ("input_node", "node", .inputNodeId, snapshot.nodes),
            ("output_port", "port", .outputPortId, snapshot.ports),
            ("input_port", "port", .inputPortId, snapshot.ports)] ∧
        report ∈ missingEndpoint link relation targetType field values) ∨
      ∃ linkEnd ∈ linkEnds, report ∈ snapshot.contradictedEndpoint link linkEnd.portField
        linkEnd.nodeField linkEnd.direction linkEnd.relation linkEnd.problem := by
  simp only [missingOfLink, linkEnds, List.mem_append, List.mem_cons, List.not_mem_nil, or_false,
    Prod.mk.injEq, exists_eq_or_imp, exists_eq_left, or_assoc]
  constructor
  · rintro (first | second | third | fourth | fifth | sixth)
    · exact .inl ⟨_, _, _, _, .inl ⟨rfl, rfl, rfl, rfl⟩, first⟩
    · exact .inl ⟨_, _, _, _, .inr (.inl ⟨rfl, rfl, rfl, rfl⟩), second⟩
    · exact .inl ⟨_, _, _, _, .inr (.inr (.inl ⟨rfl, rfl, rfl, rfl⟩)), third⟩
    · exact .inl ⟨_, _, _, _, .inr (.inr (.inr ⟨rfl, rfl, rfl, rfl⟩)), fourth⟩
    · exact .inr (.inl fifth)
    · exact .inr (.inr sixth)
  · rintro (⟨relation, targetType, field, values, isEnd, member⟩ | fifth | sixth)
    · rcases isEnd with ⟨rfl, rfl, rfl, rfl⟩ | ⟨rfl, rfl, rfl, rfl⟩ | ⟨rfl, rfl, rfl, rfl⟩ |
        ⟨rfl, rfl, rfl, rfl⟩ <;> simp [member]
    · simp [fifth]
    · simp [sixth]

/-- The links name ports by integers that are the identifiers of one port each. -/
structure Linked (snapshot : Contents) : Prop where
  numbered : Numbered snapshot.ports
  unique : ∃ description, uniqueIndex [.id] description [] snapshot.ports = .ok ()
  named : ∀ link ∈ snapshot.links, ∀ linkEnd ∈ linkEnds,
    ∃ number, link.get linkEnd.portField = .int number

/-- Every report is about a reference of a record, or about a derived relation. -/
theorem mem_missingRelationships (linked : Linked snapshot) :
    report ∈ snapshot.missingRelationships ↔ snapshot.Unmet report ∨ snapshot.Derived report := by
  simp only [missingRelationships, List.mem_append, List.mem_flatMap, mem_missingOfDevice,
    mem_missingOfNode, mem_missingOfPort, mem_missingOfLink, mem_missingDevice, mem_missingOfRoute,
    mem_missingOfParameter, mem_missingOfDefaults, mem_missingParameters, mem_missingEndpoint,
    mem_contradictedEndpoint, or_assoc]
  constructor
  · rintro (⟨device, member, ⟨parameterId, listed, notPresent, rfl⟩ | derived⟩ |
      ⟨node, member, ⟨named, notPresent, rfl⟩ | ⟨parameterId, listed, notPresent, rfl⟩ | derived⟩ |
      ⟨port, member, ⟨notPresent, rfl⟩ | ⟨parameterId, listed, notPresent, rfl⟩⟩ |
      ⟨link, member, ⟨relation, targetType, field, values, isEnd, notPresent, rfl⟩ |
        ⟨linkEnd, isEnd, port, found, differs, rfl⟩⟩ |
      ⟨profile, member, notPresent, rfl⟩ |
      ⟨route, member, ⟨notPresent, rfl⟩ | ⟨profileId, listed, notPresent, rfl⟩⟩ |
      ⟨parameter, member, ⟨notSupported, rfl⟩ | ⟨values, supported, notPresent, rfl⟩⟩ |
      derived | ⟨named, notPresent, rfl⟩)
    · exact .inl (.absent (.parameter (by simp) member listed) notPresent)
    · exact .inr (.inl ⟨device, member, derived⟩)
    · exact .inl (.absent (.deviceOfNode member named) notPresent)
    · exact .inl (.absent (.parameter (by simp) member listed) notPresent)
    · exact .inr (.inr (.inl ⟨node, member, derived⟩))
    · exact .inl (.absent (.nodeOfPort member) notPresent)
    · exact .inl (.absent (.parameter (by simp) member listed) notPresent)
    · exact .inl (.absent (.endOfLink member isEnd) notPresent)
    · refine .inl (.contradicted isEnd member (List.mem_of_find?_eq_some found) ?_ differs)
      simpa [key, PyValue.eqAll] using List.find?_some found
    · exact .inl (.absent (.deviceOfSelection (by simp) member) notPresent)
    · exact .inl (.absent (.deviceOfSelection (by simp) member) notPresent)
    · exact .inl (.absent (.profileOfRoute member listed) notPresent)
    · exact .inl (.unsupported member notSupported)
    · exact .inl (.absent (.ownerOfParameter member supported) notPresent)
    · exact .inr (.inr (.inr derived))
    · exact .inl (.absent (.metadataOfDefaults named) notPresent)
  · rintro (unmet | ⟨device, member, derived⟩ | ⟨node, member, derived⟩ | derived)
    · cases unmet with
      | absent refers notPresent =>
          cases refers with
          | parameter isKind member listed =>
              simp only [List.mem_cons, Prod.mk.injEq, List.not_mem_nil, or_false] at isKind
              rcases isKind with ⟨rfl, rfl⟩ | ⟨rfl, rfl⟩ | ⟨rfl, rfl⟩
              · exact .inl ⟨_, member, .inl ⟨_, listed, notPresent, rfl⟩⟩
              · exact .inr (.inl ⟨_, member, .inr (.inl ⟨_, listed, notPresent, rfl⟩)⟩)
              · exact .inr (.inr (.inl ⟨_, member, .inr ⟨_, listed, notPresent, rfl⟩⟩))
          | deviceOfNode member named =>
              exact .inr (.inl ⟨_, member, .inl ⟨named, notPresent, rfl⟩⟩)
          | nodeOfPort member => exact .inr (.inr (.inl ⟨_, member, .inl ⟨notPresent, rfl⟩⟩))
          | endOfLink member isEnd =>
              exact .inr (.inr (.inr (.inl
                ⟨_, member, .inl ⟨_, _, _, _, isEnd, notPresent, rfl⟩⟩)))
          | deviceOfSelection isKind member =>
              simp only [List.mem_cons, Prod.mk.injEq, List.not_mem_nil, or_false] at isKind
              rcases isKind with ⟨rfl, rfl⟩ | ⟨rfl, rfl⟩
              · exact .inr (.inr (.inr (.inr (.inl ⟨_, member, notPresent, rfl⟩))))
              · exact .inr (.inr (.inr (.inr (.inr (.inl
                  ⟨_, member, .inl ⟨notPresent, rfl⟩⟩)))))
          | profileOfRoute member listed =>
              exact .inr (.inr (.inr (.inr (.inr (.inl
                ⟨_, member, .inr ⟨_, listed, notPresent, rfl⟩⟩)))))
          | ownerOfParameter member supported =>
              exact .inr (.inr (.inr (.inr (.inr (.inr (.inl
                ⟨_, member, .inr ⟨_, supported, notPresent, rfl⟩⟩))))))
          | metadataOfDefaults named =>
              exact .inr (.inr (.inr (.inr (.inr (.inr (.inr (.inr ⟨named, notPresent, rfl⟩)))))))
      | @contradicted link port linkEnd isEnd member present named differs =>
          obtain ⟨number, isNumber⟩ := linked.named link member linkEnd isEnd
          obtain ⟨description, unique⟩ := linked.unique
          obtain ⟨other, isOther⟩ := linked.numbered port present
          rw [isNumber, isOther, int_eq_iff] at named
          have found : byId snapshot.ports (link.get linkEnd.portField) = some port := by
            rw [isNumber, named]
            exact byId_of_mem linked.numbered unique present isOther
          exact .inr (.inr (.inr (.inl
            ⟨_, member, .inr ⟨_, isEnd, _, found, differs, rfl⟩⟩)))
      | unsupported member notSupported =>
          exact .inr (.inr (.inr (.inr (.inr (.inr (.inl
            ⟨_, member, .inl ⟨notSupported, rfl⟩⟩))))))
    · exact .inl ⟨device, member, .inr derived⟩
    · exact .inr (.inl ⟨node, member, .inr (.inr derived)⟩)
    · simp [derived]

end Reports

section Readings

variable {cases : CaseTables} {items : Snapshot.Record} {parts : Parts} {index : Nat}
  {item : SpaValue} {value : PyValue} {snapshot : PyValue}

/-- What the parts of a snapshot hold. -/
def Snapshot.Parts.contents (parts : Parts) : Contents where
  devices := parts.devices
  nodes := parts.nodes
  ports := parts.ports
  links := parts.links
  metadata := parts.metadata
  parameters := parts.parameters
  profiles := parts.profiles.map Prod.snd
  routes := parts.routes.map Prod.snd
  defaults := parts.defaults

theorem contents_of_holds (holds : Holds snapshot parts) :
    contents snapshot.get = parts.contents := by
  rw [contents, holds.devices, holds.nodes, holds.ports, holds.links, holds.metadata,
    holds.parameters, holds.profiles, holds.routes, holds.defaults]
  rfl

theorem node_ports {ports : List PyValue} (read : Snapshot.node ports index item = .ok value) :
    ∃ id, recordId item = some id ∧ value.get .id = .int id ∧
      value.get .inputPortIds = integers (portIdsOf ports true id) ∧
      value.get .outputPortIds = integers (portIdsOf ports false id) := by
  obtain ⟨record, isRecord, afterRecord⟩ := bind_ok read
  obtain ⟨given, isGiven, afterGiven⟩ := bind_ok afterRecord
  obtain ⟨id, isId, afterId⟩ := bind_ok afterGiven
  obtain ⟨held, -, afterHeld⟩ := bind_ok afterId
  obtain ⟨state, -, afterState⟩ := bind_ok afterHeld
  obtain ⟨deviceId, -, afterDevice⟩ := bind_ok afterState
  obtain ⟨error, -, afterError⟩ := bind_ok afterDevice
  obtain ⟨parameterIds, -, made⟩ := bind_ok afterError
  exact ⟨id, recordId_of_required isRecord isGiven isId,
    int_of_identifier (construct_field .id .identifier made (by simp [checks]) (by decide)),
    identifiers_normalized
      (construct_field .inputPortIds .identifiers made (by simp [checks]) (by decide)),
    identifiers_normalized
      (construct_field .outputPortIds .identifiers made (by simp [checks]) (by decide))⟩

theorem device_selections {profileKeys routeKeys : List ActiveKey}
    (read : Snapshot.device profileKeys routeKeys index item = .ok value) :
    ∃ id, value.get .id = .int id ∧
      value.get .profileIds = integers (indexesOf profileKeys id) ∧
      value.get .routeIds = integers (indexesOf routeKeys id) := by
  obtain ⟨record, -, afterRecord⟩ := bind_ok read
  obtain ⟨given, -, afterGiven⟩ := bind_ok afterRecord
  obtain ⟨id, -, afterId⟩ := bind_ok afterGiven
  obtain ⟨held, -, afterHeld⟩ := bind_ok afterId
  obtain ⟨parameterIds, -, made⟩ := bind_ok afterHeld
  exact ⟨id,
    int_of_identifier (construct_field .id .identifier made (by simp [checks]) (by decide)),
    identifiers_normalized
      (construct_field .profileIds .identifiers made (by simp [checks]) (by decide)),
    identifiers_normalized
      (construct_field .routeIds .identifiers made (by simp [checks]) (by decide))⟩

theorem link_ports (read : Snapshot.link index item = .ok value) {linkEnd : LinkEnd}
    (isEnd : linkEnd ∈ linkEnds) : ∃ number, value.get linkEnd.portField = .int number := by
  obtain ⟨record, -, afterRecord⟩ := bind_ok read
  obtain ⟨held, -, afterHeld⟩ := bind_ok afterRecord
  obtain ⟨state, -, afterState⟩ := bind_ok afterHeld
  obtain ⟨id, -, afterId⟩ := bind_ok afterState
  obtain ⟨outputNodeId, -, afterOutputNode⟩ := bind_ok afterId
  obtain ⟨outputPortId, -, afterOutputPort⟩ := bind_ok afterOutputNode
  obtain ⟨inputNodeId, -, afterInputNode⟩ := bind_ok afterOutputPort
  obtain ⟨inputPortId, -, afterInputPort⟩ := bind_ok afterInputNode
  obtain ⟨shownState, -, made⟩ := bind_ok afterInputPort
  simp only [linkEnds, List.mem_cons, List.not_mem_nil, or_false] at isEnd
  rcases isEnd with rfl | rfl
  · exact ⟨outputPortId, int_of_identifier (construct_field .outputPortId .identifier made
      (by simp [checks, eachField]) (by decide))⟩
  · exact ⟨inputPortId, int_of_identifier (construct_field .inputPortId .identifier made
      (by simp [checks, eachField]) (by decide))⟩

theorem exists_of_mem_read {read : Nat → SpaValue → Except PyError PyValue} {given : SpaValue}
    {path : PyString} {values : List PyValue}
    (finished : (do
      let items ← Snapshot.sequence given path
      eachIndexed read 0 items) = .ok values) (member : value ∈ values) :
    ∃ place, ∃ item ∈ given.sequence?.getD [], read place item = .ok value := by
  obtain ⟨items, isItems, each⟩ := bind_ok finished
  obtain ⟨place, item, inItems, isValue⟩ := exists_of_mem_eachIndexed each member
  exact ⟨place, item, by rwa [sequence_read isItems], isValue⟩

theorem exists_read_of_mem {read : Nat → SpaValue → Except PyError PyValue} {given : SpaValue}
    {path : PyString} {values : List PyValue}
    (finished : (do
      let items ← Snapshot.sequence given path
      eachIndexed read 0 items) = .ok values) (member : item ∈ given.sequence?.getD []) :
    ∃ place, ∃ value ∈ values, read place item = .ok value := by
  obtain ⟨items, isItems, each⟩ := bind_ok finished
  rw [sequence_read isItems, Option.getD_some] at member
  have related := eachIndexed_ok each
  clear each isItems finished
  induction related with
  | nil => cases member
  | cons here _ inductionHypothesis =>
      rcases List.mem_cons.mp member with isFirst | inRest
      · obtain ⟨place, isValue⟩ := here
        exact ⟨place, _, List.mem_cons_self, isFirst ▸ isValue⟩
      · obtain ⟨place, value, inValues, isValue⟩ := inductionHypothesis inRest
        exact ⟨place, value, List.mem_cons_of_mem _ inValues, isValue⟩

theorem ports_numbered (read : PartsRead cases items parts) : Numbered parts.ports := by
  intro port member
  obtain ⟨place, item, -, isPort⟩ := exists_of_mem_read read.readPorts member
  obtain ⟨id, nodeId, direction, isId, -⟩ := port_read isPort
  exact ⟨id, isId⟩

theorem ports_unique {contents : Contents} (indexed : contents.uniqueIndexes = .ok ()) :
    uniqueIndex [.id] "port id" [] contents.ports = .ok () := by
  obtain ⟨-, -, afterDevices⟩ := bind_ok indexed
  obtain ⟨-, -, afterNodes⟩ := bind_ok afterDevices
  obtain ⟨⟨⟩, portIds, -⟩ := bind_ok afterNodes
  exact portIds

theorem linked_of_read (read : PartsRead cases items parts)
    (indexed : parts.contents.uniqueIndexes = .ok ()) : Linked parts.contents where
  numbered := ports_numbered read
  unique := ⟨_, ports_unique indexed⟩
  named := by
    intro link member linkEnd isEnd
    obtain ⟨place, item, -, isLink⟩ := exists_of_mem_read read.readLinks member
    exact link_ports isLink isEnd

end Readings

section Selections

variable {cases : CaseTables} {items : Snapshot.Record} {parts : Parts}

/-- A property of the gathered values and of the new ones. -/
theorem gathered_all (Property : ActiveKey × PyValue → Prop) {values : List PyValue}
    {found : List (ActiveKey × PyValue)} (already : ∀ pair ∈ found, Property pair)
    (each : ∀ value ∈ values, Property (activeKey value, value)) :
    ∀ pair ∈ values.foldl mergeActive found, Property pair := by
  induction values generalizing found with
  | nil => exact already
  | cons value rest inductionHypothesis =>
      obtain ⟨first, later⟩ := List.forall_mem_cons.mp each
      rw [List.foldl_cons]
      refine inductionHypothesis (fun pair member => ?_) later
      have afterSet : pair ∈ Dictionary.set found (activeKey value) value → Property pair := by
        intro inSet
        rcases Dictionary.mem_set inSet with isNew | isOld
        · exact isNew ▸ first
        · exact already pair isOld
      unfold mergeActive at member
      split at member
      · exact afterSet member
      · split at member
        · exact afterSet member
        · exact already pair member

/-- The gathered values of a class stand under their own keys. -/
theorem mem_merged_pair {type : ValueType} {parameters : List PyValue}
    {pair : ActiveKey × PyValue} (member : pair ∈ merged type parameters) :
    pair.1 = activeKey pair.2 ∧ pair.2.isA type = true ∧
      ∃ parameter ∈ parameters, pair.2 ∈ (parameter.get .values).items := by
  refine gathered_all (fun pair => pair.1 = activeKey pair.2 ∧ pair.2.isA type = true ∧
    ∃ parameter ∈ parameters, pair.2 ∈ (parameter.get .values).items)
    (fun other inNil => absurd inNil List.not_mem_nil) (fun value inValues => ?_) pair member
  rw [List.mem_filter, List.mem_flatMap] at inValues
  exact ⟨rfl, inValues.2, inValues.1⟩

/-- A profile or a route in the parameters has integers in its key. -/
theorem selection_numbered (read : PartsRead cases items parts) {parameter held : PyValue}
    (inParameters : parameter ∈ parts.parameters) (inValues : held ∈ (parameter.get .values).items)
    (isSelection : held.isA .profile = true ∨ held.isA .route = true) :
    ∃ owner index, held.get .deviceId = .int owner ∧ held.get .index = .int index := by
  rw [read.allParameters, List.mem_append] at inParameters
  rcases inParameters with inNormalized | inMixers
  · obtain ⟨place, item, -, isParameter⟩ := exists_of_mem_read read.readParameters inNormalized
    obtain ⟨parameterId, ownerId, raw, kept, -, -, -, isValues, -, selected⟩ :=
      parameter_values isParameter
    rw [isValues] at inValues
    have isSelected := selected held inValues
    cases isType : selectionType? parameterId with
    | none =>
        rw [isType] at isSelected
        rcases isSelection with isProfile | isRoute
        · rw [isSelected.1] at isProfile
          cases isProfile
        · rw [isSelected.2] at isRoute
          cases isRoute
    | some type =>
        rw [isType] at isSelected
        obtain ⟨-, isOwner, index, isIndex⟩ := isSelected
        exact ⟨ownerId, index, isOwner, isIndex⟩
  · obtain ⟨notProfile, notRoute⟩ := mixers_select_nothing read.readMixers inMixers held inValues
    rw [notProfile, notRoute] at isSelection
    rcases isSelection with impossible | impossible <;> cases impossible

theorem present_selection (read : PartsRead cases items parts) {type : ValueType}
    (isSelection : type = .profile ∨ type = .route) {deviceId index : Int}
    (listed : index ∈ indexesOf ((merged type parts.parameters).map Prod.fst) deviceId) :
    Target.Present ⟨(merged type parts.parameters).map Prod.snd, [.deviceId, .index],
      [.int deviceId, .int index]⟩ := by
  obtain ⟨activeKey, inKeys, isIndex⟩ := List.mem_map.mp listed
  obtain ⟨isListed, isDevice⟩ := List.mem_filter.mp inKeys
  obtain ⟨pair, inMerged, isKey⟩ := List.mem_map.mp isListed
  obtain ⟨ownKey, isType, parameter, inParameters, inValues⟩ := mem_merged_pair inMerged
  have isA : pair.2.isA .profile = true ∨ pair.2.isA .route = true := by
    rcases isSelection with rfl | rfl
    · exact .inl isType
    · exact .inr isType
  obtain ⟨owner, place, isOwner, isPlace⟩ := selection_numbered read inParameters inValues isA
  refine ⟨pair.2, List.mem_map_of_mem inMerged, ?_⟩
  have sameKey : activeKey = (owner, place) := by
    rw [← isKey, ownKey, Snapshot.activeKey, Snapshot.intField, Snapshot.intField, isOwner, isPlace]
    rfl
  rw [sameKey, decide_eq_true_eq] at isDevice
  rw [sameKey] at isIndex
  rw [key, List.map_cons, List.map_cons, List.map_nil, isOwner, isPlace, PyValue.eqAll,
    PyValue.eqAll, PyValue.eqAll, int_eq_iff.mpr isDevice.symm, int_eq_iff.mpr isIndex.symm]
  rfl

theorem mem_integers {ids : List Int} {value : PyValue} (member : value ∈ (integers ids).items) :
    ∃ id ∈ ids, value = .int id := by
  obtain ⟨id, inIds, isValue⟩ := List.mem_map.mp member
  exact ⟨id, inIds, isValue.symm⟩

theorem missingSelections_none (read : PartsRead cases items parts) {device : PyValue}
    (member : device ∈ parts.devices) {report : Missing} :
    report ∉ parts.contents.missingSelections device := by
  obtain ⟨place, item, -, isDevice⟩ := exists_of_mem_read read.readDevices member
  obtain ⟨id, isId, profileIds, routeIds⟩ := device_selections isDevice
  intro reported
  rw [Contents.missingSelections, List.mem_append, List.mem_map, List.mem_map, profileIds, routeIds,
    isId] at reported
  rcases reported with ⟨selectionId, inFilter, -⟩ | ⟨selectionId, inFilter, -⟩
  · obtain ⟨listed, isMissing⟩ := List.mem_filter.mp inFilter
    obtain ⟨index, inIndexes, rfl⟩ := mem_integers listed
    exact byKey_isNone.mp isMissing (present_selection read (.inl rfl) inIndexes)
  · obtain ⟨listed, isMissing⟩ := List.mem_filter.mp inFilter
    obtain ⟨index, inIndexes, rfl⟩ := mem_integers listed
    exact byKey_isNone.mp isMissing (present_selection read (.inr rfl) inIndexes)

end Selections

section Ports

variable {cases : CaseTables} {items : Snapshot.Record} {parts : Parts} {snapshot : Contents}
  {node port : PyValue} {report : Missing}

/-- The report about a port of an unknown direction among the outputs of its node. -/
def misfiled (node port : PyValue) : Missing :=
  Contents.missing "node" (node.get .id) "output_port" "port" (port.get .id)
    (text "port ownership or direction does not match the relationship")

/-- A port of an unknown direction names a node of the snapshot. -/
structure Misfiled (snapshot : Contents) (node port : PyValue) : Prop where
  inNodes : node ∈ snapshot.nodes
  inPorts : port ∈ snapshot.ports
  named : (port.get .nodeId).eq (node.get .id) = true
  isUnknown : port.get .direction = .member PortDirection.unknown

theorem mem_portIdsOf {ports : List PyValue} {isInput : Bool} {nodeId portId : Int} :
    portId ∈ portIdsOf ports isInput nodeId ↔ ∃ port ∈ ports,
      (port.get .direction).isMember PortDirection.input = isInput ∧
        Snapshot.intField port .nodeId = nodeId ∧ Snapshot.intField port .id = portId := by
  rw [portIdsOf, List.mem_mergeSort, List.mem_map]
  refine exists_congr fun port => ?_
  rw [List.mem_filter, Bool.and_eq_true, beq_iff_eq, decide_eq_true_eq, and_assoc, and_assoc]

theorem isMember_portDirection (number : Int) (direction : PortDirection) :
    (PyValue.member (portDirection number)).isMember direction =
      decide (portDirection number = direction) := by
  cases portDirection number <;> cases direction <;> rfl

/-- A port that names a node is reported with it where its direction is another. -/
theorem missingPort_named (numbered : Numbered snapshot.ports)
    (unique : uniqueIndex [.id] "port id" [] snapshot.ports = .ok ()) (member : port ∈ snapshot.ports)
    (named : (port.get .nodeId).eq (node.get .id) = true) (direction : PortDirection)
    (relation : String) :
    snapshot.missingPort node direction relation (port.get .id) =
      if (port.get .direction).isMember direction then []
      else [Contents.missing "node" (node.get .id) relation "port" (port.get .id)
        (text "port ownership or direction does not match the relationship")] := by
  obtain ⟨number, isNumber⟩ := numbered port member
  have found : byId snapshot.ports (port.get .id) = some port := by
    rw [isNumber]
    exact byId_of_mem numbered unique member isNumber
  rw [Contents.missingPort, found]
  cases isDirection : (port.get .direction).isMember direction <;> simp [named, isDirection]

/-- Of the derived ports of a node those of an unknown direction are reported. -/
theorem mem_missingPorts (read : PartsRead cases items parts)
    (indexed : parts.contents.uniqueIndexes = .ok ()) (member : node ∈ parts.nodes) :
    report ∈ parts.contents.missingPorts node ↔
      ∃ port, Misfiled parts.contents node port ∧ report = misfiled node port := by
  obtain ⟨place, item, -, isNode⟩ := exists_of_mem_read read.readNodes member
  obtain ⟨id, -, isId, inputIds, outputIds⟩ := node_ports isNode
  have numbered : Numbered parts.contents.ports := ports_numbered read
  have unique := ports_unique indexed
  have portOf : ∀ port ∈ parts.ports, ∃ portId nodeId direction,
      port.get .id = .int portId ∧ port.get .nodeId = .int nodeId ∧
        port.get .direction = .member (portDirection direction) := by
    intro port inPorts
    obtain ⟨place, item, -, isPort⟩ := exists_of_mem_read read.readPorts inPorts
    obtain ⟨portId, nodeId, direction, isPortId, isNodeId, isDirection, -⟩ := port_read isPort
    exact ⟨portId, nodeId, direction, isPortId, isNodeId, isDirection⟩
  rw [Contents.missingPorts, List.mem_append, List.mem_flatMap, List.mem_flatMap, inputIds, outputIds]
  constructor
  · rintro (⟨given, listed, reported⟩ | ⟨given, listed, reported⟩)
    · obtain ⟨portId, inIds, rfl⟩ := mem_integers listed
      obtain ⟨port, inPorts, isInput, isNodeId, isPortId⟩ := mem_portIdsOf.mp inIds
      obtain ⟨ownId, nodeId, direction, isOwn, isNodeField, isDirection⟩ := portOf port inPorts
      have named : (port.get .nodeId).eq (node.get .id) = true := by
        rw [Snapshot.intField, isNodeField] at isNodeId
        rw [isNodeField, isId, int_eq_iff]
        exact isNodeId.symm
      have sameId : port.get .id = .int portId := by
        rw [Snapshot.intField, isOwn] at isPortId
        rw [isOwn]
        exact congrArg PyValue.int isPortId
      rw [← sameId, missingPort_named numbered unique inPorts named, if_pos isInput] at reported
      cases reported
    · obtain ⟨portId, inIds, rfl⟩ := mem_integers listed
      obtain ⟨port, inPorts, isInput, isNodeId, isPortId⟩ := mem_portIdsOf.mp inIds
      obtain ⟨ownId, nodeId, direction, isOwn, isNodeField, isDirection⟩ := portOf port inPorts
      have named : (port.get .nodeId).eq (node.get .id) = true := by
        rw [Snapshot.intField, isNodeField] at isNodeId
        rw [isNodeField, isId, int_eq_iff]
        exact isNodeId.symm
      have sameId : port.get .id = .int portId := by
        rw [Snapshot.intField, isOwn] at isPortId
        rw [isOwn]
        exact congrArg PyValue.int isPortId
      rw [← sameId, missingPort_named numbered unique inPorts named] at reported
      split at reported
      · cases reported
      · rename_i notOutput
        refine ⟨port, ⟨member, inPorts, named, ?_⟩, List.mem_singleton.mp reported⟩
        rw [isDirection, isMember_portDirection] at notOutput isInput
        rw [isDirection]
        cases given : portDirection direction with
        | input =>
            rw [given] at isInput
            cases isInput
        | output => exact absurd (decide_eq_true given) notOutput
        | unknown => rfl
  · rintro ⟨port, isMisfiled, rfl⟩
    obtain ⟨ownId, nodeId, direction, isOwn, isNodeField, -⟩ := portOf port isMisfiled.inPorts
    have named := isMisfiled.named
    refine .inr ⟨port.get .id, ?_, ?_⟩
    · rw [isOwn]
      refine List.mem_map_of_mem (mem_portIdsOf.mpr ⟨port, isMisfiled.inPorts, ?_, ?_, ?_⟩)
      · rw [isMisfiled.isUnknown]
        rfl
      · rw [isNodeField, isId, int_eq_iff] at named
        rw [Snapshot.intField, isNodeField, named]
        rfl
      · rw [Snapshot.intField, isOwn]
        rfl
    · rw [missingPort_named numbered unique isMisfiled.inPorts named, isMisfiled.isUnknown]
      exact List.mem_singleton.mpr rfl

end Ports

section Targets

variable {cases : CaseTables} {items : Snapshot.Record} {parts : Parts} {nodes : List PyValue}

theorem resolve_present (numbered : Numbered nodes) {name : Option PyString} {id : Int}
    (resolved : resolve (nodesByName nodes) name = some id) :
    Target.Present ⟨nodes, [.id], [.int id]⟩ := by
  unfold resolve at resolved
  split at resolved
  · obtain ⟨before, after, isSplit, -⟩ := List.lookup_eq_some_iff.mp resolved
    have inNames := @Dictionary.mem_ofItems _ _ _ (nodes.filterMap namedNode?) _ (by
      rw [← nodesByName_eq, isSplit]
      exact List.mem_append_right _ List.mem_cons_self)
    obtain ⟨node, inNodes, isNamed⟩ := List.mem_filterMap.mp inNames
    unfold namedNode? at isNamed
    split at isNamed
    · obtain ⟨number, isNumber⟩ := numbered node inNodes
      have sameId := congrArg Prod.snd (Option.some.inj isNamed)
      rw [Snapshot.intField, isNumber] at sameId
      refine present_id.mpr ⟨node, inNodes, ?_⟩
      rw [isNumber, int_eq_iff]
      exact sameId.symm
    · cases isNamed
  · cases resolved

theorem target_resolves {entries : List KeyedEntry} {mediaClass key : String} {value : PyValue}
    (read : Snapshot.target entries (nodesByName nodes) mediaClass key = .ok value) :
    ∃ name, value.get .resolvedNodeId = optionalInt (resolve (nodesByName nodes) name) := by
  obtain ⟨name, -, isResolved⟩ := target_read read
  exact ⟨name, isResolved⟩

theorem defaults_resolve {defaults : PyValue} {value : SpaValue}
    (read : Snapshot.defaults value nodes = .ok defaults) {name : FieldName}
    (isTarget : name ∈ [FieldName.audioSink, .audioSource, .videoSource]) :
    ∃ found, (defaults.get name).get .resolvedNodeId =
      optionalInt (resolve (nodesByName nodes) found) := by
  obtain ⟨items, -, afterItems⟩ := bind_ok read
  obtain ⟨⟨metadataId, entries⟩, -, afterEntries⟩ := bind_ok afterItems
  obtain ⟨extra, -, afterExtra⟩ := bind_ok afterEntries
  obtain ⟨audioSink, isSink, afterSink⟩ := bind_ok afterExtra
  obtain ⟨audioSource, isSource, afterSource⟩ := bind_ok afterSink
  obtain ⟨videoSource, isVideo, made⟩ := bind_ok afterSource
  have kept : ∀ target ∈ [FieldName.audioSink, .audioSource, .videoSource],
      ∀ value, initialRecord .defaults [(.metadataId, optionalInt metadataId),
        (.audioSink, audioSink), (.audioSource, audioSource), (.videoSource, videoSource),
        (.extra, .dict extra)] target = value → defaults.get target = value := by
    intro target member value isValue
    simp only [List.mem_cons, List.not_mem_nil, or_false] at member
    have isCheck : Check.field target (.optionalRuntimeValue .defaultTarget) ∈ checks .defaults := by
      rcases member with rfl | rfl | rfl <;> simp [checks, eachField]
    have isField : target ∈ fieldNames .defaults := by
      rcases member with rfl | rfl | rfl <;> decide
    rw [← isValue]
    exact optional_same runtimeValue_same (construct_field target _ made isCheck isField)
  simp only [List.mem_cons, List.not_mem_nil, or_false] at isTarget
  rcases isTarget with rfl | rfl | rfl
  · rw [kept .audioSink (by simp) audioSink rfl]
    exact target_resolves isSink
  · rw [kept .audioSource (by simp) audioSource rfl]
    exact target_resolves isSource
  · rw [kept .videoSource (by simp) videoSource rfl]
    exact target_resolves isVideo

theorem nodes_numbered (read : PartsRead cases items parts) : Numbered parts.nodes := by
  intro node member
  obtain ⟨place, item, -, isNode⟩ := exists_of_mem_read read.readNodes member
  obtain ⟨id, -, isId, -⟩ := node_ports isNode
  exact ⟨id, isId⟩

theorem missingTargets_none (read : PartsRead cases items parts) {report : Missing} :
    report ∉ parts.contents.missingTargets := by
  have none : ∀ name ∈ [FieldName.audioSink, .audioSource, .videoSource],
      report ∉ parts.contents.missingDefault name := by
    intro name isTarget reported
    obtain ⟨found, isResolved⟩ := defaults_resolve read.readDefaults isTarget
    rw [Contents.missingDefault, List.mem_ite_nil_right] at reported
    obtain ⟨missing, -⟩ := reported
    rw [Bool.and_eq_true, Bool.and_eq_true, byId_isNone] at missing
    obtain ⟨⟨-, notNone⟩, notPresent⟩ := missing
    change ((parts.defaults.get name).get .resolvedNodeId).isNone.not = true at notNone
    change ¬ Target.Present ⟨parts.nodes, [.id], [(parts.defaults.get name).get .resolvedNodeId]⟩
      at notPresent
    rw [isResolved] at notNone notPresent
    cases resolved : resolve (nodesByName parts.nodes) found with
    | none =>
        rw [resolved] at notNone
        cases notNone
    | some id =>
        rw [resolved] at notPresent
        exact notPresent (resolve_present (nodes_numbered read) resolved)
  rw [Contents.missingTargets, List.mem_append, List.mem_append]
  rintro ((sink | source) | video)
  · exact none .audioSink (by simp) sink
  · exact none .audioSource (by simp) source
  · exact none .videoSource (by simp) video

end Targets

section Snapshots

variable {cases : CaseTables} {items : Snapshot.Record} {parts : Parts} {snapshot entry : PyValue}

/-- A relationship value keeps the texts of its report. -/
theorem value_texts {report : Missing} (made : report.value = .ok entry) :
    entry.get .sourceType = .str report.sourceType ∧ entry.get .relation = .str report.relation := by
  obtain ⟨sourceId, record, -, finished, isEntry⟩ := Missing.value_ok made
  have ordered : Ordered unresolvedSteps := by decide
  have ofText (name : FieldName) (member : fieldStep name (.requiredString false) ∈ unresolvedSteps)
      (isField : name ∈ unresolvedNames) {given : PyString} (isGiven : report.record sourceId name = .str given) :
      entry.get name = .str given := by
    have normalized : FieldKind.normalize (.requiredString false) name.text (report.record sourceId name) =
        .ok (record name) := runSteps_assign ordered finished member (by simp)
    obtain ⟨string, accepted, isString⟩ := map_ok normalized
    have sameField : entry.get name = record name := by
      rw [← isEntry]
      have found : name ∈ fieldNames .unresolvedRelationship := isField
      exact get_toRuntime found
    rw [sameField, ← isString, ← requiredString_ok accepted, isGiven]
  exact ⟨ofText .sourceType (by simp [unresolvedSteps]) (by decide) rfl,
    ofText .relation (by simp [unresolvedSteps]) (by decide) rfl⟩

/-- A reference that a record makes is not one to a port among the outputs of a node. -/
theorem relation_of_unmet {contents : Contents} {report : Missing} (unmet : contents.Unmet report)
    (isNode : report.sourceType = text "node") : report.relation ≠ text "output_port" := by
  have notLink : text "link" ≠ text "node" := by decide
  cases unmet with
  | absent refers notPresent =>
      cases refers with
      | endOfLink => exact absurd isNode notLink
      | parameter => exact (by decide : text "parameter" ≠ text "output_port")
      | deviceOfNode | deviceOfSelection => exact (by decide : text "device" ≠ text "output_port")
      | nodeOfPort => exact (by decide : text "node" ≠ text "output_port")
      | profileOfRoute => exact (by decide : text "profile" ≠ text "output_port")
      | ownerOfParameter => exact (by decide : text "owner" ≠ text "output_port")
      | metadataOfDefaults => exact (by decide : text "metadata" ≠ text "output_port")
  | contradicted => exact absurd isNode notLink
  | unsupported => exact (by decide : text "owner" ≠ text "output_port")

/-- What is reported of the derived relations: the ports of an unknown direction. -/
theorem derived_iff (read : PartsRead cases items parts)
    (indexed : parts.contents.uniqueIndexes = .ok ()) {report : Missing} :
    parts.contents.Derived report ↔
      ∃ node port, Misfiled parts.contents node port ∧ report = misfiled node port := by
  constructor
  · rintro (⟨device, member, reported⟩ | ⟨node, member, reported⟩ | reported)
    · exact absurd reported (missingSelections_none read member)
    · obtain ⟨port, isMisfiled, isReport⟩ := (mem_missingPorts read indexed member).mp reported
      exact ⟨node, port, isMisfiled, isReport⟩
    · exact absurd reported (missingTargets_none read)
  · rintro ⟨node, port, isMisfiled, isReport⟩
    exact .inr (.inl ⟨node, isMisfiled.inNodes,
      (mem_missingPorts read indexed isMisfiled.inNodes).mpr ⟨port, isMisfiled, isReport⟩⟩)

/-- What a decoded snapshot reports: the references of its records that are not met, and the
ports of an unknown direction. -/
theorem mem_unresolved (read : PartsRead cases items parts) (holds : Holds snapshot parts) :
    entry ∈ (snapshot.get .unresolvedRelationships).items ↔
      (∃ report, (contents snapshot.get).Unmet report ∧ report.value = .ok entry) ∨
        ∃ node port, Misfiled (contents snapshot.get) node port ∧
          (misfiled node port).value = .ok entry := by
  obtain ⟨computed, isComputed, isUnresolved⟩ := holds.resolved
  have indexed := holds.indexed
  rw [contents_of_holds holds] at isComputed indexed ⊢
  have ofReport : entry ∈ (snapshot.get .unresolvedRelationships).items ↔
      ∃ report ∈ parts.contents.missingRelationships, report.value = .ok entry := by
    rw [isUnresolved]
    constructor
    · exact fun member => exists_of_mem_mapM isComputed member
    · rintro ⟨report, member, isEntry⟩
      obtain ⟨other, inComputed, isOther⟩ := exists_of_mem_mapM_left isComputed member
      rw [isEntry] at isOther
      exact Except.ok.inj isOther ▸ inComputed
  rw [ofReport]
  constructor
  · rintro ⟨report, member, isEntry⟩
    rcases (mem_missingRelationships (linked_of_read read indexed)).mp member with unmet | isDerived
    · exact .inl ⟨report, unmet, isEntry⟩
    · obtain ⟨node, port, isMisfiled, rfl⟩ := (derived_iff read indexed).mp isDerived
      exact .inr ⟨node, port, isMisfiled, isEntry⟩
  · rintro (⟨report, unmet, isEntry⟩ | ⟨node, port, isMisfiled, isEntry⟩)
    · exact ⟨report, (mem_missingRelationships (linked_of_read read indexed)).mpr (.inl unmet), isEntry⟩
    · exact ⟨_, (mem_missingRelationships (linked_of_read read indexed)).mpr
        (.inr ((derived_iff read indexed).mpr ⟨node, port, isMisfiled, rfl⟩)), isEntry⟩

/-- The records of a payload that make a port misfiled. -/
theorem exists_misfiled_iff (read : PartsRead cases items parts) (holds : Holds snapshot parts) :
    (∃ node port, Misfiled (contents snapshot.get) node port) ↔
      ∃ port ∈ RecordKind.port.records items, ∃ node ∈ RecordKind.node.records items,
        recordId node = portNode port ∧ portSide port ≠ some 0 ∧ portSide port ≠ some 1 := by
  rw [contents_of_holds holds]
  have isUnknown : ∀ direction, portDirection direction = .unknown ↔ direction ≠ 0 ∧ direction ≠ 1 := by
    intro direction
    unfold portDirection
    split
    · simp [*]
    · split <;> simp [*]
  constructor
  · rintro ⟨node, port, inNodes, inPorts, named, unknown⟩
    obtain ⟨nodePlace, nodeItem, inNodeRecords, isNode⟩ := exists_of_mem_read read.readNodes inNodes
    obtain ⟨portPlace, portItem, inPortRecords, isPort⟩ := exists_of_mem_read read.readPorts inPorts
    obtain ⟨id, hasId, isId, -⟩ := node_ports isNode
    obtain ⟨portId, nodeId, direction, -, isNodeId, isDirection, hasNode, hasSide⟩ := port_read isPort
    refine ⟨portItem, inPortRecords, nodeItem, inNodeRecords, ?_, ?_⟩
    · rw [isNodeId, isId, int_eq_iff] at named
      rw [hasId, hasNode, named]
    · have direction_unknown : portDirection direction = .unknown := by
        rw [isDirection] at unknown
        cases given : portDirection direction with
        | unknown => rfl
        | input | output =>
            rw [given] at unknown
            exact absurd (PyValue.str.inj unknown) (by decide)
      obtain ⟨notInput, notOutput⟩ := (isUnknown direction).mp direction_unknown
      rw [hasSide]
      exact ⟨fun same => notInput (Option.some.inj same), fun same => notOutput (Option.some.inj same)⟩
  · rintro ⟨portItem, inPortRecords, nodeItem, inNodeRecords, sameNode, notInput, notOutput⟩
    obtain ⟨nodePlace, node, inNodes, isNode⟩ := exists_read_of_mem read.readNodes inNodeRecords
    obtain ⟨portPlace, port, inPorts, isPort⟩ := exists_read_of_mem read.readPorts inPortRecords
    obtain ⟨id, hasId, isId, -⟩ := node_ports isNode
    obtain ⟨portId, nodeId, direction, -, isNodeId, isDirection, hasNode, hasSide⟩ := port_read isPort
    rw [hasId, hasNode] at sameNode
    rw [hasSide] at notInput notOutput
    refine ⟨node, port, inNodes, inPorts, ?_, ?_⟩
    · rw [isNodeId, isId, int_eq_iff]
      exact Option.some.inj sameNode
    · rw [isDirection, (isUnknown direction).mpr
        ⟨fun same => notInput (same ▸ rfl), fun same => notOutput (same ▸ rfl)⟩]

/-- A misfiled port is reported, and it is no reference that is not met. -/
theorem not_exact_of_misfiled (read : PartsRead cases items parts) (holds : Holds snapshot parts)
    {node port : PyValue} (isMisfiled : Misfiled (contents snapshot.get) node port) :
    ¬ ∀ entry, entry ∈ (snapshot.get .unresolvedRelationships).items ↔
      ∃ report, (contents snapshot.get).Unmet report ∧ report.value = .ok entry := by
  intro exact
  have indexed := holds.indexed
  obtain ⟨computed, isComputed, -⟩ := holds.resolved
  have reported : misfiled node port ∈ parts.contents.missingRelationships := by
    rw [contents_of_holds holds] at indexed isMisfiled
    refine (mem_missingRelationships (linked_of_read read indexed)).mpr
      (.inr (.inr (.inl ⟨node, isMisfiled.inNodes, ?_⟩)))
    exact (mem_missingPorts read indexed isMisfiled.inNodes).mpr ⟨port, isMisfiled, rfl⟩
  rw [contents_of_holds holds] at isComputed
  obtain ⟨entry, -, isEntry⟩ := exists_of_mem_mapM_left isComputed reported
  obtain ⟨report, unmet, sameEntry⟩ :=
    (exact entry).mp ((mem_unresolved read holds).mpr (.inr ⟨node, port, isMisfiled, isEntry⟩))
  obtain ⟨source, relation⟩ := value_texts sameEntry
  obtain ⟨misfiledSource, misfiledRelation⟩ := value_texts isEntry
  refine relation_of_unmet unmet ?_ ?_
  · exact PyValue.str.inj (source.symm.trans misfiledSource)
  · exact PyValue.str.inj (relation.symm.trans misfiledRelation)

/-- A snapshot reports exactly the references of its records that are not met where every port
that names a node of the payload is an input or an output. -/
theorem unresolved_iff {payload : SpaValue} (isItems : payload.mapping? = some items)
    (decoded : runtimeSnapshotFromPayload cases payload = .ok snapshot) :
    (∀ entry, entry ∈ (snapshot.get .unresolvedRelationships).items ↔
      ∃ report, (contents snapshot.get).Unmet report ∧ report.value = .ok entry) ↔
    ∀ port ∈ RecordKind.port.records items, ∀ node ∈ RecordKind.node.records items,
      recordId node = portNode port → portSide port = some 0 ∨ portSide port = some 1 := by
  obtain ⟨found, isFound, ⟨decoding⟩⟩ := exists_decoding decoded
  obtain rfl : items = found := Option.some.inj (isItems.symm.trans isFound)
  obtain ⟨read⟩ := exists_partsRead decoding.readParts
  have holds := snapshotValue_holds decoding.built
  constructor
  · intro exact port inPorts node inNodes sameNode
    by_contra neither
    rw [not_or] at neither
    obtain ⟨nodeValue, portValue, isMisfiled⟩ := (exists_misfiled_iff read holds).mpr
      ⟨port, inPorts, node, inNodes, sameNode, neither⟩
    exact not_exact_of_misfiled read holds isMisfiled exact
  · intro known entry
    rw [mem_unresolved read holds, or_iff_left]
    rintro ⟨node, port, isMisfiled, -⟩
    obtain ⟨portItem, inPorts, nodeItem, inNodes, sameNode, notInput, notOutput⟩ :=
      (exists_misfiled_iff read holds).mp ⟨node, port, isMisfiled⟩
    rcases known portItem inPorts nodeItem inNodes sameNode with isInput | isOutput
    · exact notInput isInput
    · exact notOutput isOutput

end Snapshots

section Instances

/-- A port of the node whose direction is neither 0 nor 1. -/
def unknownPort : SpaValue := nodePort 2 2 "1"

def unknownPortPayload : Snapshot.Record := payloadWith [connectedNode] [unknownPort]

/-- A snapshot with ports of three nodes reports the one node that is missing. -/
theorem unresolved_ported : ∃ snapshot, snapshotFrom portedPayload = .ok snapshot ∧
    (snapshot.get .unresolvedRelationships).items.length = 1 ∧
    ∀ entry, entry ∈ (snapshot.get .unresolvedRelationships).items ↔
      ∃ report, (contents snapshot.get).Unmet report ∧ report.value = .ok entry := by
  obtain ⟨snapshot, decoded, -, single⟩ := snapshotFrom_ported
  refine ⟨snapshot, decoded, single, (unresolved_iff rfl decoded).mpr ?_⟩
  have sided : ∀ port ∈ RecordKind.port.records portedPayload,
      portSide port = some 0 ∨ portSide port = some 1 := by decide +kernel
  exact fun port inPorts _ _ _ => sided port inPorts

/-- A port of an unknown direction is reported, though no record refers to what is absent. -/
theorem unresolved_unknownPort : ∃ snapshot,
    snapshotFrom unknownPortPayload = .ok snapshot ∧
      ¬ ∀ entry, entry ∈ (snapshot.get .unresolvedRelationships).items ↔
        ∃ report, (contents snapshot.get).Unmet report ∧ report.value = .ok entry := by
  obtain ⟨snapshot, decoded, -⟩ := exists_of_gives (show gives (fun snapshot =>
    (snapshot.get .unresolvedRelationships).items.length == 1)
    (snapshotFrom unknownPortPayload) = true by decide +kernel)
  obtain ⟨items, isItems, ⟨decoding⟩⟩ := exists_decoding decoded
  obtain rfl : unknownPortPayload = items := Option.some.inj isItems
  obtain ⟨read⟩ := exists_partsRead decoding.readParts
  have holds := snapshotValue_holds decoding.built
  obtain ⟨node, port, isMisfiled⟩ := (exists_misfiled_iff read holds).mpr
    ⟨unknownPort, List.mem_singleton.mpr rfl, connectedNode, List.mem_singleton.mpr rfl, rfl,
      by decide +kernel, by decide +kernel⟩
  exact ⟨snapshot, decoded, not_exact_of_misfiled read holds isMisfiled⟩

end Instances

end WyrePlumber.Runtime
