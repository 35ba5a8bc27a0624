import WyrePlumber.Runtime.Models

/-!
# Relationships of a snapshot

The indexes of a snapshot, and the relationships of its records whose target
is absent from it or contradicts it.
-/

set_option autoImplicit false
set_option linter.constructorNameAsVariable false

namespace WyrePlumber.Runtime

open Python RecordValidation Results

section Constructor

/-- The object of a class with the fields of a record, in the order of the class. -/
def toRuntime (type : ValueType) (names : List FieldName) (record : Record) : PyValue :=
  .runtime type (names.map fun name => (name, record name))

def unresolvedNames : List FieldName :=
  [.sourceType, .sourceId, .relation, .targetType, .targetId, .reason]

def unresolvedSteps : List ClassStep :=
  [fieldStep .sourceType (.requiredString false), fieldStep .sourceId .identity,
    fieldStep .relation (.requiredString false), fieldStep .targetType (.requiredString false),
    fieldStep .targetId .identity, fieldStep .reason (.requiredString false)]

/-- A relationship that does not resolve.  A source made of numbers of too many digits
is none. -/
structure Missing where
  sourceType : PyString
  sourceId : Option PyValue
  relation : PyString
  targetType : PyString
  targetId : PyValue
  reason : PyString

def Missing.record (missing : Missing) (sourceId : PyValue) : Record
  | .sourceType => .str missing.sourceType
  | .sourceId => sourceId
  | .relation => .str missing.relation
  | .targetType => .str missing.targetType
  | .targetId => missing.targetId
  | .reason => .str missing.reason
  | _ => .none

def Missing.value (missing : Missing) : Except PyError PyValue :=
  match missing.sourceId with
  | none => .error digitLimit
  | some sourceId =>
      (runSteps unresolvedSteps (missing.record sourceId)).map
        (toRuntime .unresolvedRelationship unresolvedNames)

/-- A report that gives a value has a source. -/
theorem Missing.value_ok {missing : Missing} {value : PyValue} (made : missing.value = .ok value) :
    ∃ sourceId record, missing.sourceId = some sourceId ∧
      runSteps unresolvedSteps (missing.record sourceId) = .ok record ∧
      toRuntime .unresolvedRelationship unresolvedNames record = value := by
  unfold Missing.value at made
  split at made
  · cases made
  · rename_i sourceId isSource
    obtain ⟨record, finished, isValue⟩ := map_ok made
    exact ⟨sourceId, record, isSource, finished, isValue⟩

end Constructor

section Indexes

def key (fields : List FieldName) (value : PyValue) : List PyValue := fields.map value.get

def byKey (values : List PyValue) (fields : List FieldName) (wanted : List PyValue) :
    Option PyValue :=
  values.find? fun value => PyValue.eqAll (key fields value) wanted

def byId (values : List PyValue) (wanted : PyValue) : Option PyValue := byKey values [.id] [wanted]

/-- `_unique_index`: refuses a second value with one key. -/
def uniqueIndex (fields : List FieldName) (description : String) :
    List PyValue → List PyValue → Except PyError Unit
  | _, [] => .ok ()
  | seen, value :: rest =>
      if (byKey seen fields (key fields value)).isSome then
        .error (.valueError [.text (text "duplicate " ++ text description ++ text ": "),
          .repr (match key fields value with | [single] => single | many => .tuple many)])
      else uniqueIndex fields description (seen ++ [value]) rest

end Indexes

/-- What a snapshot holds, after the checks of its collections. -/
structure Contents where
  devices : List PyValue
  nodes : List PyValue
  ports : List PyValue
  links : List PyValue
  metadata : List PyValue
  parameters : List PyValue
  profiles : List PyValue
  routes : List PyValue
  defaults : PyValue

def PyValue.items (value : PyValue) : List PyValue := value.sequence?.getD []

def contents (record : Record) : Contents where
  devices := (record .devices).items
  nodes := (record .nodes).items
  ports := (record .ports).items
  links := (record .links).items
  metadata := (record .metadata).items
  parameters := (record .parameters).items
  profiles := (record .profiles).items
  routes := (record .routes).items
  defaults := record .defaults

def contentFields : List FieldName :=
  [.devices, .nodes, .ports, .links, .metadata, .parameters, .profiles, .routes, .defaults]

namespace Contents

variable (snapshot : Contents)

def uniqueIndexes : Except PyError Unit := do
  uniqueIndex [.id] "device id" [] snapshot.devices
  uniqueIndex [.id] "node id" [] snapshot.nodes
  uniqueIndex [.id] "port id" [] snapshot.ports
  uniqueIndex [.id] "link id" [] snapshot.links
  uniqueIndex [.id] "metadata id" [] snapshot.metadata
  uniqueIndex [.ownerType, .ownerId, .id] "parameter key" [] snapshot.parameters
  uniqueIndex [.deviceId, .index] "profile key" [] snapshot.profiles
  uniqueIndex [.deviceId, .index] "route key" [] snapshot.routes

section Missing

def absent : PyString := text "target is absent from this snapshot"

def missing (sourceType : String) (sourceId : PyValue) (relation targetType : String)
    (targetId : PyValue) (reason : PyString) : Missing :=
  ⟨text sourceType, some sourceId, text relation, text targetType, targetId, reason⟩

def missingParameters (sourceType : String) (owner : PyValue) : List Missing :=
  ((owner.get .parameterIds).items.filter fun parameterId =>
    (byKey snapshot.parameters [.ownerType, .ownerId, .id]
      [.str (text sourceType), owner.get .id, parameterId]).isNone).map fun parameterId =>
    missing sourceType (owner.get .id) "parameter" "parameter" parameterId absent

def missingOfDevice (device : PyValue) : List Missing :=
  snapshot.missingParameters "device" device ++
  (((device.get .profileIds).items.filter fun profileId =>
    (byKey snapshot.profiles [.deviceId, .index] [device.get .id, profileId]).isNone).map
      fun profileId => missing "device" (device.get .id) "profile" "profile" profileId absent) ++
  (((device.get .routeIds).items.filter fun routeId =>
    (byKey snapshot.routes [.deviceId, .index] [device.get .id, routeId]).isNone).map
      fun routeId => missing "device" (device.get .id) "route" "route" routeId absent)

def missingPort (node : PyValue) (direction : PortDirection) (relation : String)
    (portId : PyValue) : List Missing :=
  match byId snapshot.ports portId with
  | none => [missing "node" (node.get .id) relation "port" portId absent]
  | some port =>
      if !(port.get .nodeId).eq (node.get .id) || !(port.get .direction).isMember direction then
        [missing "node" (node.get .id) relation "port" portId
          (text "port ownership or direction does not match the relationship")]
      else []

def missingOfNode (node : PyValue) : List Missing :=
  (if !(node.get .deviceId).isNone && (byId snapshot.devices (node.get .deviceId)).isNone then
    [missing "node" (node.get .id) "device" "device" (node.get .deviceId) absent] else []) ++
  snapshot.missingParameters "node" node ++
  (node.get .inputPortIds).items.flatMap (snapshot.missingPort node .input "input_port") ++
  (node.get .outputPortIds).items.flatMap (snapshot.missingPort node .output "output_port")

def missingOfPort (port : PyValue) : List Missing :=
  (if (byId snapshot.nodes (port.get .nodeId)).isNone then
    [missing "port" (port.get .id) "node" "node" (port.get .nodeId) absent] else []) ++
  snapshot.missingParameters "port" port

def missingEndpoint (link : PyValue) (relation targetType : String) (target : FieldName)
    (index : List PyValue) : List Missing :=
  if (byId index (link.get target)).isNone then
    [missing "link" (link.get .id) relation targetType (link.get target) absent]
  else []

def contradictedEndpoint (link : PyValue) (portField nodeField : FieldName)
    (direction : PortDirection) (relation problem : String) : List Missing :=
  match byId snapshot.ports (link.get portField) with
  | none => []
  | some port =>
      if !(port.get .nodeId).eq (link.get nodeField) ||
          !(port.get .direction).isMember direction then
        [missing "link" (link.get .id) relation "port" (link.get portField) (text problem)]
      else []

def missingOfLink (link : PyValue) : List Missing :=
  missingEndpoint link "output_node" "node" .outputNodeId snapshot.nodes ++
  missingEndpoint link "input_node" "node" .inputNodeId snapshot.nodes ++
  missingEndpoint link "output_port" "port" .outputPortId snapshot.ports ++
  missingEndpoint link "input_port" "port" .inputPortId snapshot.ports ++
  snapshot.contradictedEndpoint link .outputPortId .outputNodeId .output "output_endpoint"
    "output port does not belong to the output node or has the wrong direction" ++
  snapshot.contradictedEndpoint link .inputPortId .inputNodeId .input "input_endpoint"
    "input port does not belong to the input node or has the wrong direction"

def missingDevice (sourceType : String) (value : PyValue) : List Missing :=
  if (byId snapshot.devices (value.get .deviceId)).isNone then
    [missing sourceType (value.get .index) "device" "device" (value.get .deviceId) absent]
  else []

def missingOfRoute (route : PyValue) : List Missing :=
  snapshot.missingDevice "route" route ++
  (((route.get .profileIds).items.filter fun profileId =>
    (byKey snapshot.profiles [.deviceId, .index] [route.get .deviceId, profileId]).isNone).map
      fun profileId => missing "route" (route.get .index) "profile" "profile" profileId absent)

def ownerIndex (ownerType : PyValue) : Option (List PyValue) :=
  if ownerType.eq (.str (text "device")) then some snapshot.devices
  else if ownerType.eq (.str (text "node")) then some snapshot.nodes
  else if ownerType.eq (.str (text "port")) then some snapshot.ports
  else if ownerType.eq (.str (text "link")) then some snapshot.links
  else if ownerType.eq (.str (text "metadata")) then some snapshot.metadata
  else none

/-- The piece of an f-string that a string or an integer gives; none where Python
raises `ValueError`. -/
def shown : PyValue → Option PyString
  | .str string => some string
  | .int number => intText? number
  | _ => some []

def string : PyValue → PyString
  | .str string => string
  | _ => []

/-- `f"{parameter.owner_type}:{parameter.owner_id}:{parameter.id}"`. -/
def parameterText (parameter : PyValue) : Option PyValue := do
  let ownerType ← shown (parameter.get .ownerType)
  let ownerId ← shown (parameter.get .ownerId)
  let id ← shown (parameter.get .id)
  some (.str (ownerType ++ text ":" ++ ownerId ++ text ":" ++ id))

def ownerReport (parameter : PyValue) (reason : PyString) : Missing :=
  ⟨text "parameter", parameterText parameter, text "owner", string (parameter.get .ownerType),
    parameter.get .ownerId, reason⟩

def missingOfParameter (parameter : PyValue) : List Missing :=
  match snapshot.ownerIndex (parameter.get .ownerType) with
  | none => [ownerReport parameter (text "owner type is unsupported by this snapshot contract")]
  | some index =>
      if (byId index (parameter.get .ownerId)).isNone then [ownerReport parameter absent] else []

def missingDefault (name : FieldName) : List Missing :=
  let target := snapshot.defaults.get name
  let resolved := target.get .resolvedNodeId
  if !target.isNone && !resolved.isNone && (byId snapshot.nodes resolved).isNone then
    [⟨text "defaults", some (.str name.text), text "resolved_node", text "node", resolved, absent⟩]
  else []

def missingOfDefaults : List Missing :=
  snapshot.missingDefault .audioSink ++ snapshot.missingDefault .audioSource ++
  snapshot.missingDefault .videoSource ++
  (let metadataId := snapshot.defaults.get .metadataId
   if !metadataId.isNone && (byId snapshot.metadata metadataId).isNone then
    [missing "defaults" (.str (text "defaults")) "metadata" "metadata" metadataId absent]
   else [])

/-- The relationships that do not resolve, in the order of the records. -/
def missingRelationships : List Missing :=
  snapshot.devices.flatMap snapshot.missingOfDevice ++
  snapshot.nodes.flatMap snapshot.missingOfNode ++
  snapshot.ports.flatMap snapshot.missingOfPort ++
  snapshot.links.flatMap snapshot.missingOfLink ++
  snapshot.profiles.flatMap (snapshot.missingDevice "profile") ++
  snapshot.routes.flatMap snapshot.missingOfRoute ++
  snapshot.parameters.flatMap snapshot.missingOfParameter ++
  snapshot.missingOfDefaults

def findUnresolvedRelationships : Except PyError (List PyValue) :=
  snapshot.missingRelationships.mapM Missing.value

end Missing

/-- The last part of the constructor of a snapshot: the supplied relationships
are checked, the indexes built, and the relationships computed. -/
def resolveRelationships (supplied : PyValue) : Except PyError PyValue := do
  let suppliedItems ← runtimeValues FieldName.unresolvedRelationships.text
    .unresolvedRelationship supplied
  snapshot.uniqueIndexes
  let computed ← snapshot.findUnresolvedRelationships
  requireValue (suppliedItems.items.isEmpty || suppliedItems.eq (.tuple computed))
    (plain "serialized unresolved relationships do not match snapshot contents")
  .ok (.tuple computed)

end Contents

section Settled

/-- A relationship value holds strings and integers that its steps accept. -/
theorem Missing.value_scalars {missing : Missing} {value : PyValue}
    (made : missing.value = .ok value) :
    ∃ record, value = toRuntime .unresolvedRelationship unresolvedNames record ∧
      (∀ step ∈ unresolvedSteps, step.run record = .ok record) ∧
      ∀ name ∈ unresolvedNames,
        (∃ string, record name = .str string) ∨ ∃ number, record name = .int number := by
  obtain ⟨sourceId, record, -, finished, isValue⟩ := value_ok made
  have ordered : Ordered unresolvedSteps := by decide
  have settled := runSteps_settled ordered finished
  have ofString {name : FieldName}
      (member : fieldStep name (.requiredString false) ∈ unresolvedSteps) :
      (∃ string, record name = .str string) ∨ ∃ number, record name = .int number := by
    obtain ⟨normalized, checked, -⟩ := map_ok (settled _ member)
    obtain ⟨string, isString, -⟩ := map_ok checked
    exact .inl ⟨string, requiredString_ok isString⟩
  have ofIdentity {name : FieldName} (member : fieldStep name .identity ∈ unresolvedSteps) :
      (∃ string, record name = .str string) ∨ ∃ number, record name = .int number := by
    obtain ⟨normalized, checked, -⟩ := map_ok (settled _ member)
    simp only [FieldKind.normalize, identity] at checked
    split at checked
    · rename_i string isString
      exact .inl ⟨string, isString⟩
    · obtain ⟨number, isNumber, -⟩ := map_ok checked
      exact .inr ⟨number, (identifier_ok isNumber).1⟩
  refine ⟨record, isValue.symm, settled, fun name member => ?_⟩
  simp only [unresolvedNames, List.mem_cons, List.not_mem_nil, or_false] at member
  rcases member with isName | isName | isName | isName | isName | isName
  · exact isName ▸ ofString (by simp [unresolvedSteps])
  · exact isName ▸ ofIdentity (by simp [unresolvedSteps])
  · exact isName ▸ ofString (by simp [unresolvedSteps])
  · exact isName ▸ ofString (by simp [unresolvedSteps])
  · exact isName ▸ ofIdentity (by simp [unresolvedSteps])
  · exact isName ▸ ofString (by simp [unresolvedSteps])

theorem eqFields_self {record : Record} {names : List FieldName}
    (reflexive : ∀ name ∈ names, (record name).eq (record name) = true) :
    PyValue.eqFields (names.map fun name => (name, record name))
      (names.map fun name => (name, record name)) = true := by
  induction names with
  | nil => rfl
  | cons name rest inductionHypothesis =>
      have ofRest := inductionHypothesis fun other member =>
        reflexive other (List.mem_cons_of_mem _ member)
      simp [PyValue.eqFields, reflexive name List.mem_cons_self, ofRest]

/-- A relationship value compares equal to itself. -/
theorem Missing.value_eq_self {missing : Missing} {value : PyValue}
    (made : missing.value = .ok value) :
    value.isA .unresolvedRelationship = true ∧ value.eq value = true := by
  obtain ⟨record, isValue, -, scalars⟩ := value_scalars made
  have reflexive : ∀ name ∈ unresolvedNames, (record name).eq (record name) = true := by
    intro name member
    rcases scalars name member with ⟨string, isString⟩ | ⟨number, isNumber⟩
    · simp [isString, PyValue.eq]
    · simp [isNumber, PyValue.eq, PyValue.intEq, PyValue.integral?]
  rw [isValue]
  exact ⟨by simp [toRuntime, PyValue.isA], by simp [toRuntime, PyValue.eq, eqFields_self reflexive]⟩

theorem eqAll_self {values : List PyValue} (reflexive : ∀ value ∈ values, value.eq value = true) :
    PyValue.eqAll values values = true := by
  induction values with
  | nil => rfl
  | cons value rest inductionHypothesis =>
      have ofRest := inductionHypothesis fun item member =>
        reflexive item (List.mem_cons_of_mem _ member)
      simp [PyValue.eqAll, reflexive value List.mem_cons_self, ofRest]

theorem Contents.resolveRelationships_settled {snapshot : Contents} {supplied result : PyValue}
    (accepted : snapshot.resolveRelationships supplied = .ok result) :
    snapshot.resolveRelationships result = .ok result := by
  obtain ⟨suppliedItems, -, afterSupplied⟩ := bind_ok accepted
  obtain ⟨indexed, indexesOk, afterIndexes⟩ := bind_ok afterSupplied
  obtain ⟨computed, computedOk, afterComputed⟩ := bind_ok afterIndexes
  obtain ⟨passed, -, isResult⟩ := bind_ok afterComputed
  have made : ∀ value ∈ computed,
      value.isA .unresolvedRelationship = true ∧ value.eq value = true := by
    intro value member
    obtain ⟨origin, -, originMade⟩ := exists_of_mem_mapM computedOk member
    exact origin.value_eq_self originMade
  have items : runtimeValues FieldName.unresolvedRelationships.text .unresolvedRelationship
      (.tuple computed) = .ok (.tuple computed) := by
    have each : computed.mapM (runtimeItem FieldName.unresolvedRelationships.text
        .unresolvedRelationship) = .ok computed := by
      refine mapM_ok_self fun value member => ?_
      rw [runtimeItem, if_pos (made value member).1]
    rw [runtimeValues, sequenceOf]
    simp only [PyValue.sequence?, each, Except.map]
  have same : (PyValue.tuple computed).eq (.tuple computed) = true := by
    rw [PyValue.eq]
    exact eqAll_self fun value member => (made value member).2
  rw [← Except.ok.inj isResult, resolveRelationships, items]
  simp only [bind, Except.bind, indexesOk, computedOk, same, Bool.or_true, requireValue, if_true]

def relationshipsStep : ClassStep :=
  .assign .unresolvedRelationships (.unresolvedRelationships :: contentFields)
    (fun record =>
      (contents record).resolveRelationships (record .unresolvedRelationships))
    (fun {record other} agree => by
      have sameContents : contents record = contents other := by
        simp only [contents, agree .devices (by decide), agree .nodes (by decide),
          agree .ports (by decide), agree .links (by decide), agree .metadata (by decide),
          agree .parameters (by decide), agree .profiles (by decide), agree .routes (by decide),
          agree .defaults (by decide)]
      rw [sameContents, agree .unresolvedRelationships (by decide)])
    (fun {record value} accepted => by
      have sameContents : contents (Function.update record .unresolvedRelationships value) =
          contents record := by
        simp [contents, Function.update]
      rw [sameContents, Function.update_self]
      exact Contents.resolveRelationships_settled accepted)

end Settled

end WyrePlumber.Runtime
