import WyrePlumber.Runtime.Snapshot
import WyrePlumber.Runtime.Constructible

/-!
# What a decoded snapshot holds

A payload that decodes has been read record by record; the snapshot holds the values of
its records, and its indexes have no key twice.
-/

set_option autoImplicit false
set_option linter.constructorNameAsVariable false

namespace WyrePlumber.Runtime

open Python Spa RecordValidation Results Snapshot

section Records

variable {Item Value : Type} {read : Nat → Item → Except PyError Value}

theorem eachIndexed_cons {index : Nat} {item : Item} {rest : List Item} {values : List Value}
    (finished : eachIndexed read index (item :: rest) = .ok values) :
    ∃ value others, read index item = .ok value ∧ eachIndexed read (index + 1) rest = .ok others ∧
      values = value :: others := by
  obtain ⟨value, isValue, continued⟩ := bind_ok finished
  obtain ⟨others, isOthers, whole⟩ := bind_ok continued
  exact ⟨value, others, isValue, isOthers, (Except.ok.inj whole).symm⟩

theorem eachIndexed_ok {index : Nat} {items : List Item} {values : List Value}
    (finished : eachIndexed read index items = .ok values) :
    List.Forall₂ (fun item value => ∃ index, read index item = .ok value) items values := by
  induction items generalizing index values with
  | nil =>
      cases finished
      exact .nil
  | cons item rest inductionHypothesis =>
      obtain ⟨value, others, isValue, isOthers, whole⟩ := eachIndexed_cons finished
      rw [whole]
      exact .cons ⟨index, isValue⟩ (inductionHypothesis isOthers)

theorem sequence_read {value : SpaValue} {path : PyString} {items : List SpaValue}
    (finished : Snapshot.sequence value path = .ok items) : value.sequence? = some items := by
  unfold Snapshot.sequence at finished
  split at finished
  · rename_i found isSequence
    rw [isSequence, Except.ok.inj finished]
  · cases finished

theorem mapping_read {value : SpaValue} {path : PyString} {items : Snapshot.Record}
    (finished : Snapshot.mapping value path = .ok items) :
    value.mapping? = some items ∧ ∀ item ∈ items, isName item.1 = true := by
  unfold Snapshot.mapping at finished
  split at finished
  · rename_i found isMapping
    split at finished
    · rename_i named
      rw [← Except.ok.inj finished]
      exact ⟨isMapping, List.all_eq_true.mp named⟩
    · cases finished
  · cases finished

theorem identifier_read {value : SpaValue} {path : PyString} {number : Int}
    (finished : Snapshot.identifier value path = .ok number) :
    Snapshot.integer value path = .ok number ∧ 0 ≤ number := by
  obtain ⟨result, isInteger, checked⟩ := bind_ok finished
  split at checked
  · cases checked
  · rename_i notNegative
    rw [← Except.ok.inj checked]
    exact ⟨isInteger, by omega⟩

theorem required_read {record : Snapshot.Record} {name : String} {path : PyString} {value : SpaValue}
    (finished : Snapshot.required record name path = .ok value) :
    getField record name = some value := by
  unfold Snapshot.required at finished
  split at finished
  · rename_i found isField
    rw [isField, Except.ok.inj finished]
  · cases finished

end Records

section Whole

variable {cases : CaseTables}

/-- The stages of a decoding that succeeds. -/
structure Decoding (cases : CaseTables) (items : Snapshot.Record) (snapshot : PyValue) where
  generation : Int
  sequence : Int
  health : PyValue
  parts : Parts
  readHealth : Snapshot.health (payloadField items "health") generation = .ok health
  readParts : snapshotParts cases items = .ok parts
  built : snapshotValue items generation sequence health parts = .ok snapshot

theorem wrapping_ok {Value : Type} {code : String} {path : PyString}
    {result : Except PyError Value} {value : Value}
    (finished : wrapping code path result = .ok value) : result = .ok value := by
  unfold wrapping at finished
  split at finished
  · exact finished
  · split at finished <;> cases finished

theorem payloadItems_ok {noMapping kind : String} {fields : List PyString} {payload : SpaValue}
    {items : Snapshot.Record}
    (finished : payloadItems noMapping kind fields payload = .ok items) :
    payload.mapping? = some items ∧ validateDetached (text "$") payload = .ok () := by
  unfold payloadItems at finished
  split at finished
  · cases finished
  · rename_i found isMapping
    obtain ⟨validated, isValid, checked⟩ := bind_ok finished
    dsimp only at checked
    split at checked
    · cases checked
    · split at checked
      · cases checked
      · rw [← Except.ok.inj checked]
        exact ⟨isMapping, isValid⟩

theorem exists_decoding {payload : SpaValue} {snapshot : PyValue}
    (decoded : runtimeSnapshotFromPayload cases payload = .ok snapshot) :
    ∃ items, payload.mapping? = some items ∧ Nonempty (Decoding cases items snapshot) := by
  obtain ⟨items, isItems, afterItems⟩ := bind_ok decoded
  obtain ⟨-, -, afterVersion⟩ := bind_ok afterItems
  obtain ⟨generation, -, afterGeneration⟩ := bind_ok afterVersion
  obtain ⟨sequence, -, afterSequence⟩ := bind_ok afterGeneration
  obtain ⟨health, readHealth, afterHealth⟩ := bind_ok afterSequence
  obtain ⟨parts, readParts, built⟩ := bind_ok afterHealth
  exact ⟨items, (payloadItems_ok isItems).1,
    ⟨⟨generation, sequence, health, parts, readHealth, readParts, wrapping_ok built⟩⟩⟩

/-- A field of runtime values holds the tuple it is given. -/
theorem runtimeValues_tuple {name : PyString} {type : ValueType} {items : List PyValue}
    {value : PyValue} (accepted : Runtime.runtimeValues name type (.tuple items) = .ok value) :
    value = .tuple items := by
  obtain ⟨values, checked, isValue⟩ := map_ok accepted
  have same : values = items := by
    have related := mapM_ok_iff.mp checked
    clear checked isValue accepted
    induction related with
    | nil => rfl
    | cons first _ inductionHypothesis => rw [inductionHypothesis, runtimeItem_same first]
  rw [← isValue, same]

/-- No key of the indexes of a snapshot is there twice, and what it reports as unresolved is
computed from its collections. -/
theorem construct_resolved {arguments : List (FieldName × PyValue)} {snapshot : PyValue}
    (made : construct .runtimeSnapshot arguments = .ok snapshot) :
    (contents snapshot.get).uniqueIndexes = .ok () ∧
      ∃ computed, (contents snapshot.get).findUnresolvedRelationships = .ok computed ∧
        snapshot.get .unresolvedRelationships = .tuple computed := by
  obtain ⟨record, finished, isSnapshot⟩ := construct_ok made
  have settled := runSteps_settled (steps_ordered .runtimeSnapshot) finished relationshipsStep
    (List.mem_map.mpr ⟨.relationships, by simp [checks], rfl⟩)
  obtain ⟨unresolved, resolved, isRecord⟩ := map_ok settled
  have same : ∀ name ∈ contentFields, snapshot.get name = record name := by
    intro name member
    have isField : name ∈ fieldNames .runtimeSnapshot := by
      revert name
      decide
    rw [isSnapshot, get_toRuntime isField]
  have sameContents : contents snapshot.get = contents record := by
    simp only [contents, same .devices (by decide), same .nodes (by decide),
      same .ports (by decide), same .links (by decide), same .metadata (by decide),
      same .parameters (by decide), same .profiles (by decide), same .routes (by decide),
      same .defaults (by decide)]
  obtain ⟨supplied, -, afterSupplied⟩ := bind_ok resolved
  obtain ⟨passed, indexed, afterIndexes⟩ := bind_ok afterSupplied
  obtain ⟨computed, isComputed, afterComputed⟩ := bind_ok afterIndexes
  obtain ⟨-, -, isUnresolved⟩ := bind_ok afterComputed
  refine ⟨by rw [sameContents, indexed], computed, by rw [sameContents, isComputed], ?_⟩
  have kept : record .unresolvedRelationships = unresolved := by
    have updated := congrFun isRecord .unresolvedRelationships
    rw [Function.update_self] at updated
    exact updated.symm
  rw [isSnapshot, get_toRuntime (by decide), kept, Except.ok.inj isUnresolved]

/-- Where the parts of a snapshot come from. -/
structure PartsRead (cases : CaseTables) (items : Snapshot.Record) (parts : Parts) where
  normalized : List PyValue
  mixers : List PyValue
  readParameters : Snapshot.parameters cases (payloadField items "parameters") = .ok normalized
  readMixers : mixerParameters (payloadField items "nodes") = .ok mixers
  allParameters : parts.parameters = normalized ++ mixers
  readPorts : Snapshot.ports (payloadField items "ports") = .ok parts.ports
  readDevices : Snapshot.devices (parts.profiles.map Prod.fst) (parts.routes.map Prod.fst)
    (payloadField items "devices") = .ok parts.devices
  readNodes : Snapshot.nodes parts.ports (payloadField items "nodes") = .ok parts.nodes
  readLinks : Snapshot.links (payloadField items "links") = .ok parts.links
  readMetadata : Snapshot.metadata (payloadField items "metadata") = .ok parts.metadata
  readDefaults : Snapshot.defaults (payloadField items "defaults") parts.nodes = .ok parts.defaults

theorem exists_partsRead {items : Snapshot.Record} {parts : Parts}
    (read : snapshotParts cases items = .ok parts) : Nonempty (PartsRead cases items parts) := by
  obtain ⟨normalized, readParameters, afterParameters⟩ := bind_ok read
  obtain ⟨mixers, readMixers, afterMixers⟩ := bind_ok afterParameters
  obtain ⟨ports, readPorts, afterPorts⟩ := bind_ok afterMixers
  obtain ⟨devices, readDevices, afterDevices⟩ := bind_ok afterPorts
  obtain ⟨nodes, readNodes, afterNodes⟩ := bind_ok afterDevices
  obtain ⟨links, readLinks, afterLinks⟩ := bind_ok afterNodes
  obtain ⟨metadata, readMetadata, afterMetadata⟩ := bind_ok afterLinks
  obtain ⟨defaults, readDefaults, whole⟩ := bind_ok afterMetadata
  cases whole
  exact ⟨⟨normalized, mixers, readParameters, readMixers, rfl, readPorts, readDevices, readNodes,
    readLinks, readMetadata, readDefaults⟩⟩

structure Holds (snapshot : PyValue) (parts : Parts) : Prop where
  devices : snapshot.get .devices = .tuple parts.devices
  nodes : snapshot.get .nodes = .tuple parts.nodes
  ports : snapshot.get .ports = .tuple parts.ports
  links : snapshot.get .links = .tuple parts.links
  metadata : snapshot.get .metadata = .tuple parts.metadata
  parameters : snapshot.get .parameters = .tuple parts.parameters
  profiles : snapshot.get .profiles = .tuple (parts.profiles.map Prod.snd)
  routes : snapshot.get .routes = .tuple (parts.routes.map Prod.snd)
  defaults : snapshot.get .defaults = parts.defaults
  indexed : (contents snapshot.get).uniqueIndexes = .ok ()
  resolved : ∃ computed, (contents snapshot.get).findUnresolvedRelationships = .ok computed ∧
    snapshot.get .unresolvedRelationships = .tuple computed

theorem snapshotValue_holds {items : Snapshot.Record} {generation sequence : Int}
    {health snapshot : PyValue} {parts : Parts}
    (built : snapshotValue items generation sequence health parts = .ok snapshot) :
    Holds snapshot parts := by
  obtain ⟨capturedAt, -, made⟩ := bind_ok built
  have ofField (name : FieldName) (type : ValueType) (member : Check.field name
      (.runtimeValues type) ∈ checks .runtimeSnapshot) (isField : name ∈ fieldNames .runtimeSnapshot)
      {given : List PyValue} (isGiven : initialRecord .runtimeSnapshot [(.generation, .int generation),
        (.sequence, .int sequence), (.capturedAt, .str capturedAt), (.health, health),
        (.devices, .tuple parts.devices), (.nodes, .tuple parts.nodes),
        (.ports, .tuple parts.ports), (.links, .tuple parts.links),
        (.metadata, .tuple parts.metadata), (.parameters, .tuple parts.parameters),
        (.profiles, .tuple (parts.profiles.map Prod.snd)),
        (.routes, .tuple (parts.routes.map Prod.snd)), (.defaults, parts.defaults)] name =
          .tuple given) : snapshot.get name = .tuple given := by
    have normalized := construct_field name (.runtimeValues type) made member isField
    rw [isGiven] at normalized
    exact runtimeValues_tuple normalized
  exact {
    devices := ofField .devices .device (by simp [checks]) (by decide) rfl
    nodes := ofField .nodes .node (by simp [checks]) (by decide) rfl
    ports := ofField .ports .port (by simp [checks]) (by decide) rfl
    links := ofField .links .link (by simp [checks]) (by decide) rfl
    metadata := ofField .metadata .metadata (by simp [checks]) (by decide) rfl
    parameters := ofField .parameters .parameter (by simp [checks]) (by decide) rfl
    profiles := ofField .profiles .profile (by simp [checks]) (by decide) rfl
    routes := ofField .routes .route (by simp [checks]) (by decide) rfl
    defaults := runtimeValue_same (construct_field .defaults (.runtimeValue .defaults) made
      (by simp [checks]) (by decide))
    indexed := (construct_resolved made).1
    resolved := (construct_resolved made).2 }

end Whole

section Identifiers

def Numbered (values : List PyValue) : Prop :=
  ∀ value ∈ values, ∃ number, value.get .id = .int number

theorem int_eq_iff {first second : Int} :
    PyValue.eq (.int first) (.int second) = true ↔ second = first := by
  simp [PyValue.eq, PyValue.intEq, PyValue.integral?]

/-- Values with an index by identifier have distinct identifiers. -/
theorem identifiers_nodup {values : List PyValue} {description : String} (numbered : Numbered values)
    (seen : List PyValue) (unique : uniqueIndex [.id] description seen values = .ok ()) :
    (∀ value ∈ values, (byKey seen [.id] [value.get .id]).isNone) ∧
      (values.map fun value => Snapshot.intField value .id).Nodup := by
  induction values generalizing seen with
  | nil => exact ⟨by simp, List.nodup_nil⟩
  | cons value rest inductionHypothesis =>
      rw [uniqueIndex] at unique
      split at unique
      · cases unique
      · rename_i notSeen
        obtain ⟨laterUnseen, laterNodup⟩ := inductionHypothesis
          (fun other member => numbered other (List.mem_cons_of_mem _ member)) _ unique
        obtain ⟨number, isNumber⟩ := numbered value List.mem_cons_self
        have apart : ∀ other ∈ rest, (byKey seen [.id] [other.get .id]).isNone ∧
            Snapshot.intField other .id ≠ Snapshot.intField value .id := by
          intro other member
          have absent := laterUnseen other member
          rw [byKey, Option.isNone_iff_eq_none, List.find?_eq_none] at absent
          refine ⟨?_, fun same => ?_⟩
          · rw [byKey, Option.isNone_iff_eq_none, List.find?_eq_none]
            exact fun before inSeen => absent before (List.mem_append_left _ inSeen)
          · obtain ⟨otherNumber, isOther⟩ := numbered other (List.mem_cons_of_mem _ member)
            have notSame := absent value (List.mem_append_right _ List.mem_cons_self)
            have sameNumber : otherNumber = number := by
              simpa [Snapshot.intField, isOther, isNumber, PyValue.integral?] using same
            rw [key, List.map_cons, isNumber, isOther, List.map_nil, PyValue.eqAll, PyValue.eqAll,
              int_eq_iff.mpr sameNumber] at notSame
            exact notSame rfl
        refine ⟨?_, ?_⟩
        · intro other member
          rcases List.mem_cons.mp member with isFirst | inRest
          · rw [isFirst]
            simpa [key] using notSeen
          · exact (apart other inRest).1
        · rw [List.map_cons, List.nodup_cons]
          refine ⟨fun member => ?_, laterNodup⟩
          obtain ⟨other, inRest, sameId⟩ := List.mem_map.mp member
          exact (apart other inRest).2 sameId

end Identifiers

/-- The case tables of texts without letters to change. -/
def unchangedCases : CaseTables where
  lower := id
  upper := id

end WyrePlumber.Runtime
