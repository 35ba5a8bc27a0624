import WyrePlumber.Runtime.DecodedSnapshot

/-!
# The two lookups of a default device

`WPUtils.get_default_sink` compares the stored text with the names of the nodes; a
snapshot decodes the text first and lets the last node of a name count.
-/

set_option autoImplicit false
set_option linter.constructorNameAsVariable false

namespace WyrePlumber.Runtime

open Python Spa Json Results Snapshot

section State

structure StoredItem where
  subject : Nat
  key : PyString
  type : Option PyString
  value : PyString

structure MetadataObject where
  id : Nat
  name : Option PyString
  items : List StoredItem

structure NativeNode where
  id : Nat
  properties : List (PyString × PyString)

def NativeNode.name (node : NativeNode) : Option PyString :=
  node.properties.lookup (text "node.name")

/-- What both lookups read. -/
structure Remote where
  metadata : List MetadataObject
  nodes : List NativeNode

inductive DefaultDevice where
  | sink | source
  deriving DecidableEq

def DefaultDevice.key : DefaultDevice → PyString
  | .sink => text "default.audio.sink"
  | .source => text "default.audio.source"

def DefaultDevice.field : DefaultDevice → FieldName
  | .sink => .audioSink
  | .source => .audioSource

end State

section Getter

def MetadataObject.find (object : MetadataObject) (subject : Nat) (key : PyString) :
    Option PyString :=
  (object.items.find? fun item => item.subject = subject ∧ item.key = key).map StoredItem.value

/-- The first metadata object with the name `default`. -/
def Remote.defaultMetadata (remote : Remote) : Option MetadataObject :=
  remote.metadata.find? fun object => object.name = some (text "default")

/-- The text that `find(0, key)` of the default metadata returns. -/
def Remote.stored (remote : Remote) (device : DefaultDevice) : Option PyString :=
  remote.defaultMetadata.bind fun object => object.find 0 device.key

/-- `WPUtils.get_default_sink` and `WPUtils.get_default_source`. -/
def getDefault (remote : Remote) (device : DefaultDevice) : Option NativeNode :=
  (remote.stored device).bind fun stored => remote.nodes.find? fun node => node.name = some stored

/-- The text that `WPUtils.set_default_sink` and `WPUtils.set_default_source` store. -/
def defaultText (nodeName : PyString) : PyString := dumpsMember (text "name") nodeName

end Getter

section Capture

def spaOptional : Option PyString → SpaValue
  | some string => .str string
  | none => .none

/-- The items of a default entry in the payload. -/
def defaultItems (object : MetadataObject) (item : StoredItem) : Snapshot.Record :=
  [field "subject" (.int item.subject), field "key" (.str item.key),
    field "type" (spaOptional item.type), field "value" (.str item.value),
    field "metadata_id" (.int object.id), field "metadata_name" (spaOptional object.name)]

def isDefaultKey (key : PyString) : Bool := (text "default.").isPrefixOf key

/-- The default entries of all metadata objects, in the order of the capture. -/
def Remote.defaultEntries (remote : Remote) : List (MetadataObject × StoredItem) :=
  remote.metadata.flatMap fun object =>
    (object.items.filter fun item => isDefaultKey item.key).map fun item => (object, item)

def capturedDefaults (remote : Remote) : SpaValue :=
  .list (remote.defaultEntries.map fun entry => .dict (defaultItems entry.1 entry.2))

/-- A record of the payload with the identifier and the properties of a node. -/
def NativeNode.DescribedBy (node : NativeNode) (record : SpaValue) : Prop :=
  ∃ items, record = .dict items ∧ getField items "id" = some (.int node.id) ∧
    getField items "properties" =
      some (.dict (node.properties.map fun item => (.name item.1, .str item.2)))

/-- A payload that is captured in a state. -/
structure Remote.CapturedAs (remote : Remote) (items : Snapshot.Record) : Prop where
  defaults : getField items "defaults" = some (capturedDefaults remote)
  nodes : ∃ records, getField items "nodes" = some (.list records) ∧
    List.Forall₂ NativeNode.DescribedBy remote.nodes records

def resolvedDefault (snapshot : PyValue) (device : DefaultDevice) : PyValue :=
  ((snapshot.get .defaults).get device.field).get .resolvedNodeId

/-- Both lookups find the same node, or none. -/
def LookupsAgree (remote : Remote) (snapshot : PyValue) (device : DefaultDevice) : Prop :=
  resolvedDefault snapshot device =
    optionalInt ((getDefault remote device).map fun node => (node.id : Int))

end Capture

section Names

/-- The stored texts under a key, of all metadata objects and subjects. -/
def Remote.texts (remote : Remote) (key : PyString) : List PyString :=
  (remote.defaultEntries.filter fun entry => entry.2.key = key).map fun entry => entry.2.value

/-- The first name that stored texts stand for. -/
def firstStoredName : List PyString → Except PyError (Option PyString)
  | [] => .ok none
  | stored :: rest =>
      if stored = [] then firstStoredName rest
      else do
        let name ← storedName stored
        match name with
        | some name => .ok (some name)
        | none => firstStoredName rest

def Remote.nameUnder (remote : Remote) (key : PyString) : Except PyError (Option PyString) :=
  firstStoredName (remote.texts key).reverse

def Remote.named (remote : Remote) (name : PyString) : List NativeNode :=
  remote.nodes.filter fun node => node.name = some name

/-- The last node of a name that is not empty. -/
def Remote.lastNamed (remote : Remote) : Option PyString → Option NativeNode
  | some (first :: rest) => (remote.named (first :: rest)).getLast?
  | _ => none

/-- No node has the stored text as its name, nor the name that the texts stand for; or both
are one name, which is not empty and which one node has alone. -/
inductive NamesMeet (remote : Remote) : Option PyString → Option PyString → Prop where
  | neither {stored name : Option PyString} (noStored : ∀ text ∈ stored, remote.named text = [])
      (noName : ∀ text ∈ name, text ≠ [] → remote.named text = []) : NamesMeet remote stored name
  | both {text : PyString} {node : NativeNode} (notEmpty : text ≠ [])
      (only : remote.named text = [node]) : NamesMeet remote (some text) (some text)

def StoredPlainly (remote : Remote) (device : DefaultDevice) : Prop :=
  ∃ name, remote.nameUnder device.key = .ok name ∧ NamesMeet remote (remote.stored device) name

end Names

section Nodes

variable {ports : List PyValue}

def NativeNode.ReadAs (node : NativeNode) (value : PyValue) : Prop :=
  value.get .name = optionalStr node.name ∧ value.get .id = .int node.id

theorem lookup_strings (items : List (PyString × PyString)) (name : PyString) :
    (items.map fun item => ((SpaKey.name item.1, SpaValue.str item.2) : SpaKey × SpaValue)).lookup
      (.name name) = (items.lookup name).map .str := by
  induction items with
  | nil => rfl
  | cons item rest inductionHypothesis =>
      rw [List.map_cons, List.lookup_cons, List.lookup_cons]
      by_cases here : name = item.1
      · simp [here]
      · have differs : (SpaKey.name name == SpaKey.name item.1) = false := by simpa using here
        rw [differs, beq_eq_false_iff_ne.mpr here]
        exact inductionHypothesis

theorem optionalString_normalized {name : PyString} {given : Option PyString} {value : PyValue}
    (normalized : FieldKind.optionalString.normalize name (optionalStr given) = .ok value) :
    value = optionalStr given := by
  cases given with
  | none => exact (Except.ok.inj normalized).symm
  | some string =>
      simp only [optionalStr, FieldKind.normalize, optional] at normalized ⊢
      obtain ⟨result, accepted, isValue⟩ := map_ok normalized
      rw [← isValue, requiredString_ok accepted]

theorem node_read {node : NativeNode} {index : Nat} {record : SpaValue} {value : PyValue}
    (described : node.DescribedBy record) (read : Snapshot.node ports index record = .ok value) :
    node.ReadAs value := by
  obtain ⟨items, isRecord, hasId, hasProperties⟩ := described
  obtain ⟨record, isMapping, afterRecord⟩ := bind_ok read
  obtain ⟨given, isGiven, afterGiven⟩ := bind_ok afterRecord
  obtain ⟨id, isId, afterId⟩ := bind_ok afterGiven
  obtain ⟨held, isHeld, afterHeld⟩ := bind_ok afterId
  obtain ⟨state, -, afterState⟩ := bind_ok afterHeld
  obtain ⟨deviceId, -, afterDevice⟩ := bind_ok afterState
  obtain ⟨error, -, afterError⟩ := bind_ok afterDevice
  obtain ⟨parameterIds, -, made⟩ := bind_ok afterError
  have sameItems : record = items := by
    have found := (mapping_read isMapping).1
    rw [isRecord] at found
    exact (Option.some.inj found).symm
  have sameId : id = node.id := by
    have found := required_read isGiven
    rw [sameItems, hasId] at found
    rw [← Option.some.inj found] at isId
    exact (Except.ok.inj (identifier_read isId).1).symm
  have sameProperties : held =
      node.properties.map fun item => (SpaKey.name item.1, SpaValue.str item.2) := by
    have found := (mapping_read isHeld).1
    rw [sameItems, getOr, hasProperties] at found
    exact (Option.some.inj found).symm
  have sameName : property held ["node.name"] = node.name := by
    have found := lookup_strings node.properties (text "node.name")
    simp only [property, List.findSome?_cons, List.findSome?_nil, getField, sameProperties, found,
      NativeNode.name]
    cases node.properties.lookup (text "node.name") <;> rfl
  constructor
  · have normalized := construct_field .name .optionalString made (by simp [checks, eachField])
      (by decide)
    rw [← sameName]
    exact optionalString_normalized normalized
  · have normalized := construct_field .id .identifier made (by simp [checks]) (by decide)
    obtain ⟨number, accepted, isValue⟩ := map_ok normalized
    rw [← isValue, ← (identifier_ok accepted).1]
    exact congrArg PyValue.int sameId

theorem nodes_read {nodes : List NativeNode} {records : List SpaValue} {values : List PyValue}
    (described : List.Forall₂ NativeNode.DescribedBy nodes records)
    (read : Snapshot.nodes ports (.list records) = .ok values) :
    List.Forall₂ NativeNode.ReadAs nodes values := by
  obtain ⟨items, isItems, each⟩ := bind_ok read
  have sameItems : items = records := (Option.some.inj (sequence_read isItems)).symm
  have related := eachIndexed_ok each
  rw [sameItems] at related
  clear each isItems sameItems read
  induction described generalizing values with
  | nil =>
      cases related
      exact .nil
  | cons first _ inductionHypothesis =>
      cases related with
      | cons here later =>
          obtain ⟨index, isValue⟩ := here
          exact .cons (node_read first isValue) (inductionHypothesis later)

/-- The item of a node in `nodes_by_name`. -/
def namedNode? (node : PyValue) : Option (PyString × Int) :=
  match node.get .name with
  | .str (first :: name) => some (first :: name, Snapshot.intField node .id)
  | _ => none

theorem nodesByName_eq (nodes : List PyValue) :
    nodesByName nodes = Dictionary.ofItems (nodes.filterMap namedNode?) := rfl

theorem nodesByName_lookup {nodes : List NativeNode} {values : List PyValue}
    (read : List.Forall₂ NativeNode.ReadAs nodes values) {name : PyString} (notEmpty : name ≠ []) :
    (nodesByName values).lookup name =
      ((nodes.filter fun node => node.name = some name).getLast?).map fun node => (node.id : Int) := by
  rw [nodesByName_eq, Dictionary.lookup_ofItems_beq]
  have same : ((values.filterMap namedNode?).filter fun item => item.1 = name) =
      (nodes.filter fun node => node.name = some name).map fun node => (name, (node.id : Int)) := by
    induction read with
    | nil => rfl
    | @cons node value nodes values first _ inductionHypothesis =>
        obtain ⟨isName, isId⟩ := first
        have idOf : Snapshot.intField value .id = node.id := by
          rw [Snapshot.intField, isId]
          rfl
        rw [List.filterMap_cons, namedNode?, isName]
        cases given : node.name with
        | none =>
            simp only [optionalStr]
            rw [inductionHypothesis, List.filter_cons_of_neg (by simp [given])]
        | some own =>
            cases own with
            | nil =>
                simp only [optionalStr]
                rw [inductionHypothesis, List.filter_cons_of_neg
                  (by simpa [given] using fun same : [] = name => notEmpty same.symm)]
            | cons first rest =>
                simp only [optionalStr, idOf]
                by_cases here : first :: rest = name
                · rw [List.filter_cons_of_pos (by simpa using here),
                    List.filter_cons_of_pos (by simpa [given] using here), List.map_cons,
                    inductionHypothesis, here]
                · rw [List.filter_cons_of_neg (by simpa using here),
                    List.filter_cons_of_neg (by simpa [given] using here), inductionHypothesis]
  rw [same, List.getLast?_map, Option.map_map]
  rfl

end Nodes

section Entries

theorem defaultEntry_read {object : MetadataObject} {item : StoredItem} {index : Nat}
    {entry : KeyedEntry}
    (read : defaultEntry index (.dict (defaultItems object item)) = .ok entry) :
    entry = ⟨item.key, defaultItems object item⟩ := by
  obtain ⟨record, isMapping, afterRecord⟩ := bind_ok read
  obtain ⟨given, isGiven, afterGiven⟩ := bind_ok afterRecord
  obtain ⟨key, isKey, whole⟩ := bind_ok afterGiven
  have sameItems : record = defaultItems object item :=
    (Option.some.inj (mapping_read isMapping).1).symm
  have sameKey : given = .str item.key := by
    have found := required_read isGiven
    rw [sameItems] at found
    exact (Option.some.inj found).symm
  have isString : key = item.key := by
    rw [sameKey, Snapshot.string] at isKey
    split at isKey
    · cases isKey
    · exact (Except.ok.inj isKey).symm
  rw [← Except.ok.inj whole, isString, sameItems]

theorem defaultEntries_read {entries : List (MetadataObject × StoredItem)} {known metadataId : Option Int}
    {index : Nat} {keyed : List KeyedEntry}
    (read : Snapshot.defaultEntries known index
      (entries.map fun entry => .dict (defaultItems entry.1 entry.2)) = .ok (metadataId, keyed)) :
    keyed = entries.map fun entry => ⟨entry.2.key, defaultItems entry.1 entry.2⟩ := by
  induction entries generalizing known index metadataId keyed with
  | nil =>
      rw [List.map_nil, Snapshot.defaultEntries] at read
      exact (congrArg Prod.snd (Except.ok.inj read)).symm
  | cons entry rest inductionHypothesis =>
      rw [List.map_cons, Snapshot.defaultEntries] at read
      obtain ⟨first, isFirst, afterFirst⟩ := bind_ok read
      dsimp only at afterFirst
      have goesOn : ∃ next, (Snapshot.defaultEntries next (index + 1)
          (rest.map fun entry => .dict (defaultItems entry.1 entry.2)) >>= fun others =>
            .ok (others.1, first :: others.2)) = .ok (metadataId, keyed) := by
        split at afterFirst <;> obtain ⟨next, -, afterNext⟩ := bind_ok afterFirst <;>
          exact ⟨next, afterNext⟩
      obtain ⟨next, afterNext⟩ := goesOn
      obtain ⟨⟨last, others⟩, isOthers, whole⟩ := bind_ok afterNext
      have isKeyed := congrArg Prod.snd (Except.ok.inj whole)
      dsimp only at isKeyed
      rw [← isKeyed, List.map_cons, inductionHypothesis isOthers, defaultEntry_read isFirst]

theorem firstName_items (entries : List (MetadataObject × StoredItem)) :
    firstName (entries.map fun entry => defaultItems entry.1 entry.2) =
      firstStoredName (entries.map fun entry => entry.2.value) := by
  induction entries with
  | nil => rfl
  | cons entry rest inductionHypothesis =>
      have hasValue : getField (defaultItems entry.1 entry.2) "value" = some (.str entry.2.value) :=
        rfl
      rw [List.map_cons, List.map_cons, firstName, firstStoredName, hasValue]
      cases given : entry.2.value with
      | nil => simpa using inductionHypothesis
      | cons first stored =>
          rw [if_neg (List.cons_ne_nil _ _)]
          exact inductionHypothesis ▸ rfl

theorem defaultName_entries (remote : Remote) (key : PyString) :
    defaultName (entriesOf (remote.defaultEntries.map fun entry =>
      ⟨entry.2.key, defaultItems entry.1 entry.2⟩) key) = remote.nameUnder key := by
  have same : entriesOf (remote.defaultEntries.map fun entry =>
      ⟨entry.2.key, defaultItems entry.1 entry.2⟩) key =
      (remote.defaultEntries.filter fun entry => entry.2.key = key).map
        fun entry => defaultItems entry.1 entry.2 := by
    rw [entriesOf, List.filter_map, List.map_map]
    rfl
  rw [defaultName, same, ← List.map_reverse, firstName_items, List.map_reverse]
  rfl

theorem optional_same {check : PyValue → Except PyError PyValue} {given value : PyValue}
    (same : ∀ {given value}, check given = .ok value → value = given)
    (accepted : optional check given = .ok value) : value = given := by
  unfold optional at accepted
  split at accepted
  · exact (Except.ok.inj accepted).symm
  · exact same accepted

theorem optionalInt_normalized {name : PyString} {given : Option Int} {value : PyValue}
    (normalized : FieldKind.optionalIdentifier.normalize name (optionalInt given) = .ok value) :
    value = optionalInt given := by
  refine optional_same ?_ normalized
  intro given value accepted
  obtain ⟨number, isNumber, isValue⟩ := map_ok accepted
  rw [← isValue, (identifier_ok isNumber).1]

theorem target_read {entries : List KeyedEntry} {byName : List (PyString × Int)}
    {mediaClass key : String} {value : PyValue}
    (read : Snapshot.target entries byName mediaClass key = .ok value) :
    ∃ name, defaultName (entriesOf entries (text ("default." ++ key))) = .ok name ∧
      value.get .resolvedNodeId = optionalInt (resolve byName name) := by
  obtain ⟨actual, isActual, afterActual⟩ := bind_ok read
  obtain ⟨configured, -, made⟩ := bind_ok afterActual
  refine ⟨actual, isActual, ?_⟩
  split at made
  · rw [← Except.ok.inj made]
    rfl
  · exact optionalInt_normalized
      (construct_field .resolvedNodeId .optionalIdentifier made (by simp [checks]) (by decide))

theorem defaults_read {remote : Remote} {nodes : List PyValue} {defaults : PyValue}
    (read : Snapshot.defaults (capturedDefaults remote) nodes = .ok defaults) (device : DefaultDevice) :
    ∃ name, remote.nameUnder device.key = .ok name ∧
      (defaults.get device.field).get .resolvedNodeId =
        optionalInt (resolve (nodesByName nodes) name) := by
  obtain ⟨items, isItems, afterItems⟩ := bind_ok read
  obtain ⟨⟨metadataId, entries⟩, isEntries, afterEntries⟩ := bind_ok afterItems
  obtain ⟨extra, -, afterExtra⟩ := bind_ok afterEntries
  obtain ⟨audioSink, isSink, afterSink⟩ := bind_ok afterExtra
  obtain ⟨audioSource, isSource, afterSource⟩ := bind_ok afterSink
  obtain ⟨videoSource, -, made⟩ := bind_ok afterSource
  have sameItems := Option.some.inj (sequence_read isItems)
  rw [← sameItems] at isEntries
  have same := defaultEntries_read isEntries
  rw [same] at isSink isSource
  cases device with
  | sink =>
      have kept := construct_field .audioSink (.optionalRuntimeValue .defaultTarget) made
        (by simp [checks, eachField]) (by decide)
      obtain ⟨name, isName, resolved⟩ := target_read isSink
      refine ⟨name, (defaultName_entries remote _).symm.trans isName, ?_⟩
      rw [← resolved, DefaultDevice.field, optional_same runtimeValue_same kept]
      rfl
  | source =>
      have kept := construct_field .audioSource (.optionalRuntimeValue .defaultTarget) made
        (by simp [checks, eachField]) (by decide)
      obtain ⟨name, isName, resolved⟩ := target_read isSource
      refine ⟨name, (defaultName_entries remote _).symm.trans isName, ?_⟩
      rw [← resolved, DefaultDevice.field, optional_same runtimeValue_same kept]
      rfl

end Entries

section Agreement

variable {cases : CaseTables} {remote : Remote} {items : Snapshot.Record} {snapshot : PyValue}

theorem ids_nodup {nodes : List NativeNode} {values : List PyValue} {description : String}
    (read : List.Forall₂ NativeNode.ReadAs nodes values)
    (unique : uniqueIndex [.id] description [] values = .ok ()) :
    (nodes.map NativeNode.id).Nodup := by
  have related : Numbered values ∧
      (values.map fun value => Snapshot.intField value .id) = nodes.map fun node => (node.id : Int) := by
    clear unique
    induction read with
    | nil => exact ⟨(fun value member => nomatch member), rfl⟩
    | @cons node value nodes values first _ inductionHypothesis =>
        obtain ⟨numbered, sameIds⟩ := inductionHypothesis
        refine ⟨List.forall_mem_cons.mpr ⟨⟨node.id, first.2⟩, numbered⟩, ?_⟩
        rw [List.map_cons, List.map_cons, sameIds, Snapshot.intField, first.2]
        rfl
  obtain ⟨numbered, sameIds⟩ := related
  have distinct := (identifiers_nodup numbered [] unique).2
  rw [sameIds] at distinct
  refine List.Nodup.of_map (fun id : Nat => (id : Int)) ?_
  rw [List.map_map]
  exact distinct

/-- In a list of distinct items the first and the last are one when it has no other. -/
theorem singleton_of_ends {nodes : List NativeNode} {first last : NativeNode}
    (distinct : (nodes.map NativeNode.id).Nodup) (isFirst : nodes.head? = some first)
    (isLast : nodes.getLast? = some last) (same : first.id = last.id) : nodes = [first] := by
  cases nodes with
  | nil => cases isFirst
  | cons node rest =>
      cases isFirst
      rcases List.eq_nil_or_concat rest with isNil | ⟨front, final, isConcat⟩
      · rw [isNil]
      · rw [isConcat, List.concat_eq_append, ← List.cons_append, List.getLast?_concat,
          Option.some.injEq] at isLast
        rw [List.map_cons, List.nodup_cons] at distinct
        refine absurd (List.mem_map.mpr ⟨final, by simp [isConcat], ?_⟩) distinct.1
        rw [isLast, same]

theorem namesMeet_of_agree {stored name : Option PyString}
    (distinct : (remote.nodes.map NativeNode.id).Nodup)
    (agree : (remote.lastNamed name).map (fun node => (node.id : Int)) =
      (stored.bind fun text => (remote.named text).head?).map fun node => (node.id : Int)) :
    NamesMeet remote stored name := by
  have nodupOf : ∀ text, ((remote.named text).map NativeNode.id).Nodup := fun text =>
    (List.filter_sublist.map NativeNode.id).nodup distinct
  cases found : stored.bind fun text => (remote.named text).head? with
  | none =>
      rw [found, Option.map_none, Option.map_eq_none_iff] at agree
      refine .neither (fun text isStored => ?_) fun text isName notEmpty => ?_
      · rw [Option.mem_def.mp isStored, Option.bind_some, List.head?_eq_none_iff] at found
        exact found
      · cases text with
        | nil => exact absurd rfl notEmpty
        | cons first rest =>
            rw [Option.mem_def.mp isName] at agree
            exact List.getLast?_eq_none_iff.mp agree
  | some node =>
      rw [found] at agree
      obtain ⟨text, isStored, isFirst⟩ := Option.bind_eq_some_iff.mp found
      unfold Remote.lastNamed at agree
      split at agree
      · rename_i first rest
        rw [Option.map_some, Option.map_eq_some_iff] at agree
        obtain ⟨last, isLast, sameId⟩ := agree
        have sameId : node.id = last.id := by omega
        have firstMember := List.mem_of_mem_head? isFirst
        have lastMember := List.mem_of_getLast? isLast
        have inNodes : node ∈ remote.nodes ∧ node.name = some text := by
          simpa [Remote.named] using firstMember
        have lastInNodes : last ∈ remote.nodes ∧ last.name = some (first :: rest) := by
          simpa [Remote.named] using lastMember
        have sameNode : node = last :=
          List.inj_on_of_nodup_map distinct inNodes.1 lastInNodes.1 sameId
        have sameText : text = first :: rest := by
          rw [← sameNode, inNodes.2] at lastInNodes
          exact Option.some.inj lastInNodes.2
        subst sameText
        rw [isStored]
        exact .both (List.cons_ne_nil _ _)
          (singleton_of_ends (nodupOf _) isFirst isLast sameId)
      · cases agree

theorem resolve_named {nodes : List PyValue} {name : Option PyString}
    (read : List.Forall₂ NativeNode.ReadAs remote.nodes nodes) :
    resolve (nodesByName nodes) name = (remote.lastNamed name).map fun node => (node.id : Int) := by
  cases name with
  | none => rfl
  | some name =>
      cases name with
      | nil => rfl
      | cons first rest => exact nodesByName_lookup read (List.cons_ne_nil _ _)

theorem getDefault_named (remote : Remote) (device : DefaultDevice) :
    getDefault remote device =
      (remote.stored device).bind fun text => (remote.named text).head? := by
  unfold getDefault Remote.named
  simp only [List.head?_filter]

theorem optionalInt_injective {first second : Option Int}
    (same : optionalInt first = optionalInt second) : first = second := by
  cases first <;> cases second <;> simp_all [optionalInt]

/-- What the decoder makes of the nodes and the defaults of a state. -/
theorem decoded_default (captured : remote.CapturedAs items)
    (decoded : runtimeSnapshotFromPayload cases (.dict items) = .ok snapshot)
    (device : DefaultDevice) :
    ∃ nodes name, List.Forall₂ NativeNode.ReadAs remote.nodes nodes ∧
      (remote.nodes.map NativeNode.id).Nodup ∧ remote.nameUnder device.key = .ok name ∧
      resolvedDefault snapshot device = optionalInt (resolve (nodesByName nodes) name) := by
  obtain ⟨found, isFound, ⟨decoding⟩⟩ := exists_decoding decoded
  obtain rfl : items = found := Option.some.inj isFound
  obtain ⟨records, hasNodes, described⟩ := captured.nodes
  have ofNodes : payloadField items "nodes" = .list records := by
    rw [payloadField, getOr, hasNodes, Option.getD_some]
  have ofDefaults : payloadField items "defaults" = capturedDefaults remote := by
    rw [payloadField, getOr, captured.defaults, Option.getD_some]
  obtain ⟨read⟩ := exists_partsRead decoding.readParts
  have holds := snapshotValue_holds decoding.built
  have isNodes := read.readNodes
  have isDefaults := read.readDefaults
  rw [ofNodes] at isNodes
  rw [ofDefaults] at isDefaults
  have nodesRead := nodes_read described isNodes
  obtain ⟨name, isName, resolved⟩ := defaults_read isDefaults device
  obtain ⟨-, -, afterDeviceIds⟩ := bind_ok holds.indexed
  obtain ⟨⟨⟩, nodeIds, -⟩ := bind_ok afterDeviceIds
  have contentNodes : (contents snapshot.get).nodes = decoding.parts.nodes := by
    rw [contents, holds.nodes]
    rfl
  rw [contentNodes] at nodeIds
  refine ⟨decoding.parts.nodes, name, nodesRead, ids_nodup nodesRead nodeIds, isName, ?_⟩
  rw [resolvedDefault, holds.defaults, resolved]

theorem agree_of_namesMeet {stored name : Option PyString} (meet : NamesMeet remote stored name) :
    remote.lastNamed name = stored.bind fun text => (remote.named text).head? := by
  cases meet with
  | neither noStored noName =>
      have noneStored : (stored.bind fun text => (remote.named text).head?) = none := by
        cases stored with
        | none => rfl
        | some text => rw [Option.bind_some, noStored text rfl, List.head?_nil]
      rw [noneStored]
      unfold Remote.lastNamed
      split
      · rw [noName _ rfl (List.cons_ne_nil _ _), List.getLast?_nil]
      · rfl
  | @both text node notEmpty only =>
      cases text with
      | nil => exact absurd rfl notEmpty
      | cons first rest =>
          simp only [Remote.lastNamed, Option.bind_some, only, List.getLast?_singleton, List.head?_cons]

/-- The lookups agree exactly where the stored text is the name of a node of its own, or
neither lookup finds a node; and behind a setter the getter finds no node of its name. -/
theorem lookupsAgree_iff (captured : remote.CapturedAs items)
    (decoded : runtimeSnapshotFromPayload cases (.dict items) = .ok snapshot)
    (device : DefaultDevice) :
    (LookupsAgree remote snapshot device ↔ StoredPlainly remote device) ∧
      ∀ name, remote.stored device = some (defaultText name) →
        ∀ node ∈ getDefault remote device, node.name ≠ some name := by
  obtain ⟨nodes, name, read, distinct, isName, resolved⟩ := decoded_default captured decoded device
  constructor
  · rw [LookupsAgree, resolved, resolve_named read, getDefault_named]
    constructor
    · intro agree
      exact ⟨name, isName, namesMeet_of_agree distinct (optionalInt_injective agree)⟩
    · rintro ⟨other, isOther, meet⟩
      obtain rfl : name = other := Except.ok.inj (isName.symm.trans isOther)
      rw [agree_of_namesMeet meet]
  · intro name isStored node isNode isNamed
    rw [getDefault, isStored, Option.bind_some] at isNode
    have sameName := List.find?_some (Option.mem_def.mp isNode)
    rw [decide_eq_true_eq, isNamed, Option.some.injEq] at sameName
    have longer := length_dumpsMember (text "name") name
    rw [defaultText] at sameName
    have sameLength := congrArg List.length sameName
    omega

end Agreement

section Instances

/-- A default sink in the metadata and one node with the name `a`. -/
def sinkStored (stored : PyString) : Remote where
  metadata := [⟨30, some (text "default"), [⟨0, text "default.audio.sink", none, stored⟩]⟩]
  nodes := [⟨1, [(text "node.name", text "a")]⟩]

def sinkPayload (stored : PyString) : Snapshot.Record :=
  [field "payload_version" (.int 1), field "generation" (.int 1), field "sequence" (.int 0),
    field "captured_at" (.str (text "2026-01-01T00:00:00Z")),
    field "health" (.dict [field "state" (.str (text "connected")), field "generation" (.int 1)]),
    field "devices" (.list []),
    field "nodes" (.list [.dict [field "id" (.int 1),
      field "properties" (.dict [field "node.name" (.str (text "a"))])]]),
    field "ports" (.list []), field "links" (.list []), field "metadata" (.list []),
    field "parameters" (.list []), field "profiles" (.list []), field "routes" (.list []),
    field "defaults" (capturedDefaults (sinkStored stored))]

theorem sinkStored_captured (stored : PyString) :
    (sinkStored stored).CapturedAs (sinkPayload stored) where
  defaults := rfl
  nodes := ⟨_, rfl, .cons ⟨_, rfl, rfl, rfl⟩ .nil⟩

/-- Whether the default sink of a snapshot is the node of the payload. -/
def resolvesNode (snapshot : PyValue) : Bool := (resolvedDefault snapshot .sink).integral? = some 1

/-- A plain name is stored, and one node has it. -/
theorem lookupsAgree_plainName : ∃ snapshot,
    runtimeSnapshotFromPayload unchangedCases (.dict (sinkPayload (text "a"))) = .ok snapshot ∧
      LookupsAgree (sinkStored (text "a")) snapshot .sink := by
  obtain ⟨snapshot, decoded, -⟩ := exists_of_gives
    (show gives resolvesNode (runtimeSnapshotFromPayload unchangedCases (.dict (sinkPayload (text "a")))) = true by
      decide +kernel)
  have plainly : StoredPlainly (sinkStored (text "a")) .sink :=
    ⟨some (text "a"), rfl, .both (by decide) rfl⟩
  exact ⟨snapshot, decoded,
    (lookupsAgree_iff (sinkStored_captured (text "a")) decoded .sink).1.mpr plainly⟩

/-- What the setter stores for the only node resolves in the snapshot, and the getter
returns nothing. -/
theorem lookups_differ : ∃ snapshot,
    (sinkStored (defaultText (text "a"))).CapturedAs (sinkPayload (defaultText (text "a"))) ∧
    runtimeSnapshotFromPayload unchangedCases (.dict (sinkPayload (defaultText (text "a")))) =
      .ok snapshot ∧
    (sinkStored (defaultText (text "a"))).stored .sink = some (defaultText (text "a")) ∧
    (resolvedDefault snapshot .sink).integral? = some 1 ∧
    (getDefault (sinkStored (defaultText (text "a"))) .sink).isNone ∧
    ¬ LookupsAgree (sinkStored (defaultText (text "a"))) snapshot .sink := by
  obtain ⟨snapshot, decoded, resolved⟩ :=
    exists_of_gives (show gives resolvesNode (runtimeSnapshotFromPayload unchangedCases
      (.dict (sinkPayload (defaultText (text "a"))))) = true by decide +kernel)
  have isNone : getDefault (sinkStored (defaultText (text "a"))) .sink = none := by decide
  refine ⟨snapshot, sinkStored_captured _, decoded, by decide, decide_eq_true_eq.mp resolved, by rw [isNone]; rfl, ?_⟩
  intro agree
  rw [LookupsAgree, isNone] at agree
  rw [resolvesNode, agree] at resolved
  cases resolved

end Instances

end WyrePlumber.Runtime
