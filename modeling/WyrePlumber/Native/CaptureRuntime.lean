import WyrePlumber.Native.RuntimeEvents

/-!
# The capture of the runtime

`capture_runtime.c`: the payload that one walk over the object manager makes of what
WirePlumber shows and of the ledger of managed links.  The copying functions of this
file and of `runtime_events.c` are the same; those of the events are used for both.
Every Python object that is made may fail, and then the capture fails.
-/

set_option autoImplicit false
set_option linter.constructorNameAsVariable false

namespace WyrePlumber.Native.CaptureRuntime

open Python Fallible
open WyrePlumber.Runtime
open WyrePlumber.Native.ManagedLinks (Endpoints Ledger WpProperties lookupEndpoints)
open WyrePlumber.Native.RuntimeEvents (Text Dict SpaPod MetadataItem MixerState setOwned longFrom
  boolFrom strFrom optionalStr buildValue append dictGetItemString copyItems copyProperties copyRawParameterValues
  copyMixerState keyOrEmpty dictGetItemString_determined setOwned_determined longFrom_determined
  strFrom_determined optionalStr_determined append_determined buildValue_determined
  copyItems_determined copyProperties_determined copyRawParameterValues_determined
  copyMixerState_determined)

/-! ## What WirePlumber shows -/

/-- `wp_pipewire_object_get_param_info`: names and permissions of the parameters,
`NULL`, or a variant of another type. -/
inductive ParamInfo where
  | absent
  | otherType
  | entries (items : List (PyString × PyString))

/-- What a capture reads of every PipeWire object.  `bound` and `info` are its active
features; `enumParams` is `NULL` where a parameter cannot be enumerated. -/
structure PipewireObject where
  boundId : Nat
  bound : Bool
  info : Bool
  properties : Option WpProperties
  globalProperties : Option WpProperties
  paramInfo : ParamInfo
  enumParams : PyString → Option (List (Option SpaPod))

structure PortCounts where
  inputPorts : Nat
  maxInputPorts : Nat
  outputPorts : Nat
  maxOutputPorts : Nat

structure NodeInfo where
  state : Int
  error : Option Text
  ports : PortCounts
  mixer : Option MixerState

structure LinkInfo where
  endpoints : Endpoints
  state : Int
  error : Option Text

/-- A metadata object has no INFO feature; its entries come with DATA. -/
structure MetadataObject where
  boundId : Nat
  bound : Bool
  data : Bool
  globalProperties : Option WpProperties
  items : List (Option MetadataItem)

inductive WpObject where
  | device (object : PipewireObject)
  | node (object : PipewireObject) (node : NodeInfo)
  | port (object : PipewireObject) (direction : Int)
  | link (object : PipewireObject) (link : LinkInfo)
  | metadata (metadata : MetadataObject)

/-- What the WirePlumber and PipeWire libraries call themselves. -/
structure Versions where
  library : Text
  api : Text
  pipewire : Text

/-- All that `capture_runtime_payload` reads, the clock apart.  Without a manager
there is nothing to iterate. -/
structure Source where
  versions : Versions
  remoteVersion : Option Text
  connected : Bool
  generation : Nat
  managedLinks : Ledger
  objects : List WpObject

/-- The lists a capture fills. -/
structure Collections where
  devices : List PyValue
  nodes : List PyValue
  ports : List PyValue
  links : List PyValue
  metadata : List PyValue
  parameters : List PyValue
  profiles : List PyValue
  routes : List PyValue
  defaults : List PyValue

def Collections.empty : Collections := ⟨[], [], [], [], [], [], [], [], []⟩

/-! ## Parameters -/

/-- `strchr(permissions, 'r')`. -/
def readable (permissions : PyString) : Bool := (text "r").all permissions.contains

def isProfileId (id : PyString) : Bool := id = text "Profile" || id = text "EnumProfile"

def isRouteId (id : PyString) : Bool := id = text "Route" || id = text "EnumRoute"

/-- The enumeration of a parameter that is not readable is not tried. -/
def enumerated (object : PipewireObject) (id permissions : PyString) :
    Option (List (Option SpaPod)) :=
  if readable permissions then object.enumParams id else none

def isComplete (object : PipewireObject) (id permissions : PyString) : Bool :=
  !readable permissions || (object.enumParams id).isSome

def parameterRecord (object : PipewireObject) (ownerType : String) (id permissions : PyString) :
    Copy PyValue := do
  let values ← copyRawParameterValues (enumerated object id permissions)
  allocate
  let record ← buildValue
    [("owner_type", strFrom (some (text ownerType))), ("owner_id", longFrom object.boundId),
      ("id", strFrom (some id)), ("permissions", strFrom (some permissions)),
      ("complete", boolFrom (isComplete object id permissions)), ("values", pure values)] []
  pure (.dict record)

def appendIf (wanted : Bool) (items : List PyValue) (item : PyValue) : Copy (List PyValue) :=
  if wanted then append items item else pure items

/-- One turn of the loop of `copy_parameters`. -/
def copyParameter (object : PipewireObject) (ownerType : String) (id permissions : PyString)
    (parameterIds : List PyValue) (collected : Collections) :
    Copy (List PyValue × Collections) := do
  let name ← strFrom (some id)
  let ids ← append parameterIds name
  let record ← parameterRecord object ownerType id permissions
  let parameters ← append collected.parameters record
  let profiles ← appendIf (isProfileId id) collected.profiles record
  let routes ← appendIf (isRouteId id) collected.routes record
  pure (ids, { collected with parameters := parameters, profiles := profiles, routes := routes })

def copyEntries (object : PipewireObject) (ownerType : String) :
    List (PyString × PyString) → List PyValue × Collections → Copy (List PyValue × Collections)
  | [], copied => pure copied
  | (id, permissions) :: rest, copied => do
      let extended ← copyParameter object ownerType id permissions copied.1 copied.2
      copyEntries object ownerType rest extended

def copyParameters (object : PipewireObject) (ownerType : String) (collected : Collections) :
    Copy (List PyValue × Collections) :=
  match object.paramInfo with
  | .absent => pure ([], collected)
  | .otherType => failure
  | .entries items => copyEntries object ownerType items ([], collected)

/-! ## Objects -/

def hasSnapshotFeatures (object : PipewireObject) : Bool := object.bound && object.info

def copyPipewireObject (object : PipewireObject) (ownerType : String) (collected : Collections) :
    Copy (Dict × Collections) := do
  allocate
  allocate
  let withId ← setOwned [] "id" (longFrom object.boundId)
  let withProperties ← setOwned withId "properties" (copyProperties object.properties)
  let copied ← copyParameters object ownerType collected
  let record ← setOwned withProperties "parameter_ids" (pure (.list copied.1))
  pure (record, copied.2)

def appendDevice (device : PipewireObject) (collected : Collections) : Copy Collections :=
  if hasSnapshotFeatures device then do
    let copied ← copyPipewireObject device "device" collected
    let devices ← append copied.2.devices (.dict copied.1)
    pure { copied.2 with devices := devices }
  else pure collected

def appendNode (object : PipewireObject) (node : NodeInfo) (collected : Collections) :
    Copy Collections :=
  if hasSnapshotFeatures object then do
    let copied ← copyPipewireObject object "node" collected
    let mixer ← copyMixerState node.mixer
    let record ← buildValue
      [("mixer", pure mixer), ("state", longFrom node.state), ("error", optionalStr node.error),
        ("n_input_ports", longFrom node.ports.inputPorts),
        ("max_input_ports", longFrom node.ports.maxInputPorts),
        ("n_output_ports", longFrom node.ports.outputPorts),
        ("max_output_ports", longFrom node.ports.maxOutputPorts)] copied.1
    let nodes ← append copied.2.nodes (.dict record)
    pure { copied.2 with nodes := nodes }
  else pure collected

def appendPort (object : PipewireObject) (direction : Int) (collected : Collections) :
    Copy Collections :=
  if hasSnapshotFeatures object then do
    let copied ← copyPipewireObject object "port" collected
    let record ← buildValue [("direction", longFrom direction)] copied.1
    let ports ← append copied.2.ports (.dict record)
    pure { copied.2 with ports := ports }
  else pure collected

/-- `PyDict_Check`. -/
def asDict : PyValue → Option Dict
  | .dict items => some items
  | _ => none

/-- The global properties over the link's own, and over both the markers of the
ledger. -/
def copyLinkProperties (managedLinks : Ledger) (object : PipewireObject) (endpoints : Endpoints)
    (properties : Dict) : Copy Dict := do
  let merged ← copyItems (object.globalProperties.getD []) properties
  match lookupEndpoints managedLinks endpoints with
  | some managed =>
      buildValue
        [("open-cinema.owner", strFrom (some managed.owner)),
          ("open-cinema.desired-id", strFrom (some managed.desiredId))] merged
  | none => pure merged

def appendLink (managedLinks : Ledger) (object : PipewireObject) (link : LinkInfo)
    (collected : Collections) : Copy Collections :=
  if hasSnapshotFeatures object then do
    let copied ← copyPipewireObject object "link" collected
    let found ← dictGetItemString copied.1 "properties"
    let own ← owned (asDict found)
    let properties ← copyLinkProperties managedLinks object link.endpoints own
    let record ← buildValue
      [("output_node_id", longFrom link.endpoints.outputNode),
        ("output_port_id", longFrom link.endpoints.outputPort),
        ("input_node_id", longFrom link.endpoints.inputNode),
        ("input_port_id", longFrom link.endpoints.inputPort), ("state", longFrom link.state),
        ("error", optionalStr link.error)]
      (RuntimeEvents.setItem (text "properties") (.dict properties) copied.1)
    let links ← append copied.2.links (.dict record)
    pure { copied.2 with links := links }
  else pure collected

/-! ## Metadata -/

/-- `wp_properties_get(properties, "metadata.name")`. -/
def metadataName (metadata : MetadataObject) : Option Text :=
  (metadata.globalProperties.getD []).lookup (some (text "metadata.name"))

/-- `g_str_has_prefix(key, "default.")`; the key is UTF-8 here, its copy exists. -/
def isDefaultKey : Option Text → Bool
  | some (some key) => (text "default.").isPrefixOf key
  | _ => false

/-- `PyDict_Copy` of the entry, which then names its metadata object. -/
def copyDefault (metadata : MetadataObject) (key : Option Text) (entry : Dict)
    (defaults : List PyValue) : Copy (List PyValue) :=
  if isDefaultKey key then do
    allocate
    let record ← buildValue
      [("metadata_id", longFrom metadata.boundId),
        ("metadata_name", optionalStr (metadataName metadata))] entry
    append defaults (.dict record)
  else pure defaults

def copyMetadataItems (metadata : MetadataObject) :
    List (Option MetadataItem) → List PyValue × List PyValue →
      Copy (List PyValue × List PyValue)
  | [], copied => pure copied
  | none :: rest, copied => copyMetadataItems metadata rest copied
  | some item :: rest, copied => do
      allocate
      let entry ← buildValue
        [("subject", longFrom item.subject), ("key", strFrom (keyOrEmpty item.key)),
          ("type", optionalStr item.type), ("value", optionalStr item.value)] []
      let entries ← append copied.1 (.dict entry)
      let defaults ← copyDefault metadata item.key entry copied.2
      copyMetadataItems metadata rest (entries, defaults)

def appendMetadata (metadata : MetadataObject) (collected : Collections) : Copy Collections :=
  if metadata.bound && metadata.data then do
    allocate
    allocate
    let shown ← buildValue
      [("id", longFrom metadata.boundId), ("name", optionalStr (metadataName metadata)),
        ("properties", copyProperties metadata.globalProperties)] []
    let copied ← copyMetadataItems metadata metadata.items ([], collected.defaults)
    let record ← setOwned shown "entries" (pure (.list copied.1))
    let list ← append collected.metadata (.dict record)
    pure { collected with metadata := list, defaults := copied.2 }
  else pure collected

/-! ## The payload -/

def appendObject (managedLinks : Ledger) : WpObject → Collections → Copy Collections
  | .device object, collected => appendDevice object collected
  | .node object node, collected => appendNode object node collected
  | .port object direction, collected => appendPort object direction collected
  | .link object link, collected => appendLink managedLinks object link collected
  | .metadata metadata, collected => appendMetadata metadata collected

def appendObjects (managedLinks : Ledger) : List WpObject → Collections → Copy Collections
  | [], collected => pure collected
  | object :: rest, collected => do
      let extended ← appendObject managedLinks object collected
      appendObjects managedLinks rest extended

def buildHealth (source : Source) : Copy PyValue := do
  allocate
  allocate
  let details ← buildValue
    [("wireplumber_library_version", strFrom source.versions.library),
      ("wireplumber_api_version", strFrom source.versions.api),
      ("pipewire_library_version", strFrom source.versions.pipewire),
      ("pipewire_remote_version", optionalStr source.remoteVersion)] []
  let health ← buildValue
    [("state", strFrom (some (text (if source.connected then "connected" else "disconnected")))),
      ("generation", longFrom source.generation), ("reason", pure .none),
      ("details", pure (.dict details))] []
  pure (.dict health)

/-- `PyDict_New` and nine times `PyList_New`, as it stands before the walk. -/
def allocateCollections : Nat → Copy Unit
  | 0 => pure ()
  | count + 1 => do
      allocate
      allocateCollections count

/-- `sequence` is the number the capture consumes; `capturedAt` is `NULL` when the
clock cannot be read. -/
def captureRuntimePayload (source : Source) (sequence : Nat) (capturedAt : Option PyString) :
    Copy Dict := do
  allocateCollections 10
  let collected ← appendObjects source.managedLinks source.objects .empty
  let instant ← owned capturedAt
  let stamped ← buildValue
    [("payload_version", longFrom 1), ("generation", longFrom source.generation),
      ("sequence", longFrom sequence), ("captured_at", strFrom (some instant))] []
  let health ← buildHealth source
  buildValue
    [("health", pure health), ("devices", pure (.list collected.devices)),
      ("nodes", pure (.list collected.nodes)), ("ports", pure (.list collected.ports)),
      ("links", pure (.list collected.links)), ("metadata", pure (.list collected.metadata)),
      ("parameters", pure (.list collected.parameters)),
      ("profiles", pure (.list collected.profiles)), ("routes", pure (.list collected.routes)),
      ("defaults", pure (.list collected.defaults))] stamped

/-! ## What the allocator does not decide

A failed allocation ends the capture; a capture that ends with a payload has the one
that the source determines.
-/

theorem appendIf_determined (wanted : Bool) (items : List PyValue) (item : PyValue) :
    Determined (appendIf wanted items item) := by
  unfold appendIf
  split
  · exact append_determined items item
  · exact determined_pure items

theorem parameterRecord_determined (object : PipewireObject) (ownerType : String)
    (id permissions : PyString) : Determined (parameterRecord object ownerType id permissions) := by
  refine (copyRawParameterValues_determined _).bind fun values => ?_
  refine determined_allocate.bind fun _ => (buildValue_determined _ _ ?_).bind fun record => ?_
  · simp only [List.mem_cons, List.not_mem_nil, or_false, forall_eq_or_imp, forall_eq]
    exact ⟨strFrom_determined _, longFrom_determined _, strFrom_determined _,
      strFrom_determined _, determined_pure _, determined_pure _⟩
  · exact determined_pure _

theorem copyParameter_determined (object : PipewireObject) (ownerType : String)
    (id permissions : PyString) (parameterIds : List PyValue) (collected : Collections) :
    Determined (copyParameter object ownerType id permissions parameterIds collected) := by
  refine (strFrom_determined _).bind fun name => (append_determined _ _).bind fun ids => ?_
  refine (parameterRecord_determined object ownerType id permissions).bind fun record => ?_
  refine (append_determined _ _).bind fun parameters => ?_
  refine (appendIf_determined _ _ _).bind fun profiles => ?_
  exact (appendIf_determined _ _ _).bind fun routes => determined_pure _

theorem copyEntries_determined (object : PipewireObject) (ownerType : String)
    (entries : List (PyString × PyString)) (copied : List PyValue × Collections) :
    Determined (copyEntries object ownerType entries copied) := by
  induction entries generalizing copied with
  | nil => exact determined_pure copied
  | cons entry rest inductionHypothesis =>
      exact (copyParameter_determined object ownerType entry.1 entry.2 copied.1 copied.2).bind
        fun extended => inductionHypothesis extended

theorem copyParameters_determined (object : PipewireObject) (ownerType : String)
    (collected : Collections) : Determined (copyParameters object ownerType collected) := by
  unfold copyParameters
  split
  · exact determined_pure _
  · exact determined_failure
  · exact copyEntries_determined object ownerType _ _

theorem copyPipewireObject_determined (object : PipewireObject) (ownerType : String)
    (collected : Collections) : Determined (copyPipewireObject object ownerType collected) := by
  refine determined_allocate.bind fun _ => determined_allocate.bind fun _ => ?_
  refine (setOwned_determined _ _ (longFrom_determined _)).bind fun withId => ?_
  refine (setOwned_determined _ _ (copyProperties_determined _)).bind fun withProperties => ?_
  refine (copyParameters_determined object ownerType collected).bind fun copied => ?_
  exact (setOwned_determined _ _ (determined_pure _)).bind fun record => determined_pure _

theorem copyLinkProperties_determined (managedLinks : Ledger) (object : PipewireObject)
    (endpoints : Endpoints) (properties : Dict) :
    Determined (copyLinkProperties managedLinks object endpoints properties) := by
  refine (copyItems_determined _ _).bind fun merged => ?_
  split
  · apply buildValue_determined
    simp only [List.mem_cons, List.not_mem_nil, or_false, forall_eq_or_imp, forall_eq]
    exact ⟨strFrom_determined _, strFrom_determined _⟩
  · exact determined_pure merged

theorem copyMetadataItems_determined (metadata : MetadataObject)
    (items : List (Option MetadataItem)) (copied : List PyValue × List PyValue) :
    Determined (copyMetadataItems metadata items copied) := by
  have default : ∀ (key : Option Text) (entry : Dict) (defaults : List PyValue),
      Determined (copyDefault metadata key entry defaults) := by
    intro key entry defaults
    unfold copyDefault
    split
    · refine determined_allocate.bind fun _ => (buildValue_determined _ _ ?_).bind fun record => ?_
      · simp only [List.mem_cons, List.not_mem_nil, or_false, forall_eq_or_imp, forall_eq]
        exact ⟨longFrom_determined _, optionalStr_determined _⟩
      · exact append_determined defaults _
    · exact determined_pure defaults
  induction items generalizing copied with
  | nil => exact determined_pure copied
  | cons item rest inductionHypothesis =>
      cases item with
      | none => exact inductionHypothesis copied
      | some item =>
          refine determined_allocate.bind fun _ => (buildValue_determined _ _ ?_).bind
            fun entry => ?_
          · simp only [List.mem_cons, List.not_mem_nil, or_false, forall_eq_or_imp, forall_eq]
            exact ⟨longFrom_determined _, strFrom_determined _, optionalStr_determined _,
              optionalStr_determined _⟩
          · refine (append_determined copied.1 _).bind fun entries => ?_
            exact (default item.key entry copied.2).bind fun defaults =>
              inductionHypothesis (entries, defaults)

theorem appendObject_determined (managedLinks : Ledger) (object : WpObject)
    (collected : Collections) : Determined (appendObject managedLinks object collected) := by
  cases object with
  | device object =>
      simp only [appendObject, appendDevice]
      split
      · refine (copyPipewireObject_determined _ _ _).bind fun copied => ?_
        exact (append_determined _ _).bind fun devices => determined_pure _
      · exact determined_pure collected
  | node object node =>
      simp only [appendObject, appendNode]
      split
      · refine (copyPipewireObject_determined _ _ _).bind fun copied => ?_
        refine (copyMixerState_determined _).bind fun mixer => ?_
        refine (buildValue_determined _ _ ?_).bind fun record => ?_
        · simp only [List.mem_cons, List.not_mem_nil, or_false, forall_eq_or_imp, forall_eq]
          exact ⟨determined_pure _, longFrom_determined _, optionalStr_determined _,
            longFrom_determined _, longFrom_determined _, longFrom_determined _,
            longFrom_determined _⟩
        · exact (append_determined _ _).bind fun nodes => determined_pure _
      · exact determined_pure collected
  | port object direction =>
      simp only [appendObject, appendPort]
      split
      · refine (copyPipewireObject_determined _ _ _).bind fun copied => ?_
        refine (buildValue_determined _ _ ?_).bind fun record => ?_
        · simp only [List.mem_cons, List.not_mem_nil, or_false, forall_eq]
          exact longFrom_determined _
        · exact (append_determined _ _).bind fun ports => determined_pure _
      · exact determined_pure collected
  | link object link =>
      simp only [appendObject, appendLink]
      split
      · refine (copyPipewireObject_determined _ _ _).bind fun copied => ?_
        refine (dictGetItemString_determined _ _).bind fun found => ?_
        refine (determined_owned _).bind fun own => ?_
        refine (copyLinkProperties_determined managedLinks object _ own).bind fun properties => ?_
        refine (buildValue_determined _ _ ?_).bind fun record => ?_
        · simp only [List.mem_cons, List.not_mem_nil, or_false, forall_eq_or_imp, forall_eq]
          exact ⟨longFrom_determined _, longFrom_determined _, longFrom_determined _,
            longFrom_determined _, longFrom_determined _, optionalStr_determined _⟩
        · exact (append_determined _ _).bind fun links => determined_pure _
      · exact determined_pure collected
  | metadata metadata =>
      simp only [appendObject, appendMetadata]
      split
      · refine determined_allocate.bind fun _ => determined_allocate.bind fun _ => ?_
        refine (buildValue_determined _ _ ?_).bind fun shown => ?_
        · simp only [List.mem_cons, List.not_mem_nil, or_false, forall_eq_or_imp, forall_eq]
          exact ⟨longFrom_determined _, optionalStr_determined _, copyProperties_determined _⟩
        · refine (copyMetadataItems_determined metadata _ _).bind fun copied => ?_
          refine (setOwned_determined _ _ (determined_pure _)).bind fun record => ?_
          exact (append_determined _ _).bind fun list => determined_pure _
      · exact determined_pure collected

theorem appendObjects_determined (managedLinks : Ledger) (objects : List WpObject)
    (collected : Collections) : Determined (appendObjects managedLinks objects collected) := by
  induction objects generalizing collected with
  | nil => exact determined_pure collected
  | cons object rest inductionHypothesis =>
      exact (appendObject_determined managedLinks object collected).bind fun extended =>
        inductionHypothesis extended

theorem buildHealth_determined (source : Source) : Determined (buildHealth source) := by
  refine determined_allocate.bind fun _ => determined_allocate.bind fun _ => ?_
  refine (buildValue_determined _ _ ?_).bind fun details => ?_
  · simp only [List.mem_cons, List.not_mem_nil, or_false, forall_eq_or_imp, forall_eq]
    exact ⟨strFrom_determined _, strFrom_determined _, strFrom_determined _,
      optionalStr_determined _⟩
  · refine (buildValue_determined _ _ ?_).bind fun health => determined_pure _
    simp only [List.mem_cons, List.not_mem_nil, or_false, forall_eq_or_imp, forall_eq]
    exact ⟨strFrom_determined _, longFrom_determined _, determined_pure _, determined_pure _⟩

end WyrePlumber.Native.CaptureRuntime
