import WyrePlumber.Native.CaptureRuntime
import WyrePlumber.Native.EventStream
import WyrePlumber.Native.Generation

/-!
# The completeness of the projection

The connection beside what WirePlumber shows of its objects.  A change that the
connection has a handler for consumes a sequence number; a change that it has none
for does not, and the captures before and after it have consecutive sequences and
different contents.  The handlers are those of `on_object_added` and of the object
manager: properties and parameters of PipeWire objects, entries of metadata objects,
appearance and disappearance.
-/

set_option autoImplicit false
set_option linter.constructorNameAsVariable false

namespace WyrePlumber.Native.ProjectionCompleteness

open LabelledMachine Python Fallible
open WyrePlumber.Runtime
open WyrePlumber.Native.Connection (WPConnection ObjectSignal MutationDispatchResult Observation
  callbackReady)
open WyrePlumber.Native.Generation (managerInstalled)
open WyrePlumber.Native.ManagedLinks (Endpoints Ledger LinkCall WpManagedLinkSpec WpProperties
  CString lookupEndpoints forgetEndpoints managedLinkStore)
open WyrePlumber.Native.RuntimeEvents (Text Dict MetadataItem MixerState SpaPod
  unicodeFromString_determined strFrom_determined longFrom_determined)
open WyrePlumber.Native.CaptureRuntime

/-! ## What captures agree on -/

/-- The fields that number a capture and say when it was made. -/
def isStamp (key : PyString) : Bool := key = text "sequence" || key = text "captured_at"

def unstamped (payload : Dict) : Dict := payload.filter fun item => !isStamp item.1

/-- Equal except for `sequence` and `captured_at`. -/
def SameContent (payload other : Dict) : Prop := unstamped payload = unstamped other

/-! ## The machine -/

/-- What a capture reads of WirePlumber and of the ledger. -/
structure World where
  objects : List WpObject
  managedLinks : Ledger
  remoteVersion : Option Text

structure Runtime where
  conn : WPConnection
  world : World

def source (versions : Versions) (runtime : Runtime) : Source where
  versions := versions
  remoteVersion := runtime.world.remoteVersion
  connected := runtime.conn.coreConnected
  generation := runtime.conn.generation
  managedLinks := runtime.world.managedLinks
  objects := runtime.world.objects

/-- A change of one object that a capture can read. -/
inductive ObjectChange where
  | properties (properties : Option WpProperties)
  | parameters (info : ParamInfo) (enumParams : PyString → Option (List (Option SpaPod)))
      (detached : Bool)
  | metadataEntries (items : List (Option MetadataItem))
  | nodeState (state : Int) (error : Option Text)
  | linkState (state : Int) (error : Option Text)
  | portCounts (ports : PortCounts)
  | mixer (mixer : Option MixerState)
  | features (bound info : Bool)

/-- The signal of the object that has a handler, if one has. -/
def ObjectChange.signal : ObjectChange → Option ObjectSignal
  | .properties _ => some .propertiesChanged
  | .parameters _ _ detached => some (.paramsChanged detached)
  | .metadataEntries _ => some .metadataChanged
  | .nodeState .. | .linkState .. | .portCounts _ | .mixer _ | .features .. => none

def changedPipewire (object : PipewireObject) : ObjectChange → Option PipewireObject
  | .properties properties => some { object with properties := properties }
  | .parameters info enumParams _ =>
      some { object with paramInfo := info, enumParams := enumParams }
  | .features bound info => some { object with bound := bound, info := info }
  | _ => none

/-- An object has only some of the changes. -/
def changedObject : WpObject → ObjectChange → Option WpObject
  | .node object node, .nodeState state error =>
      some (.node object { node with state := state, error := error })
  | .node object node, .portCounts ports => some (.node object { node with ports := ports })
  | .node object node, .mixer mixer => some (.node object { node with mixer := mixer })
  | .link object link, .linkState state error =>
      some (.link object { link with state := state, error := error })
  | .metadata metadata, .metadataEntries items =>
      some (.metadata { metadata with items := items })
  | .metadata metadata, .features bound data =>
      some (.metadata { metadata with bound := bound, data := data })
  | .metadata _, _ => none
  | .device object, change => (changedPipewire object change).map .device
  | .node object node, change => (changedPipewire object change).map fun next => .node next node
  | .port object direction, change =>
      (changedPipewire object change).map fun next => .port next direction
  | .link object link, change => (changedPipewire object change).map fun next => .link next link

/-- Labels: a step of the connection, the remote's answer, a change of the shown
objects, a capture with the answers of the clock and the allocator, the execution of
a mutation with the link it may create, and a new order of the hash table. -/
inductive Action where
  | connection (action : Connection.Action)
  | remoteInfo (version : Option Text)
  | added (object : WpObject) (built : Bool)
  | removed (index : Nat) (built : Bool)
  | changed (index : Nat) (change : ObjectChange) (built : Bool)
  | capture (index : Nat) (capturedAt : Option PyString) (heap : Heap)
  | settleMutation (executed : MutationDispatchResult)
      (created : Option (LinkCall × Endpoints × Nat))
  | rehashed (order : List (CString × WpManagedLinkSpec))

inductive Report where
  | captured (generation sequence : Nat) (payload : Dict)

/-- Captures and executed mutations have labels of their own. -/
def isShared : Connection.Action → Bool
  | .capture .. | .settleMutation _ => true
  | _ => false

def disconnects (conn : WPConnection) : Connection.Action → Bool
  | .coreDisconnected => true
  | .reconnect | .stop => conn.coreConnected
  | _ => false

def managerOf (conn : WPConnection) : Option Nat := conn.om.map (·.ordinal)

/-- A new manager shows nothing yet; losing the core empties the ledger. -/
def carried (runtime : Runtime) (next : WPConnection) (action : Connection.Action) : World :=
  { runtime.world with
    objects := if managerOf next = managerOf runtime.conn then runtime.world.objects else []
    managedLinks :=
      if disconnects runtime.conn action then .empty else runtime.world.managedLinks }

/-- The connection after a change: its handler ran, or there is none. -/
def notified (conn : WPConnection) (change : ObjectChange) (built : Bool) :
    Option WPConnection :=
  match change.signal with
  | some signal => (Connection.step conn (.objectSignal signal built)).map Prod.fst
  | none => if callbackReady conn then some conn else none

/-- `on_object_removed` forgets the endpoints of a link that still has its INFO. -/
def forgetLink (managedLinks : Ledger) : WpObject → Ledger
  | .link object link =>
      if object.info then forgetEndpoints managedLinks link.endpoints else managedLinks
  | _ => managedLinks

def isExecution : Observation → Bool
  | .executed _ _ => true
  | _ => false

/-- The only execution that writes the ledger is that of `create_link`. -/
def storedLinks (managedLinks : Ledger) (observed : List Observation)
    (created : Option (LinkCall × Endpoints × Nat)) : Ledger :=
  match created with
  | some (call, endpoints, proxy) =>
      if observed.any isExecution then managedLinkStore managedLinks call endpoints proxy
      else managedLinks
  | none => managedLinks

def captured (versions : Versions) (runtime : Runtime) (capturedAt : Option PyString)
    (heap : Heap) : Option Dict :=
  (on (captureRuntimePayload (source versions runtime) (runtime.conn.sequence + 1) capturedAt)
    heap).1

def reportOf (runtime : Runtime) : Option Dict → List Report
  | some payload => [.captured runtime.conn.generation (runtime.conn.sequence + 1) payload]
  | none => []

def step (versions : Versions) (runtime : Runtime) : Action → Option (Runtime × List Report)
  | .connection action =>
      if isShared action then none
      else (Connection.step runtime.conn action).map fun taken =>
        (⟨taken.1, carried runtime taken.1 action⟩, [])
  | .remoteInfo version =>
      if callbackReady runtime.conn then
        some (⟨runtime.conn, { runtime.world with remoteVersion := version }⟩, [])
      else none
  | .added object built =>
      (Connection.step runtime.conn (.objectSignal .objectAdded built)).map fun taken =>
        (⟨taken.1, { runtime.world with objects := runtime.world.objects ++ [object] }⟩, [])
  | .removed index built =>
      match runtime.world.objects[index]? with
      | none => none
      | some object =>
          (Connection.step runtime.conn (.objectSignal .objectRemoved built)).map fun taken =>
            (⟨taken.1, { runtime.world with
              objects := runtime.world.objects.eraseIdx index
              managedLinks := forgetLink runtime.world.managedLinks object }⟩, [])
  | .changed index change built =>
      match runtime.world.objects[index]?.bind (changedObject · change) with
      | none => none
      | some object =>
          (notified runtime.conn change built).map fun conn =>
            (⟨conn, { runtime.world with objects := runtime.world.objects.set index object }⟩, [])
  | .capture index capturedAt heap =>
      let payload := captured versions runtime capturedAt heap
      (Connection.step runtime.conn (.capture index payload.isSome)).map fun taken =>
        (⟨taken.1, runtime.world⟩, reportOf runtime payload)
  | .settleMutation executed created =>
      (Connection.step runtime.conn (.settleMutation executed)).map fun taken =>
        (⟨taken.1, { runtime.world with
          managedLinks := storedLinks runtime.world.managedLinks taken.2 created }⟩, [])
  | .rehashed order =>
      (runtime.world.managedLinks.reorder order).map fun ledger =>
        (⟨runtime.conn, { runtime.world with managedLinks := ledger }⟩, [])

def initialWorld : World := ⟨[], .empty, none⟩

def machine (versions : Versions) : Machine Runtime Action Report where
  initial runtime := ∃ capacity, 0 < capacity ∧
    runtime = ⟨Connection.new capacity, initialWorld⟩
  step := step versions

abbrev History := List (Transition Runtime Action Report)

/-! ## The condition -/

/-- Every link that is shown finds the same entry in both ledgers. -/
def SameMarkers (objects : List WpObject) (managedLinks other : Ledger) : Prop :=
  ∀ object link, .link object link ∈ objects →
    lookupEndpoints other link.endpoints = lookupEndpoints managedLinks link.endpoints

/-- What changes under an installed manager is announced: a handler is connected and
still publishes, the remote has answered before, and the ledger changes for no link
that is shown.  Captures run under an installed manager. -/
def Announced (runtime : Runtime) : Action → Prop
  | .connection _ => True
  | .remoteInfo _ => managerInstalled runtime.conn = false
  | .added .. | .removed .. =>
      managerInstalled runtime.conn = true → runtime.conn.stopRequested = false
  | .changed _ change _ =>
      managerInstalled runtime.conn = true →
        change.signal.isSome = true ∧ runtime.conn.stopRequested = false
  | .capture .. => managerInstalled runtime.conn = true
  | .settleMutation _ created =>
      ∀ call endpoints proxy, created = some (call, endpoints, proxy) →
        SameMarkers runtime.world.objects runtime.world.managedLinks
          (managedLinkStore runtime.world.managedLinks call endpoints proxy)
  | .rehashed order =>
      ∀ ledger, runtime.world.managedLinks.reorder order = some ledger →
        SameMarkers runtime.world.objects runtime.world.managedLinks ledger

/-- Captures with consecutive sequences of one generation have the same content. -/
def Complete (reported : List Report) : Prop :=
  ∀ generation sequence payload next,
    .captured generation sequence payload ∈ reported →
      .captured generation (sequence + 1) next ∈ reported → SameContent payload next

/-! ## One content for one source -/

section Content

variable {dict other : Dict}

theorem unstamped_setItem_stamp {key : PyString} (stamp : isStamp key = true) (value : PyValue)
    (dict : Dict) : unstamped (RuntimeEvents.setItem key value dict) = unstamped dict := by
  induction dict with
  | nil => simp [unstamped, RuntimeEvents.setItem, stamp]
  | cons item rest inductionHypothesis =>
      obtain ⟨name, kept⟩ := item
      rw [RuntimeEvents.setItem]
      by_cases same : name = key
      · rw [if_pos same]
        simp [unstamped, same, stamp]
      · rw [if_neg same]
        simp only [unstamped, List.filter_cons] at inductionHypothesis ⊢
        rw [inductionHypothesis]

theorem unstamped_setItem {key : PyString} (plain : isStamp key = false) (value : PyValue)
    (dict : Dict) : unstamped (RuntimeEvents.setItem key value dict) =
      RuntimeEvents.setItem key value (unstamped dict) := by
  induction dict with
  | nil => simp [unstamped, RuntimeEvents.setItem, plain]
  | cons item rest inductionHypothesis =>
      obtain ⟨name, kept⟩ := item
      rw [RuntimeEvents.setItem]
      by_cases same : name = key
      · rw [if_pos same]
        simp [unstamped, same, plain, RuntimeEvents.setItem]
      · rw [if_neg same]
        simp only [unstamped, List.filter_cons] at inductionHypothesis ⊢
        rw [inductionHypothesis]
        split
        · rw [RuntimeEvents.setItem, if_neg same]
        · rfl

theorem SameContent.setItem (same : SameContent dict other) (key : PyString) (value : PyValue) :
    SameContent (RuntimeEvents.setItem key value dict)
      (RuntimeEvents.setItem key value other) := by
  unfold SameContent
  cases stamp : isStamp key with
  | true =>
      rw [unstamped_setItem_stamp stamp, unstamped_setItem_stamp stamp]
      exact same
  | false => rw [unstamped_setItem stamp, unstamped_setItem stamp, same]

theorem SameContent.setStamp (same : SameContent dict other) {key : PyString}
    (stamp : isStamp key = true) (value second : PyValue) :
    SameContent (RuntimeEvents.setItem key value dict)
      (RuntimeEvents.setItem key second other) := by
  unfold SameContent
  rw [unstamped_setItem_stamp stamp, unstamped_setItem_stamp stamp]
  exact same

theorem SameContent.setOwned (same : SameContent dict other) (key : String)
    {value : Copy PyValue} (made : Determined value) :
    Agree SameContent (RuntimeEvents.setOwned dict key value)
      (RuntimeEvents.setOwned other key value) := by
  refine Agree.bind made.agree ?_
  rintro made _ rfl
  refine Agree.bind (unicodeFromString_determined _).agree ?_
  rintro name _ rfl
  refine Agree.bind determined_allocate.agree fun _ _ _ => agree_pure ?_
  exact same.setItem name made

theorem unicodeFromString_name (name : PyString) :
    Agree (fun copied second => copied = name ∧ second = name)
      (RuntimeEvents.unicodeFromString (some name))
      (RuntimeEvents.unicodeFromString (some name)) :=
  Agree.bind determined_allocate.agree fun _ _ _ => agree_pure ⟨rfl, rfl⟩

theorem SameContent.setOwnedStamp (same : SameContent dict other) {key : String}
    (stamp : isStamp (text key) = true) (value second : Copy PyValue) :
    Agree SameContent (RuntimeEvents.setOwned dict key value)
      (RuntimeEvents.setOwned other key second) := by
  have anything : Agree (fun _ _ => True) value second := fun _ _ _ _ _ _ => trivial
  refine Agree.bind anything fun made counterpart _ => ?_
  refine Agree.bind (unicodeFromString_name (text key)) ?_
  rintro _ _ ⟨rfl, rfl⟩
  refine Agree.bind determined_allocate.agree fun _ _ _ => agree_pure ?_
  exact same.setStamp stamp made counterpart

theorem SameContent.buildValue {fields : List (String × Copy PyValue)}
    (same : SameContent dict other) (made : ∀ field ∈ fields, Determined field.2) :
    Agree SameContent (RuntimeEvents.buildValue fields dict)
      (RuntimeEvents.buildValue fields other) := by
  induction fields generalizing dict other with
  | nil => exact agree_pure same
  | cons field rest inductionHypothesis =>
      have first : Determined field.2 := made field List.mem_cons_self
      refine Agree.bind (same.setOwned field.1 first) fun extended second sameExtended => ?_
      apply inductionHypothesis sameExtended
      intro later member
      exact made later (List.mem_cons_of_mem _ member)

theorem allocateCollections_determined (count : Nat) : Determined (allocateCollections count) := by
  induction count with
  | zero => exact determined_pure ()
  | succ count inductionHypothesis => exact determined_allocate.bind fun _ => inductionHypothesis

/-- Two captures of one source have one content, whatever their numbers and times. -/
theorem captureRuntimePayload_agree (source : Source) (sequence second : Nat)
    (capturedAt later : Option PyString) :
    Agree SameContent (captureRuntimePayload source sequence capturedAt)
      (captureRuntimePayload source second later) := by
  refine Agree.bind (allocateCollections_determined 10).agree fun _ _ _ => ?_
  refine Agree.bind (appendObjects_determined source.managedLinks source.objects .empty).agree ?_
  rintro collected _ rfl
  have instants : Agree (fun _ _ => True) (owned capturedAt) (owned later) :=
    fun _ _ _ _ _ _ => trivial
  refine Agree.bind instants fun instant other _ => ?_
  have stamped : Agree SameContent
      (RuntimeEvents.buildValue
        [("payload_version", RuntimeEvents.longFrom 1),
          ("generation", RuntimeEvents.longFrom source.generation),
          ("sequence", RuntimeEvents.longFrom sequence),
          ("captured_at", RuntimeEvents.strFrom (some instant))] [])
      (RuntimeEvents.buildValue
        [("payload_version", RuntimeEvents.longFrom 1),
          ("generation", RuntimeEvents.longFrom source.generation),
          ("sequence", RuntimeEvents.longFrom second),
          ("captured_at", RuntimeEvents.strFrom (some other))] []) := by
    have nothing : SameContent [] [] := rfl
    refine Agree.bind (nothing.setOwned _ (longFrom_determined 1)) fun _ _ versions => ?_
    refine Agree.bind (versions.setOwned _ (longFrom_determined _)) fun _ _ generations => ?_
    refine Agree.bind (generations.setOwnedStamp (by decide) _ _) fun _ _ sequences => ?_
    refine Agree.bind (sequences.setOwnedStamp (by decide) _ _) fun _ _ times => ?_
    exact agree_pure times
  refine Agree.bind stamped fun _ _ same => ?_
  refine Agree.bind (buildHealth_determined source).agree ?_
  rintro health _ rfl
  apply same.buildValue
  simp only [List.mem_cons, List.not_mem_nil, or_false, forall_eq_or_imp, forall_eq]
  exact ⟨determined_pure _, determined_pure _, determined_pure _, determined_pure _,
    determined_pure _, determined_pure _, determined_pure _, determined_pure _,
    determined_pure _, determined_pure _⟩

/-- The ledger is read for the links that are shown, and for nothing else. -/
theorem appendObjects_sameMarkers {objects : List WpObject} {managedLinks later : Ledger}
    (same : SameMarkers objects managedLinks later) (collected : Collections) :
    appendObjects later objects collected = appendObjects managedLinks objects collected := by
  induction objects generalizing collected with
  | nil => rfl
  | cons object rest inductionHypothesis =>
      have restSame : SameMarkers rest managedLinks later :=
        fun object link member => same object link (List.mem_cons_of_mem _ member)
      have first : appendObject later object collected =
          appendObject managedLinks object collected := by
        cases object with
        | link object link =>
            have found := same object link List.mem_cons_self
            simp only [appendObject, appendLink, copyLinkProperties, found]
        | _ => rfl
      rw [appendObjects, appendObjects, first]
      congr 1
      funext extended
      exact inductionHypothesis restSame extended

end Content

/-! ## Numbers and the life of the connection -/

section Numbers

variable {conn next : WPConnection} {action : Connection.Action} {observed : List Observation}

/-- The generation and the last number given out in it. -/
def position (conn : WPConnection) : Nat ×ₗ Nat := (EventStream.stream conn).position

theorem position_eq (conn : WPConnection) : position conn = toLex (conn.generation, conn.sequence) :=
  rfl

theorem step_position (taken : Connection.step conn action = some (next, observed)) :
    position conn ≤ position next :=
  (SequencedStream.steps_position (EventStream.step_steps taken)).1

theorem position_inj (same : position next = position conn) :
    next.generation = conn.generation ∧ next.sequence = conn.sequence :=
  Prod.mk.inj (toLex.injective same)

/-- A manager is created while the core is connected, and callers are let in by the
first one that is installed. -/
structure Lifecycle (conn : WPConnection) : Prop where
  connected : conn.om.isSome = true → conn.coreConnected = true
  started : managerInstalled conn = true → conn.started = true

theorem lifecycle_new (capacity : Nat) : Lifecycle (Connection.new capacity) where
  connected := by simp [Connection.new]
  started := by simp [Connection.new, managerInstalled]

theorem Lifecycle.of_same (before : Lifecycle conn) (om : next.om = conn.om)
    (coreConnected : next.coreConnected = conn.coreConnected)
    (started : next.started = conn.started) : Lifecycle next where
  connected := by
    rw [om, coreConnected]
    exact before.connected
  started := by
    rw [managerInstalled, om, started]
    exact before.started

theorem Lifecycle.of_none (om : next.om = none) : Lifecycle next where
  connected := by simp [om]
  started := by simp [managerInstalled, om]

theorem Lifecycle.installObjectManager (before : Lifecycle conn) :
    Lifecycle (Connection.installObjectManager conn) := by
  unfold Connection.installObjectManager
  split
  · rename_i ready
    simp only [Bool.and_eq_true] at ready
    refine ⟨fun _ => ready.1.1, ?_⟩
    simp [managerInstalled]
  · exact before

theorem publish_om (conn : WPConnection) (kind : Connection.EventKind) (subject : Option Nat)
    (requiresResnapshot built : Bool) :
    (Connection.publish conn kind subject requiresResnapshot built).1.om = conn.om := by
  obtain ⟨events, invalid, frame⟩ :=
    Connection.publish_frame conn kind subject requiresResnapshot built
  rw [frame]

theorem publish_lifecycle (before : Lifecycle conn) (kind : Connection.EventKind)
    (subject : Option Nat) (requiresResnapshot built : Bool) :
    Lifecycle (Connection.publish conn kind subject requiresResnapshot built).1 := by
  obtain ⟨events, invalid, frame⟩ :=
    Connection.publish_frame conn kind subject requiresResnapshot built
  rw [frame]
  exact before.of_same rfl rfl rfl

theorem onCoreDisconnected_om (conn : WPConnection) :
    (Connection.onCoreDisconnected conn).1.om = none := by
  obtain ⟨_, _, _, _, _, frame⟩ := Connection.onCoreDisconnected_frame conn
  rw [frame]

theorem stepCallback_lifecycle (before : Lifecycle conn)
    (taken : Connection.stepCallback conn action = some (next, observed)) : Lifecycle next := by
  cases action with
  | mixerApiLoaded =>
      cases taken
      have loaded : Lifecycle { conn with mixerApi := true } := before.of_same rfl rfl rfl
      exact loaded.installObjectManager
  | coreConnected =>
      cases taken
      have connected : Lifecycle { conn with coreConnected := true } :=
        ⟨fun _ => rfl, before.started⟩
      exact connected.installObjectManager
  | coreDisconnected =>
      have reached : _ = next := congrArg Prod.fst (Option.some.inj taken)
      rw [← reached]
      exact .of_none (onCoreDisconnected_om conn)
  | omInstalled =>
      simp only [Connection.stepCallback] at taken
      split at taken
      · rename_i manager present
        split at taken
        · have reached : _ = next := congrArg Prod.fst (Option.some.inj taken)
          rw [← reached]
          refine publish_lifecycle ⟨fun _ => ?_, fun _ => rfl⟩ _ _ _ _
          exact before.connected (by rw [present]; rfl)
        · cases taken
      · cases taken
  | objectSignal signal built =>
      obtain ⟨manager, _, published⟩ := Option.map_eq_some_iff.mp taken
      have reached : _ = next := congrArg Prod.fst published
      rw [← reached, Connection.publishObjectEvent]
      split
      · exact publish_lifecycle before _ _ _ _
      · exact before
  | defaultSignal built =>
      obtain ⟨manager, _, published⟩ := Option.map_eq_some_iff.mp taken
      have reached : _ = next := congrArg Prod.fst published
      rw [← reached, Connection.publishDefaultEvent]
      split
      · exact publish_lifecycle before _ _ _ _
      · exact before
  | capture index copied =>
      simp only [Connection.stepCallback] at taken
      split at taken
      · cases taken
      · cases copied <;> cases taken <;> exact before.of_same rfl rfl rfl
  | reconnect =>
      simp only [Connection.stepCallback] at taken
      split at taken
      · cases taken
      · have reached : _ = next := congrArg Prod.fst (Option.some.inj taken)
        rw [← reached, Connection.reconnectOnWpThread]
        split
        · exact .of_none (onCoreDisconnected_om _)
        · exact before.of_same rfl rfl rfl
  | stop =>
      simp only [Connection.stepCallback] at taken
      split at taken
      · cases taken
      · have reached : _ = next := congrArg Prod.fst (Option.some.inj taken)
        rw [← reached]
        have disconnected : Lifecycle (if conn.coreConnected
            then Connection.onCoreDisconnected { conn with stopSources := conn.stopSources - 1 }
            else ({ conn with stopSources := conn.stopSources - 1 }, [])).1 := by
          split
          · exact .of_none (onCoreDisconnected_om _)
          · exact before.of_same rfl rfl rfl
        exact (publish_lifecycle disconnected _ _ _ _).of_same rfl rfl rfl
  | popMutation =>
      simp only [Connection.stepCallback, Connection.popMutation] at taken
      split at taken
      · cases taken
      · split at taken <;> cases taken <;> exact before.of_same rfl rfl rfl
  | loopExit =>
      simp only [Connection.stepCallback] at taken
      split at taken <;> cases taken
      exact .of_none rfl
  | _ => cases taken

theorem stepStage_lifecycle (before : Lifecycle conn)
    (taken : Connection.stepStage conn action = some (next, observed)) : Lifecycle next := by
  cases action with
  | sampleMutation =>
      simp only [Connection.stepStage] at taken
      split at taken <;> cases taken
      exact before.of_same rfl rfl rfl
  | settleMutation executed =>
      simp only [Connection.stepStage, Connection.settleMutation] at taken
      split at taken
      · split at taken <;> cases taken <;> exact before.of_same rfl rfl rfl
      · cases taken
  | completeMutation =>
      simp only [Connection.stepStage] at taken
      split at taken
      · rename_i call result generation sequence _
        obtain ⟨ids, frame⟩ := Connection.completeCall_frame
          { conn with wpThread := .completed } call result generation sequence
        have reached : _ = next := congrArg Prod.fst (Option.some.inj taken)
        rw [← reached, frame]
        exact before.of_same rfl rfl rfl
      · cases taken
  | rescheduleMutation =>
      simp only [Connection.stepStage] at taken
      split at taken
      · obtain ⟨scheduled, sources, frame⟩ := Connection.scheduleDispatchLocked_frame
          { conn with mutationSourceScheduled := false, wpThread := .idle }
        rw [frame] at taken
        cases taken
        exact before.of_same rfl rfl rfl
      · cases taken
  | captureReset =>
      simp only [Connection.stepStage, Connection.runtimeEventsReset] at taken
      split at taken <;> cases taken
      exact before.of_same rfl rfl rfl
  | _ => cases taken

theorem Lifecycle.step (before : Lifecycle conn)
    (taken : Connection.step conn action = some (next, observed)) : Lifecycle next := by
  rcases Connection.step_cases conn next action observed taken with
    ⟨_, application⟩ | ⟨_, callback⟩ | stage
  · have same := Connection.stepApplication_sameWpState conn next action observed application
    exact before.of_same same.om same.coreConnected same.started
  · exact stepCallback_lifecycle before callback
  · exact stepStage_lifecycle before stage

/-- Without a new number the manager that is installed was installed before. -/
theorem manager_kept (taken : Connection.step conn action = some (next, observed))
    (still : position next = position conn) (installed : managerInstalled next = true) :
    next.om = conn.om := by
  obtain ⟨sameGeneration, -⟩ := position_inj still
  cases Generation.step_managerEffect conn next action observed taken with
  | kept om => exact om
  | dropped om => simp [managerInstalled, om] at installed
  | created om => simp [managerInstalled, om] at installed
  | installed _ _ _ _ generation => omega

theorem om_of_disconnects (disconnected : disconnects conn action = true)
    (taken : Connection.step conn action = some (next, observed)) : next.om = none := by
  cases action with
  | coreDisconnected =>
      simp only [Connection.step, Connection.stepCallback] at taken
      split at taken
      · have reached : _ = next := congrArg Prod.fst (Option.some.inj taken)
        rw [← reached]
        exact onCoreDisconnected_om conn
      · cases taken
  | reconnect =>
      have connected : conn.coreConnected = true := disconnected
      simp only [Connection.step, Connection.stepCallback] at taken
      split at taken
      · split at taken
        · cases taken
        · have reached : _ = next := congrArg Prod.fst (Option.some.inj taken)
          rw [← reached, Connection.reconnectOnWpThread, if_pos connected]
          exact onCoreDisconnected_om _
      · cases taken
  | stop =>
      have connected : conn.coreConnected = true := disconnected
      simp only [Connection.step, Connection.stepCallback] at taken
      split at taken
      · split at taken
        · cases taken
        · have reached : _ = next := congrArg Prod.fst (Option.some.inj taken)
          rw [← reached]
          simp only [Connection.stopOnWpThread, connected, if_true, Connection.publishConnection,
            Connection.runtimeEventsClose, publish_om]
          exact onCoreDisconnected_om _
      · cases taken
  | _ => cases disconnected

/-- A signal whose handler still publishes consumes a number, whether or not the
event can be built. -/
theorem signal_position {signal : ObjectSignal} {built : Bool} (started : conn.started = true)
    (running : conn.stopRequested = false)
    (taken : Connection.step conn (.objectSignal signal built) = some (next, observed)) :
    position conn < position next := by
  simp only [Connection.step, Connection.stepCallback] at taken
  split at taken
  · obtain ⟨manager, _, published⟩ := Option.map_eq_some_iff.mp taken
    have reached : _ = next := congrArg Prod.fst published
    rw [Connection.publishObjectEvent, started, running] at reached
    obtain ⟨events, invalid, frame⟩ := Connection.publish_frame conn signal.event.1
      (if signal.event.2.1 then some manager.ordinal else none) signal.event.2.2 built
    rw [← reached]
    simp only [Bool.not_false, Bool.and_true, if_true, frame]
    exact SequencedStream.position_lt_number (EventStream.stream conn)
  · cases taken

theorem signal_manager {signal : ObjectSignal} {built : Bool}
    (taken : Connection.step conn (.objectSignal signal built) = some (next, observed)) :
    next.om = conn.om := by
  simp only [Connection.step, Connection.stepCallback] at taken
  split at taken
  · obtain ⟨manager, _, published⟩ := Option.map_eq_some_iff.mp taken
    have reached : _ = next := congrArg Prod.fst published
    rw [← reached, Connection.publishObjectEvent]
    split
    · exact publish_om conn _ _ _ _
    · rfl
  · cases taken

theorem capture_taken {index : Nat} {copied : Bool}
    (taken : Connection.step conn (.capture index copied) = some (next, observed)) :
    next.om = conn.om ∧ next.generation = conn.generation ∧
      next.sequence = if copied then conn.sequence + 1 else conn.sequence := by
  simp only [Connection.step, Connection.stepCallback] at taken
  split at taken
  · split at taken
    · cases taken
    · cases copied <;> cases taken <;> exact ⟨rfl, rfl, rfl⟩
  · cases taken

end Numbers

/-! ## The invariant -/

/-- The payload is one that a capture of the source returns. -/
def Shows (source : Source) (payload : Dict) : Prop :=
  ∃ sequence capturedAt heap,
    (on (captureRuntimePayload source sequence capturedAt) heap).1 = some payload

theorem Shows.same {source : Source} {payload other : Dict} (first : Shows source payload)
    (second : Shows source other) : SameContent payload other := by
  obtain ⟨sequence, capturedAt, heap, copied⟩ := first
  obtain ⟨number, later, answers, again⟩ := second
  exact captureRuntimePayload_agree source sequence number capturedAt later heap answers payload
    other copied again

/-- The captures so far, against the state: none has a number that was not given out,
and one with the number given out last shows what a capture would show now. -/
structure Projected (versions : Versions) (runtime : Runtime) (reported : List Report) :
    Prop where
  lifecycle : Lifecycle runtime.conn
  bounded : ∀ generation sequence payload, .captured generation sequence payload ∈ reported →
    toLex (generation, sequence) ≤ position runtime.conn
  current : managerInstalled runtime.conn = true → ∀ payload,
    .captured runtime.conn.generation runtime.conn.sequence payload ∈ reported →
      Shows (source versions runtime) payload
  complete : Complete reported

section Invariant

variable {versions : Versions} {runtime next : Runtime} {reported : List Report}

/-- A step without a capture: a new number, or the same manager showing the same. -/
theorem Projected.quiet (projected : Projected versions runtime reported)
    (lifecycle : Lifecycle next.conn) (forward : position runtime.conn ≤ position next.conn)
    (unchanged : managerInstalled next.conn = true →
      position next.conn = position runtime.conn → managerInstalled runtime.conn = true ∧
        ∀ payload, Shows (source versions runtime) payload → Shows (source versions next) payload) :
    Projected versions next reported where
  lifecycle := lifecycle
  bounded generation sequence payload member :=
    (projected.bounded generation sequence payload member).trans forward
  complete := projected.complete
  current := by
    intro installed payload member
    have reached := projected.bounded _ _ payload member
    have still : position next.conn = position runtime.conn := le_antisymm reached forward
    obtain ⟨before, shows⟩ := unchanged installed still
    obtain ⟨sameGeneration, sameSequence⟩ := position_inj still
    rw [sameGeneration, sameSequence] at member
    exact shows payload (projected.current before payload member)

theorem source_eq (versions : Versions) {conn : WPConnection} {world : World} (before : Lifecycle runtime.conn)
    (after : Lifecycle conn) (om : conn.om = runtime.conn.om)
    (generation : conn.generation = runtime.conn.generation)
    (present : managerInstalled conn = true) (shown : world = runtime.world) :
    source versions ⟨conn, world⟩ = source versions runtime := by
  have some : conn.om.isSome = true := by
    cases manager : conn.om with
    | none => simp [managerInstalled, manager] at present
    | some manager => rfl
  have now := after.connected some
  rw [om] at some
  have earlier := before.connected some
  simp only [source, shown, now, earlier, generation]

theorem Shows.sameMarkers {source : Source} {later : Ledger} {payload : Dict}
    (same : SameMarkers source.objects source.managedLinks later) (shows : Shows source payload) :
    Shows { source with managedLinks := later } payload := by
  obtain ⟨sequence, capturedAt, heap, copied⟩ := shows
  refine ⟨sequence, capturedAt, heap, ?_⟩
  rw [← copied]
  simp only [captureRuntimePayload, appendObjects_sameMarkers same]
  rfl

theorem Projected.connection (projected : Projected versions runtime reported)
    {action : Connection.Action} {conn : WPConnection} {observed : List Observation}
    (taken : Connection.step runtime.conn action = some (conn, observed)) :
    Projected versions ⟨conn, carried runtime conn action⟩ reported := by
  have after := projected.lifecycle.step taken
  refine projected.quiet after (step_position taken) fun installed still => ?_
  have om := manager_kept taken still installed
  have attached : disconnects runtime.conn action = false := by
    cases disconnected : disconnects runtime.conn action with
    | false => rfl
    | true =>
        have gone := om_of_disconnects disconnected taken
        simp [managerInstalled, gone] at installed
  have shown : carried runtime conn action = runtime.world := by
    simp [carried, managerOf, om, attached]
  refine ⟨by rwa [managerInstalled, ← om], fun payload shows => ?_⟩
  rwa [source_eq versions projected.lifecycle after om (position_inj still).1 installed shown]

/-- A signal with a handler that publishes leaves no capture at the last number. -/
theorem Projected.signalled (projected : Projected versions runtime reported)
    {signal : ObjectSignal} {built : Bool} {conn : WPConnection} {world : World}
    {observed : List Observation}
    (running : managerInstalled runtime.conn = true → runtime.conn.stopRequested = false)
    (taken : Connection.step runtime.conn (.objectSignal signal built) = some (conn, observed)) :
    Projected versions ⟨conn, world⟩ reported := by
  refine projected.quiet (projected.lifecycle.step taken) (step_position taken) ?_
  intro installed still
  have before : managerInstalled runtime.conn = true := by
    rwa [managerInstalled, ← signal_manager taken]
  have started := projected.lifecycle.started before
  have above := signal_position started (running before) taken
  exact absurd still (ne_of_gt above)

theorem Projected.settled (projected : Projected versions runtime reported)
    {executed : MutationDispatchResult} {created : Option (LinkCall × Endpoints × Nat)}
    {conn : WPConnection} {observed : List Observation}
    (markers : ∀ call endpoints proxy, created = some (call, endpoints, proxy) →
      SameMarkers runtime.world.objects runtime.world.managedLinks
        (managedLinkStore runtime.world.managedLinks call endpoints proxy))
    (taken : Connection.step runtime.conn (.settleMutation executed) = some (conn, observed)) :
    Projected versions ⟨conn, { runtime.world with
      managedLinks := storedLinks runtime.world.managedLinks observed created }⟩ reported := by
  have after := projected.lifecycle.step taken
  refine projected.quiet after (step_position taken) fun installed still => ?_
  have om := manager_kept taken still installed
  refine ⟨by rwa [managerInstalled, ← om], fun payload shows => ?_⟩
  have same : SameMarkers runtime.world.objects runtime.world.managedLinks
      (storedLinks runtime.world.managedLinks observed created) := by
    unfold storedLinks
    split
    · rename_i call endpoints proxy
      split
      · exact markers call endpoints proxy rfl
      · exact fun _ _ _ => rfl
    · exact fun _ _ _ => rfl
  have connected := source_eq versions projected.lifecycle after om
    (position_inj still).1 installed rfl
  rw [← connected] at shows
  exact shows.sameMarkers same

theorem Projected.captured (projected : Projected versions runtime reported)
    (installed : managerInstalled runtime.conn = true) {index : Nat}
    {capturedAt : Option PyString} {heap : Heap} {conn : WPConnection}
    {observed : List Observation}
    (taken : Connection.step runtime.conn (.capture index
      (ProjectionCompleteness.captured versions runtime capturedAt heap).isSome) =
        some (conn, observed)) :
    Projected versions ⟨conn, runtime.world⟩ (reported ++
      reportOf runtime (ProjectionCompleteness.captured versions runtime capturedAt heap)) := by
  have after := projected.lifecycle.step taken
  obtain ⟨om, generation, sequence⟩ := capture_taken taken
  have present : managerInstalled conn = true := by rwa [managerInstalled, om]
  have unchanged := source_eq versions projected.lifecycle after om generation
    present rfl
  cases copied : ProjectionCompleteness.captured versions runtime capturedAt heap with
  | none =>
      simp only [reportOf, List.append_nil]
      refine projected.quiet after (step_position taken) fun _ _ => ⟨installed, ?_⟩
      intro payload shows
      rwa [unchanged]
  | some payload =>
      rw [copied] at sequence
      simp only [Option.isSome_some, if_true] at sequence
      have shows : Shows (source versions runtime) payload := ⟨_, _, _, copied⟩
      have above : position runtime.conn < position conn := by
        rw [position_eq, position_eq, generation, sequence]
        exact SequencedStream.position_lt_number (EventStream.stream runtime.conn)
      -- the new capture has the number it consumed, above all that were given out
      have isNew : ∀ {number other}, .captured runtime.conn.generation number other ∈
          reported ++ reportOf runtime (some payload) → runtime.conn.sequence < number →
            number = runtime.conn.sequence + 1 ∧ other = payload := by
        intro number other member greater
        rcases List.mem_append.mp member with old | new
        · have atMost := projected.bounded _ _ _ old
          rw [position_eq, Prod.Lex.toLex_le_toLex] at atMost
          omega
        · cases List.mem_singleton.mp new
          exact ⟨rfl, rfl⟩
      refine ⟨after, ?_, ?_, ?_⟩
      · intro atGeneration number other member
        rcases List.mem_append.mp member with old | new
        · exact (projected.bounded _ _ _ old).trans above.le
        · cases List.mem_singleton.mp new
          rw [position_eq, generation, sequence]
      · intro _ other member
        rw [generation, sequence] at member
        obtain ⟨-, rfl⟩ := isNew member (Nat.lt_succ_self _)
        rwa [unchanged]
      · intro atGeneration number first second earlier later
        rcases List.mem_append.mp later with old | new
        · rcases List.mem_append.mp earlier with older | newer
          · exact projected.complete atGeneration number first second older old
          · cases List.mem_singleton.mp newer
            have atMost := projected.bounded _ _ _ old
            rw [position_eq, Prod.Lex.toLex_le_toLex] at atMost
            omega
        · have last := List.mem_singleton.mp new
          injection last with sameGeneration sameNumber samePayload
          subst sameGeneration
          obtain rfl : number = runtime.conn.sequence := Nat.succ.inj sameNumber
          rw [samePayload]
          rcases List.mem_append.mp earlier with old | own
          · exact (projected.current installed first old).same shows
          · injection List.mem_singleton.mp own with _ impossible
            omega

theorem Projected.step (projected : Projected versions runtime reported) {action : Action}
    {observed : List Report} (announced : Announced runtime action)
    (taken : step versions runtime action = some (next, observed)) :
    Projected versions next (reported ++ observed) := by
  cases action with
  | connection action =>
      simp only [ProjectionCompleteness.step] at taken
      split at taken
      · cases taken
      · obtain ⟨⟨conn, native⟩, stepped, reached⟩ := Option.map_eq_some_iff.mp taken
        cases reached
        rw [List.append_nil]
        exact projected.connection stepped
  | remoteInfo version =>
      simp only [ProjectionCompleteness.step] at taken
      split at taken
      · cases taken
        rw [List.append_nil]
        refine projected.quiet projected.lifecycle le_rfl fun installed _ => ?_
        have absent : managerInstalled runtime.conn = false := announced
        rw [absent] at installed
        cases installed
      · cases taken
  | added object built =>
      obtain ⟨⟨conn, native⟩, stepped, reached⟩ := Option.map_eq_some_iff.mp taken
      cases reached
      rw [List.append_nil]
      exact projected.signalled announced stepped
  | removed index built =>
      simp only [ProjectionCompleteness.step] at taken
      split at taken
      · cases taken
      · obtain ⟨⟨conn, native⟩, stepped, reached⟩ := Option.map_eq_some_iff.mp taken
        cases reached
        rw [List.append_nil]
        exact projected.signalled announced stepped
  | changed index change built =>
      simp only [ProjectionCompleteness.step] at taken
      split at taken
      · cases taken
      · obtain ⟨conn, told, reached⟩ := Option.map_eq_some_iff.mp taken
        cases reached
        rw [List.append_nil]
        cases handled : change.signal with
        | some signal =>
            simp only [notified, handled] at told
            obtain ⟨⟨_, native⟩, stepped, rfl⟩ := Option.map_eq_some_iff.mp told
            exact projected.signalled (fun installed => (announced installed).2) stepped
        | none =>
            simp only [notified, handled] at told
            split at told
            · cases told
              refine projected.quiet projected.lifecycle le_rfl fun installed _ => ?_
              have isHandled := (announced installed).1
              rw [handled] at isHandled
              cases isHandled
            · cases told
  | capture index capturedAt heap =>
      obtain ⟨⟨conn, native⟩, stepped, reached⟩ := Option.map_eq_some_iff.mp taken
      cases reached
      exact projected.captured announced stepped
  | settleMutation executed created =>
      obtain ⟨⟨conn, native⟩, stepped, reached⟩ := Option.map_eq_some_iff.mp taken
      cases reached
      rw [List.append_nil]
      exact projected.settled announced stepped
  | rehashed order =>
      obtain ⟨ledger, reordered, reached⟩ := Option.map_eq_some_iff.mp taken
      cases reached
      rw [List.append_nil]
      refine projected.quiet projected.lifecycle le_rfl fun installed _ => ⟨installed, ?_⟩
      intro payload shows
      exact shows.sameMarkers (announced ledger reordered)

end Invariant

/-- Where every change under an installed manager is announced, captures with
consecutive sequences of one generation differ in sequence and time only. -/
theorem complete_of_run (versions : Versions) {history : History} {runtime : Runtime}
    (run : Run (machine versions) history runtime)
    (announced : ∀ transition ∈ history, Announced transition.before transition.action) :
    Complete (log history) := by
  have projected : Projected versions runtime (log history) := by
    refine run.invariant_of_allowed (Projected versions) Announced ?_ ?_ announced
    · rintro _ ⟨capacity, _, rfl⟩
      refine ⟨lifecycle_new capacity, ?_, ?_, ?_⟩
      · intro _ _ _ member
        cases member
      · intro _ _ member
        cases member
      · intro _ _ _ _ member
        cases member
    · intro runtime reported action next observed projected allowed taken
      exact projected.step allowed taken
  exact projected.complete

/-! ## Runs -/

section Runs

def plainVersions : Versions := ⟨some (text "0.5"), some (text "0.5"), some (text "1.4")⟩

def quietNode (state : Int) : WpObject :=
  .node ⟨30, true, true, some [], none, .absent, fun _ => none⟩
    ⟨state, none, ⟨0, 0, 0, 0⟩, none⟩

def connected : List Action :=
  [.connection .mixerApiLoaded, .connection .coreConnected, .added (quietNode 1) true,
    .connection .omInstalled]

def captureNow : List Action :=
  [.connection (.captureAdmit 0), .connection (.capturePost 0),
    .capture 0 (some (text "2026-01-01T00:00:00Z")) [], .connection .captureReset]

/-- Two captures with a change of the node between them. -/
def capturesAround (change : ObjectChange) : List Action :=
  connected ++ captureNow ++ ([.changed 0 change true] : List Action) ++ captureNow

def nodeStates (payload : Dict) : List PyValue :=
  match payload.lookup (text "nodes") with
  | some (.list nodes) => nodes.filterMap fun node =>
      match node with
      | .dict record => record.lookup (text "state")
      | _ => none
  | _ => []

def shownStates : Report → (Nat × Nat) × List PyValue
  | .captured generation sequence payload =>
      ((generation, sequence), nodeStates (unstamped payload))

theorem Complete.shownStates {reported : List Report} (complete : Complete reported)
    (generation sequence : Nat) {earlier later : List PyValue}
    (first : ((generation, sequence), earlier) ∈
      reported.map ProjectionCompleteness.shownStates)
    (second : ((generation, sequence + 1), later) ∈
      reported.map ProjectionCompleteness.shownStates) : earlier = later := by
  obtain ⟨⟨_, _, payload⟩, captured, isFirst⟩ := List.mem_map.mp first
  obtain ⟨⟨_, _, next⟩, again, isSecond⟩ := List.mem_map.mp second
  cases isFirst
  cases isSecond
  exact congrArg nodeStates (complete _ _ _ _ captured again)

def exampleRun (actions : List Action) : Option (History × Runtime) :=
  exec (machine plainVersions) [] ⟨Connection.new 4, initialWorld⟩ actions

theorem exampleRun_run (actions : List Action) {history : History} {runtime : Runtime}
    (ran : exampleRun actions = some (history, runtime)) :
    Run (machine plainVersions) history runtime :=
  exec_run actions (.start ⟨4, by decide, rfl⟩) ran

/-- A node that goes from suspended to running between two captures: no handler is
told, and the second capture has the next number. -/
theorem nodeState_incomplete : ∃ history runtime, Run (machine plainVersions) history runtime ∧
    (log history).map shownStates = [((1, 2), [.int 1]), ((1, 3), [.int 3])] ∧
      ¬ Complete (log history) := by
  have run := exampleRun_run (capturesAround (.nodeState 3 none)) rfl
  refine ⟨_, _, run, rfl, fun complete => ?_⟩
  have same : [PyValue.int 1] = [PyValue.int 3] :=
    complete.shownStates 1 2 List.mem_cons_self (List.mem_cons_of_mem _ List.mem_cons_self)
  cases same

/-- `Announced` of the labels without a ledger. -/
def isAnnounced (runtime : Runtime) : Action → Bool
  | .connection _ => true
  | .remoteInfo _ => !managerInstalled runtime.conn
  | .added .. | .removed .. => !managerInstalled runtime.conn || !runtime.conn.stopRequested
  | .changed _ change _ =>
      !managerInstalled runtime.conn || (change.signal.isSome && !runtime.conn.stopRequested)
  | .capture .. => managerInstalled runtime.conn
  | .settleMutation .. | .rehashed _ => false

theorem announced_of_isAnnounced {runtime : Runtime} {action : Action}
    (test : isAnnounced runtime action = true) : Announced runtime action := by
  cases action with
  | connection => trivial
  | remoteInfo => simpa [isAnnounced, Announced] using test
  | added | removed =>
      intro installed
      simpa [isAnnounced, installed] using test
  | changed =>
      intro installed
      simpa [isAnnounced, installed] using test
  | capture => exact test
  | settleMutation | rehashed => cases test

/-- A change of properties takes a number, so its captures are not consecutive; the
last two are. -/
theorem complete_propertiesChanged : ∃ history runtime,
    Run (machine plainVersions) history runtime ∧
      ((log history).map shownStates).map Prod.fst = [(1, 2), (1, 4), (1, 5)] ∧
        Complete (log history) := by
  have run := exampleRun_run (capturesAround (.properties none) ++ captureNow) rfl
  refine ⟨_, _, run, rfl, complete_of_run plainVersions run ?_⟩
  intro transition member
  exact announced_of_isAnnounced (List.all_eq_true.mp (show List.all _
    (fun transition => isAnnounced transition.before transition.action) = true from rfl)
      transition member)

end Runs

end WyrePlumber.Native.ProjectionCompleteness
