import WyrePlumber.Library.Machine

/-!
# The native connection

One `WPConnection` of `native/wp_connection` as a labelled machine.  A label is
one critical section of an application thread or one stage of a callback on the
WirePlumber thread, so the runs are the interleavings of both.  The labels carry
what WirePlumber decides: when the core connects and disconnects, when an object
manager announces objects or `installed`, and what `execute_mutation` returned.

Counters are natural numbers; the 64-bit generation and sequence of the source
do not wrap within any run that is modelled.  A connection whose startup failed
never reaches a caller and has no state here.
-/

set_option autoImplicit false

namespace WyrePlumber.Native.Connection

open LabelledMachine

/-- The manager behind `conn->om`.  `ordinal` numbers the managers created by
`install_object_manager`, hence the connections; `generation` is the value its
`installed` callback left in `conn->generation`, absent before that callback. -/
structure ObjectManager where
  ordinal : Nat
  generation : Option Nat
  deriving DecidableEq, Repr

inductive MutationDispatchResult where
  | ready
  | staleGeneration
  | staleSequence
  | generationLost
  | runtimeStopped
  | unsupportedOperation
  | targetNotFound
  | notWritable
  | ownershipConflict
  | nativeRejected
  deriving DecidableEq, Repr

/-- The part of a `MutationDispatchCall` that the dispatcher itself reads.  The
`id` stands for the address of the call on its caller's stack. -/
structure MutationDispatchCall where
  id : Nat
  expectedGeneration : Nat
  expectedSequence : Option Nat
  enqueuedGeneration : Nat
  dispatchOrder : Nat
  deriving DecidableEq, Repr

inductive EventKind where
  | objectAdded
  | objectRemoved
  | objectChanged
  | parameterChanged
  | metadataChanged
  | defaultChanged
  | connectionChanged
  | discontinuity
  | resnapshotRequired
  deriving DecidableEq, Repr

/-- A detached event payload.  `subject` is the ordinal of the manager whose
object the event describes; connection events describe no object. -/
structure EventPayload where
  generation : Nat
  sequence : Nat
  kind : EventKind
  subject : Option Nat
  requiresResnapshot : Bool
  deriving DecidableEq, Repr

/-- Where the WirePlumber thread stands.  Other callbacks run only in `idle`;
the remaining stages separate the critical sections of
`dispatch_next_mutation_on_wp_thread` and of `capture_runtime_payload`. -/
inductive WpThread where
  | idle
  | popped (call : MutationDispatchCall)
  | sampled (call : MutationDispatchCall) (stopped : Bool) (generation sequence : Nat)
  | settled (call : MutationDispatchCall) (result : MutationDispatchResult)
      (generation sequence : Nat)
  | completed
  | captured
  deriving DecidableEq, Repr

structure WPConnection where
  om : Option ObjectManager
  managers : Nat
  mixerApi : Bool
  coreConnected : Bool
  contextAlive : Bool
  quit : Bool
  wpThread : WpThread
  started : Bool
  stopRequested : Bool
  generation : Nat
  sequence : Nat
  runtimeEvents : List EventPayload
  runtimeEventCapacity : Nat
  runtimeEventInvalid : Bool
  runtimeEventClosed : Bool
  mutationQueue : List MutationDispatchCall
  mutationSourceScheduled : Bool
  mutationSources : Nat
  mutationDispatchOrder : Nat
  calls : Nat
  completedCalls : List Nat
  captureCallers : List Nat
  captureSources : List Nat
  reconnectCallers : Nat
  reconnectSources : Nat
  stopCallers : Nat
  stopCancelled : Nat
  stopSources : Nat
  deriving DecidableEq, Repr

/-- `WPConnection_new` and the start of the thread: the context exists, nothing
is connected yet. -/
def new (eventCapacity : Nat) : WPConnection where
  om := none
  managers := 0
  mixerApi := false
  coreConnected := false
  contextAlive := true
  quit := false
  wpThread := .idle
  started := false
  stopRequested := false
  generation := 0
  sequence := 0
  runtimeEvents := []
  runtimeEventCapacity := eventCapacity
  runtimeEventInvalid := false
  runtimeEventClosed := false
  mutationQueue := []
  mutationSourceScheduled := false
  mutationSources := 0
  mutationDispatchOrder := 0
  calls := 0
  completedCalls := []
  captureCallers := []
  captureSources := []
  reconnectCallers := 0
  reconnectSources := 0
  stopCallers := 0
  stopCancelled := 0
  stopSources := 0

/-- What a step did, as far as the contract speaks about it. -/
inductive Observation where
  | installed (ordinal generation : Nat)
  | published (event : EventPayload)
  | dropped (event : EventPayload)
  | captureRan (om : Option ObjectManager)
  | captured (reader generation sequence : Nat) (subject : Option Nat)
  | delivered (reader : Nat) (event : EventPayload)
  | enqueued (call : MutationDispatchCall)
  | refused (id : Nat) (result : MutationDispatchResult)
  | executed (call : MutationDispatchCall) (om : ObjectManager)
  | completed (id : Nat) (result : MutationDispatchResult) (generation sequence : Nat)
  | cancelledPending (result : MutationDispatchResult)
  deriving DecidableEq, Repr

/-! ## Events -/

def newEvent (conn : WPConnection) (kind : EventKind) (subject : Option Nat)
    (requiresResnapshot : Bool) : WPConnection × EventPayload :=
  ({ conn with sequence := conn.sequence + 1 },
    { generation := conn.generation, sequence := conn.sequence + 1, kind := kind,
      subject := subject, requiresResnapshot := requiresResnapshot })

def makeDiscontinuity (payload : EventPayload) : EventPayload :=
  { payload with kind := .discontinuity, subject := none, requiresResnapshot := true }

/-- What leaves the queue unread, and what never enters it while readers still
wait for events, is reported as dropped.  A closed queue takes no event: its
readers get what it holds and then an error. -/
def enqueue (conn : WPConnection) (payload : EventPayload) :
    WPConnection × List Observation :=
  if conn.runtimeEventClosed || conn.runtimeEventInvalid then
    (conn, if conn.runtimeEventClosed then [] else [.dropped payload])
  else if conn.runtimeEventCapacity ≤ conn.runtimeEvents.length then
    ({ conn with
      runtimeEvents := [makeDiscontinuity payload], runtimeEventInvalid := true },
      (conn.runtimeEvents ++ [payload]).map .dropped)
  else ({ conn with runtimeEvents := conn.runtimeEvents ++ [payload] }, [])

/-- `enqueue(conn, new_event(...))`.  When building the payload fails,
`new_event` has already consumed the sequence number and nothing is enqueued. -/
def publish (conn : WPConnection) (kind : EventKind) (subject : Option Nat)
    (requiresResnapshot built : Bool) : WPConnection × List Observation :=
  let event := newEvent conn kind subject requiresResnapshot
  if built then
    let enqueued := enqueue event.1 event.2
    (enqueued.1, .published event.2 :: enqueued.2)
  else (event.1, [])

def publishConnection (conn : WPConnection) : WPConnection × List Observation :=
  publish conn .connectionChanged none false true

def runtimeEventsReset (conn : WPConnection) : WPConnection × List Observation :=
  ({ conn with runtimeEvents := [], runtimeEventInvalid := false },
    conn.runtimeEvents.map .dropped)

def runtimeEventsClose (conn : WPConnection) : WPConnection :=
  { conn with runtimeEventClosed := true }

/-- The signals of objects of the current manager that carry one event. -/
inductive ObjectSignal where
  | objectAdded
  | objectRemoved
  | propertiesChanged
  | paramsChanged (detached : Bool)
  | metadataChanged
  deriving DecidableEq, Repr

/-- Event kind, whether it describes the object, and its resnapshot flag; a
parameter that could not be detached is replaced by a resnapshot request. -/
def ObjectSignal.event : ObjectSignal → EventKind × Bool × Bool
  | .objectAdded => (.objectAdded, true, false)
  | .objectRemoved => (.objectRemoved, true, false)
  | .propertiesChanged => (.objectChanged, true, false)
  | .paramsChanged true => (.parameterChanged, true, false)
  | .paramsChanged false => (.resnapshotRequired, false, true)
  | .metadataChanged => (.metadataChanged, true, false)

def publishObjectEvent (conn : WPConnection) (om : ObjectManager) (signal : ObjectSignal)
    (built : Bool) : WPConnection × List Observation :=
  if conn.started && !conn.stopRequested then
    publish conn signal.event.1 (if signal.event.2.1 then some om.ordinal else none)
      signal.event.2.2 built
  else (conn, [])

/-- `on_metadata_changed` for a `default.` key publishes a second event. -/
def publishDefaultEvent (conn : WPConnection) (om : ObjectManager) (built : Bool) :
    WPConnection × List Observation :=
  if conn.started && !conn.stopRequested then
    publish conn .defaultChanged (some om.ordinal) false built
  else (conn, [])

/-! ## The mutation dispatcher -/

def completeCall (conn : WPConnection) (call : MutationDispatchCall)
    (result : MutationDispatchResult) (generation sequence : Nat) :
    WPConnection × List Observation :=
  if call.id ∈ conn.completedCalls then (conn, [])
  else ({ conn with completedCalls := call.id :: conn.completedCalls },
    [.completed call.id result generation sequence])

def completeCalls (result : MutationDispatchResult) (generation : Nat) :
    List MutationDispatchCall → WPConnection → WPConnection × List Observation
  | [], conn => (conn, [])
  | call :: rest, conn =>
      let first := completeCall conn call result generation 0
      let later := completeCalls result generation rest first.1
      (later.1, first.2 ++ later.2)

/-- `wp_connection_mutations_cancel_pending`: one critical section. -/
def cancelPending (conn : WPConnection) (result : MutationDispatchResult) :
    WPConnection × List Observation :=
  let emptied := completeCalls result conn.generation conn.mutationQueue
    { conn with mutationQueue := [] }
  (emptied.1, .cancelledPending result :: emptied.2)

def scheduleDispatchLocked (conn : WPConnection) : WPConnection :=
  if conn.mutationSourceScheduled || !conn.contextAlive || conn.mutationQueue.isEmpty then conn
  else { conn with
    mutationSourceScheduled := true, mutationSources := conn.mutationSources + 1 }

/-- The critical section of `WPConnection_dispatch_runtime_mutation_payload`. -/
def dispatchRuntimeMutation (conn : WPConnection) (expectedGeneration : Nat)
    (expectedSequence : Option Nat) : WPConnection × List Observation :=
  let fresh := { conn with calls := conn.calls + 1 }
  if conn.stopRequested || !conn.contextAlive then
    (fresh, [.refused conn.calls .runtimeStopped])
  else if expectedGeneration ≠ conn.generation then
    (fresh, [.refused conn.calls .staleGeneration])
  else
    let call : MutationDispatchCall :=
      { id := conn.calls, expectedGeneration := expectedGeneration,
        expectedSequence := expectedSequence, enqueuedGeneration := conn.generation,
        dispatchOrder := conn.mutationDispatchOrder + 1 }
    (scheduleDispatchLocked { fresh with
        mutationDispatchOrder := conn.mutationDispatchOrder + 1,
        mutationQueue := conn.mutationQueue ++ [call] },
      [.enqueued call])

/-- The checks `dispatch_next_mutation_on_wp_thread` makes before it executes;
`none` means that the call is executed. -/
def refusal (om : Option ObjectManager) (call : MutationDispatchCall) (stopped : Bool)
    (generation sequence : Nat) : Option MutationDispatchResult :=
  if stopped || om.isNone then some .runtimeStopped
  else if generation ≠ call.enqueuedGeneration then some .generationLost
  else if generation ≠ call.expectedGeneration then some .staleGeneration
  else if call.expectedSequence.any (· ≠ sequence) then some .staleSequence
  else none

def popMutation (conn : WPConnection) : WPConnection :=
  match conn.mutationQueue with
  | [] => { conn with
      mutationSources := conn.mutationSources - 1, mutationSourceScheduled := false }
  | call :: rest => { conn with
      mutationSources := conn.mutationSources - 1, mutationQueue := rest,
      wpThread := .popped call }

def settleMutation (conn : WPConnection) (call : MutationDispatchCall) (stopped : Bool)
    (generation sequence : Nat) (executed : MutationDispatchResult) :
    WPConnection × List Observation :=
  match refusal conn.om call stopped generation sequence, conn.om with
  | none, some om =>
      ({ conn with wpThread := .settled call executed generation sequence },
        [.executed call om])
  | none, none =>
      ({ conn with wpThread := .settled call .runtimeStopped generation sequence }, [])
  | some refused, _ =>
      ({ conn with wpThread := .settled call refused generation sequence }, [])

/-! ## Lifecycle callbacks -/

def installObjectManager (conn : WPConnection) : WPConnection :=
  if conn.coreConnected && conn.mixerApi && conn.om.isNone then
    { conn with
      om := some { ordinal := conn.managers, generation := none },
      managers := conn.managers + 1 }
  else conn

def onCoreConnected (conn : WPConnection) : WPConnection :=
  installObjectManager { conn with coreConnected := true }

def onMixerApiLoaded (conn : WPConnection) : WPConnection :=
  installObjectManager { conn with mixerApi := true }

def onCoreDisconnected (conn : WPConnection) : WPConnection × List Observation :=
  let lost : WPConnection × List Observation :=
    if conn.started && !conn.stopRequested then
      let cancelled := cancelPending { conn with coreConnected := false } .generationLost
      let published := publishConnection cancelled.1
      (published.1, cancelled.2 ++ published.2)
    else ({ conn with coreConnected := false }, [])
  ({ lost.1 with om := none }, lost.2)

def onOmInstalled (conn : WPConnection) (om : ObjectManager) : WPConnection × List Observation :=
  let installed := { conn with
    om := some { om with generation := some (conn.generation + 1) },
    generation := conn.generation + 1, sequence := 0, mutationDispatchOrder := 0,
    started := true }
  let published := publishConnection installed
  (published.1, .installed om.ordinal (conn.generation + 1) :: published.2)

/-- The first half of `capture_runtime_payload`: the payload is complete and its
sequence is stored.  `captured` is the second half, the reset of the queue. -/
def captureRuntimePayload (conn : WPConnection) (reader : Nat) (copied : Bool) :
    WPConnection × List Observation :=
  if copied then
    ({ conn with sequence := conn.sequence + 1, wpThread := .captured },
      [.captureRan conn.om,
        .captured reader conn.generation (conn.sequence + 1)
          (conn.om.map ObjectManager.ordinal)])
  else (conn, [.captureRan conn.om])

def reconnectOnWpThread (conn : WPConnection) : WPConnection × List Observation :=
  if conn.coreConnected then onCoreDisconnected conn else (conn, [])

def stopOnWpThread (conn : WPConnection) : WPConnection × List Observation :=
  let disconnected :=
    if conn.coreConnected then onCoreDisconnected conn else (conn, [])
  let published := publishConnection disconnected.1
  ({ runtimeEventsClose published.1 with quit := true },
    disconnected.2 ++ published.2)

/-! ## The machine -/

inductive Action where
  -- application threads
  | dispatchRuntimeMutation (expectedGeneration : Nat) (expectedSequence : Option Nat)
  | reconnectCancel
  | reconnectPost
  | captureAdmit (reader : Nat)
  | capturePost (reader : Nat)
  | stopRequest
  | stopCancel
  | stopPost
  | nextEvent (reader : Nat)
  | drainEvents (reader maxEvents : Nat)
  -- callbacks on the WirePlumber thread
  | mixerApiLoaded
  | coreConnected
  | coreDisconnected
  | omInstalled
  | objectSignal (signal : ObjectSignal) (built : Bool)
  | defaultSignal (built : Bool)
  | capture (index : Nat) (copied : Bool)
  | captureReset
  | reconnect
  | stop
  -- stages of dispatch_next_mutation_on_wp_thread
  | popMutation
  | sampleMutation
  | settleMutation (executed : MutationDispatchResult)
  | completeMutation
  | rescheduleMutation
  | loopExit
  deriving DecidableEq, Repr

/-- The WirePlumber thread may start another callback.  `g_main_loop_quit` lets
the current iteration finish, so callbacks end with `loopExit` only. -/
def callbackReady (conn : WPConnection) : Bool :=
  conn.wpThread == .idle && conn.contextAlive

def stepApplication (conn : WPConnection) : Action → Option (WPConnection × List Observation)
  | .dispatchRuntimeMutation expectedGeneration expectedSequence =>
      some (dispatchRuntimeMutation conn expectedGeneration expectedSequence)
  | .reconnectCancel =>
      let cancelled := cancelPending conn .generationLost
      some ({ cancelled.1 with reconnectCallers := conn.reconnectCallers + 1 }, cancelled.2)
  | .reconnectPost =>
      if conn.reconnectCallers = 0 then none
      else some ({ conn with
        reconnectCallers := conn.reconnectCallers - 1,
        reconnectSources := conn.reconnectSources + 1 }, [])
  | .captureAdmit reader =>
      if conn.contextAlive && conn.om.isSome then
        some ({ conn with captureCallers := reader :: conn.captureCallers }, [])
      else some (conn, [])
  | .capturePost reader =>
      if reader ∈ conn.captureCallers then
        some ({ conn with
          captureCallers := conn.captureCallers.erase reader,
          captureSources := conn.captureSources ++ [reader] }, [])
      else none
  | .stopRequest =>
      some ({ conn with stopRequested := true, stopCallers := conn.stopCallers + 1 }, [])
  | .stopCancel =>
      if conn.stopCallers = 0 then none
      else
        let cancelled := cancelPending conn .runtimeStopped
        some ({ cancelled.1 with
            stopCallers := conn.stopCallers - 1, stopCancelled := conn.stopCancelled + 1 },
          cancelled.2)
  | .stopPost =>
      if conn.stopCancelled = 0 then none
      else if conn.contextAlive then
        some ({ conn with
          stopCancelled := conn.stopCancelled - 1, stopSources := conn.stopSources + 1 }, [])
      else some (runtimeEventsClose { conn with stopCancelled := conn.stopCancelled - 1 }, [])
  | .nextEvent reader =>
      match conn.runtimeEvents with
      | [] => some (conn, [])
      | event :: rest => some ({ conn with runtimeEvents := rest }, [.delivered reader event])
  | .drainEvents reader maxEvents =>
      let count := if maxEvents = 0 then conn.runtimeEvents.length else maxEvents
      some ({ conn with runtimeEvents := conn.runtimeEvents.drop count },
        (conn.runtimeEvents.take count).map (.delivered reader))
  | _ => none

def stepCallback (conn : WPConnection) : Action → Option (WPConnection × List Observation)
  | .mixerApiLoaded => some (onMixerApiLoaded conn, [])
  | .coreConnected => some (onCoreConnected conn, [])
  | .coreDisconnected => some (onCoreDisconnected conn)
  | .omInstalled =>
      match conn.om with
      | some om => if om.generation.isNone then some (onOmInstalled conn om) else none
      | none => none
  | .objectSignal signal built =>
      conn.om.map fun om => publishObjectEvent conn om signal built
  | .defaultSignal built =>
      conn.om.map fun om => publishDefaultEvent conn om built
  | .capture index copied =>
      match conn.captureSources[index]? with
      | none => none
      | some reader =>
          some (captureRuntimePayload
            { conn with captureSources := conn.captureSources.eraseIdx index } reader copied)
  | .reconnect =>
      if conn.reconnectSources = 0 then none
      else some (reconnectOnWpThread
        { conn with reconnectSources := conn.reconnectSources - 1 })
  | .stop =>
      if conn.stopSources = 0 then none
      else some (stopOnWpThread { conn with stopSources := conn.stopSources - 1 })
  | .popMutation =>
      if conn.mutationSources = 0 then none else some (popMutation conn, [])
  | .loopExit =>
      if conn.quit then some ({ conn with om := none, contextAlive := false }, []) else none
  | _ => none

def stepStage (conn : WPConnection) : Action → Option (WPConnection × List Observation)
  | .sampleMutation =>
      match conn.wpThread with
      | .popped call =>
          some ({ conn with
            wpThread := .sampled call conn.stopRequested conn.generation conn.sequence }, [])
      | _ => none
  | .settleMutation executed =>
      match conn.wpThread with
      | .sampled call stopped generation sequence =>
          some (settleMutation conn call stopped generation sequence executed)
      | _ => none
  | .completeMutation =>
      match conn.wpThread with
      | .settled call result generation sequence =>
          some (completeCall { conn with wpThread := .completed } call result
            generation sequence)
      | _ => none
  | .rescheduleMutation =>
      if conn.wpThread = .completed then
        some (scheduleDispatchLocked
          { conn with mutationSourceScheduled := false, wpThread := .idle }, [])
      else none
  | .captureReset =>
      if conn.wpThread = .captured then
        some (runtimeEventsReset { conn with wpThread := .idle })
      else none
  | _ => none

/-- Callers hold the object only after `WPConnection_init` saw `started`. -/
def step (conn : WPConnection) (action : Action) : Option (WPConnection × List Observation) :=
  match action with
  | .sampleMutation | .settleMutation _ | .completeMutation | .rescheduleMutation
  | .captureReset => stepStage conn action
  | .mixerApiLoaded | .coreConnected | .coreDisconnected | .omInstalled
  | .objectSignal _ _ | .defaultSignal _ | .capture _ _ | .reconnect | .stop
  | .popMutation | .loopExit =>
      if callbackReady conn then stepCallback conn action else none
  | _ => if conn.started then stepApplication conn action else none

/-- `WPConnection_init` rejects an event capacity of zero. -/
def machine : Machine WPConnection Action Observation where
  initial conn := ∃ capacity, 0 < capacity ∧ conn = new capacity
  step := step

abbrev History := List (Transition WPConnection Action Observation)

/-! ## What each function leaves alone -/

theorem enqueue_frame (conn : WPConnection) (payload : EventPayload) :
    ∃ events invalid, (enqueue conn payload).1 =
      { conn with runtimeEvents := events, runtimeEventInvalid := invalid } := by
  unfold enqueue
  split
  · exact ⟨_, _, rfl⟩
  · split
    · exact ⟨_, _, rfl⟩
    · exact ⟨_, _, rfl⟩

theorem publish_frame (conn : WPConnection) (kind : EventKind) (subject : Option Nat)
    (requiresResnapshot built : Bool) :
    ∃ events invalid, (publish conn kind subject requiresResnapshot built).1 =
      { conn with
        sequence := conn.sequence + 1, runtimeEvents := events,
        runtimeEventInvalid := invalid } := by
  cases built with
  | false => exact ⟨_, _, rfl⟩
  | true =>
      obtain ⟨events, invalid, enqueued⟩ := enqueue_frame
        { conn with sequence := conn.sequence + 1 }
        (newEvent conn kind subject requiresResnapshot).2
      exact ⟨events, invalid, enqueued⟩

theorem completeCall_frame (conn : WPConnection) (call : MutationDispatchCall)
    (result : MutationDispatchResult) (generation sequence : Nat) :
    ∃ ids, (completeCall conn call result generation sequence).1 =
      { conn with completedCalls := ids } := by
  unfold completeCall
  split
  · exact ⟨_, rfl⟩
  · exact ⟨_, rfl⟩

theorem completeCalls_frame (result : MutationDispatchResult) (generation : Nat)
    (calls : List MutationDispatchCall) (conn : WPConnection) :
    ∃ ids, (completeCalls result generation calls conn).1 =
      { conn with completedCalls := ids } := by
  induction calls generalizing conn with
  | nil => exact ⟨_, rfl⟩
  | cons call rest inductionHypothesis =>
      obtain ⟨firstIds, first⟩ := completeCall_frame conn call result generation 0
      obtain ⟨ids, later⟩ := inductionHypothesis
        (completeCall conn call result generation 0).1
      refine ⟨ids, ?_⟩
      simp only [completeCalls]
      rw [later, first]

theorem cancelPending_frame (conn : WPConnection) (result : MutationDispatchResult) :
    ∃ ids, (cancelPending conn result).1 =
      { conn with mutationQueue := [], completedCalls := ids } := by
  obtain ⟨ids, emptied⟩ := completeCalls_frame result conn.generation conn.mutationQueue
    { conn with mutationQueue := [] }
  exact ⟨ids, emptied⟩

theorem installObjectManager_frame (conn : WPConnection) :
    ∃ om managers, installObjectManager conn =
      { conn with om := om, managers := managers } := by
  unfold installObjectManager
  split
  · exact ⟨_, _, rfl⟩
  · exact ⟨_, _, rfl⟩

theorem scheduleDispatchLocked_frame (conn : WPConnection) :
    ∃ scheduled sources, scheduleDispatchLocked conn =
      { conn with mutationSourceScheduled := scheduled, mutationSources := sources } := by
  unfold scheduleDispatchLocked
  split
  · exact ⟨_, _, rfl⟩
  · exact ⟨_, _, rfl⟩

/-- Losing the core drops the manager, cancels what is queued and may publish one
connection event; the generation stays. -/
theorem onCoreDisconnected_frame (conn : WPConnection) :
    ∃ events invalid sequence queue ids, (onCoreDisconnected conn).1 =
      { conn with
        om := none, coreConnected := false, sequence := sequence,
        runtimeEvents := events, runtimeEventInvalid := invalid,
        mutationQueue := queue, completedCalls := ids } := by
  unfold onCoreDisconnected
  split
  · obtain ⟨ids, cancelled⟩ := cancelPending_frame
      { conn with coreConnected := false } .generationLost
    obtain ⟨events, invalid, published⟩ := publish_frame
      (cancelPending { conn with coreConnected := false } .generationLost).1
      .connectionChanged none false true
    refine ⟨events, invalid, conn.sequence + 1, [], ids, ?_⟩
    simp only [publishConnection]
    rw [published, cancelled]
  · exact ⟨_, _, _, _, _, rfl⟩

/-- A step of the machine is one of the three kinds, whatever its label. -/
theorem step_cases (conn next : WPConnection) (action : Action) (observed : List Observation)
    (taken : step conn action = some (next, observed)) :
    (conn.started = true ∧ stepApplication conn action = some (next, observed)) ∨
      (callbackReady conn = true ∧ stepCallback conn action = some (next, observed)) ∨
      stepStage conn action = some (next, observed) := by
  cases action with
  | sampleMutation | settleMutation | completeMutation | rescheduleMutation
  | captureReset => exact .inr (.inr taken)
  | mixerApiLoaded | coreConnected | coreDisconnected | omInstalled | objectSignal
  | defaultSignal | capture | reconnect | stop | popMutation | loopExit =>
      simp only [step] at taken
      split at taken
      · rename_i ready
        exact .inr (.inl ⟨ready, taken⟩)
      · cases taken
  | _ =>
      simp only [step] at taken
      split at taken
      · rename_i started
        exact .inl ⟨started, taken⟩
      · cases taken

/-- The fields that only the WirePlumber thread writes. -/
structure SameWpState (conn next : WPConnection) : Prop where
  om : next.om = conn.om
  managers : next.managers = conn.managers
  coreConnected : next.coreConnected = conn.coreConnected
  contextAlive : next.contextAlive = conn.contextAlive
  quit : next.quit = conn.quit
  wpThread : next.wpThread = conn.wpThread
  started : next.started = conn.started
  generation : next.generation = conn.generation
  sequence : next.sequence = conn.sequence
  runtimeEventInvalid : next.runtimeEventInvalid = conn.runtimeEventInvalid

theorem dispatchRuntimeMutation_sameWpState (conn : WPConnection)
    (expectedGeneration : Nat) (expectedSequence : Option Nat) :
    SameWpState conn
      (dispatchRuntimeMutation conn expectedGeneration expectedSequence).1 := by
  unfold dispatchRuntimeMutation
  split
  · exact ⟨rfl, rfl, rfl, rfl, rfl, rfl, rfl, rfl, rfl, rfl⟩
  · split
    · exact ⟨rfl, rfl, rfl, rfl, rfl, rfl, rfl, rfl, rfl, rfl⟩
    · dsimp only
      obtain ⟨scheduled, sources, frame⟩ := scheduleDispatchLocked_frame
        { conn with
          calls := conn.calls + 1,
          mutationDispatchOrder := conn.mutationDispatchOrder + 1,
          mutationQueue := conn.mutationQueue ++ [{
            id := conn.calls, expectedGeneration := expectedGeneration,
            expectedSequence := expectedSequence, enqueuedGeneration := conn.generation,
            dispatchOrder := conn.mutationDispatchOrder + 1 }] }
      rw [frame]
      exact ⟨rfl, rfl, rfl, rfl, rfl, rfl, rfl, rfl, rfl, rfl⟩

theorem stepApplication_sameWpState (conn next : WPConnection) (action : Action)
    (observed : List Observation)
    (taken : stepApplication conn action = some (next, observed)) :
    SameWpState conn next := by
  cases action with
  | dispatchRuntimeMutation expectedGeneration expectedSequence =>
      have same := dispatchRuntimeMutation_sameWpState conn expectedGeneration
        expectedSequence
      rw [Option.some.inj taken] at same
      exact same
  | reconnectCancel =>
      obtain ⟨ids, frame⟩ := cancelPending_frame conn .generationLost
      simp only [stepApplication, frame] at taken
      cases taken
      exact ⟨rfl, rfl, rfl, rfl, rfl, rfl, rfl, rfl, rfl, rfl⟩
  | stopCancel =>
      obtain ⟨ids, frame⟩ := cancelPending_frame conn .runtimeStopped
      simp only [stepApplication, frame] at taken
      split at taken <;> cases taken
      exact ⟨rfl, rfl, rfl, rfl, rfl, rfl, rfl, rfl, rfl, rfl⟩
  | drainEvents | stopRequest =>
      cases taken
      exact ⟨rfl, rfl, rfl, rfl, rfl, rfl, rfl, rfl, rfl, rfl⟩
  | stopPost =>
      simp only [stepApplication] at taken
      split at taken
      · cases taken
      · split at taken <;> cases taken <;>
          exact ⟨rfl, rfl, rfl, rfl, rfl, rfl, rfl, rfl, rfl, rfl⟩
  | nextEvent | reconnectPost | captureAdmit | capturePost =>
      simp only [stepApplication] at taken
      split at taken <;> cases taken <;>
        exact ⟨rfl, rfl, rfl, rfl, rfl, rfl, rfl, rfl, rfl, rfl⟩
  | _ => cases taken

end WyrePlumber.Native.Connection
