import WyrePlumber.Native.Dispatcher
import WyrePlumber.Runtime.Execution

/-!
# A control request on a live connection

One request of `_execute_confirmed_mutation` beside everything else that happens
on its connection.  The helper's steps are its deadline checks, its captures, the
inspection of a snapshot and the native dispatch; all other labels are steps of
the connection by other callers or by the WirePlumber thread.  Of a snapshot the
helper compares generation and sequence; whether the predicates are satisfied and
what the clock says is in the labels.
-/

set_option autoImplicit false
set_option linter.constructorNameAsVariable false

namespace WyrePlumber.Coordination.Request

open LabelledMachine
open WyrePlumber.Native
open WyrePlumber.Native.Connection (WPConnection MutationDispatchResult)
open WyrePlumber.Runtime (MutationFailureCode)

structure MutationRequest where
  expectedGeneration : Nat
  expectedSequence : Option Nat
  deriving DecidableEq, Repr

inductive Purpose where
  | preflight
  | poll
  deriving DecidableEq, Repr

/-- Where the helper stands.  `captured` lasts until the WirePlumber thread has
finished the capture; `submitted` until the dispatcher completes the call. -/
inductive Stage where
  | waiting (purpose : Purpose)
  | admitting (purpose : Purpose)
  | capturing (purpose : Purpose)
  | captured (purpose : Purpose) (generation sequence : Nat)
  | inspecting (purpose : Purpose) (generation sequence : Nat)
  | dispatching (sequence : Nat)
  | submitted (call : Nat)
  | finished
  deriving DecidableEq, Repr

/-- `ownCapture` helpers capture first and pass the snapshot as the preflight.
`generationEnded` records that a disconnect or reconnect has ended the expected
generation while no stop was requested. -/
structure System where
  conn : WPConnection
  request : MutationRequest
  ownCapture : Bool
  stage : Stage
  generationEnded : Bool
  deriving DecidableEq, Repr

/-- An outcome is reported with the state in which it was decided; `none` is a
confirmed one. -/
inductive Observation where
  | native (observation : Connection.Observation)
  | outcome (code : Option MutationFailureCode) (decided : System)
  deriving DecidableEq

inductive SelectionFailure where
  | targetNotFound
  | targetIdentityChanged
  | targetUnavailable
  | ownershipConflict
  deriving DecidableEq, Repr

inductive Action where
  | connection (action : Connection.Action)
  | checkDeadline (expired : Bool)
  | admitCapture
  | postCapture
  | captureFailed (index : Nat) (message : String)
  | inspect (selection : Option SelectionFailure) (expiredBefore satisfied expired : Bool)
  | dispatch
  deriving DecidableEq

/-- The helper's reader; other callers capture under other names. -/
def helperReader : Nat := 0

/-- The messages of `set_capture_error` and of the mixer's `set_error`. -/
def captureErrors : List String :=
  ["Failed to allocate mixer state value", "Failed to allocate parameter values",
    "Failed to allocate properties payload", "Failed to allocate runtime payload collections",
    "Failed to allocate runtime payload value", "Failed to append mixer state value",
    "Failed to append runtime payload field", "Failed to append runtime payload item",
    "Failed to capture runtime payload", "Failed to copy PipeWire properties",
    "Failed to copy SPA pod bytes", "Failed to merge PipeWire properties",
    "Unexpected WirePlumber parameter info type"]

def unavailableMessage : String := "WirePlumber runtime is not ready"

/-- The code `_runtime_unavailable_outcome` gives to a message. -/
def unavailableCode (message : String) : MutationFailureCode :=
  (Runtime.runtimeUnavailable (Python.text message)).code

def failureCode : MutationDispatchResult → Option MutationFailureCode
  | .ready => none
  | .staleGeneration => some .staleGeneration
  | .staleSequence => some .staleSequence
  | .generationLost => some .generationLost
  | .runtimeStopped => some .runtimeStopped
  | .unsupportedOperation => some .unsupportedOperation
  | .targetNotFound => some .targetNotFound
  | .notWritable => some .notWritable
  | .ownershipConflict => some .ownershipConflict
  | .nativeRejected => some .nativeRejected

def SelectionFailure.code : SelectionFailure → MutationFailureCode
  | .targetNotFound => .targetNotFound
  | .targetIdentityChanged => .targetIdentityChanged
  | .targetUnavailable => .targetUnavailable
  | .ownershipConflict => .ownershipConflict

def finish (system : System) (code : Option MutationFailureCode) :
    System × List Observation :=
  ({ system with stage := .finished }, [.outcome code system])

/-- A capture raised `RuntimeError`; before the request exists that is an
exception of the helper and no outcome. -/
def unavailable (system : System) (purpose : Purpose) (message : String) :
    System × List Observation :=
  if system.ownCapture ∧ purpose = .preflight then ({ system with stage := .finished }, [])
  else finish system (some (unavailableCode message))

/-- The ticket of the call: only a ready one leads to the polling loop. -/
def receiveTicket (system : System) (result : MutationDispatchResult) :
    System × List Observation :=
  match failureCode result with
  | none => ({ system with stage := .waiting .poll }, [])
  | some code => finish system (some code)

def completion (call : Nat) (observed : List Connection.Observation) :
    Option MutationDispatchResult :=
  observed.findSome? fun
    | .completed id result _ _ => if id = call then some result else none
    | _ => none

def ownSnapshot (observed : List Connection.Observation) : Option (Nat × Nat) :=
  observed.findSome? fun
    | .captured reader generation sequence _ =>
        if reader = helperReader then some (generation, sequence) else none
    | _ => none

/-- The disconnects, which end the generation of the connection. -/
def disconnects (conn : WPConnection) : Connection.Action → Bool
  | .coreDisconnected => true
  | .reconnect => conn.coreConnected
  | _ => false

/-- What the end of the expected generation leaves in the record. -/
def recordEnd (system : System) (action : Connection.Action) : Bool :=
  system.generationEnded ||
    (disconnects system.conn action && system.conn.started && !system.conn.stopRequested &&
      decide (system.conn.generation = system.request.expectedGeneration))

/-- What the helper sees of a step of the connection. -/
def receive (system : System) (action : Connection.Action)
    (observed : List Connection.Observation) : System × List Observation :=
  match system.stage with
  | .capturing purpose =>
      match ownSnapshot observed with
      | some (generation, sequence) =>
          ({ system with stage := .captured purpose generation sequence }, [])
      | none => (system, [])
  | .captured purpose generation sequence =>
      if action = .captureReset then
        ({ system with stage := .inspecting purpose generation sequence }, [])
      else (system, [])
  | .submitted call =>
      match completion call observed with
      | some result => receiveTicket system result
      | none => (system, [])
  | _ => (system, [])

def executionResults : List MutationDispatchResult :=
  [.ready, .unsupportedOperation, .targetNotFound, .notWritable, .ownershipConflict,
    .nativeRejected]

/-- Other callers do not capture under the helper's name, and a failed capture of
the helper has a label of its own. -/
def admissible (conn : WPConnection) : Connection.Action → Bool
  | .captureAdmit reader | .capturePost reader => reader ≠ helperReader
  | .capture index copied => copied || conn.captureSources[index]? != some helperReader
  | .settleMutation executed => executionResults.contains executed
  | _ => true

def native (system : System) (action : Connection.Action) :
    Option (System × List Connection.Observation) :=
  (Connection.step system.conn action).map fun outcome =>
    ({ system with
      conn := outcome.1, generationEnded := recordEnd system action }, outcome.2)

def preflightIsStale (request : MutationRequest) (generation sequence : Nat) : Bool :=
  generation ≠ request.expectedGeneration ||
    request.expectedSequence.any fun expected => sequence ≠ expected + 1

/-- What follows a preflight snapshot.  A helper with a capture of its own checks
its selection on a snapshot that is not stale, and only then the deadline. -/
def inspectPreflight (system : System) (generation sequence : Nat)
    (selection : Option SelectionFailure) (expiredBefore satisfied expired : Bool) :
    System × List Observation :=
  match selection, system.ownCapture && !preflightIsStale system.request generation sequence with
  | some failure, true => finish system (some failure.code)
  | _, _ =>
      if system.ownCapture && expiredBefore then finish system (some .deadlineExpired)
      else if generation ≠ system.request.expectedGeneration then
        finish system (some .staleGeneration)
      else if preflightIsStale system.request generation sequence then
        finish system (some .staleSequence)
      else if satisfied then finish system none
      else if expired then finish system (some .deadlineExpired)
      else ({ system with stage := .dispatching sequence }, [])

def inspectPoll (system : System) (generation : Nat) (satisfied : Bool) :
    System × List Observation :=
  if generation ≠ system.request.expectedGeneration then
    finish system (some .generationLost)
  else if satisfied then finish system none
  else ({ system with stage := .waiting .poll }, [])

def expiryCode : Purpose → MutationFailureCode
  | .preflight => .deadlineExpired
  | .poll => .confirmationTimeout

/-- The native call answers at once, or the helper waits for its completion. -/
def submit (system : System) : List Connection.Observation → System × List Observation
  | [.refused _ result] => receiveTicket system result
  | [.enqueued call] => ({ system with stage := .submitted call.id }, [])
  | _ => (system, [])

def stepHelper (system : System) : Action → Option (System × List Observation)
  | .checkDeadline expired =>
      match system.stage with
      | .waiting purpose =>
          if expired then some (finish system (some (expiryCode purpose)))
          else some ({ system with stage := .admitting purpose }, [])
      | _ => none
  | .admitCapture =>
      match system.stage with
      | .admitting purpose =>
          if system.conn.contextAlive && system.conn.om.isSome then
            (native system (.captureAdmit helperReader)).map fun outcome =>
              ({ outcome.1 with stage := .capturing purpose }, outcome.2.map .native)
          else some (unavailable system purpose unavailableMessage)
      | _ => none
  | .postCapture =>
      match system.stage with
      | .capturing _ =>
          (native system (.capturePost helperReader)).map fun outcome =>
            (outcome.1, outcome.2.map .native)
      | _ => none
  | .captureFailed index message =>
      match system.stage with
      | .capturing purpose =>
          if system.conn.captureSources[index]? = some helperReader ∧
              message ∈ captureErrors then
            (native system (.capture index false)).map fun outcome =>
              let failed := unavailable outcome.1 purpose message
              (failed.1, outcome.2.map .native ++ failed.2)
          else none
      | _ => none
  | .inspect selection expiredBefore satisfied expired =>
      match system.stage with
      | .inspecting .preflight generation sequence =>
          some (inspectPreflight system generation sequence selection expiredBefore satisfied
            expired)
      | .inspecting .poll generation _ => some (inspectPoll system generation satisfied)
      | _ => none
  | .dispatch =>
      match system.stage with
      | .dispatching sequence =>
          -- the dispatched copy carries the preflight's sequence, if any
          (native system (.dispatchRuntimeMutation system.request.expectedGeneration
            (system.request.expectedSequence.map fun _ => sequence))).map fun outcome =>
              let answered := submit outcome.1 outcome.2
              (answered.1, outcome.2.map .native ++ answered.2)
      | _ => none
  | .connection _ => none

/-- Helpers hold the connection only after `WPConnection_init` saw `started`. -/
def step (system : System) : Action → Option (System × List Observation)
  | .connection action =>
      if admissible system.conn action then
        (native system action).map fun outcome =>
          let received := receive outcome.1 action outcome.2
          (received.1, outcome.2.map .native ++ received.2)
      else none
  | action => if system.conn.started then stepHelper system action else none

/-- The helper starts at its first capture or at its first deadline check. -/
def firstStage (ownCapture : Bool) : Stage :=
  if ownCapture then .admitting .preflight else .waiting .preflight

def machine : Machine System Action Observation where
  initial system := Connection.machine.initial system.conn ∧
    system.stage = firstStage system.ownCapture ∧ system.generationEnded = false
  step := step

abbrev History := List (Transition System Action Observation)

/-! ## Steps of the helper alone -/

def Observation.native? : Observation → Option Connection.Observation
  | .native observation => some observation
  | .outcome _ _ => none

def natives (observed : List Observation) : List Connection.Observation :=
  observed.filterMap Observation.native?

@[simp] theorem natives_append (reported observed : List Observation) :
    natives (reported ++ observed) = natives reported ++ natives observed := by
  simp [natives]

@[simp] theorem natives_native (observed : List Connection.Observation) :
    natives (observed.map .native) = observed := by
  simp [natives, List.filterMap_map, Function.comp_def, Observation.native?]

theorem mem_natives {observation : Connection.Observation} {observed : List Observation} :
    observation ∈ natives observed ↔ Observation.native observation ∈ observed := by
  simp only [natives, List.mem_filterMap]
  constructor
  · rintro ⟨report, member, same⟩
    cases report with
    | native other =>
        cases same
        exact member
    | outcome => cases same
  · intro member
    exact ⟨_, member, rfl⟩

/-- The stages without a snapshot and without a call. -/
def Stage.isBare : Stage → Bool
  | .waiting _ | .admitting _ | .capturing _ | .finished => true
  | _ => false

/-- Only the stage changed, to a bare one, and the connection reported nothing. -/
def Settles (system : System) (outcome : System × List Observation) : Prop :=
  ∃ stage, outcome.1 = { system with stage := stage } ∧
    (stage = system.stage ∨ stage.isBare = true) ∧ natives outcome.2 = []

theorem finish_settles (system : System) (code : Option MutationFailureCode) :
    Settles system (finish system code) :=
  ⟨.finished, rfl, .inr rfl, rfl⟩

theorem unavailable_settles (system : System) (purpose : Purpose) (message : String) :
    Settles system (unavailable system purpose message) := by
  unfold unavailable
  split
  · exact ⟨.finished, rfl, .inr rfl, rfl⟩
  · exact finish_settles system _

theorem receiveTicket_settles (system : System) (result : MutationDispatchResult) :
    Settles system (receiveTicket system result) := by
  unfold receiveTicket
  split
  · exact ⟨.waiting .poll, rfl, .inr rfl, rfl⟩
  · exact finish_settles system _

theorem inspectPoll_settles (system : System) (generation : Nat) (satisfied : Bool) :
    Settles system (inspectPoll system generation satisfied) := by
  unfold inspectPoll
  split
  · exact finish_settles system _
  · split
    · exact finish_settles system _
    · exact ⟨.waiting .poll, rfl, .inr rfl, rfl⟩

theorem inspectPreflight_cases (system : System) (generation sequence : Nat)
    (selection : Option SelectionFailure) (expiredBefore satisfied expired : Bool) :
    Settles system (inspectPreflight system generation sequence selection expiredBefore
        satisfied expired) ∨
      inspectPreflight system generation sequence selection expiredBefore satisfied expired =
          ({ system with stage := .dispatching sequence }, []) ∧
        preflightIsStale system.request generation sequence = false := by
  unfold inspectPreflight
  split
  · exact .inl (finish_settles system _)
  · split
    · exact .inl (finish_settles system _)
    · split
      · exact .inl (finish_settles system _)
      · split
        · exact .inl (finish_settles system _)
        · rename_i fresh
          split
          · exact .inl (finish_settles system _)
          · split
            · exact .inl (finish_settles system _)
            · exact .inr ⟨rfl, Bool.not_eq_true _ ▸ fresh⟩

/-! ## What a step does to the stage -/

/-- The steps that carry data from stage to stage, and all others. -/
inductive StageChange (system next : System) (observed : List Observation) : Prop where
  | kept (stage : next.stage = system.stage)
  | bare (stage : next.stage.isBare = true)
  | copied (purpose : Purpose) (generation sequence : Nat) (subject : Option Nat)
      (stage : next.stage = .captured purpose generation sequence)
      (reported : .native (.captured helperReader generation sequence subject) ∈ observed)
  | returned (purpose : Purpose) (generation sequence : Nat)
      (before : system.stage = .captured purpose generation sequence)
      (stage : next.stage = .inspecting purpose generation sequence)
  | approved (generation sequence : Nat)
      (before : system.stage = .inspecting .preflight generation sequence)
      (fresh : preflightIsStale system.request generation sequence = false)
      (stage : next.stage = .dispatching sequence)
  | enqueued (sequence : Nat) (call : Connection.MutationDispatchCall)
      (before : system.stage = .dispatching sequence)
      (generation : call.expectedGeneration = system.request.expectedGeneration)
      (current : call.enqueuedGeneration = system.request.expectedGeneration)
      (guard : call.expectedSequence = system.request.expectedSequence.map fun _ => sequence)
      (stage : next.stage = .submitted call.id)
      (reported : .native (.enqueued call) ∈ observed)

/-- The steps of the connection that the helper takes itself. -/
def helperTakes : Connection.Action → Bool
  | .captureAdmit _ | .capturePost _ | .capture _ false | .dispatchRuntimeMutation _ _ => true
  | _ => false

/-- A step as the connection and the rest of the request see it. -/
structure StepEffect (system : System) (action : Action) (next : System)
    (observed : List Observation) : Prop where
  request : next.request = system.request
  ownCapture : next.ownCapture = system.ownCapture
  native : (next.conn = system.conn ∧ natives observed = [] ∧
      next.generationEnded = system.generationEnded) ∨
    ∃ connAction, Connection.step system.conn connAction = some (next.conn, natives observed) ∧
      next.generationEnded = recordEnd system connAction ∧
      (action = .connection connAction ∨ helperTakes connAction = true)
  stage : StageChange system next observed

theorem Settles.effect {system : System} {outcome : System × List Observation}
    (settles : Settles system outcome) (action : Action) :
    StepEffect system action outcome.1 outcome.2 := by
  obtain ⟨stage, same, kind, quiet⟩ := settles
  rw [same]
  refine ⟨rfl, rfl, .inl ⟨rfl, quiet, rfl⟩, ?_⟩
  rcases kind with kept | bare
  · exact .kept kept
  · exact .bare bare

theorem ownSnapshot_spec {observed : List Connection.Observation} {generation sequence : Nat}
    (found : ownSnapshot observed = some (generation, sequence)) :
    ∃ subject, .captured helperReader generation sequence subject ∈ observed := by
  obtain ⟨observation, member, same⟩ := List.exists_of_findSome?_eq_some found
  cases observation with
  | captured reader copied number subject =>
      simp only [Option.ite_none_right_eq_some, Option.some.injEq, Prod.mk.injEq] at same
      obtain ⟨rfl, rfl, rfl⟩ := same
      exact ⟨subject, member⟩
  | _ => cases same

structure Stepped (system stepped : System) (action : Connection.Action)
    (observed : List Connection.Observation) : Prop where
  request : stepped.request = system.request
  ownCapture : stepped.ownCapture = system.ownCapture
  stage : stepped.stage = system.stage
  generationEnded : stepped.generationEnded = recordEnd system action
  taken : Connection.step system.conn action = some (stepped.conn, observed)

theorem native_stepped {system stepped : System} {action : Connection.Action}
    {observed : List Connection.Observation}
    (taken : native system action = some (stepped, observed)) :
    Stepped system stepped action observed := by
  obtain ⟨⟨conn, reports⟩, connStep, same⟩ := Option.map_eq_some_iff.mp taken
  cases same
  exact ⟨rfl, rfl, rfl, rfl, connStep⟩

def Causes (action : Action) (connAction : Connection.Action) : Prop :=
  action = .connection connAction ∨ helperTakes connAction = true

theorem Stepped.effect {system stepped : System} {connAction : Connection.Action}
    {observed : List Connection.Observation}
    (moved : Stepped system stepped connAction observed) (action : Action)
    (causes : Causes action connAction) :
    StepEffect system action stepped (observed.map .native) where
  request := moved.request
  ownCapture := moved.ownCapture
  native := .inr ⟨connAction, by rw [natives_native]; exact moved.taken,
    moved.generationEnded, causes⟩
  stage := .kept moved.stage

/-- The helper reacts to a step of the connection. -/
theorem Stepped.then {system stepped : System} {connAction : Connection.Action}
    {observed : List Connection.Observation}
    (moved : Stepped system stepped connAction observed) {action : Action}
    (causes : Causes action connAction) {outcome : System × List Observation} (stage : Stage)
    (frame : outcome.1 = { stepped with stage := stage }) (quiet : natives outcome.2 = [])
    (change : StageChange system outcome.1 (observed.map .native ++ outcome.2)) :
    StepEffect system action outcome.1 (observed.map .native ++ outcome.2) := by
  refine ⟨?_, ?_, .inr ⟨connAction, ?_, ?_, causes⟩, change⟩
  · rw [frame]
    exact moved.request
  · rw [frame]
    exact moved.ownCapture
  · rw [natives_append, natives_native, quiet, List.append_nil, frame]
    exact moved.taken
  · rw [frame]
    exact moved.generationEnded

theorem Stepped.settled {system stepped : System} {connAction : Connection.Action}
    {observed : List Connection.Observation}
    (moved : Stepped system stepped connAction observed) {action : Action}
    (causes : Causes action connAction) {outcome : System × List Observation}
    (settles : Settles stepped outcome) :
    StepEffect system action outcome.1 (observed.map .native ++ outcome.2) := by
  obtain ⟨stage, same, kind, quiet⟩ := settles
  refine moved.then causes stage same quiet ?_
  rw [same]
  rcases kind with kept | bare
  · exact .kept (kept.trans moved.stage)
  · exact .bare bare

theorem settles_self (system : System) : Settles system (system, []) :=
  ⟨system.stage, rfl, .inl rfl, rfl⟩

/-- After a step of the connection the helper sees what concerns it. -/
theorem receive_effect {system stepped : System} {action : Connection.Action}
    {observed : List Connection.Observation} (moved : Stepped system stepped action observed) :
    StepEffect system (.connection action) (receive stepped action observed).1
      (observed.map .native ++ (receive stepped action observed).2) := by
  unfold receive
  split
  · split
    · rename_i purpose capturing _ generation sequence found
      obtain ⟨subject, member⟩ := ownSnapshot_spec found
      refine moved.then (.inl rfl) (.captured purpose generation sequence) rfl rfl ?_
      refine .copied purpose generation sequence subject rfl ?_
      exact List.mem_append_left _ (List.mem_map_of_mem member)
    · exact moved.settled (.inl rfl) (settles_self stepped)
  · rename_i purpose generation sequence captured
    split
    · refine moved.then (.inl rfl) (.inspecting purpose generation sequence) rfl rfl ?_
      exact .returned purpose generation sequence (moved.stage.symm.trans captured) rfl
    · exact moved.settled (.inl rfl) (settles_self stepped)
  · split
    · exact moved.settled (.inl rfl) (receiveTicket_settles stepped _)
    · exact moved.settled (.inl rfl) (settles_self stepped)
  · exact moved.settled (.inl rfl) (settles_self stepped)

theorem receive_quiet (system : System) (action : Connection.Action)
    (observed : List Connection.Observation) :
    natives (receive system action observed).2 = [] := by
  unfold receive
  split
  · split <;> rfl
  · split <;> rfl
  · split
    · obtain ⟨_, _, _, quiet⟩ := receiveTicket_settles system ‹_›
      exact quiet
    · rfl
  · rfl

/-- What the native call enqueues carries the request's generation. -/
theorem enqueued_of_dispatch {conn next : WPConnection} {expectedGeneration : Nat}
    {expectedSequence : Option Nat} {call : Connection.MutationDispatchCall}
    (taken : Connection.step conn (.dispatchRuntimeMutation expectedGeneration
      expectedSequence) = some (next, [.enqueued call])) :
    call.expectedGeneration = expectedGeneration ∧
      call.enqueuedGeneration = expectedGeneration ∧
      call.expectedSequence = expectedSequence := by
  simp only [Connection.step, Connection.stepApplication] at taken
  split at taken
  · have answer := congrArg Prod.snd (Option.some.inj taken)
    unfold Connection.dispatchRuntimeMutation at answer
    split at answer
    · cases answer
    · split at answer
      · cases answer
      · rename_i current
        cases answer
        exact ⟨rfl, (not_not.mp current).symm, rfl⟩
  · cases taken

theorem submit_effect {system stepped : System} {sequence : Nat}
    (dispatching : system.stage = .dispatching sequence)
    {observed : List Connection.Observation}
    (moved : Stepped system stepped
      (.dispatchRuntimeMutation system.request.expectedGeneration
        (system.request.expectedSequence.map fun _ => sequence)) observed) :
    StepEffect system .dispatch (submit stepped observed).1
      (observed.map .native ++ (submit stepped observed).2) := by
  unfold submit
  split
  · exact moved.settled (.inr rfl) (receiveTicket_settles stepped _)
  · rename_i call
    refine moved.then (.inr rfl) (.submitted call.id) rfl rfl ?_
    obtain ⟨generation, current, guard⟩ := enqueued_of_dispatch moved.taken
    exact .enqueued sequence call dispatching generation current guard rfl (by simp)
  · exact moved.settled (.inr rfl) (settles_self stepped)

theorem stepHelper_effect {system next : System} {action : Action}
    {observed : List Observation}
    (taken : stepHelper system action = some (next, observed)) :
    StepEffect system action next observed := by
  cases action with
  | connection action => cases taken
  | checkDeadline expired =>
      simp only [stepHelper] at taken
      split at taken
      · split at taken
        · cases taken
          exact (finish_settles system _).effect _
        · cases taken
          exact ⟨rfl, rfl, .inl ⟨rfl, rfl, rfl⟩, .bare rfl⟩
      · cases taken
  | admitCapture =>
      simp only [stepHelper] at taken
      split at taken
      · split at taken
        · obtain ⟨⟨stepped, reports⟩, connStep, same⟩ := Option.map_eq_some_iff.mp taken
          cases same
          have moved := (native_stepped connStep).effect .admitCapture (.inr rfl)
          exact ⟨moved.request, moved.ownCapture, moved.native, .bare rfl⟩
        · rename_i purpose _ _
          have settled := (unavailable_settles system purpose unavailableMessage).effect .admitCapture
          rw [Option.some.inj taken] at settled
          exact settled
      · cases taken
  | postCapture =>
      simp only [stepHelper] at taken
      split at taken
      · obtain ⟨⟨stepped, reports⟩, connStep, same⟩ := Option.map_eq_some_iff.mp taken
        cases same
        exact (native_stepped connStep).effect _ (.inr rfl)
      · cases taken
  | captureFailed index message =>
      simp only [stepHelper] at taken
      split at taken
      · split at taken
        · rename_i purpose _ _
          obtain ⟨⟨stepped, reports⟩, connStep, same⟩ := Option.map_eq_some_iff.mp taken
          cases same
          exact (native_stepped connStep).settled (.inr rfl)
            (unavailable_settles stepped purpose message)
        · cases taken
      · cases taken
  | inspect selection expiredBefore satisfied expired =>
      simp only [stepHelper] at taken
      split at taken
      · rename_i generation sequence inspecting
        rcases inspectPreflight_cases system generation sequence selection expiredBefore
          satisfied expired with settles | ⟨approved, fresh⟩
        · have settled := settles.effect
            (.inspect selection expiredBefore satisfied expired)
          rw [Option.some.inj taken] at settled
          exact settled
        · rw [approved] at taken
          cases taken
          exact ⟨rfl, rfl, .inl ⟨rfl, rfl, rfl⟩,
            .approved generation sequence inspecting fresh rfl⟩
      · rename_i generation sequence inspecting
        have settled := (inspectPoll_settles system generation satisfied).effect
          (.inspect selection expiredBefore satisfied expired)
        rw [Option.some.inj taken] at settled
        exact settled
      · cases taken
  | dispatch =>
      simp only [stepHelper] at taken
      split at taken
      · rename_i sequence dispatching
        obtain ⟨⟨stepped, reports⟩, connStep, same⟩ := Option.map_eq_some_iff.mp taken
        cases same
        exact submit_effect dispatching (native_stepped connStep)
      · cases taken

/-- The inversion lemma of the machine. -/
theorem step_effect {system next : System} {action : Action} {observed : List Observation}
    (taken : step system action = some (next, observed)) :
    StepEffect system action next observed := by
  cases action with
  | connection action =>
      simp only [step] at taken
      split at taken
      · obtain ⟨⟨stepped, reports⟩, connStep, same⟩ := Option.map_eq_some_iff.mp taken
        cases same
        exact receive_effect (native_stepped connStep)
      · cases taken
  | _ =>
      simp only [step] at taken
      split at taken
      · exact stepHelper_effect taken
      · cases taken

theorem connection_of_run {history : History} {system : System}
    (run : Run machine history system) :
    ∃ connHistory, Run Connection.machine connHistory system.conn ∧
      log connHistory = natives (log history) := by
  refine run.simulate System.conn ?_ ?_
  · rintro system ⟨initial, -, -⟩
    exact initial
  · intro _ system action next observed _ taken
    rcases (step_effect taken).native with ⟨same, quiet, -⟩ | ⟨connAction, connStep, -⟩
    · have silent : observed.filterMap Observation.native? = [] := quiet
      rw [silent, same]
      exact .refl _
    · exact .single connAction connStep

end WyrePlumber.Coordination.Request
