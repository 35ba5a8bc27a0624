import WyrePlumber.Coordination.Request
import WyrePlumber.Library.Replay
import WyrePlumber.Native.EventStream

/-!
# A client that projects the events of a connection

The client of `examples/runtime_orchestration.py` on a live connection.  It captures a
snapshot, folds in the events that raced with the capture, applies one event after the
other, and captures again when continuity is lost.  Other threads capture, read events
from the same queue, and mutate at any time.  Whatever they do, the client's objects are
those of its last capture, changed by exactly the events published behind it up to its
own number.
-/

set_option autoImplicit false
set_option linter.constructorNameAsVariable false

namespace WyrePlumber.Coordination.Projection

open LabelledMachine
open Replay (Change between outcome consume_append)
open SequencedStream (Stamped continues consume deliveries stamp)
open WyrePlumber.Native
open WyrePlumber.Native.Connection (WPConnection EventPayload)
open WyrePlumber.Native.EventStream (RuntimeContinuityError requireEventContinuity)
open WyrePlumber.Coordination.Request (helperReader ownSnapshot)

section Client

variable {Key Value : Type} [DecidableEq Key]

/-- What the runtime holds: the objects of the snapshot captured under a number, and the
change that an event stands for. -/
structure Reading (Key Value : Type) where
  objects : Nat → Nat → List (Key × Value)
  change : EventPayload → Key × Change Value

structure RuntimeProjection (Key Value : Type) where
  generation : Nat
  sequence : Nat
  objects : List (Key × Value)

variable (reading : Reading Key Value)

/-- `RuntimeProjection.from_snapshot`, for the snapshot captured under a number. -/
def fromSnapshot (generation sequence : Nat) : RuntimeProjection Key Value where
  generation := generation
  sequence := sequence
  objects := reading.objects generation sequence

def RuntimeProjection.apply (projection : RuntimeProjection Key Value) (event : EventPayload) :
    Except RuntimeContinuityError (RuntimeProjection Key Value) :=
  match requireEventContinuity event projection.generation projection.sequence with
  | .ok event =>
      .ok { projection with
        objects := Replay.apply projection.objects (reading.change event)
        sequence := event.sequence }
  | .error error => .error error

def foldRacing (projection : RuntimeProjection Key Value) :
    List EventPayload → Except RuntimeContinuityError (RuntimeProjection Key Value)
  | [] => .ok projection
  | event :: rest =>
      if event.generation = projection.generation ∧ event.sequence ≤ projection.sequence then
        foldRacing projection rest
      else
        match projection.apply reading event with
        | .ok applied => foldRacing applied rest
        | .error error => .error error

/-- Where the client stands.  `copied` lasts until the WirePlumber thread has finished the
capture; `racing` until the queue is drained. -/
inductive Stage (Key Value : Type) where
  | idle
  | admitting
  | capturing
  | copied (projection : RuntimeProjection Key Value)
  | racing (projection : RuntimeProjection Key Value)

/-- `RuntimeClient`; the projection is absent until the constructor returns. -/
structure RuntimeClient (Key Value : Type) where
  stage : Stage Key Value
  projection : Option (RuntimeProjection Key Value)

structure System (Key Value : Type) where
  conn : WPConnection
  client : RuntimeClient Key Value

/-- Labels say whether what was read could be decoded; where it could not, the exception
leaves the client as it is. -/
inductive Action where
  | connection (action : Connection.Action)
  | resnapshot
  | admitCapture
  | postCapture
  | captureFailed (index : Nat)
  | snapshotRejected
  | drainEvents (decoded : Bool)
  | projectNextEvent (decoded : Bool)
  deriving DecidableEq

/-- Other threads neither capture nor read under the client's name. -/
def admissible (conn : WPConnection) (action : Connection.Action) : Bool :=
  Request.admissible conn action &&
    match action with
    | .nextEvent reader | .drainEvents reader _ => reader ≠ helperReader
    | _ => true

/-- What the client sees of a step of the connection. -/
def receive (client : RuntimeClient Key Value) (action : Connection.Action)
    (observed : List Connection.Observation) : RuntimeClient Key Value :=
  match client.stage with
  | .capturing =>
      match ownSnapshot observed with
      | some (generation, sequence) =>
          { client with stage := .copied (fromSnapshot reading generation sequence) }
      | none => client
  | .copied projection =>
      if action = .captureReset then { client with stage := .racing projection } else client
  | _ => client

/-- `resnapshot` after its capture: the new projection, or one more capture. -/
def finishSnapshot (client : RuntimeClient Key Value) (projection : RuntimeProjection Key Value)
    (events : List EventPayload) : RuntimeClient Key Value :=
  match foldRacing reading projection events with
  | .ok folded => { stage := .idle, projection := some folded }
  | .error _ => { client with stage := .admitting }

def projectEvent (client : RuntimeClient Key Value) (projection : RuntimeProjection Key Value)
    (event : EventPayload) : RuntimeClient Key Value :=
  match projection.apply reading event with
  | .ok applied => { client with projection := some applied }
  | .error _ => { client with stage := .admitting }

def native (system : System Key Value) (action : Connection.Action)
    (react : List Connection.Observation → RuntimeClient Key Value) :
    Option (System Key Value × List Connection.Observation) :=
  (Connection.step system.conn action).map fun outcome =>
    (⟨outcome.1, react outcome.2⟩, outcome.2)

def stepClient (system : System Key Value) :
    Action → Option (System Key Value × List Connection.Observation)
  | .resnapshot =>
      match system.client.stage with
      | .idle => some ({ system with client := { system.client with stage := .admitting } }, [])
      | _ => none
  | .admitCapture =>
      match system.client.stage with
      | .admitting =>
          if system.conn.contextAlive && system.conn.om.isSome then
            native system (.captureAdmit helperReader)
              fun _ => { system.client with stage := .capturing }
          else some ({ system with client := { system.client with stage := .idle } }, [])
      | _ => none
  | .postCapture =>
      match system.client.stage with
      | .capturing => native system (.capturePost helperReader) fun _ => system.client
      | _ => none
  | .captureFailed index =>
      match system.client.stage with
      | .capturing =>
          if system.conn.captureSources[index]? = some helperReader then
            native system (.capture index false)
              fun _ => { system.client with stage := .idle }
          else none
      | _ => none
  | .snapshotRejected =>
      match system.client.stage with
      | .racing _ => some ({ system with client := { system.client with stage := .idle } }, [])
      | _ => none
  | .drainEvents decoded =>
      match system.client.stage with
      | .racing projection =>
          native system (.drainEvents helperReader 0) fun _ =>
            if decoded then
              finishSnapshot reading system.client projection system.conn.runtimeEvents
            else { system.client with stage := .idle }
      | _ => none
  | .projectNextEvent decoded =>
      match system.client.stage, system.client.projection with
      | .idle, some projection =>
          native system (.nextEvent helperReader) fun _ =>
            match decoded, system.conn.runtimeEvents with
            | true, event :: _ => projectEvent reading system.client projection event
            | _, _ => system.client
      | _, _ => none
  | .connection _ => none

/-- The client holds the connection only after `WPConnection_init` saw `started`. -/
def step (system : System Key Value) :
    Action → Option (System Key Value × List Connection.Observation)
  | .connection action =>
      if admissible system.conn action then
        native system action (receive reading system.client action)
      else none
  | action => if system.conn.started then stepClient reading system action else none

/-- The constructor starts with a capture. -/
def machine : Machine (System Key Value) Action Connection.Observation where
  initial system := Connection.machine.initial system.conn ∧
    system.client = { stage := .admitting, projection := none }
  step := step reading

abbrev History (Key Value : Type) :=
  List (Transition (System Key Value) Action Connection.Observation)

end Client

section Folding

variable {Key Value : Type} [DecidableEq Key] {reading : Reading Key Value}
  {projection applied : RuntimeProjection Key Value} {event : EventPayload}

theorem apply_ok (finished : projection.apply reading event = .ok applied) :
    continues projection.generation projection.sequence event = true ∧
      applied = { projection with
        objects := Replay.apply projection.objects (reading.change event)
        sequence := projection.sequence + 1 } := by
  unfold RuntimeProjection.apply at finished
  cases continued : continues projection.generation projection.sequence event with
  | false =>
      obtain ⟨error, rejected⟩ := EventStream.requireEventContinuity_error continued
      rw [rejected] at finished
      cases finished
  | true =>
      obtain ⟨accepted, -, next⟩ := EventStream.requireEventContinuity_ok continued
      rw [accepted] at finished
      refine ⟨rfl, ?_⟩
      rw [← Except.ok.inj finished, next]

omit [DecidableEq Key] in
/-- An event that is skipped continues nothing. -/
theorem not_continues_of_le (old : event.sequence ≤ projection.sequence) :
    continues projection.generation projection.sequence event = false := by
  rw [Bool.eq_false_iff]
  intro continued
  obtain ⟨-, -, next⟩ := EventStream.requireEventContinuity_ok continued
  omega

/-- A fold that succeeds applies what a consumer behind the capture applies. -/
theorem foldRacing_ok {events : List EventPayload}
    (finished : foldRacing reading projection events = .ok applied) :
    applied.generation = projection.generation ∧
      applied.sequence = projection.sequence +
        (consume projection.generation projection.sequence events).length ∧
      applied.objects = ((consume projection.generation projection.sequence events).map
        reading.change).foldl Replay.apply projection.objects := by
  induction events generalizing projection with
  | nil =>
      cases finished
      exact ⟨rfl, rfl, rfl⟩
  | cons event rest inductionHypothesis =>
      rw [foldRacing] at finished
      split at finished
      · rename_i skipped
        rw [consume, not_continues_of_le skipped.2, if_neg Bool.false_ne_true]
        exact inductionHypothesis finished
      · split at finished
        · rename_i next isNext
          obtain ⟨continued, rfl⟩ := apply_ok isNext
          obtain ⟨sameGeneration, atSequence, isObjects⟩ := inductionHypothesis finished
          rw [consume, if_pos continued]
          refine ⟨sameGeneration, ?_, isObjects⟩
          rw [atSequence, List.length_cons]
          exact Nat.add_right_comm _ _ _
        · cases finished

end Folding

section Following

variable {Key Value : Type} [DecidableEq Key] {reading : Reading Key Value}
  {projection applied : RuntimeProjection Key Value}
  {reported observed : List Connection.Observation}

/-- A projection was captured by the client, and then applied events that the client read. -/
def Follows (reading : Reading Key Value) (projection : RuntimeProjection Key Value)
    (reported : List Connection.Observation) : Prop :=
  ∃ before start subject after seen,
    reported = before ++ .captured helperReader projection.generation start subject :: after ∧
    (∀ event ∈ seen, .delivered helperReader event ∈ reported) ∧
    projection.sequence = start + (consume projection.generation start seen).length ∧
    projection.objects = ((consume projection.generation start seen).map reading.change).foldl
      Replay.apply (reading.objects projection.generation start)

theorem Follows.extend (follows : Follows reading projection reported) :
    Follows reading projection (reported ++ observed) := by
  obtain ⟨before, start, subject, after, seen, split, delivered, atSequence, isObjects⟩ := follows
  refine ⟨before, start, subject, after ++ observed, seen, ?_, ?_, atSequence, isObjects⟩
  · rw [split, List.append_assoc, List.cons_append]
  · intro event member
    exact List.mem_append_left _ (delivered event member)

theorem follows_fromSnapshot {generation sequence : Nat}
    (own : ownSnapshot observed = some (generation, sequence)) :
    Follows reading (fromSnapshot reading generation sequence) (reported ++ observed) := by
  obtain ⟨subject, member⟩ := Request.ownSnapshot_spec own
  obtain ⟨front, back, rfl⟩ := List.append_of_mem member
  refine ⟨reported ++ front, sequence, subject, back, [], ?_, ?_, rfl, rfl⟩
  · rw [List.append_assoc]
    rfl
  · intro event inNil
    cases inNil

/-- A projection goes on following while it folds in what the client reads. -/
theorem Follows.fold (follows : Follows reading projection reported) {events : List EventPayload}
    (finished : foldRacing reading projection events = .ok applied)
    (delivered : ∀ event ∈ events, .delivered helperReader event ∈ observed) :
    Follows reading applied (reported ++ observed) := by
  obtain ⟨sameGeneration, atSequence, isObjects⟩ := foldRacing_ok finished
  obtain ⟨before, start, subject, after, seen, split, wasDelivered, wasAt, wereObjects⟩ := follows
  rw [Follows, sameGeneration]
  refine ⟨before, start, subject, after ++ observed, seen ++ events, ?_, ?_, ?_, ?_⟩
  · rw [split, List.append_assoc, List.cons_append]
  · intro event member
    rcases List.mem_append.mp member with old | new
    · exact List.mem_append_left _ (wasDelivered event old)
    · exact List.mem_append_right _ (delivered event new)
  · rw [consume_append, List.length_append, atSequence, wasAt, Nat.add_assoc]
  · rw [consume_append, List.map_append, List.foldl_append, isObjects, wereObjects, wasAt]

theorem apply_fold {event : EventPayload} (finished : projection.apply reading event = .ok applied) :
    foldRacing reading projection [event] = .ok applied := by
  obtain ⟨continued, -⟩ := apply_ok finished
  rw [foldRacing, if_neg, finished]
  · rfl
  · rintro ⟨-, old⟩
    rw [not_continues_of_le old] at continued
    cases continued

/-- The projections that a client holds follow the connection. -/
structure Tracks (reading : Reading Key Value) (client : RuntimeClient Key Value)
    (reported : List Connection.Observation) : Prop where
  projected : ∀ projection, client.projection = some projection →
    Follows reading projection reported
  pending : ∀ projection, client.stage = .copied projection ∨ client.stage = .racing projection →
    Follows reading projection reported

variable {client : RuntimeClient Key Value}

theorem Tracks.extend (tracks : Tracks reading client reported) :
    Tracks reading client (reported ++ observed) where
  projected projection isProjection := (tracks.projected projection isProjection).extend
  pending projection atStage := (tracks.pending projection atStage).extend

/-- Leaving the stages with a snapshot keeps the projection. -/
theorem Tracks.restage (tracks : Tracks reading client reported) {stage : Stage Key Value}
    (bare : ∀ projection, stage ≠ .copied projection ∧ stage ≠ .racing projection) :
    Tracks reading { client with stage := stage } (reported ++ observed) where
  projected projection isProjection := (tracks.projected projection isProjection).extend
  pending projection atStage := by
    obtain ⟨notCopied, notRacing⟩ := bare projection
    rcases atStage with isCopied | isRacing
    · exact absurd isCopied notCopied
    · exact absurd isRacing notRacing

theorem Tracks.receive (tracks : Tracks reading client reported) (action : Connection.Action) :
    Tracks reading (receive reading client action observed) (reported ++ observed) := by
  unfold Projection.receive
  split
  · split
    · rename_i generation sequence own
      refine ⟨fun projection isProjection => (tracks.projected projection isProjection).extend, ?_⟩
      rintro projection (isCopied | isRacing)
      · cases isCopied
        exact follows_fromSnapshot own
      · cases isRacing
    · exact tracks.extend
  · rename_i projection atStage
    split
    · refine ⟨fun other isProjection => (tracks.projected other isProjection).extend, ?_⟩
      rintro other (isCopied | isRacing)
      · cases isCopied
      · cases isRacing
        exact (tracks.pending projection (.inl atStage)).extend
    · exact tracks.extend
  · exact tracks.extend

theorem Tracks.finishSnapshot (tracks : Tracks reading client reported)
    (atStage : client.stage = .racing projection) {events : List EventPayload}
    (delivered : ∀ event ∈ events, .delivered helperReader event ∈ observed) :
    Tracks reading (finishSnapshot reading client projection events) (reported ++ observed) := by
  unfold Projection.finishSnapshot
  split
  · rename_i folded finished
    constructor
    · intro other isOther
      cases isOther
      exact (tracks.pending projection (.inr atStage)).fold finished delivered
    · rintro other (isCopied | isRacing)
      · cases isCopied
      · cases isRacing
  · exact tracks.restage fun other => ⟨by simp, by simp⟩

theorem Tracks.projectEvent (tracks : Tracks reading client reported)
    (isProjection : client.projection = some projection) {event : EventPayload}
    (delivered : .delivered helperReader event ∈ observed) :
    Tracks reading (projectEvent reading client projection event) (reported ++ observed) := by
  unfold Projection.projectEvent
  split
  · rename_i next finished
    refine ⟨?_, fun other atStage => (tracks.pending other atStage).extend⟩
    intro other isOther
    cases isOther
    refine (tracks.projected projection isProjection).fold (apply_fold finished) ?_
    intro seen member
    rw [List.mem_singleton.mp member]
    exact delivered
  · exact tracks.restage fun other => ⟨by simp, by simp⟩

end Following

section Steps

variable {Key Value : Type} [DecidableEq Key] {reading : Reading Key Value}
  {system next : System Key Value} {observed : List Connection.Observation}

omit [DecidableEq Key] in
theorem native_some {action : Connection.Action}
    {react : List Connection.Observation → RuntimeClient Key Value}
    (taken : native system action react = some (next, observed)) :
    Connection.step system.conn action = some (next.conn, observed) ∧
      next.client = react observed := by
  obtain ⟨outcome, stepped, isNext⟩ := Option.map_eq_some_iff.mp taken
  cases isNext
  exact ⟨stepped, rfl⟩

theorem drain_delivers {conn after : WPConnection}
    (taken : Connection.step conn (.drainEvents helperReader 0) = some (after, observed)) :
    ∀ event ∈ conn.runtimeEvents, .delivered helperReader event ∈ observed := by
  simp only [Connection.step] at taken
  split at taken
  · cases taken
    intro event member
    simp only [if_true, List.take_length]
    exact List.mem_map_of_mem member
  · cases taken

theorem next_delivers {conn after : WPConnection} {event : EventPayload} {rest : List EventPayload}
    (queued : conn.runtimeEvents = event :: rest)
    (taken : Connection.step conn (.nextEvent helperReader) = some (after, observed)) :
    .delivered helperReader event ∈ observed := by
  simp only [Connection.step] at taken
  split at taken
  · simp only [Connection.stepApplication, queued] at taken
    cases taken
    exact List.mem_cons_self
  · cases taken

/-- A step of the system is a step of its connection, or none of it. -/
inductive StepEffect (reading : Reading Key Value) (system next : System Key Value)
    (observed : List Connection.Observation) : Prop where
  | quiet (sameConn : next.conn = system.conn) (nothing : observed = [])
      (restaged : ∃ stage, next.client = { system.client with stage := stage } ∧
        ∀ projection, stage ≠ .copied projection ∧ stage ≠ .racing projection)
  | native (action : Connection.Action)
      (stepped : Connection.step system.conn action = some (next.conn, observed))
      (tracked : ∀ reported, Tracks reading system.client reported →
        Tracks reading next.client (reported ++ observed))

theorem stepClient_effect {action : Action}
    (taken : stepClient reading system action = some (next, observed)) :
    StepEffect reading system next observed := by
  cases action with
  | connection connAction => cases taken
  | resnapshot =>
      simp only [stepClient] at taken
      split at taken
      · cases taken
        exact .quiet rfl rfl ⟨.admitting, rfl, fun projection => ⟨by simp, by simp⟩⟩
      · cases taken
  | admitCapture =>
      simp only [stepClient] at taken
      split at taken
      · split at taken
        · obtain ⟨stepped, isClient⟩ := native_some taken
          refine .native _ stepped fun reported tracks => ?_
          rw [isClient]
          exact tracks.restage fun projection => ⟨by simp, by simp⟩
        · cases taken
          exact .quiet rfl rfl ⟨.idle, rfl, fun projection => ⟨by simp, by simp⟩⟩
      · cases taken
  | postCapture =>
      simp only [stepClient] at taken
      split at taken
      · obtain ⟨stepped, isClient⟩ := native_some taken
        refine .native _ stepped fun reported tracks => ?_
        rw [isClient]
        exact tracks.extend
      · cases taken
  | captureFailed index =>
      simp only [stepClient] at taken
      split at taken
      · split at taken
        · obtain ⟨stepped, isClient⟩ := native_some taken
          refine .native _ stepped fun reported tracks => ?_
          rw [isClient]
          exact tracks.restage fun projection => ⟨by simp, by simp⟩
        · cases taken
      · cases taken
  | snapshotRejected =>
      simp only [stepClient] at taken
      split at taken
      · cases taken
        exact .quiet rfl rfl ⟨.idle, rfl, fun projection => ⟨by simp, by simp⟩⟩
      · cases taken
  | drainEvents decoded =>
      simp only [stepClient] at taken
      split at taken
      · rename_i projection atStage
        obtain ⟨stepped, isClient⟩ := native_some taken
        refine .native _ stepped fun reported tracks => ?_
        rw [isClient]
        cases decoded with
        | false => exact tracks.restage fun projection => ⟨by simp, by simp⟩
        | true => exact tracks.finishSnapshot atStage (drain_delivers stepped)
      · cases taken
  | projectNextEvent decoded =>
      simp only [stepClient] at taken
      split at taken
      · rename_i projection atStage isProjection
        obtain ⟨stepped, isClient⟩ := native_some taken
        refine .native _ stepped fun reported tracks => ?_
        rw [isClient]
        split
        · rename_i event rest queued
          exact tracks.projectEvent isProjection (next_delivers queued stepped)
        · exact tracks.extend
      · cases taken

theorem step_effect {action : Action} (taken : step reading system action = some (next, observed)) :
    StepEffect reading system next observed := by
  unfold step at taken
  split at taken
  · split at taken
    · obtain ⟨stepped, isClient⟩ := native_some taken
      refine .native _ stepped fun reported tracks => ?_
      rw [isClient]
      exact tracks.receive _
    · cases taken
  · split at taken
    · exact stepClient_effect taken
    · cases taken

/-- The projections follow in every run. -/
theorem tracks_of_run {history : History Key Value}
    (run : Run (machine reading) history system) : Tracks reading system.client (log history) := by
  refine run.invariant (fun system reported => Tracks reading system.client reported) ?_ ?_
  · rintro system ⟨-, isClient⟩
    rw [isClient]
    exact ⟨by simp, by simp⟩
  · intro system reported action next observed tracks taken
    cases step_effect taken with
    | quiet sameConn nothing restaged =>
        obtain ⟨stage, isClient, bare⟩ := restaged
        rw [isClient]
        exact tracks.restage bare
    | native connAction stepped tracked => exact tracked reported tracks

theorem stream_of_run {history : History Key Value}
    (run : Run (machine reading) history system) :
    ∃ streamHistory, Run SequencedStream.machine streamHistory (EventStream.stream system.conn) ∧
      log streamHistory = (log history).filterMap EventStream.view := by
  refine run.simulate (fun system => EventStream.stream system.conn) ?_ ?_
  · rintro system ⟨⟨capacity, -, isConn⟩, -⟩
    rw [isConn]
    exact ⟨rfl, rfl⟩
  · intro earlier system action next observed _ taken
    cases step_effect taken with
    | quiet sameConn nothing restaged =>
        rw [sameConn, nothing]
        exact .refl _
    | native connAction stepped tracked => exact EventStream.step_steps stepped

end Steps

section Mirroring

variable {Key Value : Type} [DecidableEq Key] {reading : Reading Key Value}

/-- The events of a generation published under the numbers behind the first one, up to the
last, in the order of their publication. -/
def published (generation first last : Nat) (reported : List Connection.Observation) :
    List EventPayload :=
  between generation first last (reported.filterMap EventStream.view)

/-- A projection is what the client captured, changed by all the events published since then
under the numbers up to its own: no number is left out, none of these events asks for a new
snapshot, and the last change of a key decides. -/
def Mirrors (reading : Reading Key Value) (projection : RuntimeProjection Key Value)
    (reported : List Connection.Observation) : Prop :=
  ∃ before start subject after,
    reported = before ++ .captured helperReader projection.generation start subject :: after ∧
    let events := published projection.generation start projection.sequence after
    start ≤ projection.sequence ∧
    events.map EventPayload.sequence = List.range' (start + 1) (projection.sequence - start) ∧
    (∀ event ∈ events, event.requiresResnapshot = false) ∧
    projection.objects = (events.map reading.change).foldl Replay.apply
      (reading.objects projection.generation start) ∧
    ∀ key, projection.objects.lookup key = outcome key (events.map reading.change)
      ((reading.objects projection.generation start).lookup key)

/-- Whatever other threads do, what a client holds mirrors the connection. -/
theorem projection_of_run {history : History Key Value} {system : System Key Value}
    (run : Run (machine reading) history system) {projection : RuntimeProjection Key Value}
    (isProjection : system.client.projection = some projection) :
    Mirrors reading projection (log history) := by
  obtain ⟨before, start, subject, after, seen, split, delivered, atSequence, isObjects⟩ :=
    (tracks_of_run run).projected projection isProjection
  obtain ⟨streamHistory, streamRun, streamLog⟩ := stream_of_run run
  have sound := SequencedStream.sound_of_run streamRun
  have viewed : (log history).filterMap EventStream.view = before.filterMap EventStream.view ++
      .snapshot helperReader projection.generation start :: after.filterMap EventStream.view := by
    rw [split, List.filterMap_append, List.filterMap_cons]
    rfl
  rw [streamLog, viewed] at sound
  have consumed : consume projection.generation start seen =
      published projection.generation start projection.sequence after := by
    rw [published, atSequence]
    refine Replay.consume_eq sound fun event member => ?_
    rw [← viewed]
    exact SequencedStream.mem_deliveries.mpr
      ⟨helperReader, List.mem_filterMap.mpr ⟨_, delivered event member, rfl⟩⟩
  have stamped := SequencedStream.consume_stamps projection.generation start seen
  rw [consumed] at atSequence isObjects stamped
  refine ⟨before, start, subject, after, split, by omega, ?_, ?_, isObjects, fun key => ?_⟩
  · have numbers := congrArg (List.map fun stamp => (ofLex stamp).2) stamped
    simp only [List.map_map, Function.comp_def, stamp, ofLex_toLex, List.map_id'] at numbers
    have span : projection.sequence - start =
        (published projection.generation start projection.sequence after).length := by omega
    rw [span]
    exact numbers
  · intro event member
    rw [← consumed] at member
    exact (SequencedStream.mem_consume member).2
  · rw [isObjects, Replay.lookup_foldl]

/-- A client on a connection with the snapshot `[(0, 0)]`; each event replaces the object of
its kind. -/
def kindReading : Reading Connection.EventKind Nat where
  objects _ _ := [(.objectRemoved, 0)]
  change event :=
    (event.kind, if event.kind = .objectRemoved then .removed else .replaced event.sequence)

/-- Two events race with the capture; two more are projected one by one. -/
def racingEvents : List Action :=
  [.connection .mixerApiLoaded, .connection .coreConnected, .connection .omInstalled,
    .admitCapture, .postCapture, .connection (.capture 0 true), .connection .captureReset,
    .connection (.objectSignal .objectAdded true),
    .connection (.objectSignal .propertiesChanged true), .drainEvents true,
    .connection (.objectSignal .propertiesChanged true),
    .connection (.objectSignal .objectRemoved true), .projectNextEvent true,
    .projectNextEvent true]

theorem projection_racingEvents : ∃ history system projection,
    Run (machine kindReading) history system ∧ system.client.projection = some projection ∧
      projection.sequence = 6 ∧ projection.objects = [(.objectAdded, 3), (.objectChanged, 5)] ∧
      Mirrors kindReading projection (log history) := by
  have run := exec_run racingEvents (.start ⟨⟨4, by decide, rfl⟩, rfl⟩ :
    Run (machine kindReading) [] ⟨Connection.new 4, .admitting, none⟩) rfl
  exact ⟨_, _, _, run, rfl, rfl, rfl, projection_of_run run rfl⟩

end Mirroring

section Recovery

variable {Key Value : Type} [DecidableEq Key] {reading : Reading Key Value}
  {system next : System Key Value} {projection : RuntimeProjection Key Value}

/-- An event that the projection still needs left the queue: it was discarded, or another
thread read it. -/
def Missed (projection : RuntimeProjection Key Value) (reported : List Connection.Observation) :
    Prop :=
  ∃ event, EventStream.Lost reported event ∧ event.generation = projection.generation ∧
    projection.sequence < event.sequence

/-- Behind a loss a client applies nothing more: the next event makes it capture again, and
until then its projection stays. -/
theorem missed_recaptures {history : History Key Value}
    (run : Run (machine reading) history system)
    (isProjection : system.client.projection = some projection)
    (missed : Missed projection (log history)) {observed : List Connection.Observation}
    (taken : step reading system (.projectNextEvent true) = some (next, observed)) :
    next.client.projection = some projection ∧
      (system.conn.runtimeEvents ≠ [] → next.client.stage = .admitting) := by
  obtain ⟨lost, isLost, sameGeneration, beyond⟩ := missed
  obtain ⟨streamHistory, streamRun, streamLog⟩ := stream_of_run run
  have sound := SequencedStream.sound_of_run streamRun
  rw [streamLog] at sound
  simp only [step] at taken
  split at taken
  · simp only [stepClient, isProjection] at taken
    split at taken
    · rename_i held atStage isHeld
      obtain rfl : projection = held := Option.some.inj isHeld
      obtain ⟨-, isClient⟩ := native_some taken
      rw [isClient]
      cases queued : system.conn.runtimeEvents with
      | nil => exact ⟨isProjection, fun notEmpty => absurd rfl notEmpty⟩
      | cons event rest =>
          have rejected : continues projection.generation projection.sequence event = false := by
            refine sound.gap_rejected (EventStream.lost_gone isLost) sameGeneration beyond ?_
            change event ∈ system.conn.runtimeEvents
            rw [queued]
            exact List.mem_cons_self
          obtain ⟨error, isError⟩ := EventStream.requireEventContinuity_error rejected
          have refused : projection.apply reading event = .error error := by
            rw [RuntimeProjection.apply, isError]
          have recaptures : projectEvent reading system.client projection event =
              { system.client with stage := .admitting } := by
            rw [projectEvent, refused]
          change (projectEvent reading system.client projection event).projection = _ ∧
            (_ → (projectEvent reading system.client projection event).stage = _)
          rw [recaptures]
          exact ⟨isProjection, fun _ => rfl⟩
    · cases taken
  · cases taken

/-- Another thread reads the first of two events. -/
def stolenEvent : List Action :=
  racingEvents.take 7 ++ ([.drainEvents true, .connection (.objectSignal .objectAdded true),
    .connection (.objectSignal .propertiesChanged true), .connection (.drainEvents 8 1)] :
    List Action)

theorem missed_stolenEvent : ∃ history system next observed projection,
    Run (machine kindReading) history system ∧
      step kindReading system (.projectNextEvent true) = some (next, observed) ∧
      next.client.projection = some projection ∧ next.client.stage = .admitting := by
  have run := exec_run stolenEvent (.start ⟨⟨4, by decide, rfl⟩, rfl⟩ :
    Run (machine kindReading) [] ⟨Connection.new 4, .admitting, none⟩) rfl
  obtain ⟨kept, recaptured⟩ := missed_recaptures run rfl
    ⟨⟨1, 3, .objectAdded, some 0, false⟩, .inr ⟨8, (by decide)⟩, rfl, (by decide)⟩ rfl
  exact ⟨_, _, _, _, _, run, rfl, kept, recaptured (by decide)⟩

end Recovery

end WyrePlumber.Coordination.Projection
