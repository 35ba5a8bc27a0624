import WyrePlumber.Library.Machine
import WyrePlumber.Runtime.Values

/-!
# The Python event queue

`RuntimeEventQueue` and `require_event_continuity`.  Every method body runs
under the condition's lock, so each is one step; a read that finds nothing waits
outside the lock and evaluates its loop again when it is woken or times out.
-/

set_option autoImplicit false
set_option linter.constructorNameAsVariable false

namespace WyrePlumber.Runtime.EventQueue

open Python
open LabelledMachine

/-- `RuntimeEvent`; its `__post_init__` accepted it. -/
structure RuntimeEvent where
  generation : Nat
  sequence : Nat
  occurredAt : PyString
  kind : RuntimeEventKind
  objectKind : RuntimeObjectKind
  objectId : PyValue
  current : PyValue
  previous : PyValue
  requiresResnapshot : Bool
  reason : Option PyString
  resnapshotKind : kind = .discontinuity ∨ kind = .resnapshotRequired → requiresResnapshot = true
  addedCurrent : kind = .objectAdded → current ≠ .none
  removedPrevious : kind = .objectRemoved → previous ≠ .none

def discontinuity (generation sequence : Nat) (occurredAt reason : PyString) : RuntimeEvent where
  generation := generation
  sequence := sequence
  occurredAt := occurredAt
  kind := .discontinuity
  objectKind := .runtime
  objectId := .str (text "runtime")
  current := .none
  previous := .none
  requiresResnapshot := true
  reason := some reason
  resnapshotKind _ := rfl
  addedCurrent isAdded := by cases isAdded
  removedPrevious isRemoved := by cases isRemoved

def shown (number : Nat) : PyString := text (toString number)

/-- `reason or default`; an empty text counts as none. -/
def orText (reason : Option PyString) (default : String) : PyString :=
  (reason.filter (!·.isEmpty)).getD (text default)

section Continuity

structure RuntimeContinuityError where
  code : PyString
  message : PyString
  expectedGeneration : Nat
  expectedSequence : Nat
  event : RuntimeEvent

def requireEventContinuity (event : RuntimeEvent) (generation sequence : Nat) :
    Except RuntimeContinuityError RuntimeEvent :=
  let refused (code message : PyString) : Except RuntimeContinuityError RuntimeEvent :=
    .error ⟨code, message, generation, sequence + 1, event⟩
  if event.generation ≠ generation then
    refused (text "generation_changed")
      (text "event generation " ++ shown event.generation ++ text " does not match projection " ++
        shown generation)
  else if event.sequence ≠ sequence + 1 then
    refused (text "sequence_gap")
      (text "expected event sequence " ++ shown (sequence + 1) ++ text ", received " ++
        shown event.sequence)
  else if event.requiresResnapshot then
    refused (text "resnapshot_required")
      (orText event.reason "event invalidates incremental continuity")
  else .ok event

/-- The event immediately follows the projection. -/
def Continues (event : RuntimeEvent) (generation sequence : Nat) : Prop :=
  event.generation = generation ∧ event.sequence = sequence + 1 ∧ event.requiresResnapshot = false

instance (event : RuntimeEvent) (generation sequence : Nat) :
    Decidable (Continues event generation sequence) :=
  inferInstanceAs (Decidable (_ ∧ _ ∧ _))

theorem requireEventContinuity_ok_iff {event result : RuntimeEvent} {generation sequence : Nat} :
    requireEventContinuity event generation sequence = .ok result ↔
      Continues event generation sequence ∧ result = event := by
  unfold requireEventContinuity Continues
  by_cases sameGeneration : event.generation = generation
  · by_cases next : event.sequence = sequence + 1
    · cases marked : event.requiresResnapshot with
      | true => simp [sameGeneration, next]
      | false => simp [sameGeneration, next, eq_comm]
    · simp [sameGeneration, next]
  · simp [sameGeneration]

end Continuity

/-- `RuntimeEventQueue`, without its lock. -/
structure Queue where
  capacity : Nat
  events : List RuntimeEvent
  generation : Nat
  sequence : Nat
  closed : Bool
  resnapshotRequired : Bool
  discontinuityReason : Option PyString

def Queue.new (capacity generation sequence : Nat) : Queue :=
  ⟨capacity, [], generation, sequence, false, false, none⟩

/-- `_invalidate`, at the given time. -/
def Queue.invalidate (queue : Queue) (now : PyString) (event : RuntimeEvent) (reason : PyString) :
    Queue :=
  { queue with
    events := [discontinuity event.generation event.sequence now reason]
    generation := event.generation
    sequence := event.sequence
    resnapshotRequired := true
    discontinuityReason := some reason }

/-- `publish`: the queue afterwards and the answer. -/
def Queue.publish (queue : Queue) (now : PyString) (event : RuntimeEvent) : Queue × Bool :=
  if queue.closed || queue.resnapshotRequired then (queue, false)
  else if event.generation ≠ queue.generation then
    (queue.invalidate now event (text "connection generation changed from " ++
      shown queue.generation ++ text " to " ++ shown event.generation), true)
  else if event.sequence ≠ queue.sequence + 1 then
    (queue.invalidate now event (text "expected event sequence " ++ shown (queue.sequence + 1) ++
      text ", received " ++ shown event.sequence), true)
  else if event.requiresResnapshot then
    ({ queue with
        events := [event]
        generation := event.generation
        sequence := event.sequence
        resnapshotRequired := true
        discontinuityReason := some (orText event.reason "event requires a new snapshot") }, true)
  else if queue.capacity ≤ queue.events.length then
    (queue.invalidate now event
      (text "event queue capacity " ++ shown queue.capacity ++ text " exceeded"), true)
  else ({ queue with events := queue.events ++ [event], sequence := event.sequence }, true)

inductive QueueError where
  | empty
  | closed
  | resnapshotRequired (generation sequence : Nat) (reason : PyString)

/-- What one evaluation of the loop of `get` does. -/
inductive Attempt where
  | delivers (event : RuntimeEvent) (rest : List RuntimeEvent)
  | raises (error : QueueError)
  | waits

/-- The loop condition and body of `get`; it gives up when it may not block or
its deadline has passed. -/
def Queue.attempt (queue : Queue) (givesUp : Bool) : Attempt :=
  match queue.events with
  | event :: rest => .delivers event rest
  | [] =>
      if queue.closed then .raises .closed
      else if queue.resnapshotRequired then
        .raises (.resnapshotRequired queue.generation queue.sequence
          (orText queue.discontinuityReason "incremental continuity was lost"))
      else if givesUp then .raises .empty
      else .waits

def Queue.reset (queue : Queue) (generation sequence : Nat) : Queue :=
  { queue with
    events := []
    generation := generation
    sequence := sequence
    resnapshotRequired := false
    discontinuityReason := none }

/-- A blocked or woken `get`. -/
structure Waiter where
  thread : Nat
  timed : Bool

/-- The queue with the reads that wait for it: blocked ones in the order in
which `notify` wakes them, and woken ones that have not run again. -/
structure State where
  queue : Queue
  blocked : List Waiter
  woken : List Waiter

inductive Action where
  | publish (thread : Nat) (event : RuntimeEvent) (now : PyString)
  | get (waiter : Waiter) (givesUp : Bool)
  /-- A woken read runs; a timed one may find its deadline passed. -/
  | resume (waiter : Waiter) (expired : Bool)
  /-- The wait of a blocked read times out. -/
  | timeout (waiter : Waiter)
  | reset (thread generation sequence : Nat)
  | close (thread : Nat)

inductive Report where
  | published (event : RuntimeEvent) (accepted : Bool)
  /-- An event that is handed out no more. -/
  | dropped (event : RuntimeEvent)
  | handedOut (thread : Nat) (event : RuntimeEvent)
  | raised (thread : Nat) (error : QueueError)
  | reset (generation sequence : Nat)
  | closed

/-- The events that a publication takes out of the stream. -/
def Queue.droppedBy (queue : Queue) (event : RuntimeEvent) : List RuntimeEvent :=
  if queue.closed || queue.resnapshotRequired then [event]
  else if event.generation ≠ queue.generation ∨ event.sequence ≠ queue.sequence + 1 then
    queue.events ++ [event]
  else if event.requiresResnapshot then queue.events
  else if queue.capacity ≤ queue.events.length then queue.events ++ [event]
  else []

def State.notifyAll (state : State) : State :=
  { state with blocked := [], woken := state.woken ++ state.blocked }

def State.notify (state : State) : State :=
  { state with blocked := state.blocked.drop 1, woken := state.woken ++ state.blocked.take 1 }

/-- A read evaluates its loop and returns, raises or waits. -/
def State.read (state : State) (waiter : Waiter) (givesUp : Bool) : State × List Report :=
  match state.queue.attempt givesUp with
  | .delivers event rest =>
      ({ state with queue := { state.queue with events := rest } },
        [.handedOut waiter.thread event])
  | .raises error => (state, [.raised waiter.thread error])
  | .waits => ({ state with blocked := state.blocked ++ [waiter] }, [])

def State.publish (state : State) (event : RuntimeEvent) (now : PyString) : State × List Report :=
  let (queue, accepted) := state.queue.publish now event
  let published := { state with queue := queue }
  let reports := .published event accepted :: (state.queue.droppedBy event).map Report.dropped
  if !accepted then (published, reports)
  else if queue.resnapshotRequired then (published.notifyAll, reports)
  else (published.notify, reports)

/-- The first of the equal waiters is removed. -/
def remove (waiter : Waiter) (waiters : List Waiter) : List Waiter :=
  waiters.eraseP fun other => other.thread = waiter.thread && other.timed = waiter.timed

def isIn (waiter : Waiter) (waiters : List Waiter) : Bool :=
  waiters.any fun other => other.thread = waiter.thread && other.timed = waiter.timed

def step (state : State) : Action → Option (State × List Report)
  | .publish _ event now => some (state.publish event now)
  | .get waiter givesUp =>
      if (state.blocked ++ state.woken).any fun other => other.thread = waiter.thread then none
      else some (state.read waiter givesUp)
  | .resume waiter expired =>
      if isIn waiter state.woken then
        some ({ state with woken := remove waiter state.woken }.read waiter (waiter.timed && expired))
      else none
  | .timeout waiter =>
      if waiter.timed && isIn waiter state.blocked then
        some ({ state with blocked := remove waiter state.blocked }.read waiter true)
      else none
  | .reset thread generation sequence =>
      if state.queue.closed then some (state, [.raised thread .closed])
      else
        some ({ state with queue := state.queue.reset generation sequence }.notifyAll,
          state.queue.events.map Report.dropped ++ [.reset generation sequence])
  | .close _ => some ({ state with queue := { state.queue with closed := true } }.notifyAll, [.closed])

/-- The queue that a call of the class makes, with every interleaving of the
threads that use it. -/
def machine (capacity generation sequence : Nat) : Machine State Action Report where
  initial state :=
    state = ⟨Queue.new capacity generation sequence, [], []⟩ ∧ 1 ≤ capacity
  step := step

end WyrePlumber.Runtime.EventQueue
