import Mathlib.Logic.Function.Basic
import WyrePlumber.Library.Machine

/-!
# The call slot of a connection

The blocking calls of application threads share `call_completed`, `call_cond`,
`call_result` and `call_error` of one `WPConnection`.  A label is one critical
section of a caller or one stage of a handler on the WirePlumber thread.  What
WirePlumber answers and which waiters `g_cond_signal` wakes is in the labels.
-/

set_option autoImplicit false

namespace WyrePlumber.Native.CallSlot

open LabelledMachine

/-- The native calls that wait on the slot.  `WPMetadata.set` and `.clear` wait
a second time, as a `sync`. -/
inductive CallKind where
  | sync
  | reconnect
  | getNodes
  | getModules
  | getMetadata
  | loadModule
  | deleteNode
  | metadataFind
  | metadataIterate
  | metadataSet
  | metadataClear
  | enumParams
  | getParamInfo
  | getParams
  | setParam
  deriving DecidableEq, Repr

/-- Where the calling thread stands.  A blocked thread sits in `g_cond_wait`. -/
inductive Caller where
  | preparing
  | testing
  | blocked
  | returned
  deriving DecidableEq, Repr

/-- Where the call's source on the WirePlumber context stands.  The handler of a
`sync` is `on_sync_done`; it is `started` once `wp_core_sync` runs. -/
inductive Handler where
  | absent
  | pending
  | started
  | finished
  deriving DecidableEq, Repr

/-- One use of the slot.  `result` is the caller's own data block, which starts
as NULL or FALSE; a `sync` has none and is answered through the connection. -/
structure Call (Value : Type) where
  kind : CallKind
  caller : Caller
  handler : Handler
  result : Option Value

structure WPConnection (Value Error : Type) where
  callCompleted : Bool
  callResult : Bool
  callError : Option Error
  calls : Nat → Option (Call Value)
  begun : Nat
  wpThread : Option Nat

/-- What a caller takes along when it leaves the wait. -/
inductive Reply (Value Error : Type) where
  | synced (success : Bool) (error : Option Error)
  | data (result : Option Value)
  deriving DecidableEq, Repr

inductive Observation (Value Error : Type) where
  | finished (id : Nat) (reply : Reply Value Error)
  | returned (id : Nat) (reply : Reply Value Error)
  deriving DecidableEq, Repr

inductive Action (Value Error : Type) where
  -- application threads
  | reset (kind : CallKind)
  | attach (id : Nat)
  | test (id : Nat)
  | wake (id : Nat)
  -- the WirePlumber thread
  | handle (id : Nat) (result : Option Value)
  | signal (id : Nat) (woken : List Nat)
  | startSync (id : Nat)
  | onSyncDone (id : Nat) (ok : Bool) (error : Option Error) (woken : List Nat)

variable {Value Error : Type}

def new : WPConnection Value Error where
  callCompleted := false
  callResult := false
  callError := none
  calls := fun _ => none
  begun := 0
  wpThread := none

def WPConnection.setCall (conn : WPConnection Value Error) (id : Nat) (call : Call Value) :
    WPConnection Value Error :=
  { conn with calls := Function.update conn.calls id (some call) }

def WPConnection.isBlocked (conn : WPConnection Value Error) (id : Nat) : Bool :=
  (conn.calls id).any fun call => call.caller == .blocked

/-- `g_cond_signal` wakes at least one blocked thread when there is one. -/
def WPConnection.wakes (conn : WPConnection Value Error) (woken : List Nat) : Bool :=
  woken.all conn.isBlocked &&
    (!woken.isEmpty || (List.range conn.begun).all fun id => !conn.isBlocked id)

def wakeCall (conn : WPConnection Value Error) (id : Nat) : WPConnection Value Error :=
  match conn.calls id with
  | some call =>
      if call.caller = .blocked then conn.setCall id { call with caller := .testing } else conn
  | none => conn

/-- The end of every handler: set the flag and signal under `call_lock`. -/
def signalCallCompleted (conn : WPConnection Value Error) (woken : List Nat) :
    WPConnection Value Error :=
  woken.foldl wakeCall { conn with callCompleted := true }

/-- The reset before the source is attached; only a `sync` clears the shared
result and error. -/
def resetCall (conn : WPConnection Value Error) (kind : CallKind) : WPConnection Value Error :=
  let fresh : WPConnection Value Error :=
    { conn with
      callCompleted := false
      calls := Function.update conn.calls conn.begun
        (some { kind := kind, caller := .preparing, handler := .absent, result := none })
      begun := conn.begun + 1 }
  if kind = .sync then { fresh with callResult := false, callError := none } else fresh

/-- The caller found the flag set and leaves the wait. -/
def returnCall (conn : WPConnection Value Error) (id : Nat) (call : Call Value) :
    WPConnection Value Error × List (Observation Value Error) :=
  let left := conn.setCall id { call with caller := .returned }
  if call.kind = .sync then
    ({ left with callError := none },
      [.returned id (.synced conn.callResult conn.callError)])
  else (left, [.returned id (.data call.result)])

def stepCaller (conn : WPConnection Value Error) (id : Nat) (call : Call Value) :
    Action Value Error → Option (WPConnection Value Error × List (Observation Value Error))
  | .attach _ =>
      if call.caller = .preparing then
        some (conn.setCall id { call with caller := .testing, handler := .pending }, [])
      else none
  | .test _ =>
      if call.caller = .testing then
        if conn.callCompleted then some (returnCall conn id call)
        else some (conn.setCall id { call with caller := .blocked }, [])
      else none
  | .wake _ =>
      if call.caller = .blocked then
        some (conn.setCall id { call with caller := .testing }, [])
      else none
  | _ => none

def stepHandler (conn : WPConnection Value Error) (id : Nat) (call : Call Value) :
    Action Value Error → Option (WPConnection Value Error × List (Observation Value Error))
  | .handle _ result =>
      if call.kind ≠ .sync ∧ call.handler = .pending ∧ conn.wpThread = none then
        some ({ conn.setCall id { call with handler := .started, result := result } with
          wpThread := some id }, [])
      else none
  | .signal _ woken =>
      if conn.wpThread = some id ∧ conn.wakes woken then
        some ({ signalCallCompleted (conn.setCall id { call with handler := .finished }) woken with
            wpThread := none },
          [.finished id (.data call.result)])
      else none
  | .startSync _ =>
      if call.kind = .sync ∧ call.handler = .pending ∧ conn.wpThread = none then
        some (conn.setCall id { call with handler := .started }, [])
      else none
  | .onSyncDone _ ok error woken =>
      if call.kind = .sync ∧ call.handler = .started ∧ conn.wpThread = none ∧
          conn.wakes woken then
        some (signalCallCompleted
            { conn.setCall id { call with handler := .finished } with
              callResult := ok && error.isNone, callError := error } woken,
          [.finished id (.synced (ok && error.isNone) error)])
      else none
  | _ => none

def step (conn : WPConnection Value Error) (action : Action Value Error) :
    Option (WPConnection Value Error × List (Observation Value Error)) :=
  match action with
  | .reset kind => some (resetCall conn kind, [])
  | .attach id | .test id | .wake id =>
      (conn.calls id).bind fun call => stepCaller conn id call action
  | .handle id _ | .signal id _ | .startSync id | .onSyncDone id _ _ _ =>
      (conn.calls id).bind fun call => stepHandler conn id call action

def machine (Value Error : Type) :
    Machine (WPConnection Value Error) (Action Value Error) (Observation Value Error) where
  initial conn := conn = new
  step := step

/-! ## The condition and the invariant -/

/-- The call has reset the slot and has not left the wait. -/
def Waiting (conn : WPConnection Value Error) (id : Nat) (call : Call Value) : Prop :=
  conn.calls id = some call ∧ call.caller ≠ .returned

/-- The caller has left the wait or may leave it with its own reply. -/
def Call.answered (call : Call Value) : Bool :=
  call.caller == .returned || call.handler == .finished

/-- A `sync` whose caller has yet to read the shared result. -/
def Call.unread (call : Call Value) : Bool :=
  call.kind == .sync && call.handler == .finished && call.caller != .returned

/-- A handler signals only when no other caller still waits for its own handler,
and a `sync` clears the shared result only when no other `sync` has yet to read it. -/
def Undisturbed (conn : WPConnection Value Error) : Action Value Error → Prop
  | .signal id _ | .onSyncDone id _ _ _ =>
      ∀ other < conn.begun, other ≠ id → (conn.calls other).all Call.answered = true
  | .reset .sync => ∀ other < conn.begun, (conn.calls other).any Call.unread = false
  | _ => True

instance (conn : WPConnection Value Error) (action : Action Value Error) :
    Decidable (Undisturbed conn action) := by
  cases action with
  | reset kind => cases kind <;> unfold Undisturbed <;> infer_instance
  | _ => unfold Undisturbed; infer_instance

/-- Every return comes after the call's own handler and carries its reply. -/
def OwnReply (reported : List (Observation Value Error)) : Prop :=
  ∀ before id reply after, reported = before ++ .returned id reply :: after →
    Observation.finished id reply ∈ before

theorem ownReply_of_no_return {reported observed : List (Observation Value Error)}
    (own : OwnReply reported) (quiet : ∀ id reply, Observation.returned id reply ∉ observed) :
    OwnReply (reported ++ observed) := by
  intro before id reply after split
  rcases List.append_eq_append_iff.mp split with
    ⟨unread, rfl, inObserved⟩ | ⟨unread, inReported, tail⟩
  · exact absurd (inObserved ▸ List.mem_append_right _ List.mem_cons_self) (quiet id reply)
  · cases unread with
    | nil =>
        have here : Observation.returned id reply ∈ observed := by
          rw [List.nil_append] at tail
          exact tail ▸ List.mem_cons_self
        exact absurd here (quiet id reply)
    | cons head rest =>
        obtain ⟨rfl, -⟩ := List.cons.inj tail
        exact own before id reply rest inReported

theorem ownReply_of_return {reported : List (Observation Value Error)}
    (own : OwnReply reported) {id : Nat} {reply : Reply Value Error}
    (finished : Observation.finished id reply ∈ reported) :
    OwnReply (reported ++ [.returned id reply]) := by
  intro before other answer after split
  rcases List.eq_nil_or_concat after with rfl | ⟨front, last, rfl⟩
  · obtain ⟨rfl, same⟩ := List.append_inj' split rfl
    cases same
    exact finished
  · have aligned : reported ++ [.returned id reply] =
        (before ++ .returned other answer :: front) ++ [last] := by
      simpa using split
    exact own before other answer front (List.append_inj' aligned rfl).1

structure SlotInvariant (conn : WPConnection Value Error)
    (reported : List (Observation Value Error)) : Prop where
  fresh : ∀ id, conn.begun ≤ id → conn.calls id = none
  absent : ∀ id call, conn.calls id = some call → call.caller = .preparing →
    call.handler = .absent
  answered : ∀ id call, conn.calls id = some call → call.caller = .returned →
    call.handler = .finished
  running : ∀ id, conn.wpThread = some id →
    ∃ call, conn.calls id = some call ∧ call.kind ≠ .sync ∧ call.handler = .started
  completed : conn.callCompleted = true →
    ∀ id call, Waiting conn id call → call.handler = .finished
  data : ∀ id call, conn.calls id = some call → call.kind ≠ .sync →
    call.handler = .finished → .finished id (.data call.result) ∈ reported
  synced : ∀ id call, Waiting conn id call → call.kind = .sync → call.handler = .finished →
    .finished id (.synced conn.callResult conn.callError) ∈ reported
  alone : ∀ id call other answered, Waiting conn id call → call.kind = .sync →
    Waiting conn other answered → answered.kind = .sync → answered.handler = .finished →
      id = other
  own : OwnReply reported

/-! ## Waking blocked callers -/

/-- A call after some callers were woken. -/
def Awakened (before after : Option (Call Value)) : Prop :=
  after = before ∨ ∃ call, before = some call ∧ call.caller = .blocked ∧
    after = some { call with caller := .testing }

theorem wakeCall_spec (conn : WPConnection Value Error) (id : Nat) :
    ∃ calls, wakeCall conn id = { conn with calls := calls } ∧
      ∀ other, Awakened (conn.calls other) (calls other) := by
  unfold wakeCall
  split
  · rename_i call found
    split
    · rename_i blocked
      refine ⟨_, rfl, ?_⟩
      intro other
      by_cases same : other = id
      · subst same
        exact .inr ⟨call, found, blocked, by simp⟩
      · exact .inl (by simp [same])
    · exact ⟨_, rfl, fun _ => .inl rfl⟩
  · exact ⟨_, rfl, fun _ => .inl rfl⟩

theorem Awakened.trans {first second third : Option (Call Value)}
    (earlier : Awakened first second) (later : Awakened second third) :
    Awakened first third := by
  rcases earlier with rfl | ⟨call, found, blocked, rfl⟩
  · exact later
  · rcases later with rfl | ⟨woken, same, stillBlocked, rfl⟩
    · exact .inr ⟨call, found, blocked, rfl⟩
    · cases same
      cases stillBlocked

theorem wakeCalls_spec (woken : List Nat) (conn : WPConnection Value Error) :
    ∃ calls, woken.foldl wakeCall conn = { conn with calls := calls } ∧
      ∀ other, Awakened (conn.calls other) (calls other) := by
  induction woken generalizing conn with
  | nil => exact ⟨_, rfl, fun _ => .inl rfl⟩
  | cons id rest inductionHypothesis =>
      obtain ⟨firstCalls, first, firstAwakened⟩ := wakeCall_spec conn id
      obtain ⟨calls, later, awakened⟩ := inductionHypothesis (wakeCall conn id)
      refine ⟨calls, ?_, ?_⟩
      · rw [List.foldl_cons, later, first]
      · intro other
        have inFirst := awakened other
        rw [first] at inFirst
        exact (firstAwakened other).trans inFirst

/-- What a woken call was before: the same kind, handler and result. -/
theorem Awakened.of_some {before : Option (Call Value)} {call : Call Value}
    (awakened : Awakened before (some call)) :
    ∃ earlier, before = some earlier ∧ earlier.kind = call.kind ∧
      earlier.handler = call.handler ∧ earlier.result = call.result ∧
      (call.caller = earlier.caller ∨ earlier.caller = .blocked ∧ call.caller = .testing) := by
  rcases awakened with same | ⟨earlier, found, blocked, woken⟩
  · exact ⟨call, same.symm, rfl, rfl, rfl, .inl rfl⟩
  · cases woken
    exact ⟨earlier, found, rfl, rfl, rfl, .inr ⟨blocked, rfl⟩⟩

/-! ## Preservation -/

@[simp] theorem setCall_calls_self (conn : WPConnection Value Error) (id : Nat)
    (call : Call Value) : (conn.setCall id call).calls id = some call := by
  simp [WPConnection.setCall]

theorem setCall_calls_of_ne (conn : WPConnection Value Error) {id other : Nat}
    (call : Call Value) (differ : other ≠ id) :
    (conn.setCall id call).calls other = conn.calls other := by
  simp [WPConnection.setCall, differ]

theorem SlotInvariant.append {conn : WPConnection Value Error}
    {reported observed : List (Observation Value Error)}
    (invariant : SlotInvariant conn reported) (own : OwnReply (reported ++ observed)) :
    SlotInvariant conn (reported ++ observed) where
  fresh := invariant.fresh
  absent := invariant.absent
  answered := invariant.answered
  running := invariant.running
  completed := invariant.completed
  data id call found kind finished :=
    List.mem_append_left _ (invariant.data id call found kind finished)
  synced id call waiting kind finished :=
    List.mem_append_left _ (invariant.synced id call waiting kind finished)
  alone := invariant.alone
  own := own

theorem SlotInvariant.lt_of_found {conn : WPConnection Value Error}
    {reported : List (Observation Value Error)} (invariant : SlotInvariant conn reported)
    {id : Nat} {call : Call Value} (found : conn.calls id = some call) : id < conn.begun := by
  by_contra unused
  have unknown : conn.calls id = none := invariant.fresh id (by omega)
  rw [found] at unknown
  cases unknown

theorem SlotInvariant.finished_of_answered {conn : WPConnection Value Error}
    {reported : List (Observation Value Error)} (invariant : SlotInvariant conn reported)
    {id : Nat} (answered : ∀ other < conn.begun, other ≠ id →
      (conn.calls other).all Call.answered = true)
    (other : Nat) (call : Call Value) (differ : other ≠ id) (waiting : Waiting conn other call) :
    call.handler = .finished := by
  have checked := answered other (invariant.lt_of_found waiting.1) differ
  rw [waiting.1] at checked
  simpa [Call.answered, waiting.2] using checked

theorem SlotInvariant.unfinished_of_read {conn : WPConnection Value Error}
    {reported : List (Observation Value Error)} (invariant : SlotInvariant conn reported)
    (undisturbed : Undisturbed conn (.reset .sync))
    (id : Nat) (call : Call Value) (waiting : Waiting conn id call) (isSync : call.kind = .sync) :
    call.handler ≠ .finished := by
  intro finished
  have checked := undisturbed id (invariant.lt_of_found waiting.1)
  rw [waiting.1] at checked
  simp [Call.unread, isSync, finished, waiting.2] at checked

/-- What a step may do to one call without touching the rest of the slot. -/
structure Advances (conn : WPConnection Value Error) (id : Nat) (call updated : Call Value) :
    Prop where
  found : conn.calls id = some call
  kind : updated.kind = call.kind
  finished : updated.handler = .finished →
    call.handler = .finished ∧ updated.result = call.result
  waiting : updated.caller ≠ .returned → call.caller ≠ .returned
  completed : conn.callCompleted = true → updated.caller ≠ .returned →
    updated.handler = .finished
  absent : updated.caller = .preparing → updated.handler = .absent
  answered : updated.caller = .returned → updated.handler = .finished
  running : conn.wpThread = some id → updated.handler = .started

theorem Advances.before {conn : WPConnection Value Error} {id : Nat}
    {call updated : Call Value} (advances : Advances conn id call updated)
    {other : Nat} {now : Call Value} (waiting : Waiting (conn.setCall id updated) other now) :
    ∃ earlier, Waiting conn other earlier ∧ earlier.kind = now.kind ∧
      (now.handler = .finished → earlier.handler = .finished) := by
  obtain ⟨found, unreturned⟩ := waiting
  by_cases same : other = id
  · subst same
    rw [setCall_calls_self] at found
    cases found
    exact ⟨call, ⟨advances.found, advances.waiting unreturned⟩, advances.kind.symm,
      fun finished => (advances.finished finished).1⟩
  · rw [setCall_calls_of_ne conn updated same] at found
    exact ⟨now, ⟨found, unreturned⟩, rfl, fun finished => finished⟩

theorem SlotInvariant.advance {conn : WPConnection Value Error}
    {reported : List (Observation Value Error)} (invariant : SlotInvariant conn reported)
    {id : Nat} {call updated : Call Value} (advances : Advances conn id call updated) :
    SlotInvariant (conn.setCall id updated) reported where
  fresh other unused := by
    by_cases same : other = id
    · subst same
      have unknown : conn.calls other = none := invariant.fresh other unused
      rw [advances.found] at unknown
      cases unknown
    · rw [setCall_calls_of_ne conn updated same]
      exact invariant.fresh other unused
  absent other now found preparing := by
    by_cases same : other = id
    · subst same
      rw [setCall_calls_self] at found
      cases found
      exact advances.absent preparing
    · rw [setCall_calls_of_ne conn updated same] at found
      exact invariant.absent other now found preparing
  answered other now found returned := by
    by_cases same : other = id
    · subst same
      rw [setCall_calls_self] at found
      cases found
      exact advances.answered returned
    · rw [setCall_calls_of_ne conn updated same] at found
      exact invariant.answered other now found returned
  running other runs := by
    obtain ⟨earlier, found, kind, started⟩ := invariant.running other runs
    by_cases same : other = id
    · subst same
      rw [advances.found] at found
      cases found
      exact ⟨updated, setCall_calls_self conn other updated, advances.kind ▸ kind,
        advances.running runs⟩
    · exact ⟨earlier, by rwa [setCall_calls_of_ne conn updated same], kind, started⟩
  completed set other now waiting := by
    by_cases same : other = id
    · subst same
      obtain ⟨found, unreturned⟩ := waiting
      rw [setCall_calls_self] at found
      cases found
      exact advances.completed set unreturned
    · obtain ⟨found, unreturned⟩ := waiting
      rw [setCall_calls_of_ne conn updated same] at found
      exact invariant.completed set other now ⟨found, unreturned⟩
  data other now found kind finished := by
    by_cases same : other = id
    · subst same
      rw [setCall_calls_self] at found
      cases found
      obtain ⟨earlier, result⟩ := advances.finished finished
      rw [result]
      exact invariant.data other call advances.found (advances.kind ▸ kind) earlier
    · rw [setCall_calls_of_ne conn updated same] at found
      exact invariant.data other now found kind finished
  synced other now waiting kind finished := by
    obtain ⟨earlier, before, sameKind, finishedBefore⟩ := advances.before waiting
    exact invariant.synced other earlier before (sameKind.trans kind) (finishedBefore finished)
  alone first now second answered waiting kind waitingSecond kindSecond finished := by
    obtain ⟨_, before, sameKind, -⟩ := advances.before waiting
    obtain ⟨_, beforeSecond, sameSecond, finishedBefore⟩ := advances.before waitingSecond
    exact invariant.alone first _ second _ before (sameKind.trans kind) beforeSecond
      (sameSecond.trans kindSecond) (finishedBefore finished)
  own := invariant.own

theorem resetCall_invariant {conn : WPConnection Value Error}
    {reported : List (Observation Value Error)} (invariant : SlotInvariant conn reported)
    {kind : CallKind} (undisturbed : Undisturbed conn (.reset kind)) :
    SlotInvariant (resetCall conn kind) reported := by
  have unused : conn.calls conn.begun = none := invariant.fresh conn.begun (Nat.le_refl _)
  have calls : (resetCall conn kind).calls = Function.update conn.calls conn.begun
      (some { kind := kind, caller := .preparing, handler := .absent, result := none }) := by
    unfold resetCall
    split <;> rfl
  have begun : (resetCall conn kind).begun = conn.begun + 1 := by
    unfold resetCall
    split <;> rfl
  have cleared : (resetCall conn kind).callCompleted = false := by
    unfold resetCall
    split <;> rfl
  have thread : (resetCall conn kind).wpThread = conn.wpThread := by
    unfold resetCall
    split <;> rfl
  have unstarted {id : Nat} {call : Call Value} (finished : call.handler = .finished)
      (found : (resetCall conn kind).calls id = some call) : conn.calls id = some call := by
    rw [calls] at found
    by_cases same : id = conn.begun
    · subst same
      rw [Function.update_self] at found
      cases found
      cases finished
    · rwa [Function.update_of_ne same] at found
  refine ⟨?_, ?_, ?_, ?_, ?_, ?_, ?_, ?_, invariant.own⟩
  · intro id bound
    rw [begun] at bound
    have differ : id ≠ conn.begun := by omega
    rw [calls, Function.update_of_ne differ]
    exact invariant.fresh id (by omega)
  · intro id call found preparing
    rw [calls] at found
    by_cases same : id = conn.begun
    · subst same
      rw [Function.update_self] at found
      cases found
      rfl
    · rw [Function.update_of_ne same] at found
      exact invariant.absent id call found preparing
  · intro id call found returned
    rw [calls] at found
    by_cases same : id = conn.begun
    · subst same
      rw [Function.update_self] at found
      cases found
      cases returned
    · rw [Function.update_of_ne same] at found
      exact invariant.answered id call found returned
  · intro id runs
    rw [thread] at runs
    obtain ⟨call, found, own, started⟩ := invariant.running id runs
    refine ⟨call, ?_, own, started⟩
    have differ : id ≠ conn.begun := by
      intro same
      rw [same, unused] at found
      cases found
    rw [calls, Function.update_of_ne differ, found]
  · intro set
    rw [cleared] at set
    cases set
  · intro id call found own finished
    exact invariant.data id call (unstarted finished found) own finished
  · intro id call waiting isSync finished
    have before : Waiting conn id call := ⟨unstarted finished waiting.1, waiting.2⟩
    have shared : kind ≠ .sync := by
      intro same
      subst same
      exact invariant.unfinished_of_read undisturbed id call before isSync finished
    have unchanged : (resetCall conn kind).callResult = conn.callResult ∧
        (resetCall conn kind).callError = conn.callError := by
      unfold resetCall
      rw [if_neg shared]
      exact ⟨rfl, rfl⟩
    rw [unchanged.1, unchanged.2]
    exact invariant.synced id call before isSync finished
  · intro id call other answered waiting isSync waitingOther otherSync finished
    have beforeOther : Waiting conn other answered :=
      ⟨unstarted finished waitingOther.1, waitingOther.2⟩
    obtain ⟨found, unreturned⟩ := waiting
    rw [calls] at found
    by_cases same : id = conn.begun
    · subst same
      rw [Function.update_self] at found
      cases found
      cases isSync
      exact absurd finished
        (invariant.unfinished_of_read undisturbed other answered beforeOther otherSync)
    · rw [Function.update_of_ne same] at found
      exact invariant.alone id call other answered ⟨found, unreturned⟩ isSync beforeOther
        otherSync finished

theorem returnCall_invariant {conn : WPConnection Value Error}
    {reported : List (Observation Value Error)} (invariant : SlotInvariant conn reported)
    {id : Nat} {call : Call Value} (found : conn.calls id = some call)
    (testing : call.caller = .testing) (set : conn.callCompleted = true) :
    SlotInvariant (returnCall conn id call).1 (reported ++ (returnCall conn id call).2) := by
  have unreturned : call.caller ≠ .returned := by
    rw [testing]
    decide
  have finished : call.handler = .finished :=
    invariant.completed set id call ⟨found, unreturned⟩
  have advances : Advances conn id call { call with caller := .returned } :=
    { found := found, kind := rfl, finished := fun finished => ⟨finished, rfl⟩,
      waiting := fun absurdity => absurd rfl absurdity,
      completed := fun _ absurdity => absurd rfl absurdity,
      absent := (by intro impossible; cases impossible),
      answered := fun _ => finished,
      running := by
        intro runs
        obtain ⟨running, same, -, started⟩ := invariant.running id runs
        rw [found] at same
        cases same
        rw [finished] at started
        cases started }
  have left := invariant.advance advances
  by_cases isSync : call.kind = .sync
  · have reply : Observation.finished id (.synced conn.callResult conn.callError) ∈ reported :=
      invariant.synced id call ⟨found, unreturned⟩ isSync finished
    have own := left.append (ownReply_of_return left.own reply)
    rw [returnCall, if_pos isSync]
    refine { own with synced := ?_ }
    intro other now waiting otherSync otherFinished
    obtain ⟨earlier, before, sameKind, finishedBefore⟩ := advances.before waiting
    have same : id = other := invariant.alone id call other earlier ⟨found, unreturned⟩
      isSync before (sameKind.trans otherSync) (finishedBefore otherFinished)
    subst same
    obtain ⟨foundNow, stays⟩ := waiting
    have isReturned : some { call with caller := .returned } = some now :=
      (setCall_calls_self conn id _).symm.trans foundNow
    cases isReturned
    exact absurd rfl stays
  · have reply : Observation.finished id (.data call.result) ∈ reported :=
      invariant.data id call found isSync finished
    rw [returnCall, if_neg isSync]
    exact left.append (ownReply_of_return left.own reply)

theorem stepCaller_invariant {conn next : WPConnection Value Error}
    {reported observed : List (Observation Value Error)}
    (invariant : SlotInvariant conn reported) {id : Nat} {call : Call Value}
    (found : conn.calls id = some call) {action : Action Value Error}
    (taken : stepCaller conn id call action = some (next, observed)) :
    SlotInvariant next (reported ++ observed) := by
  have startedOfRunning (runs : conn.wpThread = some id) : call.handler = .started := by
    obtain ⟨running, same, -, started⟩ := invariant.running id runs
    rw [found] at same
    cases same
    exact started
  cases action with
  | attach _ =>
      simp only [stepCaller] at taken
      split at taken
      · rename_i preparing
        cases taken
        have unstarted : call.handler = .absent := invariant.absent id call found preparing
        rw [List.append_nil]
        refine invariant.advance
          { found := found, kind := rfl, finished := (by intro impossible; cases impossible),
            waiting := ?_, completed := ?_, absent := (by intro impossible; cases impossible),
            answered := (by intro impossible; cases impossible), running := ?_ }
        · intro _
          rw [preparing]
          decide
        · intro set _
          have finished := invariant.completed set id call
            ⟨found, by rw [preparing]; decide⟩
          rw [unstarted] at finished
          cases finished
        · intro runs
          have started := startedOfRunning runs
          rw [unstarted] at started
          cases started
      · cases taken
  | test _ =>
      simp only [stepCaller] at taken
      split at taken
      · rename_i testing
        split at taken
        · rename_i set
          rw [Option.some.injEq] at taken
          have kept := returnCall_invariant invariant found testing set
          rw [taken] at kept
          exact kept
        · rename_i unset
          cases taken
          rw [List.append_nil]
          exact invariant.advance
            { found := found, kind := rfl, finished := fun finished => ⟨finished, rfl⟩,
              waiting := (by intro _; rw [testing]; decide),
              completed := fun set => absurd set unset,
              absent := (by intro impossible; cases impossible),
              answered := (by intro impossible; cases impossible),
              running := startedOfRunning }
      · cases taken
  | wake _ =>
      simp only [stepCaller] at taken
      split at taken
      · rename_i blocked
        cases taken
        have unreturned : call.caller ≠ .returned := by
          rw [blocked]
          decide
        rw [List.append_nil]
        exact invariant.advance
          { found := found, kind := rfl, finished := fun finished => ⟨finished, rfl⟩,
            waiting := fun _ => unreturned,
            completed := fun set _ => invariant.completed set id call ⟨found, unreturned⟩,
            absent := (by intro impossible; cases impossible),
            answered := (by intro impossible; cases impossible),
            running := startedOfRunning }
      · cases taken
  | reset | handle | signal | startSync | onSyncDone => cases taken

/-- A handler leaves `pending`; its caller, if it still waits, keeps the flag down. -/
theorem SlotInvariant.start {conn : WPConnection Value Error}
    {reported : List (Observation Value Error)} (invariant : SlotInvariant conn reported)
    {id : Nat} {call : Call Value} (found : conn.calls id = some call)
    (pending : call.handler = .pending) (result : Option Value) :
    SlotInvariant (conn.setCall id { call with handler := .started, result := result })
      reported := by
  refine invariant.advance
    { found := found, kind := rfl, finished := (by intro impossible; cases impossible),
      waiting := fun unreturned => unreturned, completed := ?_, absent := ?_,
      answered := ?_, running := fun _ => rfl }
  · intro set unreturned
    have finished := invariant.completed set id call ⟨found, unreturned⟩
    rw [pending] at finished
    cases finished
  · intro preparing
    have unstarted := invariant.absent id call found preparing
    rw [pending] at unstarted
    cases unstarted
  · intro returned
    have finished := invariant.answered id call found returned
    rw [pending] at finished
    cases finished

/-- The end of a handler: its reply is out, and every caller that still waits has
been answered. -/
theorem SlotInvariant.finish {conn : WPConnection Value Error}
    {reported : List (Observation Value Error)} (invariant : SlotInvariant conn reported)
    {id : Nat} {call : Call Value} (found : conn.calls id = some call)
    (started : call.handler = .started)
    (others : ∀ other now, other ≠ id → Waiting conn other now → now.handler = .finished)
    {success : Bool} {error : Option Error} {reply : Reply Value Error}
    (isData : call.kind ≠ .sync → reply = .data call.result)
    (isSynced : call.kind = .sync → reply = .synced success error)
    (shared : call.kind ≠ .sync → success = conn.callResult ∧ error = conn.callError)
    (woken : List Nat) :
    SlotInvariant { signalCallCompleted
        { conn.setCall id { call with handler := .finished } with
          callResult := success, callError := error } woken with wpThread := none }
      (reported ++ [.finished id reply]) := by
  obtain ⟨calls, woke, awakened⟩ := wakeCalls_spec woken
    { conn.setCall id { call with handler := .finished } with
      callResult := success, callError := error, callCompleted := true }
  rw [signalCallCompleted, woke]
  -- every call of the next state is a call of `conn`, answered when it is `id`
  have before {other : Nat} {now : Call Value} (foundNow : calls other = some now) :
      ∃ earlier, conn.calls other = some earlier ∧ earlier.kind = now.kind ∧
        earlier.result = now.result ∧
        (now.caller = earlier.caller ∨ earlier.caller = .blocked ∧ now.caller = .testing) ∧
        (other = id → now.handler = .finished) ∧
        (other ≠ id → earlier.handler = now.handler) := by
    have wokenNow := awakened other
    rw [foundNow] at wokenNow
    obtain ⟨middle, foundMiddle, kind, handler, result, caller⟩ := wokenNow.of_some
    by_cases same : other = id
    · subst same
      have isFinished : some { call with handler := .finished } = some middle :=
        (setCall_calls_self conn other _).symm.trans foundMiddle
      cases isFinished
      exact ⟨call, found, kind, result, caller, fun _ => handler.symm,
        fun differ => absurd rfl differ⟩
    · have unchanged : conn.calls other = some middle :=
        (setCall_calls_of_ne conn _ same).symm.trans foundMiddle
      exact ⟨middle, unchanged, kind, result, caller, fun equal => absurd equal same,
        fun _ => handler⟩
  have waitingBefore {earlier now : Call Value}
      (caller : now.caller = earlier.caller ∨ earlier.caller = .blocked ∧ now.caller = .testing)
      (unreturned : now.caller ≠ .returned) : earlier.caller ≠ .returned := by
    rcases caller with same | ⟨blocked, -⟩
    · rwa [← same]
    · rw [blocked]
      decide
  have unreturnedOwn : call.caller ≠ .returned := by
    intro returned
    have finished := invariant.answered id call found returned
    rw [started] at finished
    cases finished
  refine ⟨?_, ?_, ?_, ?_, ?_, ?_, ?_, ?_, ?_⟩
  · intro other unused
    have absent : conn.calls other = none := invariant.fresh other unused
    cases foundNow : calls other with
    | none => exact foundNow
    | some now =>
        obtain ⟨earlier, foundEarlier, -⟩ := before foundNow
        rw [absent] at foundEarlier
        cases foundEarlier
  · intro other now foundNow preparing
    obtain ⟨earlier, foundEarlier, -, -, caller, answered, same⟩ := before foundNow
    rcases caller with sameCaller | ⟨-, testing⟩
    · have unstarted := invariant.absent other earlier foundEarlier (sameCaller ▸ preparing)
      by_cases isId : other = id
      · subst isId
        rw [found] at foundEarlier
        cases foundEarlier
        rw [started] at unstarted
        cases unstarted
      · rwa [← same isId]
    · rw [testing] at preparing
      cases preparing
  · intro other now foundNow returned
    obtain ⟨earlier, foundEarlier, -, -, caller, answered, same⟩ := before foundNow
    by_cases isId : other = id
    · exact answered isId
    · rcases caller with sameCaller | ⟨-, testing⟩
      · rw [← same isId]
        exact invariant.answered other earlier foundEarlier (sameCaller ▸ returned)
      · rw [testing] at returned
        cases returned
  · intro other runs
    cases runs
  · intro _ other now ⟨foundNow, unreturned⟩
    obtain ⟨earlier, foundEarlier, -, -, caller, answered, same⟩ := before foundNow
    by_cases isId : other = id
    · exact answered isId
    · rw [← same isId]
      exact others other earlier isId ⟨foundEarlier, waitingBefore caller unreturned⟩
  · intro other now foundNow own finished
    obtain ⟨earlier, foundEarlier, kind, result, caller, -, same⟩ := before foundNow
    by_cases isId : other = id
    · subst isId
      rw [found] at foundEarlier
      cases foundEarlier
      rw [← result, ← isData (kind ▸ own)]
      exact List.mem_append_right _ List.mem_cons_self
    · rw [← result]
      exact List.mem_append_left _ (invariant.data other earlier foundEarlier (kind ▸ own)
        ((same isId).trans finished))
  · intro other now ⟨foundNow, unreturned⟩ isSync finished
    obtain ⟨earlier, foundEarlier, kind, -, caller, -, same⟩ := before foundNow
    have waiting : Waiting conn other earlier :=
      ⟨foundEarlier, waitingBefore caller unreturned⟩
    by_cases isId : other = id
    · subst isId
      rw [found] at foundEarlier
      cases foundEarlier
      rw [← isSynced (kind.trans isSync)]
      exact List.mem_append_right _ List.mem_cons_self
    · have earlierFinished : earlier.handler = .finished := (same isId).trans finished
      have earlierSync : earlier.kind = .sync := kind.trans isSync
      by_cases ownSync : call.kind = .sync
      · exact absurd (invariant.alone id call other earlier ⟨found, unreturnedOwn⟩ ownSync
          waiting earlierSync earlierFinished) (fun equal => isId equal.symm)
      · obtain ⟨sameResult, sameError⟩ := shared ownSync
        rw [sameResult, sameError]
        exact List.mem_append_left _
          (invariant.synced other earlier waiting earlierSync earlierFinished)
  · intro first now second answered ⟨foundFirst, unreturnedFirst⟩ isSync
      ⟨foundSecond, unreturnedSecond⟩ secondSync finished
    obtain ⟨first', foundFirst', kindFirst, -, callerFirst, -, -⟩ := before foundFirst
    obtain ⟨second', foundSecond', kindSecond, -, callerSecond, -, same⟩ := before foundSecond
    have waitingFirst : Waiting conn first first' :=
      ⟨foundFirst', waitingBefore callerFirst unreturnedFirst⟩
    have waitingSecond : Waiting conn second second' :=
      ⟨foundSecond', waitingBefore callerSecond unreturnedSecond⟩
    by_cases isId : second = id
    · by_cases firstIsId : first = id
      · exact firstIsId.trans isId.symm
      · have alone := invariant.alone second second' first first' waitingSecond
          (kindSecond.trans secondSync) waitingFirst (kindFirst.trans isSync)
          (others first first' firstIsId waitingFirst)
        exact alone.symm
    · exact invariant.alone first first' second second' waitingFirst (kindFirst.trans isSync)
        waitingSecond (kindSecond.trans secondSync) ((same isId).trans finished)
  · refine ownReply_of_no_return invariant.own ?_
    intro other answer member
    rw [List.mem_singleton] at member
    cases member

theorem signalCallCompleted_idle (conn : WPConnection Value Error)
    (idle : conn.wpThread = none) (woken : List Nat) :
    signalCallCompleted conn woken =
      { signalCallCompleted conn woken with wpThread := none } := by
  obtain ⟨calls, woke, -⟩ := wakeCalls_spec woken { conn with callCompleted := true }
  rw [signalCallCompleted, woke, ← idle]

theorem step_invariant {conn next : WPConnection Value Error}
    {reported observed : List (Observation Value Error)}
    (invariant : SlotInvariant conn reported) {action : Action Value Error}
    (undisturbed : Undisturbed conn action)
    (taken : step conn action = some (next, observed)) :
    SlotInvariant next (reported ++ observed) := by
  cases action with
  | reset kind =>
      cases taken
      rw [List.append_nil]
      exact resetCall_invariant invariant undisturbed
  | attach id | test id | wake id =>
      obtain ⟨call, found, taken⟩ := Option.bind_eq_some_iff.mp taken
      exact stepCaller_invariant invariant found taken
  | handle id result =>
      obtain ⟨call, found, taken⟩ := Option.bind_eq_some_iff.mp taken
      simp only [stepHandler] at taken
      split at taken
      · rename_i enabled
        obtain ⟨own, pending, -⟩ := enabled
        cases taken
        rw [List.append_nil]
        have started := invariant.start found pending result
        refine { started with running := ?_ }
        intro other runs
        cases runs
        exact ⟨_, setCall_calls_self conn id _, own, rfl⟩
      · cases taken
  | signal id woken =>
      obtain ⟨call, found, taken⟩ := Option.bind_eq_some_iff.mp taken
      simp only [stepHandler] at taken
      split at taken
      · rename_i enabled
        cases taken
        obtain ⟨running, same, own, started⟩ := invariant.running id enabled.1
        rw [found] at same
        cases same
        exact invariant.finish found started (invariant.finished_of_answered undisturbed)
          (fun _ => rfl)
          (fun isSync => absurd isSync own) (fun _ => ⟨rfl, rfl⟩) woken
      · cases taken
  | startSync id =>
      obtain ⟨call, found, taken⟩ := Option.bind_eq_some_iff.mp taken
      simp only [stepHandler] at taken
      split at taken
      · rename_i enabled
        cases taken
        rw [List.append_nil]
        exact invariant.start found enabled.2.1 call.result
      · cases taken
  | onSyncDone id ok error woken =>
      obtain ⟨call, found, taken⟩ := Option.bind_eq_some_iff.mp taken
      simp only [stepHandler] at taken
      split at taken
      · rename_i enabled
        obtain ⟨isSync, started, idle, -⟩ := enabled
        cases taken
        have same := signalCallCompleted_idle
          { conn.setCall id { call with handler := .finished } with
            callResult := ok && error.isNone, callError := error } idle woken
        rw [same]
        exact invariant.finish found started (invariant.finished_of_answered undisturbed)
          (fun own => absurd isSync own) (fun _ => rfl) (fun own => absurd isSync own) woken
      · cases taken

theorem new_invariant : SlotInvariant (new : WPConnection Value Error) [] where
  fresh _ _ := rfl
  absent _ _ found := by cases found
  answered _ _ found := by cases found
  running _ runs := by cases runs
  completed set := by cases set
  data _ _ found := by cases found
  synced _ _ waiting := by cases waiting.1
  alone _ _ _ _ waiting := by cases waiting.1
  own := by
    intro before id reply after split
    simp at split

/-- In every interleaving whose handlers signal only when nobody else still waits
for his own, each call returns after its own handler and with its reply. -/
theorem ownReply_of_run
    {history : List (Transition (WPConnection Value Error) (Action Value Error)
      (Observation Value Error))} {conn : WPConnection Value Error}
    (run : Run (machine Value Error) history conn)
    (undisturbed : ∀ transition ∈ history,
      Undisturbed transition.before transition.action) :
    OwnReply (log history) := by
  have kept : SlotInvariant conn (log history) := by
    refine run.invariant_of_allowed SlotInvariant Undisturbed ?_ ?_ undisturbed
    · rintro state rfl
      exact new_invariant
    · intro state reported action next observed invariant allowed taken
      exact step_invariant invariant allowed taken
  exact kept.own

/-- The second call resets the flag while the first, answered already, still waits; the
second one's signal releases both. -/
def answeredCalls : List (Action Nat String) :=
  [.reset .getNodes, .attach 0, .test 0, .handle 0 (some 7), .signal 0 [0],
    .reset .getModules, .attach 1, .test 0, .test 1, .handle 1 (some 9), .signal 1 [0, 1],
    .test 0, .test 1]

/-- Two overlapping calls: the first one's signal releases the second. -/
def overlappingCalls : List (Action Nat String) :=
  [.reset .getNodes, .attach 0, .reset .getModules, .attach 1, .handle 0 (some 7),
    .signal 0 [], .test 1]

theorem answeredCalls_ownReply :
    ∃ history conn, Run (machine Nat String) history conn ∧
      .returned 0 (.data (some 7)) ∈ log history ∧
      .returned 1 (.data (some 9)) ∈ log history ∧ OwnReply (log history) := by
  have run := exec_run answeredCalls (.start rfl : Run (machine Nat String) [] new) rfl
  exact ⟨_, _, run, by decide, by decide, ownReply_of_run run (by decide)⟩

/-- `get_modules` returns without a result before its handler ran. -/
theorem overlappingCalls_released :
    ∃ history conn, Run (machine Nat String) history conn ∧ ¬ OwnReply (log history) := by
  have run := exec_run overlappingCalls (.start rfl : Run (machine Nat String) [] new) rfl
  refine ⟨_, _, run, ?_⟩
  intro own
  have finished := own [.finished 0 (.data (some 7))] 1 (.data none) [] (by decide)
  revert finished
  decide

end WyrePlumber.Native.CallSlot
