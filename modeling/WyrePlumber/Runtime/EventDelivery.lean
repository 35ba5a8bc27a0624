import WyrePlumber.Runtime.EventQueue

/-!
# Delivery by the Python event queue

Between two resets the events handed out are a prefix of those that continue
the snapshot position, then at most one that requires a new snapshot; and no
read stays blocked beside something it could return or raise.
-/

set_option autoImplicit false
set_option linter.constructorNameAsVariable false

namespace WyrePlumber.Runtime.EventQueue

open Python
open LabelledMachine

section Effects

variable {queue next : Queue} {observed : List Report}

/-- What a publication does: it is refused, it continues the stream, or it
leaves one event that requires a new snapshot. -/
inductive Publication (queue : Queue) (event : RuntimeEvent) : Queue → List Report → Prop where
  | refused (shut : queue.closed = true ∨ queue.resnapshotRequired = true) :
      Publication queue event queue [.published event false, .dropped event]
  | continued (isOpen : queue.closed = false) (valid : queue.resnapshotRequired = false)
      (continues : Continues event queue.generation queue.sequence)
      (room : queue.events.length < queue.capacity) :
      Publication queue event
        { queue with events := queue.events ++ [event], sequence := queue.sequence + 1 }
        [.published event true]
  | spoiled (isOpen : queue.closed = false) (valid : queue.resnapshotRequired = false)
      (marker : RuntimeEvent) (marked : marker.requiresResnapshot = true) (reason : PyString)
      (dropped : List RuntimeEvent) :
      Publication queue event
        { queue with
          events := [marker], generation := event.generation, sequence := event.sequence
          resnapshotRequired := true, discontinuityReason := some reason }
        (.published event true :: dropped.map Report.dropped)

theorem publish_effect (queue : Queue) (now : PyString) (event : RuntimeEvent) :
    Publication queue event (queue.publish now event).1
      (.published event (queue.publish now event).2 ::
        (queue.droppedBy event).map Report.dropped) := by
  by_cases shut : (queue.closed || queue.resnapshotRequired) = true
  · simp only [Queue.publish, Queue.droppedBy, if_pos shut]
    apply Publication.refused
    simpa using shut
  · have isOpen : queue.closed = false := by grind
    have valid : queue.resnapshotRequired = false := by grind
    by_cases sameGeneration : event.generation = queue.generation
    · by_cases isNext : event.sequence = queue.sequence + 1
      · by_cases marked : event.requiresResnapshot = true
        · simp only [Queue.publish, if_neg shut, sameGeneration, isNext, ne_eq, not_true_eq_false,
            if_false, marked, if_true]
          have spoiled := @Publication.spoiled queue event isOpen valid event marked
            (orText event.reason "event requires a new snapshot") (queue.droppedBy event)
          rw [sameGeneration, isNext] at spoiled
          exact spoiled
        · by_cases full : queue.capacity ≤ queue.events.length
          · simp only [Queue.publish, if_neg shut, sameGeneration, isNext, ne_eq, not_true_eq_false,
              if_false, if_neg marked, if_pos full]
            exact .spoiled isOpen valid _ rfl _ _
          · have room : queue.events.length < queue.capacity := by omega
            simp only [Queue.publish, Queue.droppedBy, if_neg shut, sameGeneration, isNext, ne_eq,
              not_true_eq_false, if_false, if_neg marked, if_neg full, or_self, List.map_nil]
            exact .continued isOpen valid ⟨sameGeneration, isNext, by simpa using marked⟩ room
      · simp only [Queue.publish, if_neg shut, sameGeneration, ne_eq, not_true_eq_false, if_false,
          isNext, not_false_eq_true, if_true]
        exact .spoiled isOpen valid _ rfl _ _
    · simp only [Queue.publish, if_neg shut, ne_eq, sameGeneration, not_false_eq_true, if_true]
      exact .spoiled isOpen valid _ rfl _ _

/-- What a step does to the queue, and what it reports. -/
inductive Effect (queue : Queue) : Queue → List Report → Prop where
  | quiet : Effect queue queue []
  | raised (thread : Nat) (error : QueueError) : Effect queue queue [.raised thread error]
  | published {event : RuntimeEvent} {next : Queue} {observed : List Report}
      (publication : Publication queue event next observed) : Effect queue next observed
  | handedOut (thread : Nat) {event : RuntimeEvent} {rest : List RuntimeEvent}
      (isHead : queue.events = event :: rest) :
      Effect queue { queue with events := rest } [.handedOut thread event]
  | reset (isOpen : queue.closed = false) (generation sequence : Nat) :
      Effect queue (queue.reset generation sequence)
        (queue.events.map Report.dropped ++ [.reset generation sequence])
  | closed : Effect queue { queue with closed := true } [.closed]

theorem attempt_effect (state : State) (waiter : Waiter) (givesUp : Bool) :
    Effect state.queue (state.read waiter givesUp).1.queue (state.read waiter givesUp).2 := by
  unfold State.read
  split
  · rename_i event rest delivers
    apply Effect.handedOut
    unfold Queue.attempt at delivers
    split at delivers
    · rename_i head tail isHead
      cases delivers
      exact isHead
    · split at delivers
      · cases delivers
      · split at delivers
        · cases delivers
        · split at delivers <;> cases delivers
  · exact .raised _ _
  · exact .quiet

theorem statePublish_effect (state : State) (event : RuntimeEvent) (now : PyString) :
    Effect state.queue (state.publish event now).1.queue (state.publish event now).2 := by
  have publication := Effect.published (publish_effect state.queue now event)
  simp only [State.publish]
  split
  · exact publication
  · split <;> exact publication

theorem step_effect {state next : State} {action : Action} {observed : List Report}
    (taken : step state action = some (next, observed)) :
    Effect state.queue next.queue observed := by
  cases action with
  | publish thread event now =>
      have published := statePublish_effect state event now
      rw [Option.some.inj taken] at published
      exact published
  | get waiter givesUp =>
      simp only [step] at taken
      split at taken
      · cases taken
      · have read := attempt_effect state waiter givesUp
        rw [Option.some.inj taken] at read
        exact read
  | resume waiter expired =>
      simp only [step] at taken
      split at taken
      · have read := attempt_effect { state with woken := remove waiter state.woken } waiter
          (waiter.timed && expired)
        rw [Option.some.inj taken] at read
        exact read
      · cases taken
  | timeout waiter =>
      simp only [step] at taken
      split at taken
      · have read := attempt_effect { state with blocked := remove waiter state.blocked } waiter
          true
        rw [Option.some.inj taken] at read
        exact read
      · cases taken
  | reset thread generation sequence =>
      simp only [step] at taken
      split at taken
      · cases taken
        exact .raised _ _
      · rename_i isOpen
        cases taken
        exact .reset (by simpa using isOpen) generation sequence
  | close thread =>
      cases taken
      exact .closed

end Effects

section Intervals

def Report.publication? : Report → Option RuntimeEvent
  | .published event _ => some event
  | _ => none

def Report.handedOut? : Report → Option RuntimeEvent
  | .handedOut _ event => some event
  | _ => none

def publications (reports : List Report) : List RuntimeEvent :=
  reports.filterMap Report.publication?

def handedOut (reports : List Report) : List RuntimeEvent := reports.filterMap Report.handedOut?

@[simp] theorem publications_append (reports later : List Report) :
    publications (reports ++ later) = publications reports ++ publications later := by
  simp [publications]

@[simp] theorem handedOut_append (reports later : List Report) :
    handedOut (reports ++ later) = handedOut reports ++ handedOut later := by
  simp [handedOut]

@[simp] theorem publications_dropped (events : List RuntimeEvent) :
    publications (events.map Report.dropped) = [] := by
  simp [publications, Report.publication?]

@[simp] theorem handedOut_dropped (events : List RuntimeEvent) :
    handedOut (events.map Report.dropped) = [] := by
  simp [handedOut, Report.handedOut?]

/-- The events that continue a projection one after the other, up to the first
that does not. -/
def inOrder (generation sequence : Nat) : List RuntimeEvent → List RuntimeEvent
  | [] => []
  | event :: rest =>
      if Continues event generation sequence then event :: inOrder generation (sequence + 1) rest
      else []

variable {generation sequence : Nat} {events later : List RuntimeEvent}

theorem inOrder_prefix_append (events later : List RuntimeEvent) (generation sequence : Nat) :
    inOrder generation sequence events <+: inOrder generation sequence (events ++ later) := by
  induction events generalizing sequence with
  | nil => exact List.nil_prefix
  | cons event rest inductionHypothesis =>
      rw [List.cons_append, inOrder, inOrder]
      by_cases continues : Continues event generation sequence
      · rw [if_pos continues, if_pos continues, List.cons_prefix_cons]
        exact ⟨rfl, inductionHypothesis (sequence + 1)⟩
      · rw [if_neg continues]
        exact List.nil_prefix

def AllInOrder (generation sequence : Nat) (events : List RuntimeEvent) : Prop :=
  inOrder generation sequence events = events

theorem allInOrder_append : AllInOrder generation sequence (events ++ later) ↔
    AllInOrder generation sequence events ∧
      AllInOrder generation (sequence + events.length) later := by
  unfold AllInOrder
  induction events generalizing sequence with
  | nil => simp [inOrder]
  | cons event rest inductionHypothesis =>
      rw [List.cons_append, inOrder, inOrder]
      by_cases continues : Continues event generation sequence
      · have shifted : sequence + 1 + rest.length = sequence + (event :: rest).length := by
          rw [List.length_cons]
          omega
        rw [if_pos continues, if_pos continues, List.cons_inj_right, List.cons_inj_right,
          inductionHypothesis, shifted]
      · simp [if_neg continues]

theorem allInOrder_singleton {event : RuntimeEvent} :
    AllInOrder generation sequence [event] ↔ Continues event generation sequence := by
  unfold AllInOrder
  rw [inOrder]
  by_cases continues : Continues event generation sequence
  · simp [continues, inOrder]
  · simp [continues]

/-- What stands at a place of a list in order. -/
theorem AllInOrder.getElem (ordered : AllInOrder generation sequence events) {index : Nat}
    (bound : index < events.length) :
    Continues events[index] generation (sequence + index) := by
  induction events generalizing sequence index with
  | nil => simp at bound
  | cons event rest inductionHypothesis =>
      have parts : AllInOrder generation sequence ([event] ++ rest) := ordered
      rw [allInOrder_append, allInOrder_singleton] at parts
      obtain ⟨continues, restOrdered⟩ := parts
      cases index with
      | zero => exact continues
      | succ index =>
          have inRest : index < rest.length := by simpa using bound
          have shifted : sequence + [event].length + index = sequence + (index + 1) := by
            rw [List.length_singleton]
            omega
          have later := inductionHypothesis restOrdered inRest
          rw [shifted] at later
          exact later

end Intervals

section Delivery

/-- A projection, from a reset or from the constructor, and what was reported
since. -/
structure Interval where
  generation : Nat
  sequence : Nat
  reports : List Report

def Interval.extend (interval : Interval) : Report → Interval
  | .reset generation sequence => ⟨generation, sequence, []⟩
  | report => { interval with reports := interval.reports ++ [report] }

/-- The interval that a log ends with, when the queue was made at a position. -/
def lastInterval (generation sequence : Nat) (log : List Report) : Interval :=
  log.foldl Interval.extend ⟨generation, sequence, []⟩

def Report.isReset : Report → Bool
  | .reset _ _ => true
  | _ => false

theorem extend_all {interval : Interval} {reports : List Report}
    (noReset : ∀ report ∈ reports, report.isReset = false) :
    reports.foldl Interval.extend interval =
      { interval with reports := interval.reports ++ reports } := by
  induction reports generalizing interval with
  | nil => simp
  | cons report rest inductionHypothesis =>
      obtain ⟨first, others⟩ := List.forall_mem_cons.mp noReset
      rw [List.foldl_cons, inductionHypothesis others]
      cases report with
      | reset => cases first
      | published | dropped | handedOut | raised | closed => simp [Interval.extend]

/-- What an interval handed out and what the queue still holds.  Either the
stream is intact, and these are the first events published, all of them unless
the queue is closed; or it is spoiled, and one event that requires a new
snapshot comes last. -/
inductive Delivered (interval : Interval) (queue : Queue) : Prop where
  | intact (valid : queue.resnapshotRequired = false) (refused : List RuntimeEvent)
      (all : publications interval.reports =
        handedOut interval.reports ++ queue.events ++ refused)
      (ordered : AllInOrder interval.generation interval.sequence
        (handedOut interval.reports ++ queue.events))
      (whenClosed : refused = [] ∨ queue.closed = true)
      (generation : queue.generation = interval.generation)
      (sequence : queue.sequence =
        interval.sequence + (handedOut interval.reports ++ queue.events).length)
      (room : queue.events.length ≤ queue.capacity)
  | spoiled (invalid : queue.resnapshotRequired = true) (deltas marked : List RuntimeEvent)
      (handed : handedOut interval.reports = deltas ++ marked)
      (ordered : deltas <+: inOrder interval.generation interval.sequence
        (publications interval.reports))
      (single : (marked ++ queue.events).length ≤ 1)
      (requires : ∀ event ∈ marked ++ queue.events, event.requiresResnapshot = true)

variable {interval : Interval} {queue next : Queue} {observed : List Report}

theorem Delivered.quiet (delivered : Delivered interval queue) (reports : List Report)
    (noPublication : publications reports = []) (noHandedOut : handedOut reports = []) :
    Delivered { interval with reports := interval.reports ++ reports } queue := by
  cases delivered with
  | intact valid refused all ordered whenClosed generation sequence room =>
      apply Delivered.intact valid refused
      · simpa [noPublication, noHandedOut] using all
      · simpa [noHandedOut] using ordered
      · exact whenClosed
      · exact generation
      · simpa [noHandedOut] using sequence
      · exact room
  | spoiled invalid deltas marked handed ordered single requires =>
      apply Delivered.spoiled invalid deltas marked
      · simpa [noHandedOut] using handed
      · simpa [noPublication] using ordered
      · exact single
      · exact requires

theorem Publication.reports {event : RuntimeEvent}
    (publication : Publication queue event next observed) :
    publications observed = [event] ∧ handedOut observed = [] := by
  cases publication with
  | refused shut => exact ⟨rfl, rfl⟩
  | continued isOpen valid continues room => exact ⟨rfl, rfl⟩
  | spoiled isOpen valid marker marked reason dropped =>
      refine ⟨?_, handedOut_dropped dropped⟩
      exact congrArg (event :: ·) (publications_dropped dropped)

theorem Delivered.publish (delivered : Delivered interval queue) {event : RuntimeEvent}
    (publication : Publication queue event next observed) :
    Delivered { interval with reports := interval.reports ++ observed } next := by
  obtain ⟨published, noHandedOut⟩ := publication.reports
  have handedSame : handedOut (interval.reports ++ observed) = handedOut interval.reports := by
    rw [handedOut_append, noHandedOut, List.append_nil]
  have publishedMore : publications (interval.reports ++ observed) =
      publications interval.reports ++ [event] := by
    rw [publications_append, published]
  have morePrefix : inOrder interval.generation interval.sequence
      (publications interval.reports) <+:
        inOrder interval.generation interval.sequence
          (publications (interval.reports ++ observed)) := by
    rw [publishedMore]
    apply inOrder_prefix_append
  cases delivered with
  | spoiled invalid deltas marked handed ordered single requires =>
      cases publication with
      | refused shut =>
          exact .spoiled invalid deltas marked (handedSame.trans handed) (ordered.trans morePrefix)
            single requires
      | continued isOpen valid | spoiled isOpen valid =>
          rw [valid] at invalid
          cases invalid
  | intact valid refused all ordered whenClosed generation sequence room =>
      cases publication with
      | refused shut =>
          have isClosed : queue.closed = true := by
            rw [valid] at shut
            simpa using shut
          apply Delivered.intact valid (refused ++ [event])
          · simp only [publishedMore, handedSame, all, List.append_assoc]
          · simpa only [handedSame] using ordered
          · exact .inr isClosed
          · exact generation
          · simpa only [handedSame] using sequence
          · exact room
      | continued isOpen alsoValid continues hasRoom =>
          have noneRefused : refused = [] := by
            rw [isOpen] at whenClosed
            simpa using whenClosed
          rw [noneRefused, List.append_nil] at all
          rw [generation, sequence, ← allInOrder_singleton] at continues
          refine .intact (by exact valid) [] ?_ ?_ ?_ ?_ ?_ ?_
          · simp only [publishedMore, handedSame, all, List.append_assoc, List.append_nil]
          · simp only [handedSame, ← List.append_assoc]
            exact allInOrder_append.mpr ⟨ordered, continues⟩
          · exact .inl rfl
          · exact generation
          · simp only [handedSame, sequence, List.length_append, List.length_singleton]
            omega
          · simp only [List.length_append, List.length_singleton]
            omega
      | spoiled isOpen alsoValid marker marked reason dropped =>
          obtain ⟨deltasOrdered, -⟩ := allInOrder_append.mp ordered
          apply Delivered.spoiled rfl (handedOut interval.reports) []
          · simp only [handedSame, List.append_nil]
          · refine List.IsPrefix.trans ?_ morePrefix
            rw [all, List.append_assoc]
            have isPrefix := inOrder_prefix_append (handedOut interval.reports)
              (queue.events ++ refused) interval.generation interval.sequence
            rw [deltasOrdered] at isPrefix
            exact isPrefix
          · exact le_rfl
          · simpa using marked

/-- Handing out the first event. -/
theorem Delivered.handOut (delivered : Delivered interval queue) {thread : Nat}
    {event : RuntimeEvent} {rest : List RuntimeEvent} (isHead : queue.events = event :: rest) :
    Delivered { interval with reports := interval.reports ++ [.handedOut thread event] }
      { queue with events := rest } := by
  have handedMore : handedOut (interval.reports ++ [.handedOut thread event]) =
      handedOut interval.reports ++ [event] := handedOut_append _ _
  have publishedSame : publications (interval.reports ++ [.handedOut thread event]) =
      publications interval.reports := by
    rw [publications_append]
    exact List.append_nil _
  have moved : handedOut interval.reports ++ [event] ++ rest =
      handedOut interval.reports ++ queue.events := by
    rw [isHead, List.append_assoc]
    rfl
  cases delivered with
  | intact valid refused all ordered whenClosed generation sequence room =>
      refine .intact (by exact valid) refused ?_ ?_ ?_ ?_ ?_ ?_
      · simp only [publishedSame, handedMore, moved, all]
      · simpa only [handedMore, moved] using ordered
      · exact whenClosed
      · exact generation
      · simpa only [handedMore, moved] using sequence
      · rw [isHead, List.length_cons] at room
        exact Nat.le_of_succ_le room
  | spoiled invalid deltas marked handed ordered single requires =>
      have noneMarked : marked = [] := by
        rw [isHead, List.length_append, List.length_cons] at single
        exact List.length_eq_zero_iff.mp (by omega)
      have atMost : (marked ++ [event] ++ rest).length ≤ 1 := by
        rw [isHead] at single
        simpa using single
      refine .spoiled (by exact invalid) deltas (marked ++ [event]) ?_ ?_ ?_ ?_
      · simp only [handedMore, handed, List.append_assoc]
      · simpa only [publishedSame] using ordered
      · exact atMost
      · intro other member
        apply requires
        rw [isHead]
        simpa using member

theorem Delivered.effect (delivered : Delivered interval queue)
    (effect : Effect queue next observed) :
    Delivered (observed.foldl Interval.extend interval) next := by
  cases effect with
  | quiet => exact delivered
  | raised thread error => exact delivered.quiet _ rfl rfl
  | published publication =>
      have published := delivered.publish publication
      rw [extend_all]
      · exact published
      · cases publication with
        | refused shut => simp [Report.isReset]
        | continued isOpen valid continues room => simp [Report.isReset]
        | spoiled isOpen valid marker marked reason dropped => simp [Report.isReset]
  | handedOut thread isHead => exact delivered.handOut isHead
  | reset isOpen generation sequence =>
      rw [List.foldl_append]
      apply Delivered.intact rfl []
      · rfl
      · rfl
      · exact .inl rfl
      · rfl
      · rfl
      · exact Nat.zero_le _
  | closed =>
      have same := delivered.quiet [.closed] rfl rfl
      cases same with
      | intact valid refused all ordered whenClosed generation sequence room =>
          exact .intact (by exact valid) refused all ordered (.inr rfl) generation sequence room
      | spoiled invalid deltas marked handed ordered single requires =>
          exact .spoiled (by exact invalid) deltas marked handed ordered single requires

end Delivery

section Runs

variable {capacity generation sequence : Nat} {history : List (Transition State Action Report)}
  {state : State}

theorem delivered_of_run (run : Run (machine capacity generation sequence) history state) :
    Delivered (lastInterval generation sequence (log history)) state.queue := by
  refine run.invariant
    (fun state reported => Delivered (lastInterval generation sequence reported) state.queue) ?_ ?_
  · rintro state ⟨rfl, positive⟩
    exact .intact rfl [] rfl rfl (.inl rfl) rfl rfl (Nat.zero_le _)
  · intro state reported action next observed delivered taken
    have extended := delivered.effect (step_effect taken)
    rw [lastInterval, List.foldl_append]
    exact extended

/-- Only a `close` closes the queue, for good. -/
theorem Effect.closed_iff {queue next : Queue} {observed : List Report}
    (effect : Effect queue next observed) :
    next.closed = true ↔ queue.closed = true ∨ .closed ∈ observed := by
  cases effect with
  | quiet => simp
  | raised thread error => simp
  | published publication => cases publication <;> simp
  | handedOut thread isHead => simp
  | reset isOpen generation sequence => simp [Queue.reset]
  | closed => simp

theorem closed_iff_of_run (run : Run (machine capacity generation sequence) history state) :
    state.queue.closed = true ↔ .closed ∈ log history := by
  refine run.invariant (fun state reported => state.queue.closed = true ↔ .closed ∈ reported) ?_ ?_
  · rintro state ⟨rfl, positive⟩
    simp [Queue.new]
  · intro state reported action next observed same taken
    rw [(step_effect taken).closed_iff, same, List.mem_append]

end Runs

section Spoiled

/-- The queue waits for a reset, and holds only what says so. -/
def Marked (queue : Queue) : Prop :=
  queue.resnapshotRequired = true ∧ ∀ event ∈ queue.events, event.requiresResnapshot = true

variable {queue next : Queue} {observed : List Report} {interval : Interval}

theorem Delivered.marked (delivered : Delivered interval queue)
    (invalid : queue.resnapshotRequired = true) : Marked queue := by
  cases delivered with
  | intact valid =>
      rw [valid] at invalid
      cases invalid
  | spoiled invalid deltas marked handed ordered single requires =>
      exact ⟨invalid, fun event member => requires event (List.mem_append_right _ member)⟩

/-- Until a reset, a spoiled queue hands out only what requires a new snapshot. -/
theorem Marked.effect (marked : Marked queue) (effect : Effect queue next observed)
    (noReset : ∀ report ∈ observed, report.isReset = false) :
    Marked next ∧ ∀ event ∈ handedOut observed, event.requiresResnapshot = true := by
  obtain ⟨invalid, requires⟩ := marked
  cases effect with
  | quiet => exact ⟨⟨invalid, requires⟩, by simp [handedOut]⟩
  | raised thread error => exact ⟨⟨invalid, requires⟩, by simp [handedOut, Report.handedOut?]⟩
  | published publication =>
      have noHandedOut := publication.reports.2
      cases publication with
      | refused shut => exact ⟨⟨invalid, requires⟩, by simp [noHandedOut]⟩
      | continued isOpen valid | spoiled isOpen valid =>
          rw [valid] at invalid
          cases invalid
  | handedOut thread isHead =>
      rw [isHead, List.forall_mem_cons] at requires
      refine ⟨⟨invalid, requires.2⟩, ?_⟩
      simpa [handedOut, Report.handedOut?] using requires.1
  | reset isOpen generation sequence =>
      have isReset := noReset (.reset generation sequence) (by simp)
      cases isReset
  | closed => exact ⟨⟨invalid, requires⟩, by simp [handedOut, Report.handedOut?]⟩

/-- An open queue that drops an event waits for a reset afterwards. -/
theorem drop_spoils (effect : Effect queue next observed) (isOpen : queue.closed = false)
    {front back : List Report} {event : RuntimeEvent}
    (split : observed = front ++ .dropped event :: back)
    (noReset : ∀ report ∈ back, report.isReset = false) :
    next.resnapshotRequired = true ∧ handedOut back = [] := by
  have member : .dropped event ∈ observed := by simp [split]
  cases effect with
  | quiet => simp at member
  | raised thread error => simp at member
  | handedOut thread isHead => simp at member
  | closed => simp at member
  | published publication =>
      have noneAfter : handedOut back = [] := by
        have noHandedOut := publication.reports.2
        rw [split, handedOut_append, List.append_eq_nil_iff] at noHandedOut
        exact noHandedOut.2
      cases publication with
      | refused shut =>
          rw [isOpen] at shut
          exact ⟨by simpa using shut, noneAfter⟩
      | continued alsoOpen valid continues room => simp at member
      | spoiled alsoOpen valid marker marked reason dropped => exact ⟨rfl, noneAfter⟩
  | reset alsoOpen generation sequence =>
      rcases List.eq_nil_or_concat back with rfl | ⟨middle, last, rfl⟩
      · obtain ⟨-, isLast⟩ := List.append_inj' split rfl
        cases isLast
      · have aligned : queue.events.map Report.dropped ++ [.reset generation sequence] =
            (front ++ .dropped event :: middle) ++ [last] := by
          simpa using split
        obtain ⟨-, isLast⟩ := List.append_inj' aligned rfl
        have isReset := noReset last (by simp)
        rw [← (List.cons.inj isLast).1] at isReset
        cases isReset

variable {capacity generation sequence : Nat} {history : List (Transition State Action Report)}
  {state : State}

/-- After an open queue dropped an event, whatever it hands out before a reset
requires a new snapshot. -/
theorem requires_of_dropped (run : Run (machine capacity generation sequence) history state)
    {before after : List Report} {event : RuntimeEvent}
    (split : log history = before ++ .dropped event :: after)
    (noReset : ∀ report ∈ after, report.isReset = false) (stillOpen : .closed ∉ before) :
    ∀ other ∈ handedOut after, other.requiresResnapshot = true := by
  obtain ⟨earlier, transition, later, front, back, inHistory, reported, isBefore, isAfter⟩ :=
    log_split split
  obtain ⟨runEarlier, taken⟩ := run.of_split inHistory
  rw [isAfter, List.forall_mem_append] at noReset
  have isOpen : transition.before.queue.closed = false := by
    rw [← Bool.not_eq_true, closed_iff_of_run runEarlier]
    exact fun member => stillOpen (isBefore ▸ List.mem_append_left _ member)
  have effect := step_effect taken
  obtain ⟨invalid, noneBack⟩ := drop_spoils effect isOpen reported noReset.1
  have marked : Marked transition.after.queue :=
    (delivered_of_run (.step runEarlier taken)).marked invalid
  have since := run.since (fun state reported =>
      (∀ report ∈ reported, report.isReset = false) →
        Marked state.queue ∧ ∀ other ∈ handedOut reported, other.requiresResnapshot = true)
    (by
      intro state reported action next observed held taken noReset
      rw [List.forall_mem_append] at noReset
      obtain ⟨markedBefore, requiresBefore⟩ := held noReset.1
      obtain ⟨markedAfter, requiresAfter⟩ := markedBefore.effect (step_effect taken) noReset.2
      rw [handedOut_append, List.forall_mem_append]
      exact ⟨markedAfter, requiresBefore, requiresAfter⟩)
    inHistory (fun _ => ⟨marked, by simp [handedOut]⟩)
  rw [isAfter, handedOut_append, noneBack, List.nil_append]
  exact (since noReset.2).2

end Spoiled

section Closed

variable {queue next : Queue} {observed : List Report}

/-- A closed queue hands out what it holds and accepts nothing. -/
theorem effect_of_closed (effect : Effect queue next observed) (isClosed : queue.closed = true) :
    next.closed = true ∧ handedOut observed ++ next.events = queue.events ∧
      ∀ event, .published event true ∉ observed := by
  cases effect with
  | quiet => exact ⟨isClosed, rfl, by simp⟩
  | raised thread error => exact ⟨isClosed, rfl, by simp⟩
  | published publication =>
      cases publication with
      | refused shut => exact ⟨isClosed, rfl, by simp⟩
      | continued isOpen | spoiled isOpen =>
          rw [isOpen] at isClosed
          cases isClosed
  | handedOut thread isHead => exact ⟨isClosed, isHead.symm, by simp⟩
  | reset isOpen generation sequence =>
      rw [isOpen] at isClosed
      cases isClosed
  | closed => exact ⟨rfl, rfl, by simp⟩

theorem of_closed_report (effect : Effect queue next observed) {front back : List Report}
    (split : observed = front ++ .closed :: back) :
    front = [] ∧ back = [] ∧ next = { queue with closed := true } := by
  have member : .closed ∈ observed := by simp [split]
  cases effect with
  | quiet => simp at member
  | raised thread error => simp at member
  | handedOut thread isHead => simp at member
  | reset isOpen generation sequence => simp at member
  | published publication =>
      cases publication <;> simp at member
  | closed =>
      rw [eq_comm, List.append_eq_singleton_iff] at split
      rcases split with ⟨noFront, isBack⟩ | ⟨isFront, noBack⟩
      · exact ⟨noFront, (List.cons.inj isBack).2, rfl⟩
      · cases noBack

variable {capacity generation sequence : Nat} {history : List (Transition State Action Report)}
  {state : State}

/-- From a close on, the queue hands out only what it held, in order. -/
theorem handedOut_since_close (run : Run (machine capacity generation sequence) history state)
    {before after : List Report} (split : log history = before ++ .closed :: after) :
    ∃ earlier closing, Run (machine capacity generation sequence) earlier closing ∧
      log earlier = before ∧ handedOut after ++ state.queue.events = closing.queue.events ∧
      ∀ event, .published event true ∉ after := by
  obtain ⟨earlier, transition, later, front, back, inHistory, reported, isBefore, isAfter⟩ :=
    log_split split
  obtain ⟨runEarlier, taken⟩ := run.of_split inHistory
  obtain ⟨noFront, noBack, closes⟩ := of_closed_report (step_effect taken) reported
  refine ⟨earlier, transition.before, runEarlier, ?_, ?_⟩
  · rw [isBefore, noFront, List.append_nil]
  · have since := run.since (fun state reported => state.queue.closed = true ∧
        handedOut reported ++ state.queue.events = transition.before.queue.events ∧
        ∀ event, .published event true ∉ reported)
      (by
        intro state reported action next observed held taken
        obtain ⟨isClosed, handed, noneAccepted⟩ := held
        obtain ⟨stillClosed, more, noMore⟩ := effect_of_closed (step_effect taken) isClosed
        refine ⟨stillClosed, ?_, ?_⟩
        · rw [handedOut_append, List.append_assoc, more, handed]
        · intro event member
          rcases List.mem_append.mp member with inEarlier | inStep
          · exact noneAccepted event inEarlier
          · exact noMore event inStep)
      inHistory (by rw [closes]; exact ⟨rfl, rfl, by simp⟩)
    rw [isAfter, noBack, List.nil_append]
    exact since.2

end Closed

section Blocked

/-- Beside a blocked read, the queue is open and continuous, and for every event
it holds some woken read is about to run. -/
def Awake (state : State) : Prop :=
  state.blocked ≠ [] → state.queue.closed = false ∧ state.queue.resnapshotRequired = false ∧
    state.queue.events.length ≤ state.woken.length

variable {state next : State} {waiter : Waiter}

/-- A read that takes one woken read's place. -/
theorem read_awake {givesUp : Bool}
    (before : state.blocked ≠ [] → state.queue.closed = false ∧
      state.queue.resnapshotRequired = false ∧
        state.queue.events.length ≤ state.woken.length + 1) :
    Awake (state.read waiter givesUp).1 := by
  unfold State.read
  cases found : state.queue.events with
  | cons event rest =>
      simp only [Queue.attempt, found]
      intro someBlocked
      obtain ⟨isOpen, valid, enough⟩ := before someBlocked
      rw [found, List.length_cons] at enough
      exact ⟨isOpen, valid, by simpa using enough⟩
  | nil =>
      simp only [Queue.attempt, found]
      have nothing : state.queue.events.length ≤ state.woken.length := by
        rw [found]
        exact Nat.zero_le _
      by_cases isClosed : state.queue.closed = true
      · simp only [if_pos isClosed]
        intro someBlocked
        exact ⟨(before someBlocked).1, (before someBlocked).2.1, nothing⟩
      · by_cases invalid : state.queue.resnapshotRequired = true
        · simp only [if_neg isClosed, if_pos invalid]
          intro someBlocked
          exact ⟨(before someBlocked).1, (before someBlocked).2.1, nothing⟩
        · cases givesUp with
          | true =>
              simp only [if_neg isClosed, if_neg invalid, if_true]
              intro someBlocked
              exact ⟨(before someBlocked).1, (before someBlocked).2.1, nothing⟩
          | false =>
              simp only [if_neg isClosed, if_neg invalid, Bool.false_eq_true, if_false]
              intro _
              exact ⟨by simpa using isClosed, by simpa using invalid, nothing⟩

theorem awake_notifyAll : Awake state.notifyAll := fun someBlocked => absurd rfl someBlocked

theorem publish_awake (awake : Awake state) (event : RuntimeEvent) (now : PyString) :
    Awake (state.publish event now).1 := by
  have effect := publish_effect state.queue now event
  unfold State.publish
  generalize (state.queue.droppedBy event).map Report.dropped = dropped at effect ⊢
  generalize state.queue.publish now event = outcome at effect ⊢
  obtain ⟨queue, accepted⟩ := outcome
  cases effect with
  | refused shut => exact awake
  | spoiled isOpen valid marker marked reason dropped => exact awake_notifyAll
  | continued isOpen valid continues room =>
      have notSpoiled : ¬ state.queue.resnapshotRequired = true := by simp [valid]
      simp only [Bool.not_true, Bool.false_eq_true, if_false, if_neg notSpoiled]
      intro someLeft
      have wereBlocked : state.blocked ≠ [] := by
        rintro none
        apply someLeft
        simp [State.notify, none]
      obtain ⟨-, -, enough⟩ := awake wereBlocked
      refine ⟨isOpen, valid, ?_⟩
      have oneWoken : 1 ≤ state.blocked.length := List.length_pos_of_ne_nil wereBlocked
      simp only [State.notify, List.length_append, List.length_singleton, List.length_take]
      omega

theorem length_remove {waiters : List Waiter} (member : isIn waiter waiters = true) :
    (remove waiter waiters).length + 1 = waiters.length := by
  obtain ⟨other, inWaiters, same⟩ := List.any_eq_true.mp member
  have nonempty : 0 < waiters.length := List.length_pos_of_mem inWaiters
  rw [remove, List.length_eraseP_of_mem inWaiters same]
  omega

theorem step_awake {action : Action} {observed : List Report} (awake : Awake state)
    (taken : step state action = some (next, observed)) : Awake next := by
  cases action with
  | publish thread event now =>
      have published := publish_awake awake event now
      rw [step] at taken
      rw [Option.some.inj taken] at published
      exact published
  | get waiter givesUp =>
      simp only [step] at taken
      split at taken
      · cases taken
      · have read : Awake (state.read waiter givesUp).1 := by
          apply read_awake
          intro someBlocked
          obtain ⟨isOpen, valid, enough⟩ := awake someBlocked
          exact ⟨isOpen, valid, Nat.le_succ_of_le enough⟩
        rw [Option.some.inj taken] at read
        exact read
  | resume waiter expired =>
      simp only [step] at taken
      split at taken
      · rename_i isWoken
        have read : Awake ({ state with woken := remove waiter state.woken }.read waiter
            (waiter.timed && expired)).1 := by
          apply read_awake
          intro someBlocked
          obtain ⟨isOpen, valid, enough⟩ := awake someBlocked
          refine ⟨isOpen, valid, ?_⟩
          rw [length_remove isWoken]
          exact enough
        rw [Option.some.inj taken] at read
        exact read
      · cases taken
  | timeout waiter =>
      simp only [step] at taken
      split at taken
      · have read : Awake ({ state with blocked := remove waiter state.blocked }.read waiter
            true).1 := by
          apply read_awake
          intro someBlocked
          have wereBlocked : state.blocked ≠ [] := by
            rintro none
            apply someBlocked
            simp [none, remove]
          obtain ⟨isOpen, valid, enough⟩ := awake wereBlocked
          exact ⟨isOpen, valid, Nat.le_succ_of_le enough⟩
        rw [Option.some.inj taken] at read
        exact read
      · cases taken
  | reset thread generation sequence =>
      simp only [step] at taken
      split at taken
      · cases taken
        exact awake
      · cases taken
        exact awake_notifyAll
  | close thread =>
      cases taken
      exact awake_notifyAll

end Blocked

section Claim

/-- What the buffer holds: before an invalidation events of the current
generation with consecutive sequences up to the queue's, afterwards at most one
event, which requires a new snapshot. -/
structure BufferSound (queue : Queue) : Prop where
  capacity : queue.resnapshotRequired = false → queue.events.length ≤ queue.capacity
  consecutive : queue.resnapshotRequired = false →
    ∀ (index : Nat) (bound : index < queue.events.length),
      queue.events[index].generation = queue.generation ∧
        queue.events[index].sequence + (queue.events.length - 1 - index) = queue.sequence
  invalidated : queue.resnapshotRequired = true → queue.events.length ≤ 1 ∧
    ∀ event ∈ queue.events, event.requiresResnapshot = true

theorem Delivered.buffer {interval : Interval} {queue : Queue}
    (delivered : Delivered interval queue) : BufferSound queue := by
  cases delivered with
  | intact valid refused all ordered whenClosed generation sequence room =>
      refine ⟨fun _ => room, ?_, fun invalid => absurd (valid.symm.trans invalid) (by decide)⟩
      intro _ index bound
      obtain ⟨-, bufferOrdered⟩ := allInOrder_append.mp ordered
      obtain ⟨sameGeneration, isNext, -⟩ := bufferOrdered.getElem bound
      refine ⟨sameGeneration.trans generation.symm, ?_⟩
      rw [isNext, sequence, List.length_append]
      omega
  | spoiled invalid deltas marked handed ordered single requires =>
      rw [List.length_append] at single
      have notValid : ¬ queue.resnapshotRequired = false := by simp [invalid]
      refine ⟨fun valid => absurd valid notValid, fun valid => absurd valid notValid,
        fun _ => ⟨by omega, ?_⟩⟩
      exact fun event member => requires event (List.mem_append_right _ member)

/-- Where an interval without a reset begins: at the constructor's position or
after a reset. -/
inductive Opens (generation sequence : Nat) : List Report → Nat → Nat → Prop where
  | created : Opens generation sequence [] generation sequence
  | reset (before : List Report) (toGeneration toSequence : Nat) :
      Opens generation sequence (before ++ [.reset toGeneration toSequence]) toGeneration
        toSequence

theorem lastInterval_of_opens {generation sequence startGeneration startSequence : Nat}
    {before interval : List Report}
    (opens : Opens generation sequence before startGeneration startSequence)
    (noReset : ∀ report ∈ interval, report.isReset = false) :
    lastInterval generation sequence (before ++ interval) =
      ⟨startGeneration, startSequence, interval⟩ := by
  rw [lastInterval, List.foldl_append, extend_all noReset]
  cases opens with
  | created => rfl
  | reset before => simp [Interval.extend]

/-- The events handed out since a position: first some of those that continue it
one after the other, then at most one that requires a new snapshot. -/
structure HandedInOrder (generation sequence : Nat) (interval : List Report)
    (deltas marked : List RuntimeEvent) : Prop where
  handed : handedOut interval = deltas ++ marked
  ordered : deltas <+: inOrder generation sequence (publications interval)
  single : marked.length ≤ 1
  requires : ∀ event ∈ marked, event.requiresResnapshot = true

theorem Delivered.handedInOrder {generation sequence : Nat} {interval : List Report} {queue : Queue}
    (delivered : Delivered ⟨generation, sequence, interval⟩ queue) :
    ∃ deltas marked, HandedInOrder generation sequence interval deltas marked := by
  cases delivered with
  | intact valid refused all ordered =>
      obtain ⟨handedOrdered, -⟩ := allInOrder_append.mp ordered
      refine ⟨handedOut interval, [], (List.append_nil _).symm, ?_, Nat.zero_le _, by simp⟩
      have isPrefix := inOrder_prefix_append (handedOut interval) (queue.events ++ refused)
        generation sequence
      rw [handedOrdered, ← List.append_assoc, ← all] at isPrefix
      exact isPrefix
  | spoiled invalid deltas marked handed ordered single requires =>
      rw [List.length_append] at single
      exact ⟨deltas, marked, handed, ordered, by omega,
        fun event member => requires event (List.mem_append_left _ member)⟩

theorem lastInterval_suffix {log : List Report} (interval : Interval) :
    (log.foldl Interval.extend interval).reports <:+ interval.reports ++ log := by
  induction log generalizing interval with
  | nil => simp
  | cons report rest inductionHypothesis =>
      rw [List.foldl_cons]
      refine (inductionHypothesis _).trans ?_
      cases report with
      | reset => exact ((List.suffix_cons _ rest).trans (List.suffix_append _ _))
      | published | dropped | handedOut | raised | closed => simp [Interval.extend]

/-- What the queue holds was published, or requires a new snapshot. -/
theorem held_published {capacity generation sequence : Nat}
    {history : List (Transition State Action Report)} {state : State}
    (run : Run (machine capacity generation sequence) history state) :
    ∀ event ∈ state.queue.events,
      event ∈ publications (log history) ∨ event.requiresResnapshot = true := by
  intro event member
  cases delivered_of_run run with
  | intact valid refused all =>
      left
      have inInterval : event ∈
          publications (lastInterval generation sequence (log history)).reports := by
        rw [all]
        simp [member]
      obtain ⟨earlier, isLog⟩ := @lastInterval_suffix (log history)
        ⟨generation, sequence, []⟩
      rw [List.nil_append] at isLog
      rw [← isLog, publications_append]
      exact List.mem_append_right _ inInterval
  | spoiled invalid deltas marked handed ordered single requires =>
      exact .inr (requires event (List.mem_append_right _ member))

def Rejected (event : RuntimeEvent) : Prop :=
  ∀ generation sequence result, requireEventContinuity event generation sequence ≠ .ok result

theorem rejected_of_requires {event : RuntimeEvent} (requires : event.requiresResnapshot = true) :
    Rejected event := by
  intro generation sequence result accepted
  obtain ⟨⟨-, -, unmarked⟩, -⟩ := requireEventContinuity_ok_iff.mp accepted
  rw [requires] at unmarked
  cases unmarked

theorem read_returns {state : State} {waiter : Waiter} {givesUp : Bool}
    (ready : state.queue.events ≠ [] ∨ state.queue.closed = true ∨
      state.queue.resnapshotRequired = true) :
    ∃ report, (state.read waiter givesUp).2 = [report] := by
  unfold State.read
  cases found : state.queue.events with
  | cons event rest =>
      refine ⟨.handedOut waiter.thread event, ?_⟩
      simp only [Queue.attempt, found]
  | nil =>
      simp only [Queue.attempt, found]
      by_cases isClosed : state.queue.closed = true
      · exact ⟨_, by simp only [if_pos isClosed]; rfl⟩
      · have invalid : state.queue.resnapshotRequired = true := by
          rcases ready with some | shut | invalid
          · exact absurd found some
          · exact absurd shut isClosed
          · exact invalid
        exact ⟨_, by simp only [if_neg isClosed, if_pos invalid]; rfl⟩

/-- What a run of the queue guarantees.  An interval that ends with a reset is
the last one of the run up to that reset. -/
structure EventDelivery (capacity generation sequence : Nat)
    (history : List (Transition State Action Report)) (state : State) : Prop where
  buffer : BufferSound state.queue
  intervals : ∀ before interval startGeneration startSequence,
    log history = before ++ interval →
    Opens generation sequence before startGeneration startSequence →
    (∀ report ∈ interval, report.isReset = false) →
    ∃ deltas marked, HandedInOrder startGeneration startSequence interval deltas marked
  /-- What is handed out after a drop is rejected, unless a closed queue refused
  the dropped event; then it was published before the close. -/
  dropped : ∀ before event after, log history = before ++ .dropped event :: after →
    (∀ report ∈ after, report.isReset = false) → ∀ other ∈ handedOut after,
      Rejected other ∨ ∃ opened later, before = opened ++ .closed :: later ∧
        other ∈ publications opened
  closed : ∀ before after, log history = before ++ .closed :: after →
    (∀ event, .published event true ∉ after) ∧
      ∃ earlier closing, Run (machine capacity generation sequence) earlier closing ∧
        log earlier = before ∧ handedOut after ++ state.queue.events = closing.queue.events
  blocked : Awake state
  woken : ∀ waiter ∈ state.woken, ∀ expired,
    state.queue.events ≠ [] ∨ state.queue.closed = true ∨ state.queue.resnapshotRequired = true →
      ∃ next report, step state (.resume waiter expired) = some (next, [report])

theorem dropped_of_run {capacity generation sequence : Nat}
    {history : List (Transition State Action Report)} {state : State}
    (run : Run (machine capacity generation sequence) history state)
    {before after : List Report} {event other : RuntimeEvent}
    (split : log history = before ++ .dropped event :: after)
    (noReset : ∀ report ∈ after, report.isReset = false) (handed : other ∈ handedOut after) :
    Rejected other ∨ ∃ opened later, before = opened ++ .closed :: later ∧
      other ∈ publications opened := by
  by_cases closed : .closed ∈ before
  · obtain ⟨opened, later, isBefore⟩ := List.append_of_mem closed
    have closing : log history = opened ++ .closed :: (later ++ .dropped event :: after) := by
      rw [split, isBefore, List.append_assoc]
      rfl
    obtain ⟨earlier, shut, runEarlier, isOpened, held, -⟩ := handedOut_since_close run closing
    have inHeld : other ∈ shut.queue.events := by
      rw [← held, List.mem_append, handedOut_append]
      left
      rw [List.mem_append]
      right
      exact handed
    rcases held_published runEarlier other inHeld with published | requires
    · rw [isOpened] at published
      exact .inr ⟨opened, later, isBefore, published⟩
    · exact .inl (rejected_of_requires requires)
  · left
    exact rejected_of_requires (requires_of_dropped run split noReset closed other handed)

/-- Every run of the queue delivers its events in order and leaves no read
blocked for nothing. -/
theorem eventDelivery_of_run {capacity generation sequence : Nat}
    {history : List (Transition State Action Report)} {state : State}
    (run : Run (machine capacity generation sequence) history state) :
    EventDelivery capacity generation sequence history state where
  buffer := (delivered_of_run run).buffer
  intervals := by
    intro before interval startGeneration startSequence split opens noReset
    have delivered := delivered_of_run run
    rw [split, lastInterval_of_opens opens noReset] at delivered
    exact delivered.handedInOrder
  dropped := fun before event after split noReset other handed =>
    dropped_of_run run split noReset handed
  closed := by
    intro before after split
    obtain ⟨earlier, closing, runEarlier, isBefore, held, noneAccepted⟩ :=
      handedOut_since_close run split
    exact ⟨noneAccepted, earlier, closing, runEarlier, isBefore, held⟩
  blocked := by
    refine run.invariant (fun state _ => Awake state) ?_ ?_
    · rintro state ⟨rfl, positive⟩ someBlocked
      exact absurd rfl someBlocked
    · intro state reported action next observed awake taken
      exact step_awake awake taken
  woken := by
    intro waiter member expired ready
    have isWoken : isIn waiter state.woken = true :=
      List.any_eq_true.mpr ⟨waiter, member, by simp⟩
    let resumed : State := { state with woken := remove waiter state.woken }
    obtain ⟨report, returned⟩ : ∃ report,
        (resumed.read waiter (waiter.timed && expired)).2 = [report] := read_returns ready
    refine ⟨(resumed.read waiter (waiter.timed && expired)).1, report, ?_⟩
    rw [step, if_pos isWoken, ← returned]

def change (sequence : Nat) : RuntimeEvent where
  generation := 4
  sequence := sequence
  occurredAt := text "2026-08-22T15:00:00Z"
  kind := .objectChanged
  objectKind := .node
  objectId := .int 20
  current := .none
  previous := .none
  requiresResnapshot := false
  reason := none
  resnapshotKind isKind := by cases isKind <;> contradiction
  addedCurrent isAdded := by cases isAdded
  removedPrevious isRemoved := by cases isRemoved

/-- One event is read by a blocked consumer, then the buffer overflows. -/
def overflowing : List Action :=
  let now := text "2026-08-22T15:00:01Z"
  [.get ⟨1, false⟩ false, .publish 0 (change 11) now, .resume ⟨1, false⟩ false,
    .publish 0 (change 12) now, .publish 0 (change 13) now, .get ⟨1, false⟩ false]

theorem eventDelivery_overflowing :
    ∃ history state, Run (machine 1 4 10) history state ∧
      (handedOut (log history)).map RuntimeEvent.sequence = [11, 13] ∧
      EventDelivery 1 4 10 history state := by
  have run := exec_run overflowing (.start ⟨rfl, by decide⟩ :
    Run (machine 1 4 10) [] ⟨Queue.new 1 4 10, [], []⟩) rfl
  exact ⟨_, _, run, by decide, eventDelivery_of_run run⟩

end Claim

end WyrePlumber.Runtime.EventQueue
