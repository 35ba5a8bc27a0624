import WyrePlumber.Library.Machine
import Mathlib.Data.Prod.Lex
import Mathlib.Algebra.Order.Group.Nat

/-!
# Sequenced streams

A producer numbers its events within an epoch and keeps the unread ones in a
bounded queue.  An overflow replaces the queue by one marker; a snapshot takes a
number of its own.  A consumer applies an event only when it carries the next
number of its epoch.  The two results: numbers are never reused, and a consumer
whose next event was lost accepts nothing afterwards.
-/

set_option autoImplicit false

namespace SequencedStream

open LabelledMachine

universe u

/-- What the stream reads of an event: its number within an epoch, whether it
breaks continuity, and the marker that replaces it on overflow. -/
class Stamped (Event : Type u) where
  epoch : Event → Nat
  number : Event → Nat
  breaks : Event → Bool
  spoil : Event → Event
  epoch_spoil : ∀ event, epoch (spoil event) = epoch event
  number_spoil : ∀ event, number (spoil event) = number event
  breaks_spoil : ∀ event, breaks (spoil event) = true

structure Stream (Event : Type u) where
  epoch : Nat
  number : Nat
  queue : List Event
  capacity : Nat
  invalid : Bool
  closed : Bool

inductive Action (Event : Type u) where
  | publish (event : Event)
  | skip
  | openEpoch
  | snapshot (reader : Nat)
  | reset
  | deliver (reader : Nat)
  | close

inductive Report (Event : Type u) where
  | published (event : Event)
  | dropped (event : Event)
  | snapshot (reader epoch number : Nat)
  | delivered (reader : Nat) (event : Event)

variable {Event : Type u} [Stamped Event]

/-- Stamps are compared by epoch first. -/
def stamp (event : Event) : Nat ×ₗ Nat :=
  toLex (Stamped.epoch event, Stamped.number event)

@[simp] theorem stamp_spoil (event : Event) :
    stamp (Stamped.spoil event) = stamp event := by
  rw [stamp, Stamped.epoch_spoil, Stamped.number_spoil, stamp]

def Stream.position (stream : Stream Event) : Nat ×ₗ Nat :=
  toLex (stream.epoch, stream.number)

def push (stream : Stream Event) (event : Event) :
    Stream Event × List (Report Event) :=
  if stream.closed || stream.invalid then
    (stream, if stream.closed then [] else [.dropped event])
  else if stream.capacity ≤ stream.queue.length then
    ({ stream with queue := [Stamped.spoil event], invalid := true },
      (stream.queue ++ [event]).map .dropped)
  else ({ stream with queue := stream.queue ++ [event] }, [])

def step (stream : Stream Event) :
    Action Event → Option (Stream Event × List (Report Event))
  | .publish event =>
      if stamp event = toLex (stream.epoch, stream.number + 1) then
        let pushed := push { stream with number := stream.number + 1 } event
        some (pushed.1, .published event :: pushed.2)
      else none
  | .skip => some ({ stream with number := stream.number + 1 }, [])
  | .openEpoch => some ({ stream with epoch := stream.epoch + 1, number := 0 }, [])
  | .snapshot reader =>
      some ({ stream with number := stream.number + 1 },
        [.snapshot reader stream.epoch (stream.number + 1)])
  | .reset =>
      some ({ stream with queue := [], invalid := false }, stream.queue.map .dropped)
  | .deliver reader =>
      match stream.queue with
      | [] => none
      | event :: rest => some ({ stream with queue := rest }, [.delivered reader event])
  | .close => some ({ stream with closed := true }, [])

def machine : Machine (Stream Event) (Action Event) (Report Event) where
  initial stream := stream.queue = [] ∧ stream.invalid = false
  step := step

/-! ## What was numbered, delivered and lost -/

def Report.stamp? : Report Event → Option (Nat ×ₗ Nat)
  | .published event => some (stamp event)
  | .snapshot _ epoch number => some (toLex (epoch, number))
  | _ => none

/-- The stamps given out, oldest first. -/
def stamps (reported : List (Report Event)) : List (Nat ×ₗ Nat) :=
  reported.filterMap Report.stamp?

def Report.delivery? : Report Event → Option Event
  | .delivered _ event => some event
  | _ => none

def deliveries (reported : List (Report Event)) : List Event :=
  reported.filterMap Report.delivery?

/-- An event that no reader will get any more. -/
def Gone (reported : List (Report Event)) (event : Event) : Prop :=
  .dropped event ∈ reported ∨ ∃ reader, .delivered reader event ∈ reported

@[simp] theorem stamps_append (reported observed : List (Report Event)) :
    stamps (reported ++ observed) = stamps reported ++ stamps observed := by
  simp [stamps]

omit [Stamped Event] in
@[simp] theorem deliveries_append (reported observed : List (Report Event)) :
    deliveries (reported ++ observed) = deliveries reported ++ deliveries observed := by
  simp [deliveries]

@[simp] theorem stamps_dropped (events : List Event) :
    stamps (events.map Report.dropped) = [] := by
  simp [stamps, Report.stamp?]

omit [Stamped Event] in
@[simp] theorem deliveries_dropped (events : List Event) :
    deliveries (events.map Report.dropped) = [] := by
  simp [deliveries, Report.delivery?]

omit [Stamped Event] in
theorem gone_append {reported observed : List (Report Event)} {event : Event} :
    Gone (reported ++ observed) event ↔ Gone reported event ∨ Gone observed event := by
  simp only [Gone, List.mem_append, exists_or]
  tauto

omit [Stamped Event] in
theorem mem_deliveries {reported : List (Report Event)} {event : Event} :
    event ∈ deliveries reported ↔ ∃ reader, .delivered reader event ∈ reported := by
  simp only [deliveries, List.mem_filterMap]
  constructor
  · rintro ⟨report, member, same⟩
    cases report with
    | delivered reader other =>
        cases same
        exact ⟨reader, member⟩
    | _ => cases same
  · rintro ⟨reader, member⟩
    exact ⟨_, member, rfl⟩

/-! ## The invariant -/

/-- Numbers grow, the queue holds later events than everything that left it, and
what the queue delivers unspoiled was published as it is. -/
structure Sound (stream : Stream Event) (reported : List (Report Event)) : Prop where
  numbered : (stamps reported).Pairwise (· < ·)
  bounded : ∀ given ∈ stamps reported, given ≤ stream.position
  queueOrdered : (stream.queue.map stamp).Pairwise (· < ·)
  queueBounded : ∀ event ∈ stream.queue, stamp event ≤ stream.position
  queuePublished : ∀ event ∈ stream.queue, Stamped.breaks event = false →
    .published event ∈ reported
  invalidBreaks : stream.invalid = true → ∀ event ∈ stream.queue,
    Stamped.breaks event = true
  deliveredOrdered : ((deliveries reported).map stamp).Pairwise (· < ·)
  deliveredPublished : ∀ event ∈ deliveries reported, Stamped.breaks event = false →
    .published event ∈ reported
  deliveredBefore : ∀ lost ∈ deliveries reported, ∀ event ∈ stream.queue,
    stamp lost < stamp event
  goneBounded : ∀ lost, Gone reported lost → stamp lost ≤ stream.position
  goneBefore : ∀ lost, Gone reported lost → ∀ event ∈ stream.queue,
    Stamped.breaks event = true ∨ stamp lost < stamp event

theorem sound_initial {stream : Stream Event} (initial : machine.initial stream) :
    Sound stream [] := by
  obtain ⟨empty, _⟩ := initial
  constructor <;> simp [stamps, deliveries, Gone, empty]

/-- A report that gives out at most the position reached by the step. -/
structure Advance (stream next : Stream Event) (observed : List (Report Event)) :
    Prop where
  later : stream.position < next.position
  queue : next.queue = stream.queue
  invalid : next.invalid = stream.invalid
  stamps : ∀ given ∈ stamps observed, given = next.position
  single : (SequencedStream.stamps observed).Pairwise (· < ·)
  deliveries : deliveries observed = []
  gone : ∀ lost, ¬ Gone observed lost

theorem Sound.advance {stream next : Stream Event}
    {reported observed : List (Report Event)} (sound : Sound stream reported)
    (advance : Advance stream next observed) : Sound next (reported ++ observed) where
  numbered := by
    rw [stamps_append, List.pairwise_append]
    refine ⟨sound.numbered, advance.single, ?_⟩
    intro given before fresh now
    rw [advance.stamps fresh now]
    exact lt_of_le_of_lt (sound.bounded given before) advance.later
  bounded := by
    intro given member
    rw [stamps_append, List.mem_append] at member
    rcases member with before | now
    · exact (lt_of_le_of_lt (sound.bounded given before) advance.later).le
    · exact (advance.stamps given now).le
  queueOrdered := advance.queue ▸ sound.queueOrdered
  queueBounded := by
    intro event member
    rw [advance.queue] at member
    exact (lt_of_le_of_lt (sound.queueBounded event member) advance.later).le
  queuePublished := by
    intro event member intact
    rw [advance.queue] at member
    exact List.mem_append_left _ (sound.queuePublished event member intact)
  invalidBreaks := by
    rw [advance.queue, advance.invalid]
    exact sound.invalidBreaks
  deliveredOrdered := by
    rw [deliveries_append, advance.deliveries, List.append_nil]
    exact sound.deliveredOrdered
  deliveredPublished := by
    intro event member intact
    rw [deliveries_append, advance.deliveries, List.append_nil] at member
    exact List.mem_append_left _ (sound.deliveredPublished event member intact)
  deliveredBefore := by
    rw [deliveries_append, advance.deliveries, List.append_nil, advance.queue]
    exact sound.deliveredBefore
  goneBounded := by
    intro lost gone
    rcases gone_append.mp gone with before | now
    · exact (lt_of_le_of_lt (sound.goneBounded lost before) advance.later).le
    · exact absurd now (advance.gone lost)
  goneBefore := by
    intro lost gone
    rw [advance.queue]
    rcases gone_append.mp gone with before | now
    · exact sound.goneBefore lost before
    · exact absurd now (advance.gone lost)

omit [Stamped Event] in
theorem gone_dropped {events : List Event} {lost : Event} :
    Gone (events.map Report.dropped) lost ↔ lost ∈ events := by
  simp [Gone]

/-- Changing the queue while dropping events, at an unchanged position. -/
theorem Sound.requeue {stream next : Stream Event} {reported : List (Report Event)}
    (sound : Sound stream reported) (lost : List Event)
    (position : next.position = stream.position)
    (ordered : (next.queue.map stamp).Pairwise (· < ·))
    (queued : ∀ event ∈ next.queue, stamp event ≤ stream.position ∧
      (Stamped.breaks event = false → .published event ∈ reported))
    (breaks : next.invalid = true → ∀ event ∈ next.queue, Stamped.breaks event = true)
    (delivered : ∀ event ∈ deliveries reported, ∀ other ∈ next.queue,
      stamp event < stamp other)
    (lostBounded : ∀ event ∈ lost, stamp event ≤ stream.position)
    (before : ∀ event, Gone reported event ∨ event ∈ lost →
      ∀ other ∈ next.queue, Stamped.breaks other = true ∨ stamp event < stamp other) :
    Sound next (reported ++ lost.map .dropped) where
  numbered := by
    rw [stamps_append, stamps_dropped, List.append_nil]
    exact sound.numbered
  bounded := by
    rw [stamps_append, stamps_dropped, List.append_nil, position]
    exact sound.bounded
  queueOrdered := ordered
  queueBounded := by
    intro event member
    rw [position]
    exact (queued event member).1
  queuePublished := by
    intro event member intact
    exact List.mem_append_left _ ((queued event member).2 intact)
  invalidBreaks := breaks
  deliveredOrdered := by
    rw [deliveries_append, deliveries_dropped, List.append_nil]
    exact sound.deliveredOrdered
  deliveredPublished := by
    intro event member intact
    rw [deliveries_append, deliveries_dropped, List.append_nil] at member
    exact List.mem_append_left _ (sound.deliveredPublished event member intact)
  deliveredBefore := by
    rw [deliveries_append, deliveries_dropped, List.append_nil]
    exact delivered
  goneBounded := by
    intro event gone
    rw [position]
    rcases gone_append.mp gone with old | now
    · exact sound.goneBounded event old
    · exact lostBounded event (gone_dropped.mp now)
  goneBefore := by
    intro event gone
    rcases gone_append.mp gone with old | now
    · exact before event (.inl old)
    · exact before event (.inr (gone_dropped.mp now))

/-- `push` right after the event took the number of the current position. -/
theorem Sound.push {stream : Stream Event} {reported : List (Report Event)}
    (sound : Sound stream reported) (event : Event)
    (current : stamp event = stream.position)
    (published : .published event ∈ reported)
    (fresh : ∀ other ∈ stream.queue, stamp other < stamp event)
    (freshDelivered : ∀ other ∈ deliveries reported, stamp other < stamp event)
    (freshGone : ∀ other, Gone reported other → stamp other < stamp event) :
    Sound (push stream event).1 (reported ++ (push stream event).2) := by
  unfold SequencedStream.push
  split
  · rename_i refused
    split
    · simpa using sound
    · rename_i notClosed
      have invalid : stream.invalid = true := by
        simpa [notClosed] using refused
      have marked := sound.invalidBreaks invalid
      refine sound.requeue [event] rfl sound.queueOrdered ?_ sound.invalidBreaks
        sound.deliveredBefore ?_ ?_
      · intro other member
        exact ⟨sound.queueBounded other member, sound.queuePublished other member⟩
      · intro other member
        rw [List.mem_singleton.mp member, current]
      · intro other _ queued member
        exact .inl (marked queued member)
  · rename_i accepting
    split
    · refine sound.requeue (stream.queue ++ [event]) rfl (by simp) ?_ ?_ ?_ ?_ ?_
      · intro other member
        rw [List.mem_singleton.mp member, stamp_spoil, current]
        exact ⟨le_refl _, by simp [Stamped.breaks_spoil]⟩
      · intro _ other member
        rw [List.mem_singleton.mp member]
        exact Stamped.breaks_spoil event
      · intro other delivered queued member
        rw [List.mem_singleton.mp member, stamp_spoil]
        exact freshDelivered other delivered
      · intro other member
        rcases List.mem_append.mp member with old | now
        · exact sound.queueBounded other old
        · rw [List.mem_singleton.mp now, current]
      · intro other _ queued member
        rw [List.mem_singleton.mp member]
        exact .inl (Stamped.breaks_spoil event)
    · have valid : stream.invalid = false := by
        simp only [Bool.or_eq_true, not_or, Bool.not_eq_true] at accepting
        exact accepting.2
      refine sound.requeue [] rfl ?_ ?_ ?_ ?_ (by simp) ?_
      · rw [List.map_append, List.pairwise_append]
        refine ⟨sound.queueOrdered, by simp, ?_⟩
        intro earlier before later now
        obtain ⟨other, member, rfl⟩ := List.mem_map.mp before
        rw [List.map_singleton, List.mem_singleton] at now
        rw [now]
        exact fresh other member
      · intro other member
        rcases List.mem_append.mp member with old | now
        · exact ⟨sound.queueBounded other old, sound.queuePublished other old⟩
        · rw [List.mem_singleton.mp now, current]
          exact ⟨le_refl _, fun _ => published⟩
      · intro invalid
        rw [valid] at invalid
        cases invalid
      · intro other delivered queued member
        rcases List.mem_append.mp member with old | now
        · exact sound.deliveredBefore other delivered queued old
        · rw [List.mem_singleton.mp now]
          exact freshDelivered other delivered
      · rintro other (gone | none) queued member
        · rcases List.mem_append.mp member with old | now
          · exact sound.goneBefore other gone queued old
          · rw [List.mem_singleton.mp now]
            exact .inr (freshGone other gone)
        · cases none

theorem Sound.deliver {stream : Stream Event} {reported : List (Report Event)}
    {event : Event} {rest : List Event} (sound : Sound stream reported) (reader : Nat)
    (queued : stream.queue = event :: rest) :
    Sound { stream with queue := rest } (reported ++ [.delivered reader event]) := by
  have head : event ∈ stream.queue := by simp [queued]
  have tail : ∀ other ∈ rest, other ∈ stream.queue := by
    intro other member
    simp [queued, member]
  have ordered := sound.queueOrdered
  rw [queued, List.map_cons, List.pairwise_cons] at ordered
  have later : ∀ other ∈ rest, stamp event < stamp other := by
    intro other member
    exact ordered.1 _ (List.mem_map_of_mem member)
  have delivery : deliveries [Report.delivered reader event] = [event] := rfl
  have noStamp : stamps [Report.delivered reader event] = [] := rfl
  have goneNow : ∀ lost, Gone [Report.delivered reader event] lost → lost = event := by
    intro lost gone
    simpa [Gone] using gone
  constructor
  · rw [stamps_append, noStamp, List.append_nil]
    exact sound.numbered
  · rw [stamps_append, noStamp, List.append_nil]
    exact sound.bounded
  · exact ordered.2
  · intro other member
    exact sound.queueBounded other (tail other member)
  · intro other member intact
    exact List.mem_append_left _ (sound.queuePublished other (tail other member) intact)
  · intro invalid other member
    exact sound.invalidBreaks invalid other (tail other member)
  · rw [deliveries_append, delivery, List.map_append, List.pairwise_append]
    refine ⟨sound.deliveredOrdered, by simp, ?_⟩
    intro earlier before current now
    obtain ⟨other, member, rfl⟩ := List.mem_map.mp before
    rw [List.map_singleton, List.mem_singleton] at now
    rw [now]
    exact sound.deliveredBefore other member event head
  · intro other member intact
    refine List.mem_append_left _ ?_
    rw [deliveries_append, delivery, List.mem_append, List.mem_singleton] at member
    rcases member with before | rfl
    · exact sound.deliveredPublished other before intact
    · exact sound.queuePublished other head intact
  · intro lost member other inRest
    rw [deliveries_append, delivery, List.mem_append, List.mem_singleton] at member
    rcases member with before | rfl
    · exact sound.deliveredBefore lost before other (tail other inRest)
    · exact later other inRest
  · intro lost gone
    rcases gone_append.mp gone with before | now
    · exact sound.goneBounded lost before
    · rw [goneNow lost now]
      exact sound.queueBounded event head
  · intro lost gone other inRest
    rcases gone_append.mp gone with before | now
    · exact sound.goneBefore lost before other (tail other inRest)
    · rw [goneNow lost now]
      exact .inr (later other inRest)

omit [Stamped Event] in
theorem position_lt_number (stream : Stream Event) :
    stream.position < toLex (stream.epoch, stream.number + 1) := by
  rw [Stream.position, Prod.Lex.toLex_lt_toLex]
  exact .inr ⟨rfl, Nat.lt_succ_self _⟩

omit [Stamped Event] in
theorem position_lt_epoch (stream : Stream Event) :
    stream.position < toLex (stream.epoch + 1, 0) := by
  rw [Stream.position, Prod.Lex.toLex_lt_toLex]
  exact .inl (Nat.lt_succ_self _)

theorem push_position (stream : Stream Event) (event : Event) :
    (push stream event).1.position = stream.position := by
  unfold push
  split
  · rfl
  · split <;> rfl

theorem push_stamps (stream : Stream Event) (event : Event) :
    stamps (push stream event).2 = [] := by
  unfold push
  split
  · split <;> rfl
  · split
    · exact stamps_dropped _
    · rfl

/-- Positions only grow, and a number that is given out lies above the position
before the step. -/
theorem step_position {stream next : Stream Event} {action : Action Event}
    {observed : List (Report Event)}
    (taken : step stream action = some (next, observed)) :
    stream.position ≤ next.position ∧
      ∀ given ∈ stamps observed, stream.position < given ∧ given ≤ next.position := by
  cases action with
  | publish event =>
      simp only [step] at taken
      split at taken
      · rename_i numbered
        cases taken
        rw [push_position]
        have forward := position_lt_number stream
        refine ⟨forward.le, ?_⟩
        intro given member
        have given_cons : stamps (.published event ::
            (push { stream with number := stream.number + 1 } event).2) = [stamp event] :=
          congrArg (List.cons (stamp event)) (push_stamps _ event)
        rw [given_cons, List.mem_singleton] at member
        rw [member, numbered]
        exact ⟨forward, le_refl _⟩
      · cases taken
  | skip =>
      cases taken
      exact ⟨(position_lt_number stream).le, by simp [stamps]⟩
  | openEpoch =>
      cases taken
      exact ⟨(position_lt_epoch stream).le, by simp [stamps]⟩
  | snapshot reader =>
      cases taken
      have forward := position_lt_number stream
      refine ⟨forward.le, ?_⟩
      intro given member
      rw [List.mem_singleton.mp member]
      exact ⟨forward, le_refl _⟩
  | reset =>
      cases taken
      exact ⟨le_refl _, by simp⟩
  | deliver reader =>
      simp only [step] at taken
      split at taken
      · cases taken
      · cases taken
        exact ⟨le_refl _, by simp [stamps, Report.stamp?]⟩
  | close =>
      cases taken
      exact ⟨le_refl _, by simp [stamps]⟩

theorem steps_position {stream next : Stream Event} {observed : List (Report Event)}
    (steps : Steps machine stream observed next) :
    stream.position ≤ next.position ∧
      ∀ given ∈ stamps observed, stream.position < given ∧ given ≤ next.position := by
  induction steps with
  | refl stream => exact ⟨le_refl _, by simp [stamps]⟩
  | @head stream middle final action first later taken rest inductionHypothesis =>
      obtain ⟨firstLe, firstGiven⟩ := step_position taken
      obtain ⟨laterLe, laterGiven⟩ := inductionHypothesis
      refine ⟨firstLe.trans laterLe, ?_⟩
      intro given member
      rw [stamps_append, List.mem_append] at member
      rcases member with before | after
      · obtain ⟨above, below⟩ := firstGiven given before
        exact ⟨above, below.trans laterLe⟩
      · obtain ⟨above, below⟩ := laterGiven given after
        exact ⟨lt_of_le_of_lt firstLe above, below⟩

/-- A closed stream stays closed. -/
theorem step_closed {stream next : Stream Event} {action : Action Event}
    {observed : List (Report Event)} (taken : step stream action = some (next, observed))
    (closed : stream.closed = true) : next.closed = true := by
  cases action with
  | publish event =>
      simp only [step] at taken
      split at taken
      · cases taken
        unfold push
        split
        · exact closed
        · split <;> exact closed
      · cases taken
  | deliver reader =>
      simp only [step] at taken
      split at taken
      · cases taken
      · cases taken
        exact closed
  | close =>
      cases taken
      rfl
  | _ =>
      cases taken
      exact closed

theorem steps_closed {stream next : Stream Event} {observed : List (Report Event)}
    (steps : Steps machine stream observed next) (closed : stream.closed = true) :
    next.closed = true := by
  induction steps with
  | refl stream => exact closed
  | head action taken rest inductionHypothesis => exact inductionHypothesis (step_closed taken closed)

theorem Sound.publish {stream : Stream Event} {reported : List (Report Event)}
    {event : Event} (sound : Sound stream reported)
    (next : stamp event = toLex (stream.epoch, stream.number + 1)) :
    Sound (SequencedStream.push { stream with number := stream.number + 1 } event).1
      (reported ++ .published event ::
        (SequencedStream.push { stream with number := stream.number + 1 } event).2) := by
  have later : stream.position < stamp event := by
    rw [next]
    exact position_lt_number stream
  have advanced : Sound { stream with number := stream.number + 1 }
      (reported ++ [.published event]) := by
    refine sound.advance ⟨position_lt_number stream, rfl, rfl, ?_, ?_, rfl, ?_⟩
    · intro given member
      rw [List.mem_singleton.mp member]
      exact next
    · exact List.pairwise_singleton _ _
    · intro lost gone
      simp [Gone] at gone
  have pushed := advanced.push event next (by simp) ?_ ?_ ?_
  · rw [List.append_assoc] at pushed
    exact pushed
  · intro other member
    exact lt_of_le_of_lt (sound.queueBounded other member) later
  · intro other member
    rw [deliveries_append] at member
    have before : other ∈ deliveries reported := by
      simpa [deliveries, Report.delivery?] using member
    exact lt_of_le_of_lt
      (sound.goneBounded other (.inr (mem_deliveries.mp before))) later
  · intro other gone
    have before : Gone reported other := by
      simpa [Gone] using gone
    exact lt_of_le_of_lt (sound.goneBounded other before) later

theorem Sound.step {stream next : Stream Event} {reported observed : List (Report Event)}
    {action : Action Event} (sound : Sound stream reported)
    (taken : SequencedStream.step stream action = some (next, observed)) :
    Sound next (reported ++ observed) := by
  cases action with
  | publish event =>
      simp only [SequencedStream.step] at taken
      split at taken
      · rename_i numbered
        cases taken
        exact sound.publish numbered
      · cases taken
  | skip =>
      cases taken
      refine sound.advance ⟨position_lt_number stream, rfl, rfl, by simp [stamps],
        by simp [stamps], rfl, by simp [Gone]⟩
  | openEpoch =>
      cases taken
      refine sound.advance ⟨position_lt_epoch stream, rfl, rfl, by simp [stamps],
        by simp [stamps], rfl, by simp [Gone]⟩
  | snapshot reader =>
      cases taken
      refine sound.advance ⟨position_lt_number stream, rfl, rfl, ?_, ?_, rfl, by simp [Gone]⟩
      · intro given member
        rw [List.mem_singleton.mp member]
        rfl
      · exact List.pairwise_singleton _ _
  | reset =>
      cases taken
      refine sound.requeue stream.queue rfl (by simp) (by simp) (by simp) (by simp)
        sound.queueBounded (by simp)
  | deliver reader =>
      simp only [SequencedStream.step] at taken
      split at taken
      · cases taken
      · rename_i event rest queued
        cases taken
        exact sound.deliver reader queued
  | close =>
      cases taken
      have closed : Sound { stream with closed := true }
          (reported ++ ([] : List Event).map .dropped) := by
        refine sound.requeue [] rfl sound.queueOrdered ?_ sound.invalidBreaks
          sound.deliveredBefore (by simp) ?_
        · intro event member
          exact ⟨sound.queueBounded event member, sound.queuePublished event member⟩
        · rintro lost (gone | none)
          · exact sound.goneBefore lost gone
          · cases none
      exact closed

/-- The invariant holds in every state a run reaches. -/
theorem sound_of_run
    {history : List (Transition (Stream Event) (Action Event) (Report Event))}
    {stream : Stream Event} (run : Run machine history stream) :
    Sound stream (log history) := by
  refine run.invariant Sound ?_ ?_
  · intro stream initial
    exact sound_initial initial
  · intro stream reported action next observed sound taken
    exact sound.step taken

/-! ## One stamp, one report -/

theorem Sound.stamps_nodup {stream : Stream Event} {reported : List (Report Event)}
    (sound : Sound stream reported) : (stamps reported).Nodup :=
  sound.numbered.imp ne_of_lt

theorem Sound.deliveries_nodup {stream : Stream Event} {reported : List (Report Event)}
    (sound : Sound stream reported) : ((deliveries reported).map stamp).Nodup :=
  sound.deliveredOrdered.imp ne_of_lt

theorem report_unique {reported : List (Report Event)} (distinct : (stamps reported).Nodup)
    {first second : Report Event} {given : Nat ×ₗ Nat}
    (inFirst : first ∈ reported) (inSecond : second ∈ reported)
    (firstGiven : first.stamp? = some given) (secondGiven : second.stamp? = some given) :
    first = second := by
  induction reported with
  | nil => cases inFirst
  | cons report rest inductionHypothesis =>
      have given_mem {other : Report Event} (member : other ∈ rest)
          (same : other.stamp? = some given) : given ∈ stamps rest :=
        List.mem_filterMap.mpr ⟨other, member, same⟩
      have tail : (stamps rest).Nodup := by
        refine distinct.sublist ?_
        exact (List.sublist_cons_self report rest).filterMap Report.stamp?
      have head (same : report.stamp? = some given) : given ∉ stamps rest := by
        simp only [stamps, List.filterMap_cons, same, List.nodup_cons] at distinct
        exact distinct.1
      rcases List.mem_cons.mp inFirst with rfl | firstRest <;>
        rcases List.mem_cons.mp inSecond with rfl | secondRest
      · rfl
      · exact absurd (given_mem secondRest secondGiven) (head firstGiven)
      · exact absurd (given_mem firstRest firstGiven) (head secondGiven)
      · exact inductionHypothesis tail firstRest secondRest

theorem Sound.published_unique {stream : Stream Event} {reported : List (Report Event)}
    (sound : Sound stream reported) {first second : Event}
    (inFirst : .published first ∈ reported) (inSecond : .published second ∈ reported)
    (same : stamp first = stamp second) : first = second := by
  have reports := report_unique sound.stamps_nodup inFirst inSecond rfl
    (congrArg some same.symm)
  exact Report.published.inj reports

/-- An event numbered after a snapshot was published after it. -/
theorem Sound.published_after {stream : Stream Event} {before after : List (Report Event)}
    {reader epoch number : Nat}
    (sound : Sound stream (before ++ .snapshot reader epoch number :: after))
    {event : Event}
    (published : .published event ∈ before ++ .snapshot reader epoch number :: after)
    (later : toLex (epoch, number) < stamp event) : .published event ∈ after := by
  rcases List.mem_append.mp published with inBefore | inAfter
  · have ordered := sound.numbered
    rw [stamps_append, List.pairwise_append] at ordered
    have earlier : stamp event < toLex (epoch, number) := by
      refine ordered.2.2 (stamp event) ?_ (toLex (epoch, number)) ?_
      · exact List.mem_filterMap.mpr ⟨_, inBefore, rfl⟩
      · exact List.mem_filterMap.mpr ⟨_, List.mem_cons_self, rfl⟩
    exact absurd (later.trans earlier) (lt_irrefl _)
  · simpa using inAfter

/-! ## The consumer -/

def continues (epoch number : Nat) (event : Event) : Bool :=
  Stamped.epoch event == epoch && Stamped.number event == number + 1 &&
    !Stamped.breaks event

theorem continues_iff {epoch number : Nat} {event : Event} :
    continues epoch number event = true ↔
      stamp event = toLex (epoch, number + 1) ∧ Stamped.breaks event = false := by
  simp [continues, stamp, and_assoc]

/-- The events a consumer applies, starting behind `number`. -/
def consume (epoch : Nat) : Nat → List Event → List Event
  | _, [] => []
  | number, event :: rest =>
      if continues epoch number event then event :: consume epoch (number + 1) rest
      else consume epoch number rest

theorem consume_stamps (epoch number : Nat) (seen : List Event) :
    (consume epoch number seen).map stamp =
      (List.range' (number + 1) (consume epoch number seen).length).map
        fun next => toLex (epoch, next) := by
  induction seen generalizing number with
  | nil => rfl
  | cons event rest inductionHypothesis =>
      simp only [consume]
      split
      · rename_i accepted
        simp only [List.map_cons, List.length_cons, List.range'_succ]
        rw [(continues_iff.mp accepted).1, inductionHypothesis]
      · exact inductionHypothesis number

theorem mem_consume {epoch number : Nat} {seen : List Event} {event : Event}
    (member : event ∈ consume epoch number seen) :
    event ∈ seen ∧ Stamped.breaks event = false := by
  induction seen generalizing number with
  | nil => cases member
  | cons first rest inductionHypothesis =>
      simp only [consume] at member
      split at member
      · rename_i accepted
        rcases List.mem_cons.mp member with rfl | inRest
        · exact ⟨List.mem_cons_self, (continues_iff.mp accepted).2⟩
        · obtain ⟨inSeen, intact⟩ := inductionHypothesis inRest
          exact ⟨List.mem_cons_of_mem _ inSeen, intact⟩
      · obtain ⟨inSeen, intact⟩ := inductionHypothesis member
        exact ⟨List.mem_cons_of_mem _ inSeen, intact⟩

theorem mem_consume_stamp {epoch number next : Nat} {seen : List Event} :
    toLex (epoch, next) ∈ (consume epoch number seen).map stamp ↔
      number < next ∧ next ≤ number + (consume epoch number seen).length := by
  rw [consume_stamps, List.mem_map]
  constructor
  · rintro ⟨value, member, same⟩
    obtain ⟨_, rfl⟩ := Prod.mk.inj (toLex_inj.mp same)
    rw [List.mem_range'_1] at member
    omega
  · rintro ⟨above, atMost⟩
    exact ⟨next, List.mem_range'_1.mpr (by omega), rfl⟩

/-- A consumer applies exactly the events published under the numbers it went
through. -/
theorem Sound.mem_consume_iff {stream : Stream Event} {reported : List (Report Event)}
    (sound : Sound stream reported) {epoch number : Nat} {seen : List Event}
    (delivered : ∀ event ∈ seen, event ∈ deliveries reported) (event : Event) :
    event ∈ consume epoch number seen ↔
      .published event ∈ reported ∧ Stamped.epoch event = epoch ∧
        number < Stamped.number event ∧
        Stamped.number event ≤ number + (consume epoch number seen).length := by
  have published {applied : Event} (member : applied ∈ consume epoch number seen) :
      .published applied ∈ reported := by
    obtain ⟨inSeen, intact⟩ := mem_consume member
    exact sound.deliveredPublished applied (delivered applied inSeen) intact
  constructor
  · intro member
    have stamped : stamp event ∈ (consume epoch number seen).map stamp :=
      List.mem_map_of_mem member
    have inEpoch : Stamped.epoch event = epoch := by
      rw [consume_stamps, List.mem_map] at stamped
      obtain ⟨_, _, same⟩ := stamped
      exact (Prod.mk.inj (toLex_inj.mp same)).1.symm
    have stampEq : stamp event = toLex (epoch, Stamped.number event) := by
      rw [stamp, inEpoch]
    rw [stampEq, mem_consume_stamp] at stamped
    exact ⟨published member, inEpoch, stamped⟩
  · rintro ⟨wasPublished, rfl, range⟩
    have stamped : toLex (Stamped.epoch event, Stamped.number event) ∈
        (consume (Stamped.epoch event) number seen).map stamp :=
      mem_consume_stamp.mpr range
    obtain ⟨applied, member, same⟩ := List.mem_map.mp stamped
    have unique := sound.published_unique (published member) wasPublished same
    exact unique ▸ member

/-- Once an event beyond the consumer's position is gone, whatever the queue
holds is rejected. -/
theorem Sound.gap_rejected {stream : Stream Event} {reported : List (Report Event)}
    (sound : Sound stream reported) {epoch number : Nat} {lost : Event}
    (gone : Gone reported lost) (inEpoch : Stamped.epoch lost = epoch)
    (beyond : number < Stamped.number lost) {event : Event}
    (queued : event ∈ stream.queue) : continues epoch number event = false := by
  rw [Bool.eq_false_iff]
  intro accepted
  obtain ⟨stamped, intact⟩ := continues_iff.mp accepted
  rcases sound.goneBefore lost gone event queued with breaks | before
  · rw [intact] at breaks
    cases breaks
  · rw [stamped, stamp, Prod.Lex.toLex_lt_toLex] at before
    omega

/-- The loss of an event is never silent: what is delivered after it is rejected
by every consumer that stands before the lost event. -/
theorem loss_rejected
    {history : List (Transition (Stream Event) (Action Event) (Report Event))}
    {stream : Stream Event} (run : Run machine history stream)
    {before after : List (Report Event)} {reader : Nat} {event : Event}
    (split : log history = before ++ .delivered reader event :: after)
    {epoch number : Nat} {lost : Event} (gone : Gone before lost)
    (inEpoch : Stamped.epoch lost = epoch) (beyond : number < Stamped.number lost) :
    continues epoch number event = false := by
  obtain ⟨earlier, transition, later, front, back, inHistory, observed, rfl, _⟩ :=
    log_split split
  obtain ⟨shorter, taken⟩ := run.of_split inHistory
  have sound := sound_of_run shorter
  obtain ⟨state, action, next, reported⟩ := transition
  have deliver {rest : List Event} (queued : state.queue = event :: rest)
      (first : front = []) : continues epoch number event = false := by
    subst first
    rw [List.append_nil] at gone
    exact sound.gap_rejected gone inEpoch beyond (by simp [queued])
  have member : .delivered reader event ∈ reported := by
    simp only at observed
    simp [observed]
  simp only [machine] at taken
  cases action with
  | deliver current =>
      simp only [step] at taken
      split at taken
      · cases taken
      · rename_i head rest queued
        cases taken
        have single := congrArg List.length observed
        have first : front = [] := by
          rw [← List.length_eq_zero_iff]
          simp at single
          omega
        subst first
        obtain ⟨⟨rfl, rfl⟩, _⟩ := by simpa using observed
        exact deliver queued rfl
  | publish published =>
      simp only [step] at taken
      split at taken
      · cases taken
        rcases List.mem_cons.mp member with impossible | pushed
        · cases impossible
        · unfold push at pushed
          split at pushed
          · split at pushed <;> simp at pushed
          · split at pushed <;> simp at pushed
      · cases taken
  | skip | openEpoch | snapshot | close | reset =>
      cases taken
      simp at member

end SequencedStream
