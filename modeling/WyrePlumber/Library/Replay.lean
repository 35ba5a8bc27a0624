import Mathlib.Data.List.Induction
import Mathlib.Data.List.Sort
import WyrePlumber.Library.Dictionary
import WyrePlumber.Library.SequencedStream

/-!
# Replaying a stream into a table

A reader holds a table of objects that was right at some number of the stream, and
changes it by the events behind that number.  What it holds for a key afterwards is
decided by the last of these events that changes the key.
-/

set_option autoImplicit false

namespace Replay

open Dictionary SequencedStream

section Changes

variable {Key Value : Type}

/-- What an event does to the object of its key. -/
inductive Change (Value : Type) where
  | removed
  | replaced (value : Value)
  | kept

def Change.isKept : Change Value → Bool
  | .kept => true
  | _ => false

def Change.result : Change Value → Option Value
  | .replaced value => some value
  | _ => none

variable [DecidableEq Key]

def apply (items : List (Key × Value)) (change : Key × Change Value) : List (Key × Value) :=
  match change.2 with
  | .removed => erase items change.1
  | .replaced value => set items change.1 value
  | .kept => items

/-- The last change of a key. -/
def latest (key : Key) (changes : List (Key × Change Value)) : Option (Change Value) :=
  (changes.filter fun change => change.1 = key && !change.2.isKept).getLast?.map Prod.snd

/-- What a key holds after some changes. -/
def outcome (key : Key) (changes : List (Key × Change Value)) (before : Option Value) :
    Option Value :=
  match latest key changes with
  | none => before
  | some change => change.result

variable {items : List (Key × Value)} {changes : List (Key × Change Value)} {key : Key}

theorem lookup_apply (change : Key × Change Value) :
    (apply items change).lookup key =
      if change.1 = key && !change.2.isKept then change.2.result else items.lookup key := by
  obtain ⟨changed, change⟩ := change
  by_cases same : changed = key
  · subst same
    cases change with
    | removed => simp [apply, lookup_erase, Change.isKept, Change.result]
    | replaced value => simp [apply, Change.isKept, Change.result]
    | kept => simp [apply, Change.isKept]
  · cases change with
    | removed => simp [apply, lookup_erase, same]
    | replaced value => simp [apply, lookup_set_of_ne same, same]
    | kept => simp [apply, same]

/-- The last change of a key decides. -/
theorem lookup_foldl : (changes.foldl apply items).lookup key =
    outcome key changes (items.lookup key) := by
  induction changes using List.reverseRecOn with
  | nil => rfl
  | append_singleton front change inductionHypothesis =>
      rw [List.foldl_append, List.foldl_cons, List.foldl_nil, lookup_apply, outcome, latest,
        List.filter_append]
      by_cases decides : (change.1 = key && !change.2.isKept) = true
      · rw [if_pos decides, List.filter_singleton, decides]
        simp
      · rw [Bool.not_eq_true] at decides
        rw [decides, if_neg Bool.false_ne_true, inductionHypothesis, List.filter_singleton, decides]
        simp [outcome, latest]

end Changes

section Consumer

variable {Event : Type} [Stamped Event]

theorem consume_append (epoch number : Nat) (seen later : List Event) :
    consume epoch number (seen ++ later) = consume epoch number seen ++
      consume epoch (number + (consume epoch number seen).length) later := by
  induction seen generalizing number with
  | nil => rfl
  | cons event rest inductionHypothesis =>
      rw [List.cons_append, consume, consume]
      by_cases accepted : continues epoch number event = true
      · rw [if_pos accepted, if_pos accepted, inductionHypothesis, List.cons_append,
          List.length_cons, Nat.add_right_comm, Nat.add_assoc]
      · rw [if_neg accepted, if_neg accepted, inductionHypothesis]

def Report.publication? : Report Event → Option Event
  | .published event => some event
  | _ => none

/-- The published events of an epoch with a number behind the first one, up to the last. -/
def between (epoch first last : Nat) (reported : List (Report Event)) : List Event :=
  (reported.filterMap Report.publication?).filter fun event =>
    Stamped.epoch event = epoch && first < Stamped.number event && Stamped.number event ≤ last

theorem mem_between {epoch first last : Nat} {reported : List (Report Event)} {event : Event} :
    event ∈ between epoch first last reported ↔ .published event ∈ reported ∧
      Stamped.epoch event = epoch ∧ first < Stamped.number event ∧ Stamped.number event ≤ last := by
  have published : event ∈ reported.filterMap Report.publication? ↔ .published event ∈ reported := by
    rw [List.mem_filterMap]
    constructor
    · rintro ⟨report, member, isEvent⟩
      cases report with
      | published other =>
          cases isEvent
          exact member
      | _ => cases isEvent
    · intro member
      exact ⟨_, member, rfl⟩
  rw [between, List.mem_filter, published]
  simp [and_assoc]

theorem between_ordered {epoch first last : Nat} {reported : List (Report Event)}
    (numbered : (stamps reported).Pairwise (· < ·)) :
    (between epoch first last reported).Pairwise fun one other => stamp one < stamp other := by
  refine List.Pairwise.filter _ ?_
  induction reported with
  | nil => exact .nil
  | cons report rest inductionHypothesis =>
      cases report with
      | published event =>
          obtain ⟨earlier, later⟩ := List.pairwise_cons.mp numbered
          refine List.pairwise_cons.mpr ⟨fun other member => ?_, inductionHypothesis later⟩
          obtain ⟨report, inRest, isOther⟩ := List.mem_filterMap.mp member
          refine earlier _ (List.mem_filterMap.mpr ⟨report, inRest, ?_⟩)
          cases report with
          | published => exact congrArg (Option.map stamp) isOther
          | _ => cases isOther
      | snapshot => exact inductionHypothesis (List.pairwise_cons.mp numbered).2
      | _ => exact inductionHypothesis numbered

/-- The events that a reader applies behind a snapshot are those published after it under the
numbers that it went through, in their order. -/
theorem consume_eq {stream : Stream Event} {before after : List (Report Event)}
    {reader epoch number : Nat}
    (sound : Sound stream (before ++ .snapshot reader epoch number :: after)) {seen : List Event}
    (delivered : ∀ event ∈ seen,
      event ∈ deliveries (before ++ .snapshot reader epoch number :: after)) :
    consume epoch number seen =
      between epoch number (number + (consume epoch number seen).length) after := by
  let earlier (one other : Event) : Prop := stamp one < stamp other
  have irreflexive : Std.Irrefl earlier := ⟨fun event => lt_irrefl (stamp event)⟩
  have antisymmetric : Std.Antisymm earlier :=
    ⟨fun one other below above => absurd (below.trans above) (lt_irrefl _)⟩
  have consumed : (consume epoch number seen).Pairwise earlier := by
    have ordered : ((consume epoch number seen).map stamp).Pairwise (· < ·) := by
      rw [consume_stamps, List.pairwise_map]
      refine (List.pairwise_lt_range' 1).imp fun {one other} below => ?_
      exact Prod.Lex.toLex_lt_toLex.mpr (.inr ⟨rfl, below⟩)
    exact List.pairwise_map.mp ordered
  have published : (between epoch number (number + (consume epoch number seen).length)
      after).Pairwise earlier := by
    refine between_ordered (List.Pairwise.sublist ?_ sound.numbered)
    rw [stamps_append]
    exact ((List.sublist_cons_self _ _).filterMap _).trans (List.sublist_append_right _ _)
  refine consumed.eq_of_mem_iff published fun event => ?_
  rw [sound.mem_consume_iff delivered, mem_between]
  constructor
  · rintro ⟨isPublished, inEpoch, above, atMost⟩
    refine ⟨sound.published_after isPublished ?_, inEpoch, above, atMost⟩
    exact Prod.Lex.toLex_lt_toLex.mpr (.inr ⟨inEpoch.symm, above⟩)
  · rintro ⟨isPublished, inEpoch, above, atMost⟩
    exact ⟨List.mem_append_right _ (List.mem_cons_of_mem _ isPublished), inEpoch, above, atMost⟩

end Consumer

end Replay
