import Mathlib.Data.List.Induction
import WyrePlumber.Library.Dictionary

/-!
# Gathering by key with a preference

One value is kept for each key: the first preferred one, or the first of all where none is
preferred.  The keys stand in the order of their first values.
-/

set_option autoImplicit false

namespace Preference

open Dictionary

variable {Key Value : Type} [DecidableEq Key] (keyOf : Value → Key) (preferred : Value → Bool)

/-- A value takes the place of its key where none has it, or one that is less preferred. -/
def place (items : List (Key × Value)) (value : Value) : List (Key × Value) :=
  match items.lookup (keyOf value) with
  | none => set items (keyOf value) value
  | some previous =>
      if preferred value && !preferred previous then set items (keyOf value) value else items

def gather (values : List Value) : List (Key × Value) := values.foldl (place keyOf preferred) []

def best (values : List Value) : Option Value := (values.find? preferred).or values.head?

def under (values : List Value) (key : Key) : List Value :=
  values.filter fun value => keyOf value = key

variable {keyOf preferred} {values : List Value} {value : Value} {key : Key}

theorem best_append (values : List Value) (value : Value) :
    best preferred (values ++ [value]) =
      match best preferred values with
      | none => some value
      | some previous =>
          if preferred value && !preferred previous then some value else some previous := by
  cases found : values.find? preferred with
  | some first =>
      have isPreferred : preferred first = true := List.find?_some found
      rw [best, best, List.find?_append, found]
      simp [isPreferred]
  | none =>
      have nonePreferred : ∀ other ∈ values, preferred other = false := by
        simpa using List.find?_eq_none.mp found
      cases values with
      | nil => cases isPreferred : preferred value <;> simp [best, isPreferred]
      | cons first rest =>
          have notFirst := nonePreferred first List.mem_cons_self
          rw [best, best, List.find?_append, found]
          cases isPreferred : preferred value <;> simp [isPreferred, notFirst]

theorem under_append (value : Value) :
    under keyOf (values ++ [value]) key =
      under keyOf values key ++ if keyOf value = key then [value] else [] := by
  rw [under, List.filter_append, ← under]
  by_cases same : keyOf value = key <;> simp [same]

/-- The kept value of a key is the best of its values. -/
theorem lookup_gather (key : Key) :
    (gather keyOf preferred values).lookup key = best preferred (under keyOf values key) := by
  induction values using List.reverseRecOn with
  | nil => rfl
  | append_singleton front value inductionHypothesis =>
      rw [gather, List.foldl_append, List.foldl_cons, List.foldl_nil, ← gather, under_append]
      by_cases same : keyOf value = key
      · rw [if_pos same, best_append, ← inductionHypothesis, place, same]
        cases found : (gather keyOf preferred front).lookup key with
        | none => simp only [lookup_set_self]
        | some previous =>
            simp only
            split
            · exact lookup_set_self _ _ _
            · exact found
      · rw [if_neg same, List.append_nil, ← inductionHypothesis, place]
        split
        · exact lookup_set_of_ne same
        · split
          · exact lookup_set_of_ne same
          · rfl

/-- The keys in the order of their first values. -/
theorem keys_gather : (gather keyOf preferred values).map Prod.fst = (values.map keyOf).eraseDups := by
  induction values using List.reverseRecOn with
  | nil => rfl
  | append_singleton front value inductionHypothesis =>
      rw [gather, List.foldl_append, List.foldl_cons, List.foldl_nil, ← gather, List.map_append,
        List.eraseDups_append, ← inductionHypothesis, place]
      cases found : (gather keyOf preferred front).lookup (keyOf value) with
      | none =>
          have absent : keyOf value ∉ (gather keyOf preferred front).map Prod.fst :=
            lookup_eq_none_iff.mp found
          have notGiven : keyOf value ∉ front.map keyOf := by
            rw [inductionHypothesis, List.mem_eraseDups] at absent
            exact absent
          have isNew : ([value].map keyOf).removeAll (front.map keyOf) = [keyOf value] := by
            simpa [List.removeAll] using notGiven
          simp only [set_of_not_mem absent, isNew]
          rw [List.map_append]
          simp [List.eraseDups_cons]
      | some previous =>
          have present : keyOf value ∈ (gather keyOf preferred front).map Prod.fst := by
            rw [← lookup_isSome_iff, found]
            rfl
          have given : keyOf value ∈ front.map keyOf := by
            rw [inductionHypothesis, List.mem_eraseDups] at present
            exact present
          have nothingNew : ([value].map keyOf).removeAll (front.map keyOf) = [] := by
            simpa [List.removeAll] using given
          rw [nothingNew, List.eraseDups_nil, List.append_nil]
          simp only
          split
          · exact keys_set_of_mem present
          · rfl

theorem keys_nodup : ((gather keyOf preferred values).map Prod.fst).Nodup := by
  induction values using List.reverseRecOn with
  | nil => exact List.nodup_nil
  | append_singleton front value inductionHypothesis =>
      rw [gather, List.foldl_append, List.foldl_cons, List.foldl_nil, ← gather, place]
      split
      · exact keys_nodup_set inductionHypothesis
      · split
        · exact keys_nodup_set inductionHypothesis
        · exact inductionHypothesis

theorem mem_gather {pair : Key × Value} (member : pair ∈ gather keyOf preferred values) :
    pair.1 = keyOf pair.2 ∧ pair.2 ∈ values := by
  induction values using List.reverseRecOn with
  | nil => cases member
  | append_singleton front value inductionHypothesis =>
      rw [gather, List.foldl_append, List.foldl_cons, List.foldl_nil, ← gather] at member
      have before : pair ∈ gather keyOf preferred front →
          pair.1 = keyOf pair.2 ∧ pair.2 ∈ front ++ [value] := by
        intro inFront
        obtain ⟨ownKey, given⟩ := inductionHypothesis inFront
        exact ⟨ownKey, List.mem_append_left _ given⟩
      have afterSet : pair ∈ set (gather keyOf preferred front) (keyOf value) value →
          pair.1 = keyOf pair.2 ∧ pair.2 ∈ front ++ [value] := by
        intro inSet
        rcases mem_set inSet with isNew | isOld
        · subst isNew
          exact ⟨rfl, List.mem_append_right _ List.mem_cons_self⟩
        · exact before isOld
      unfold place at member
      split at member
      · exact afterSet member
      · split at member
        · exact afterSet member
        · exact before member

/-- Values that stand under their own keys are found by them. -/
theorem find?_keyed {items : List (Key × Value)} (own : ∀ pair ∈ items, pair.1 = keyOf pair.2)
    (key : Key) : (items.map Prod.snd).find? (fun value => keyOf value = key) = items.lookup key := by
  induction items with
  | nil => rfl
  | cons pair rest inductionHypothesis =>
      obtain ⟨first, later⟩ := List.forall_mem_cons.mp own
      rw [List.map_cons, List.find?_cons, lookup_cons, inductionHypothesis later, ← first]
      by_cases same : pair.1 = key
      · simp [same]
      · simp [same]

/-- The kept values hold one value of a key: the best one. -/
theorem find?_gather (key : Key) :
    ((gather keyOf preferred values).map Prod.snd).find? (fun value => keyOf value = key) =
      best preferred (under keyOf values key) := by
  rw [find?_keyed fun pair member => (mem_gather member).1, lookup_gather]

/-- The kept values, key by key. -/
theorem gather_eq :
    gather keyOf preferred values = (values.map keyOf).eraseDups.filterMap fun key =>
      (best preferred (under keyOf values key)).map fun value => (key, value) := by
  have restore : ∀ items : List (Key × Value), (items.map Prod.fst).Nodup →
      items = (items.map Prod.fst).filterMap fun key =>
        (items.lookup key).map fun value => (key, value) := by
    intro items distinct
    have same : items.filterMap ((fun key => (items.lookup key).map fun value => (key, value)) ∘
        Prod.fst) = items.filterMap some := by
      refine List.filterMap_congr fun item member => ?_
      rw [Function.comp_apply, lookup_of_mem distinct member]
      rfl
    rw [List.filterMap_map, same, List.filterMap_some]
  have whole := restore _ (@keys_nodup _ _ _ keyOf preferred values)
  rw [keys_gather] at whole
  rw [whole]
  refine List.filterMap_congr fun key _ => ?_
  rw [lookup_gather]

end Preference
