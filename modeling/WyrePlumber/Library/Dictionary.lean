import Mathlib.Data.List.Basic
import Mathlib.Data.List.Nodup

/-!
# Python dictionaries

Dictionaries as association lists in insertion order: assignment to a key that
is there keeps its place, a new key goes to the end.
-/

set_option autoImplicit false

namespace Dictionary

variable {Key Value : Type} [DecidableEq Key]

section Operations

/-- `items[key] = value`. -/
def set (items : List (Key × Value)) (key : Key) (value : Value) : List (Key × Value) :=
  match items with
  | [] => [(key, value)]
  | item :: rest =>
      if item.1 = key then (key, value) :: rest else item :: set rest key value

/-- `items.pop(key, None)`, without its result. -/
def erase (items : List (Key × Value)) (key : Key) : List (Key × Value) :=
  items.filter fun item => item.1 ≠ key

/-- `items.update(others)`. -/
def update (items others : List (Key × Value)) : List (Key × Value) :=
  others.foldl (fun items other => set items other.1 other.2) items

/-- The dictionary of a sequence of items; the last value of a key counts. -/
def ofItems (items : List (Key × Value)) : List (Key × Value) := update [] items

def contains (items : List (Key × Value)) (key : Key) : Bool := (items.lookup key).isSome

end Operations

section Lookup

variable {items : List (Key × Value)} {key other : Key} {value : Value}

theorem lookup_cons (item : Key × Value) (rest : List (Key × Value)) (key : Key) :
    (item :: rest).lookup key = if item.1 = key then some item.2 else rest.lookup key := by
  obtain ⟨first, value⟩ := item
  rw [List.lookup_cons]
  by_cases same : first = key
  · rw [if_pos same, same, beq_self_eq_true]
  · have different : (key == first) = false := beq_eq_false_iff_ne.mpr (Ne.symm same)
    rw [if_neg same, different]

theorem lookup_set (items : List (Key × Value)) (key : Key) (value : Value) (other : Key) :
    (set items key value).lookup other = if key = other then some value else items.lookup other := by
  induction items with
  | nil => rw [set, lookup_cons]
  | cons item rest inductionHypothesis =>
      rw [set]
      by_cases here : item.1 = key
      · rw [if_pos here, lookup_cons, lookup_cons, here]
        by_cases same : key = other
        · rw [if_pos same, if_pos same]
        · rw [if_neg same, if_neg same, if_neg same]
      · rw [if_neg here, lookup_cons, lookup_cons, inductionHypothesis]
        by_cases same : key = other
        · rw [if_neg (fun isOther => here (isOther.trans same.symm)), if_pos same, if_pos same]
        · rw [if_neg same, if_neg same]

@[simp] theorem lookup_set_self (items : List (Key × Value)) (key : Key) (value : Value) :
    (set items key value).lookup key = some value := by
  rw [lookup_set, if_pos rfl]

theorem lookup_set_of_ne (different : key ≠ other) :
    (set items key value).lookup other = items.lookup other := by
  rw [lookup_set, if_neg different]

theorem lookup_erase (items : List (Key × Value)) (key other : Key) :
    (erase items key).lookup other = if key = other then none else items.lookup other := by
  induction items with
  | nil =>
      rw [erase, List.filter_nil, List.lookup_nil]
      split <;> rfl
  | cons item rest inductionHypothesis =>
      rw [erase] at inductionHypothesis ⊢
      rw [List.filter_cons]
      by_cases here : item.1 = key
      · rw [if_neg (by simp [here]), inductionHypothesis, lookup_cons]
        by_cases same : key = other
        · rw [if_pos same, if_pos same]
        · rw [if_neg same, if_neg same, if_neg (fun isOther => same (here.symm.trans isOther))]
      · rw [if_pos (by simp [here]), lookup_cons, lookup_cons, inductionHypothesis]
        by_cases same : key = other
        · rw [if_neg (fun isOther => here (isOther.trans same.symm)), if_pos same, if_pos same]
        · rw [if_neg same, if_neg same]

theorem mem_of_lookup (found : items.lookup key = some value) : (key, value) ∈ items := by
  induction items with
  | nil => cases found
  | cons item rest inductionHypothesis =>
      rw [lookup_cons] at found
      by_cases here : item.1 = key
      · rw [if_pos here] at found
        rw [← here, ← Option.some.inj found]
        exact List.mem_cons_self
      · rw [if_neg here] at found
        exact List.mem_cons_of_mem _ (inductionHypothesis found)

theorem lookup_isSome_iff : (items.lookup key).isSome = true ↔ key ∈ items.map Prod.fst := by
  induction items with
  | nil => simp
  | cons item rest inductionHypothesis =>
      rw [lookup_cons, List.map_cons, List.mem_cons, ← inductionHypothesis]
      by_cases here : item.1 = key
      · simp [here]
      · simp [here, Ne.symm here]

theorem lookup_eq_none_iff : items.lookup key = none ↔ key ∉ items.map Prod.fst := by
  rw [← lookup_isSome_iff, Option.not_isSome_iff_eq_none]

theorem lookup_of_mem (distinct : (items.map Prod.fst).Nodup) (member : (key, value) ∈ items) :
    items.lookup key = some value := by
  induction items with
  | nil => cases member
  | cons item rest inductionHypothesis =>
      rw [List.map_cons, List.nodup_cons] at distinct
      rw [lookup_cons]
      rcases List.mem_cons.mp member with isItem | inRest
      · rw [← isItem, if_pos rfl]
      · have inKeys : key ∈ rest.map Prod.fst := List.mem_map_of_mem inRest
        have different : item.1 ≠ key := fun here => distinct.1 (by rw [here]; exact inKeys)
        rw [if_neg different, inductionHypothesis distinct.2 inRest]

/-- The order of the items does not matter to a lookup. -/
theorem lookup_perm {others : List (Key × Value)} (distinct : (items.map Prod.fst).Nodup)
    (reordered : items.Perm others) : others.lookup key = items.lookup key := by
  cases found : items.lookup key with
  | some value =>
      have othersDistinct : (others.map Prod.fst).Nodup :=
        (reordered.map Prod.fst).nodup_iff.mp distinct
      exact lookup_of_mem othersDistinct (reordered.subset (mem_of_lookup found))
  | none =>
      rw [lookup_eq_none_iff] at found ⊢
      exact fun member => found ((reordered.map Prod.fst).symm.subset member)

end Lookup

section Keys

variable {items others : List (Key × Value)} {key : Key} {value : Value}

theorem keys_set_of_mem (present : key ∈ items.map Prod.fst) :
    (set items key value).map Prod.fst = items.map Prod.fst := by
  induction items with
  | nil => cases present
  | cons item rest inductionHypothesis =>
      rw [set]
      by_cases here : item.1 = key
      · rw [if_pos here, List.map_cons, List.map_cons, here]
      · have inRest : key ∈ rest.map Prod.fst := by
          rw [List.map_cons, List.mem_cons] at present
          exact present.resolve_left (Ne.symm here)
        rw [if_neg here, List.map_cons, List.map_cons, inductionHypothesis inRest]

theorem set_of_not_mem (absent : key ∉ items.map Prod.fst) :
    set items key value = items ++ [(key, value)] := by
  induction items with
  | nil => rfl
  | cons item rest inductionHypothesis =>
      rw [List.map_cons, List.mem_cons, not_or] at absent
      rw [set, if_neg (Ne.symm absent.1), inductionHypothesis absent.2, List.cons_append]

theorem keys_nodup_set (distinct : (items.map Prod.fst).Nodup) :
    ((set items key value).map Prod.fst).Nodup := by
  by_cases present : key ∈ items.map Prod.fst
  · rw [keys_set_of_mem present]
    exact distinct
  · rw [set_of_not_mem present, List.map_append, List.map_singleton]
    refine List.nodup_append.mpr ⟨distinct, List.nodup_singleton _, fun other member last isKey same => ?_⟩
    have isLast : last = key := List.mem_singleton.mp isKey
    exact present (by rw [← isLast, ← same]; exact member)

theorem keys_nodup_erase (distinct : (items.map Prod.fst).Nodup) :
    ((erase items key).map Prod.fst).Nodup :=
  (List.filter_sublist.map Prod.fst).nodup distinct

theorem mem_keys_set {other : Key} :
    other ∈ (set items key value).map Prod.fst ↔ other = key ∨ other ∈ items.map Prod.fst := by
  rw [← lookup_isSome_iff, ← lookup_isSome_iff, lookup_set]
  by_cases same : key = other
  · simp [same]
  · simp [same, Ne.symm same]

/-- A dictionary with no other key holds the assigned value alone. -/
theorem set_of_keys_eq {value : Value} (distinct : (items.map Prod.fst).Nodup)
    (only : ∀ other ∈ items.map Prod.fst, other = key) : set items key value = [(key, value)] := by
  cases items with
  | nil => rfl
  | cons item rest =>
      obtain ⟨isKey, restOnly⟩ := List.forall_mem_cons.mp only
      have noRest : rest = [] := by
        refine List.eq_nil_iff_forall_not_mem.mpr fun other inRest => ?_
        have inKeys := @List.mem_map_of_mem _ _ _ _ Prod.fst inRest
        have same : item.1 = other.1 := by rw [isKey, restOnly _ inKeys]
        exact (List.nodup_cons.mp distinct).1 (same ▸ inKeys)
      rw [set, if_pos isKey, noRest]

theorem mem_keys_erase {other : Key} :
    other ∈ (erase items key).map Prod.fst ↔ other ≠ key ∧ other ∈ items.map Prod.fst := by
  rw [← lookup_isSome_iff, ← lookup_isSome_iff, lookup_erase]
  by_cases same : key = other
  · simp [same]
  · simp [same, Ne.symm same]

theorem mem_set {item : Key × Value} (member : item ∈ set items key value) :
    item = (key, value) ∨ item ∈ items := by
  induction items with
  | nil => exact Or.inl (List.mem_singleton.mp member)
  | cons first rest inductionHypothesis =>
      rw [set] at member
      split at member
      · rcases List.mem_cons.mp member with isNew | inRest
        · exact Or.inl isNew
        · exact Or.inr (List.mem_cons_of_mem _ inRest)
      · rcases List.mem_cons.mp member with isFirst | inRest
        · exact Or.inr (isFirst ▸ List.mem_cons_self)
        · exact (inductionHypothesis inRest).imp_right (List.mem_cons_of_mem _)

theorem keys_nodup_update (distinct : (items.map Prod.fst).Nodup) :
    ((update items others).map Prod.fst).Nodup := by
  induction others generalizing items with
  | nil => exact distinct
  | cons other rest inductionHypothesis => exact inductionHypothesis (keys_nodup_set distinct)

theorem mem_update {item : Key × Value} (member : item ∈ update items others) :
    item ∈ items ∨ item ∈ others := by
  induction others generalizing items with
  | nil => exact Or.inl member
  | cons other rest inductionHypothesis =>
      rcases inductionHypothesis member with inSet | inRest
      · rcases mem_set inSet with isOther | inItems
        · exact Or.inr (isOther ▸ List.mem_cons_self)
        · exact Or.inl inItems
      · exact Or.inr (List.mem_cons_of_mem _ inRest)

theorem keys_nodup_ofItems (items : List (Key × Value)) : ((ofItems items).map Prod.fst).Nodup :=
  keys_nodup_update List.nodup_nil

/-- The last value of a key counts. -/
theorem lookup_update (items others : List (Key × Value)) (key : Key) :
    (update items others).lookup key =
      (((others.filter fun other => other.1 = key).getLast?).map Prod.snd).or (items.lookup key) := by
  induction others generalizing items with
  | nil => rfl
  | cons other rest inductionHypothesis =>
      change (update (set items other.1 other.2) rest).lookup key = _
      rw [inductionHypothesis, lookup_set]
      by_cases here : other.1 = key
      · rw [if_pos here, List.filter_cons_of_pos (by simpa using here), List.getLast?_cons]
        cases rest.filter (fun other => other.1 = key) |>.getLast? with
        | none => rfl
        | some last => rfl
      · rw [if_neg here, List.filter_cons_of_neg (by simpa using here)]

theorem lookup_ofItems (items : List (Key × Value)) (key : Key) :
    (ofItems items).lookup key =
      ((items.filter fun item => item.1 = key).getLast?).map Prod.snd := by
  rw [ofItems, lookup_update, List.lookup_nil, Option.or_none]

/-- The same for another comparison of the keys. -/
theorem lookup_ofItems_beq (comparison : BEq Key) [LawfulBEq Key] (items : List (Key × Value))
    (key : Key) : List.lookup key (ofItems items) =
      ((items.filter fun item => item.1 = key).getLast?).map Prod.snd := by
  rw [lawful_beq_subsingleton comparison instBEqOfDecidableEq]
  exact lookup_ofItems items key

/-- Items with distinct keys are a dictionary. -/
theorem ofItems_of_nodup (distinct : (items.map Prod.fst).Nodup) : ofItems items = items := by
  have fromFront : ∀ {rest : List (Key × Value)} (front : List (Key × Value)),
      ((front ++ rest).map Prod.fst).Nodup → update front rest = front ++ rest := by
    intro rest
    induction rest with
    | nil =>
        intro front _
        rw [List.append_nil]
        rfl
    | cons item rest inductionHypothesis =>
        intro front distinct
        have split : front ++ item :: rest = front ++ [item] ++ rest := by simp
        have absent : item.1 ∉ front.map Prod.fst := by
          intro member
          rw [List.map_append, List.map_cons] at distinct
          exact (List.nodup_append.mp distinct).2.2 _ member _ List.mem_cons_self rfl
        have next := inductionHypothesis (front ++ [item]) (split ▸ distinct)
        rw [split, ← next]
        change update (set front item.1 item.2) rest = _
        rw [set_of_not_mem absent]
  exact fromFront [] distinct

theorem mem_ofItems {item : Key × Value} (member : item ∈ ofItems items) : item ∈ items :=
  (mem_update member).resolve_left List.not_mem_nil

end Keys

section Search

variable {Item : Type}

/-- In a list of distinct labels the search for the label of an item finds the item. -/
theorem find?_of_nodup {items : List Item} {label : Item → Key} {item : Item}
    (distinct : (items.map label).Nodup) (member : item ∈ items) :
    items.find? (fun other => label other = label item) = some item := by
  induction items with
  | nil => cases member
  | cons first rest inductionHypothesis =>
      rw [List.map_cons, List.nodup_cons] at distinct
      rw [List.find?_cons]
      rcases List.mem_cons.mp member with isFirst | inRest
      · simp [isFirst]
      · have different : label first ≠ label item := fun same =>
          distinct.1 (same ▸ List.mem_map_of_mem inRest)
        simp only [different, decide_false]
        exact inductionHypothesis distinct.2 inRest

end Search

end Dictionary
