import Mathlib.Data.List.Nodup

/-!
# Tables with one value for each key

A hash table as the list of its entries in iteration order.  The order means
nothing to `lookup` and `replace`; `find` and `removeFirst` walk it, and
`reorder` puts the entries into any other order a rehash may leave.
-/

set_option autoImplicit false

namespace KeyedTable

universe u v

/-- Entries in iteration order, no key twice. -/
structure Table (Key : Type u) (Value : Type v) where
  entries : List (Key × Value)
  distinct : (entries.map Prod.fst).Nodup
  deriving DecidableEq

variable {Key : Type u} {Value : Type v}

@[ext] theorem Table.ext {table other : Table Key Value}
    (same : table.entries = other.entries) : table = other := by
  cases table
  cases other
  cases same
  rfl

def Table.empty : Table Key Value := ⟨[], List.nodup_nil⟩

instance : Inhabited (Table Key Value) := ⟨Table.empty⟩

@[simp] theorem Table.entries_empty : (Table.empty : Table Key Value).entries = [] := rfl

section Lookup

variable [DecidableEq Key]

def Table.lookup (table : Table Key Value) (key : Key) : Option Value :=
  (table.entries.find? fun entry => decide (entry.1 = key)).map Prod.snd

@[simp] theorem Table.lookup_empty (key : Key) :
    (Table.empty : Table Key Value).lookup key = none := rfl

theorem Table.mem_of_lookup {table : Table Key Value} {key : Key} {value : Value}
    (found : table.lookup key = some value) : (key, value) ∈ table.entries := by
  rw [Table.lookup, Option.map_eq_some_iff] at found
  obtain ⟨⟨entryKey, entryValue⟩, first, rfl⟩ := found
  have sameKey : entryKey = key := by
    simpa using List.find?_some first
  subst sameKey
  exact List.mem_of_find?_eq_some first

omit [DecidableEq Key] in
/-- Two entries under one key are the same entry. -/
theorem Table.value_unique {table : Table Key Value} {key : Key} {value other : Value}
    (entry : (key, value) ∈ table.entries) (entry' : (key, other) ∈ table.entries) :
    value = other := by
  have same : (key, value) = (key, other) :=
    List.inj_on_of_nodup_map table.distinct entry entry' rfl
  exact (Prod.mk.inj same).2

theorem Table.lookup_eq_some_iff {table : Table Key Value} {key : Key} {value : Value} :
    table.lookup key = some value ↔ (key, value) ∈ table.entries := by
  refine ⟨Table.mem_of_lookup, ?_⟩
  intro member
  cases found : table.lookup key with
  | some other => rw [Table.value_unique member (Table.mem_of_lookup found)]
  | none =>
      rw [Table.lookup, Option.map_eq_none_iff, List.find?_eq_none] at found
      exact absurd (decide_eq_true rfl) (found (key, value) member)

end Lookup

section Replace

variable [DecidableEq Key]

/-- The entry under the key, if there is one, gives way to the new value. -/
def Table.replace (table : Table Key Value) (key : Key) (value : Value) :
    Table Key Value where
  entries := (key, value) :: table.entries.filter fun entry => decide (entry.1 ≠ key)
  distinct := by
    rw [List.map_cons, List.nodup_cons]
    refine ⟨by simp, ?_⟩
    exact table.distinct.sublist (List.filter_sublist.map Prod.fst)

theorem Table.mem_replace_iff {table : Table Key Value} {key : Key} {value : Value}
    {entry : Key × Value} :
    entry ∈ (table.replace key value).entries ↔
      entry = (key, value) ∨ entry ∈ table.entries ∧ entry.1 ≠ key := by
  simp [Table.replace]

@[simp] theorem Table.lookup_replace_self (table : Table Key Value) (key : Key)
    (value : Value) : (table.replace key value).lookup key = some value := by
  rw [Table.lookup_eq_some_iff, Table.mem_replace_iff]
  exact Or.inl rfl

/-- Every other key keeps its value. -/
theorem Table.lookup_replace_of_ne {table : Table Key Value} {key other : Key}
    (value : Value) (different : other ≠ key) :
    (table.replace key value).lookup other = table.lookup other := by
  apply Option.ext
  intro found
  rw [Table.lookup_eq_some_iff, Table.mem_replace_iff, Table.lookup_eq_some_iff]
  constructor
  · rintro (same | ⟨member, -⟩)
    · exact absurd (Prod.mk.inj same).1 different
    · exact member
  · intro member
    exact Or.inr ⟨member, different⟩

end Replace

section Walk

/-- The first value the walk meets that satisfies the test. -/
def Table.find (table : Table Key Value) (test : Value → Bool) : Option Value :=
  (table.entries.find? fun entry => test entry.2).map Prod.snd

/-- Removes the entry whose value `find` returns. -/
def Table.removeFirst (table : Table Key Value) (test : Value → Bool) :
    Table Key Value where
  entries := table.entries.eraseP fun entry => test entry.2
  distinct := table.distinct.sublist (List.eraseP_sublist.map Prod.fst)

theorem Table.find_spec {table : Table Key Value} {test : Value → Bool} {value : Value}
    (found : table.find test = some value) :
    test value = true ∧ ∃ key, (key, value) ∈ table.entries := by
  rw [Table.find, Option.map_eq_some_iff] at found
  obtain ⟨⟨entryKey, entryValue⟩, first, rfl⟩ := found
  exact ⟨by simpa using List.find?_some first, entryKey, List.mem_of_find?_eq_some first⟩

theorem Table.find_eq_none_iff {table : Table Key Value} {test : Value → Bool} :
    table.find test = none ↔ ∀ entry ∈ table.entries, test entry.2 = false := by
  simp [Table.find]

theorem Table.mem_of_mem_removeFirst {table : Table Key Value} {test : Value → Bool}
    {entry : Key × Value} (member : entry ∈ (table.removeFirst test).entries) :
    entry ∈ table.entries :=
  List.mem_of_mem_eraseP member

/-- Where the walk finds nothing, nothing is removed. -/
theorem Table.removeFirst_of_find_none {table : Table Key Value} {test : Value → Bool}
    (absent : table.find test = none) : table.removeFirst test = table := by
  rw [Table.find_eq_none_iff] at absent
  apply Table.ext
  refine List.eraseP_of_forall_not ?_
  intro entry member
  simp [absent entry member]

/-- The only entry that can go is the one the walk finds. -/
theorem Table.find_of_removed {table : Table Key Value} {test : Value → Bool}
    {entry : Key × Value} (member : entry ∈ table.entries)
    (removed : entry ∉ (table.removeFirst test).entries) :
    table.find test = some entry.2 := by
  cases found : table.find test with
  | none =>
      rw [Table.removeFirst_of_find_none found] at removed
      exact absurd member removed
  | some value =>
      rw [Table.find, Option.map_eq_some_iff] at found
      obtain ⟨first, isFirst, rfl⟩ := found
      obtain ⟨passes, before, after, split, fail⟩ := List.find?_eq_some_iff_append.mp isFirst
      have erased : (table.removeFirst test).entries = before ++ after := by
        simp only [Table.removeFirst, split]
        rw [List.eraseP_append_right _ (by simpa using fail)]
        simp [passes]
      rw [erased] at removed
      rw [split] at member
      have isRemoved : entry = first := by
        simp only [List.mem_append, List.mem_cons, not_or] at member removed
        rcases member with inBefore | same | inAfter
        · exact absurd inBefore removed.1
        · exact same
        · exact absurd inAfter removed.2
      rw [isRemoved]

end Walk

section Reorder

variable [DecidableEq Key] [DecidableEq Value]

/-- The table after a rehash, when `order` lists exactly its entries. -/
def Table.reorder (table : Table Key Value) (order : List (Key × Value)) :
    Option (Table Key Value) :=
  if permuted : order.Perm table.entries then
    some ⟨order, (permuted.map Prod.fst).nodup_iff.mpr table.distinct⟩
  else none

theorem Table.reorder_spec {table next : Table Key Value} {order : List (Key × Value)}
    (reordered : table.reorder order = some next) :
    ∀ entry, entry ∈ next.entries ↔ entry ∈ table.entries := by
  unfold Table.reorder at reordered
  split at reordered
  · next permuted =>
      intro entry
      rw [← Option.some.inj reordered]
      exact permuted.mem_iff
  · exact absurd reordered (by simp)

end Reorder

section ForAll

/-- `property` holds of every key with its value. -/
def Table.ForAll (property : Key → Value → Prop) (table : Table Key Value) : Prop :=
  ∀ entry ∈ table.entries, property entry.1 entry.2

variable {property : Key → Value → Prop} {table : Table Key Value}

theorem Table.forAll_empty : (Table.empty : Table Key Value).ForAll property := by
  simp [Table.ForAll]

theorem Table.ForAll.replace [DecidableEq Key] (holds : table.ForAll property) {key : Key}
    {value : Value} (new : property key value) :
    (table.replace key value).ForAll property := by
  intro entry member
  rcases Table.mem_replace_iff.mp member with rfl | ⟨old, -⟩
  · exact new
  · exact holds entry old

theorem Table.ForAll.removeFirst (holds : table.ForAll property) (test : Value → Bool) :
    (table.removeFirst test).ForAll property := by
  intro entry member
  exact holds entry (Table.mem_of_mem_removeFirst member)

theorem Table.ForAll.reorder [DecidableEq Key] [DecidableEq Value]
    (holds : table.ForAll property) {order : List (Key × Value)} {next : Table Key Value}
    (reordered : table.reorder order = some next) : next.ForAll property := by
  intro entry member
  exact holds entry ((Table.reorder_spec reordered entry).mp member)

theorem Table.ForAll.of_lookup [DecidableEq Key] (holds : table.ForAll property) {key : Key}
    {value : Value} (found : table.lookup key = some value) : property key value :=
  holds (key, value) (Table.mem_of_lookup found)

end ForAll

end KeyedTable
