import WyrePlumber.Spa.Objects

/-!
# Access styles of typed objects

A typed object under sets and deletes through names, numeric keys and
attributes.  Whatever the order of the operations, a known property is stored
under its name only, and while it is stored its three reads agree; where it is
absent, both items raise `KeyError` and the attribute is `None`.
-/

set_option autoImplicit false
set_option linter.constructorNameAsVariable false

namespace WyrePlumber.Spa

open Python

section Classes

def objectClasses : List ObjectClass :=
  [spaPropInfo, spaProps, spaFormat, spaParamBuffers, spaParamMeta, spaParamIO, spaParamProfile,
    spaParamPortConfig, spaParamRoute, spaParamLatency, spaParamProcessLatency, spaParamTag,
    spaParamDict]

namespace ObjectClass

variable {objectClass : ObjectClass} {spec : PropertySpec}

/-- A key that a caller of the class uses: a property name or any number. -/
def Admits (objectClass : ObjectClass) : SpaKey → Prop
  | .name name => ∃ spec ∈ objectClass.specs, spec.name = name
  | .number _ => True

def PropertyKey (objectClass : ObjectClass) : Type := {key : SpaKey // objectClass.Admits key}

def storageKey (objectClass : ObjectClass) (key : SpaKey) : SpaKey :=
  match objectClass.spec key with
  | some spec => .name spec.name
  | none => key

structure WellFormed (objectClass : ObjectClass) : Prop where
  keys : (objectClass.specs.map PropertySpec.key).Nodup
  names : (objectClass.specs.map PropertySpec.name).Nodup
  registered : propertySpecs objectClass.objectId = objectClass.specs
  untyped : ∀ spec ∈ objectClass.specs,
    spec.name ≠ text "_pod_type" ∧ spec.name ≠ text "pod_type"
  range : ∀ spec ∈ objectClass.specs, 0 ≤ spec.key ∧ spec.key < 2 ^ 32

theorem specByKey_mem (wellFormed : objectClass.WellFormed) (member : spec ∈ objectClass.specs) :
    objectClass.specByKey spec.key = some spec :=
  Dictionary.find?_of_nodup wellFormed.keys member

theorem specByName_mem (wellFormed : objectClass.WellFormed) (member : spec ∈ objectClass.specs) :
    objectClass.specByName spec.name = some spec :=
  Dictionary.find?_of_nodup wellFormed.names member

theorem mem_of_spec {key : SpaKey} (found : objectClass.spec key = some spec) :
    spec ∈ objectClass.specs ∧ (key = .name spec.name ∨ key = .number spec.key) := by
  cases key with
  | name name =>
      change objectClass.specs.find? (fun spec => spec.name = name) = some spec at found
      have sameName : spec.name = name := by simpa using List.find?_some found
      exact ⟨List.mem_of_find?_eq_some found, .inl (by rw [sameName])⟩
  | number key =>
      change objectClass.specs.find? (fun spec => spec.key = key) = some spec at found
      have sameKey : spec.key = key := by simpa using List.find?_some found
      exact ⟨List.mem_of_find?_eq_some found, .inr (by rw [sameKey])⟩

theorem storageKey_name (wellFormed : objectClass.WellFormed) (member : spec ∈ objectClass.specs) :
    objectClass.storageKey (.name spec.name) = .name spec.name := by
  rw [storageKey, ObjectClass.spec, specByName_mem wellFormed member]

theorem storageKey_number (wellFormed : objectClass.WellFormed)
    (member : spec ∈ objectClass.specs) :
    objectClass.storageKey (.number spec.key) = .name spec.name := by
  rw [storageKey, ObjectClass.spec, specByKey_mem wellFormed member]

theorem storageKey_storageKey (wellFormed : objectClass.WellFormed) (key : SpaKey) :
    objectClass.storageKey (objectClass.storageKey key) = objectClass.storageKey key := by
  cases found : objectClass.spec key with
  | none =>
      have same : objectClass.storageKey key = key := by rw [storageKey, found]
      rw [same, same]
  | some spec =>
      have same : objectClass.storageKey key = .name spec.name := by rw [storageKey, found]
      rw [same, storageKey_name wellFormed (mem_of_spec found).1]

theorem admits_storageKey {key : SpaKey} (admitted : objectClass.Admits key) :
    objectClass.Admits (objectClass.storageKey key) := by
  cases found : objectClass.spec key with
  | none =>
      rw [storageKey, found]
      exact admitted
  | some spec =>
      rw [storageKey, found]
      exact ⟨spec, (mem_of_spec found).1, rfl⟩

end ObjectClass

/-- What the tables of the classes say of their keys and names. -/
theorem objectClasses_tables : ∀ objectClass ∈ objectClasses,
    (objectClass.specs.map PropertySpec.key).Nodup ∧
    (objectClass.specs.map PropertySpec.name).Nodup ∧
    (∀ spec ∈ objectClass.specs, 0 ≤ spec.key ∧ spec.key < 2 ^ 32) ∧
    ∀ spec ∈ objectClass.specs, (spec.name ≠ text "_pod_type" ∧ spec.name ≠ text "pod_type") ∧
      ∃ codePoint ∈ spec.name, 57 < codePoint := by
  decide +kernel

/-- A registered property stands in the table of a class. -/
theorem objectClass_of_propertySpecs {objectId : Int} {spec : PropertySpec}
    (member : spec ∈ propertySpecs objectId) :
    ∃ objectClass ∈ objectClasses, spec ∈ objectClass.specs := by
  have known : ∀ entry ∈ objectClassesById, entry.2 ∈ objectClasses := by
    simp [objectClassesById, objectClasses]
  unfold propertySpecs at member
  cases found : objectClassesById.lookup objectId with
  | none =>
      rw [found] at member
      cases member
  | some objectClass =>
      rw [found] at member
      exact ⟨objectClass, known _ (Dictionary.mem_of_lookup found), member⟩

theorem objectClasses_wellFormed {objectClass : ObjectClass}
    (known : objectClass ∈ objectClasses) : objectClass.WellFormed := by
  have registered : propertySpecs objectClass.objectId = objectClass.specs := by
    revert objectClass
    simp only [objectClasses, List.forall_mem_cons]
    exact ⟨rfl, rfl, rfl, rfl, rfl, rfl, rfl, rfl, rfl, rfl, rfl, rfl, rfl, by simp⟩
  obtain ⟨keys, names, range, named⟩ := objectClasses_tables objectClass known
  exact ⟨keys, names, registered, fun spec member => (named spec member).1, range⟩

end Classes

section Updates

namespace SpaPodObject

variable {Value : Type} {object : SpaPodObject Value} {objectClass : ObjectClass}

theorem rememberKey_frame (object : SpaPodObject Value) (name : PyString) (key : Int) :
    (object.rememberKey name key).properties = object.properties ∧
      (object.rememberKey name key).header =
        { object.header with propertyKeys := (object.rememberKey name key).header.propertyKeys } := by
  unfold rememberKey
  split <;> exact ⟨rfl, rfl⟩

theorem rememberKey_lookup (object : SpaPodObject Value) (name : PyString) (key : Int)
    (other : SpaKey) :
    (object.rememberKey name key).header.propertyKeys.lookup other =
      if .name name = other then some ((object.header.propertyKeys.lookup (.name name)).getD key)
      else object.header.propertyKeys.lookup other := by
  unfold rememberKey Dictionary.contains
  cases known : object.header.propertyKeys.lookup (.name name) with
  | some value =>
      rw [Option.isSome_some, if_pos rfl]
      by_cases same : SpaKey.name name = other
      · rw [if_pos same, ← same, known]
        rfl
      · rw [if_neg same]
  | none =>
      rw [Option.isSome_none, if_neg Bool.false_ne_true]
      exact Dictionary.lookup_set _ _ _ _

theorem keyToStorage_eq (sameClass : object.header.objectClass = objectClass) (key : SpaKey) :
    object.keyToStorage key =
      (match objectClass.spec key with
        | some spec => object.rememberKey spec.name spec.key
        | none => object, objectClass.storageKey key) := by
  unfold keyToStorage ObjectClass.storageKey
  rw [sameClass]
  cases objectClass.spec key <;> rfl

theorem flagKey_eq (sameClass : object.header.objectClass = objectClass) (key : SpaKey) :
    object.flagKey (objectClass.storageKey key) key = objectClass.storageKey key := by
  unfold flagKey
  rw [sameClass]
  cases found : objectClass.spec key with
  | none =>
      have own : objectClass.storageKey key = key := by rw [ObjectClass.storageKey, found]
      rw [own]
      cases key with
      | name name => exact ite_self _
      | number number => rfl
  | some spec =>
      have named : objectClass.storageKey key = .name spec.name := by
        rw [ObjectClass.storageKey, found]
      have listed : (objectClass.specByName spec.name).isSome = true :=
        List.find?_isSome.mpr ⟨spec, (ObjectClass.mem_of_spec found).1, by simp⟩
      rw [named]
      exact if_pos listed

/-- The flag that an assignment leaves for its storage key: the one it had, or zero. -/
theorem setFlags_lookup (sameClass : object.header.objectClass = objectClass) (key : SpaKey)
    (other : SpaKey) :
    (object.setFlags (objectClass.storageKey key) key).header.propertyFlags.lookup other =
      if objectClass.storageKey key = other then
        some ((object.header.propertyFlags.lookup (objectClass.storageKey key)).getD 0)
      else object.header.propertyFlags.lookup other := by
  unfold setFlags Dictionary.contains
  rw [flagKey_eq sameClass]
  cases known : object.header.propertyFlags.lookup (objectClass.storageKey key) with
  | some flags =>
      rw [Option.isSome_some, if_pos rfl]
      by_cases same : objectClass.storageKey key = other
      · rw [if_pos same, ← same, known]
        rfl
      · rw [if_neg same]
  | none =>
      rw [Option.isSome_none, if_neg Bool.false_ne_true]
      exact Dictionary.lookup_set _ _ _ _

theorem setFlags_frame (object : SpaPodObject Value) (storageKey key : SpaKey) :
    (object.setFlags storageKey key).properties = object.properties ∧
      (object.setFlags storageKey key).header = { object.header with
        propertyFlags := (object.setFlags storageKey key).header.propertyFlags } := by
  unfold setFlags
  split <;> exact ⟨rfl, rfl⟩

/-- What an assignment changes. -/
structure Assigned (objectClass : ObjectClass) (object next : SpaPodObject Value) (key : SpaKey)
    (value : Value) : Prop where
  header : next.header = { object.header with
    propertyFlags := next.header.propertyFlags, propertyKeys := next.header.propertyKeys }
  properties : next.properties =
    Dictionary.set object.properties (objectClass.storageKey key) value
  flags : ∀ other, next.header.propertyFlags.lookup other =
    if objectClass.storageKey key = other then
      some ((object.header.propertyFlags.lookup (objectClass.storageKey key)).getD 0)
    else object.header.propertyFlags.lookup other
  keys : ∀ other number, next.header.propertyKeys.lookup other = some number →
    object.header.propertyKeys.lookup other = some number ∨
      ∃ spec ∈ objectClass.specs, other = .name spec.name ∧ number = spec.key

theorem setItem_assigned (sameClass : object.header.objectClass = objectClass) (key : SpaKey)
    (value : Value) : Assigned objectClass object (object.setItem key value) key value := by
  have unfolded : object.setItem key value =
      { (object.keyToStorage key).1 with
        properties := Dictionary.set (object.keyToStorage key).1.properties
          (object.keyToStorage key).2 value }.setFlags (object.keyToStorage key).2 key := rfl
  rw [unfolded, keyToStorage_eq sameClass]
  cases found : objectClass.spec key with
  | none =>
      have frame := setFlags_frame
        { object with
          properties := Dictionary.set object.properties (objectClass.storageKey key) value }
        (objectClass.storageKey key) key
      dsimp only
      refine ⟨?_, frame.1, fun other => ?_, fun other number known => .inl ?_⟩
      · rw [frame.2]
      · refine setFlags_lookup ?_ key other
        exact sameClass
      · rw [frame.2] at known
        exact known
  | some spec =>
      obtain ⟨sameProperties, sameHeader⟩ := rememberKey_frame object spec.name spec.key
      have stillClass : (object.rememberKey spec.name spec.key).header.objectClass = objectClass := by
        rw [sameHeader, sameClass]
      have frame := setFlags_frame
        { object.rememberKey spec.name spec.key with
          properties := Dictionary.set (object.rememberKey spec.name spec.key).properties
            (objectClass.storageKey key) value }
        (objectClass.storageKey key) key
      refine ⟨?_, ?_, fun other => ?_, fun other number known => ?_⟩
      · rw [frame.2]
        dsimp only
        rw [sameHeader]
      · rw [frame.1]
        dsimp only
        rw [sameProperties]
      · refine (setFlags_lookup ?_ key other).trans ?_
        · exact stillClass
        · dsimp only
          rw [sameHeader]
      · rw [frame.2] at known
        dsimp only at known
        rw [rememberKey_lookup] at known
        by_cases same : SpaKey.name spec.name = other
        · rw [if_pos same] at known
          cases old : object.header.propertyKeys.lookup (.name spec.name) with
          | none =>
              rw [old] at known
              exact .inr ⟨spec, (ObjectClass.mem_of_spec found).1, same.symm,
                (Option.some.inj known).symm⟩
          | some given =>
              rw [old] at known
              left
              rw [← same, old]
              exact known
        · rw [if_neg same] at known
          exact .inl known

end SpaPodObject

end Updates

section Runs

namespace SpaPodObject

variable {Value : Type} {objectClass : ObjectClass}

/-- What a key of a property is written with. -/
inductive Access (objectClass : ObjectClass) where
  | item (key : objectClass.PropertyKey)
  | attr (spec : {spec : PropertySpec // spec ∈ objectClass.specs})

def Access.key : Access objectClass → SpaKey
  | .item key => key.val
  | .attr spec => .name spec.val.name

inductive Operation (objectClass : ObjectClass) (Value : Type) where
  | set (access : Access objectClass) (value : Value)
  | delete (access : Access objectClass)

/-- The storage key that an operation deletes.  The properties of a class have no
deleter, so that `del` of an attribute raises; so does `del` of an absent key. -/
def Operation.deletes (operation : Operation objectClass Value) (object : SpaPodObject Value) :
    Option SpaKey :=
  match operation with
  | delete (.item key) =>
      if Dictionary.contains object.properties (object.resolveExistingKey key.val) then
        some (object.resolveExistingKey key.val)
      else none
  | _ => none

/-- The object after an operation; one that raises leaves it as it was. -/
def Operation.apply (operation : Operation objectClass Value) (object : SpaPodObject Value) :
    SpaPodObject Value :=
  match operation with
  | set access value => object.setItem access.key value
  | delete (.item key) => (object.deleteItem key.val).getD object
  | delete (.attr _) => object

/-- An object with the storage keys deleted since its construction. -/
structure History (Value : Type) where
  object : SpaPodObject Value
  deleted : List SpaKey

def History.step (history : History Value) (operation : Operation objectClass Value) :
    History Value where
  object := operation.apply history.object
  deleted := (operation.deletes history.object).toList ++ history.deleted

def construct (objectClass : ObjectClass) (properties : List (objectClass.PropertyKey × Value))
    (propertyFlags : List (SpaKey × Int)) : SpaPodObject Value :=
  init (ownHeader objectClass propertyFlags)
    (properties.map fun item => (item.1.val, item.2))

def history (properties : List (objectClass.PropertyKey × Value))
    (propertyFlags : List (SpaKey × Int)) (operations : List (Operation objectClass Value)) :
    History Value :=
  operations.foldl History.step ⟨construct objectClass properties propertyFlags, []⟩

/-- The flags that the object keeps for a stored key. -/
def keptFlag (propertyFlags : List (SpaKey × Int)) (deleted : List SpaKey) (key : SpaKey) : Int :=
  if key ∈ deleted then 0 else (propertyFlags.lookup key).getD 0

/-- The invariant of every object after its construction. -/
structure Tracked (objectClass : ObjectClass) (propertyFlags : List (SpaKey × Int))
    (history : History Value) : Prop where
  sameClass : history.object.header.objectClass = objectClass
  sameType : history.object.header.objectType = objectClass.objectType
  sameId : history.object.header.objectId = objectClass.objectId
  distinct : (history.object.properties.map Prod.fst).Nodup
  stored : ∀ key ∈ history.object.properties.map Prod.fst,
    objectClass.Admits key ∧ objectClass.storageKey key = key
  flags : ∀ key, objectClass.storageKey key = key →
    history.object.header.propertyFlags.lookup key =
      if key ∈ history.object.properties.map Prod.fst then
        some (keptFlag propertyFlags history.deleted key)
      else if key ∈ history.deleted then none else propertyFlags.lookup key
  keys : ∀ key number, history.object.header.propertyKeys.lookup key = some number →
    ∃ spec ∈ objectClass.specs, key = .name spec.name ∧ number = spec.key

variable {propertyFlags : List (SpaKey × Int)} {current : History Value}

theorem keptFlag_of_lookup (tracked : Tracked objectClass propertyFlags current) {key : SpaKey}
    (own : objectClass.storageKey key = key) :
    (current.object.header.propertyFlags.lookup key).getD 0 =
      keptFlag propertyFlags current.deleted key := by
  rw [tracked.flags key own, keptFlag]
  by_cases present : key ∈ current.object.properties.map Prod.fst
  · rw [if_pos present, Option.getD_some]
  · rw [if_neg present]
    by_cases removed : key ∈ current.deleted
    · rw [if_pos removed, if_pos removed, Option.getD_none]
    · rw [if_neg removed, if_neg removed]

theorem Tracked.set (wellFormed : objectClass.WellFormed)
    (tracked : Tracked objectClass propertyFlags current) {key : SpaKey}
    (admitted : objectClass.Admits key) (value : Value) :
    Tracked objectClass propertyFlags ⟨current.object.setItem key value, current.deleted⟩ := by
  have assigned := setItem_assigned tracked.sameClass key value
  have own := objectClass.storageKey_storageKey wellFormed key
  refine ⟨?_, ?_, ?_, ?_, ?_, ?_, ?_⟩
  · rw [assigned.header]
    exact tracked.sameClass
  · rw [assigned.header]
    exact tracked.sameType
  · rw [assigned.header]
    exact tracked.sameId
  · rw [assigned.properties]
    exact Dictionary.keys_nodup_set tracked.distinct
  · intro other member
    rw [assigned.properties, Dictionary.mem_keys_set] at member
    rcases member with isKey | wasThere
    · rw [isKey]
      exact ⟨objectClass.admits_storageKey admitted, own⟩
    · exact tracked.stored other wasThere
  · intro other isOwn
    rw [assigned.flags, assigned.properties]
    by_cases same : objectClass.storageKey key = other
    · rw [if_pos same, if_pos (Dictionary.mem_keys_set.mpr (.inl same.symm)), same]
      exact congrArg some (keptFlag_of_lookup tracked isOwn)
    · have stillThere : other ∈ (Dictionary.set current.object.properties
          (objectClass.storageKey key) value).map Prod.fst ↔
          other ∈ current.object.properties.map Prod.fst := by
        rw [Dictionary.mem_keys_set]
        exact or_iff_right (Ne.symm same)
      rw [if_neg same, tracked.flags other isOwn]
      simp only [stillThere]
  · intro other number known
    rcases assigned.keys other number known with wasKnown | isNew
    · exact tracked.keys other number wasKnown
    · exact isNew

theorem Tracked.delete (tracked : Tracked objectClass propertyFlags current) {key : SpaKey}
    {next : SpaPodObject Value} (removed : current.object.deleteItem key = some next) :
    Tracked objectClass propertyFlags
      ⟨next, current.object.resolveExistingKey key :: current.deleted⟩ := by
  unfold deleteItem at removed
  dsimp only at removed
  split at removed
  · rw [← Option.some.inj removed]
    refine ⟨tracked.sameClass, tracked.sameType, tracked.sameId, ?_, ?_, ?_, ?_⟩
    · exact Dictionary.keys_nodup_erase tracked.distinct
    · intro other member
      exact tracked.stored other (Dictionary.mem_keys_erase.mp member).2
    · intro other isOwn
      dsimp only
      rw [Dictionary.lookup_erase]
      by_cases same : current.object.resolveExistingKey key = other
      · have gone : other ∉ (Dictionary.erase current.object.properties
            (current.object.resolveExistingKey key)).map Prod.fst :=
          fun member => (Dictionary.mem_keys_erase.mp member).1 same.symm
        rw [if_pos same, if_neg gone, if_pos (by rw [same]; exact List.mem_cons_self)]
      · have stillThere : other ∈ (Dictionary.erase current.object.properties
            (current.object.resolveExistingKey key)).map Prod.fst ↔
            other ∈ current.object.properties.map Prod.fst := by
          rw [Dictionary.mem_keys_erase]
          exact and_iff_right (Ne.symm same)
        have stillDeleted : other ∈ current.object.resolveExistingKey key :: current.deleted ↔
            other ∈ current.deleted := by
          rw [List.mem_cons]
          exact or_iff_right (Ne.symm same)
        rw [if_neg same, tracked.flags other isOwn]
        simp only [stillThere, keptFlag, stillDeleted]
    · intro other number known
      dsimp only at known
      split at known
      · rw [Dictionary.lookup_erase] at known
        split at known
        · cases known
        · exact tracked.keys other number known
      · exact tracked.keys other number known
  · cases removed

theorem tracked_construct (wellFormed : objectClass.WellFormed)
    (properties : List (objectClass.PropertyKey × Value)) (propertyFlags : List (SpaKey × Int)) :
    Tracked objectClass propertyFlags ⟨construct objectClass properties propertyFlags, []⟩ := by
  have start : Tracked objectClass propertyFlags
      ⟨(⟨ownHeader objectClass propertyFlags, []⟩ : SpaPodObject Value), []⟩ := by
    refine ⟨rfl, rfl, rfl, List.nodup_nil, by simp, ?_, ?_⟩
    · intro key _
      simp [ownHeader]
    · intro key number known
      cases known
  have folded : ∀ object : SpaPodObject Value, Tracked objectClass propertyFlags ⟨object, []⟩ →
      Tracked objectClass propertyFlags
        ⟨(properties.map fun item => (item.1.val, item.2)).foldl
          (fun object item => object.setItem item.1 item.2) object, []⟩ := by
    induction properties with
    | nil => exact fun object tracked => tracked
    | cons item rest inductionHypothesis =>
        intro object tracked
        exact inductionHypothesis _ (tracked.set wellFormed item.1.property item.2)
  exact folded _ start

theorem Access.admitted (access : Access objectClass) : objectClass.Admits access.key := by
  cases access with
  | item key => exact key.property
  | attr spec => exact ⟨spec.val, spec.property, rfl⟩

theorem Tracked.step (wellFormed : objectClass.WellFormed)
    (tracked : Tracked objectClass propertyFlags current)
    (operation : Operation objectClass Value) :
    Tracked objectClass propertyFlags (current.step operation) := by
  cases operation with
  | set access value => exact tracked.set wellFormed access.admitted value
  | delete access =>
      cases access with
      | attr spec => exact tracked
      | item key =>
          by_cases present : Dictionary.contains current.object.properties
              (current.object.resolveExistingKey key.val) = true
          · have removed : ∃ next, current.object.deleteItem key.val = some next :=
              ⟨_, if_pos present⟩
            obtain ⟨next, isNext⟩ := removed
            have stepped : current.step (Operation.delete (Access.item key)) =
                ⟨next, current.object.resolveExistingKey key.val :: current.deleted⟩ := by
              simp only [History.step, Operation.apply, Operation.deletes, isNext, present, if_true,
                Option.getD_some, Option.toList_some, List.singleton_append]
            rw [stepped]
            exact tracked.delete isNext
          · have refused : current.object.deleteItem key.val = none := if_neg present
            have stepped : current.step (Operation.delete (Access.item key)) = current := by
              simp only [History.step, Operation.apply, Operation.deletes, refused, present,
                Bool.false_eq_true, if_false, Option.getD_none, Option.toList_none,
                List.nil_append]
            rw [stepped]
            exact tracked

/-- The invariant holds after every sequence of operations. -/
theorem tracked_history (wellFormed : objectClass.WellFormed)
    (properties : List (objectClass.PropertyKey × Value)) (propertyFlags : List (SpaKey × Int))
    (operations : List (Operation objectClass Value)) :
    Tracked objectClass propertyFlags (history properties propertyFlags operations) := by
  unfold history
  generalize beginning : (⟨construct objectClass properties propertyFlags, []⟩ : History Value) =
    start
  have tracked : Tracked objectClass propertyFlags start :=
    beginning ▸ tracked_construct wellFormed properties propertyFlags
  clear beginning
  induction operations generalizing start with
  | nil => exact tracked
  | cons operation rest inductionHypothesis =>
      exact inductionHypothesis _ (tracked.step wellFormed operation)

end SpaPodObject

end Runs

section Reads

namespace SpaPodObject

variable {Value : Type} {objectClass : ObjectClass} {propertyFlags : List (SpaKey × Int)}
  {current : History Value} {spec : PropertySpec}

theorem contains_iff (object : SpaPodObject Value) (key : SpaKey) :
    Dictionary.contains object.properties key = true ↔ key ∈ object.properties.map Prod.fst :=
  Dictionary.lookup_isSome_iff

/-- A known property is not stored under its numeric key. -/
theorem Tracked.number_not_stored (wellFormed : objectClass.WellFormed)
    (tracked : Tracked objectClass propertyFlags current) (member : spec ∈ objectClass.specs) :
    .number spec.key ∉ current.object.properties.map Prod.fst := by
  intro stored
  have own := (tracked.stored _ stored).2
  rw [objectClass.storageKey_number wellFormed member] at own
  cases own

theorem resolve_name (wellFormed : objectClass.WellFormed)
    (tracked : Tracked objectClass propertyFlags current) (member : spec ∈ objectClass.specs) :
    current.object.resolveExistingKey (.name spec.name) = .name spec.name := by
  unfold resolveExistingKey
  rw [tracked.sameClass, ObjectClass.spec, objectClass.specByName_mem wellFormed member]
  simp only [ite_self]

/-- The number of a property stands for its name while the property is stored. -/
theorem resolve_number (wellFormed : objectClass.WellFormed)
    (tracked : Tracked objectClass propertyFlags current) (member : spec ∈ objectClass.specs) :
    current.object.resolveExistingKey (.number spec.key) =
      if Dictionary.contains current.object.properties (.name spec.name) then .name spec.name
      else .number spec.key := by
  have absent : ¬ Dictionary.contains current.object.properties (.number spec.key) = true :=
    fun stored => tracked.number_not_stored wellFormed member ((contains_iff _ _).mp stored)
  rw [resolveExistingKey, if_neg absent, tracked.sameClass, ObjectClass.spec,
    objectClass.specByKey_mem wellFormed member]

/-- Both keys of a stored property give its value. -/
theorem getItem_stored (wellFormed : objectClass.WellFormed)
    (tracked : Tracked objectClass propertyFlags current) (member : spec ∈ objectClass.specs)
    {value : Value} (stored : current.object.properties.lookup (.name spec.name) = some value) :
    current.object.getItem (.number spec.key) = .ok value ∧
      current.object.getItem (.name spec.name) = .ok value := by
  have contained : Dictionary.contains current.object.properties (.name spec.name) = true := by
    rw [Dictionary.contains, stored, Option.isSome_some]
  constructor
  · rw [getItem, resolve_number wellFormed tracked member, if_pos contained, stored]
  · rw [getItem, resolve_name wellFormed tracked member, stored]

/-- Both keys of an absent property raise, each with the key that was asked for. -/
theorem getItem_absent (wellFormed : objectClass.WellFormed)
    (tracked : Tracked objectClass propertyFlags current) (member : spec ∈ objectClass.specs)
    (absent : current.object.properties.lookup (.name spec.name) = none) :
    current.object.getItem (.number spec.key) = .error ⟨.number spec.key⟩ ∧
      current.object.getItem (.name spec.name) = .error ⟨.name spec.name⟩ := by
  have notContained : ¬ Dictionary.contains current.object.properties (.name spec.name) = true := by
    rw [Dictionary.contains, absent]
    exact Bool.false_ne_true
  have noNumber : current.object.properties.lookup (.number spec.key) = none :=
    Dictionary.lookup_eq_none_iff.mpr (tracked.number_not_stored wellFormed member)
  constructor
  · rw [getItem, resolve_number wellFormed tracked member, if_neg notContained, noNumber]
  · rw [getItem, resolve_name wellFormed tracked member, absent]

end SpaPodObject

end Reads

end WyrePlumber.Spa
