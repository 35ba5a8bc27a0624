import WyrePlumber.Spa.AccessStyles
import WyrePlumber.Spa.Termination

/-!
# Values of the parser

The values that `parse_spa_pod` can return: mappings by names or by numbers of
32 bits, typed objects with keys of their class, and lists and scalars below.
-/

set_option autoImplicit false
set_option linter.constructorNameAsVariable false

namespace WyrePlumber.Spa

open Python Results Gathering

section Image

/-- A number that an unsigned field of 32 bits holds. -/
def IsWord (number : Int) : Prop := 0 ≤ number ∧ number < 2 ^ 32

/-- A key of an object with the given id: the name of a property or the number of an
unknown one. -/
def ObjectKey (objectId : Int) (key : SpaKey) : Prop :=
  (∃ spec ∈ propertySpecs objectId, key = .name spec.name) ∨
    ∃ number, key = .number number ∧ IsWord number ∧ propertySpecByKey objectId number = none

/-- What the parser returns. -/
inductive Parsed : SpaValue → Prop where
  | none : Parsed .none
  | bool (value : Bool) : Parsed (.bool value)
  | int (value : Int) : Parsed (.int value)
  | member (enumClass : EnumClass) (value : Int) : Parsed (.member enumClass value)
  | float (value : Binary64) : Parsed (.float value)
  | str (value : PyString) : Parsed (.str value)
  | bytes (value : Bytes) : Parsed (.bytes value)
  | list {items : List SpaValue} (each : ∀ item ∈ items, Parsed item) : Parsed (.list items)
  | names {items : List (SpaKey × SpaValue)} (distinct : (items.map Prod.fst).Nodup)
      (keys : ∀ key ∈ items.map Prod.fst, ∃ name, key = .name name)
      (each : ∀ item ∈ items, Parsed item.2) : Parsed (.dict items)
  | numbers {items : List (SpaKey × SpaValue)} (distinct : (items.map Prod.fst).Nodup)
      (keys : ∀ key ∈ items.map Prod.fst, ∃ number, key = .number number ∧ IsWord number)
      (each : ∀ item ∈ items, Parsed item.2) : Parsed (.dict items)
  | object {header : ObjectHeader} {properties : List (SpaKey × SpaValue)}
      (distinct : (properties.map Prod.fst).Nodup)
      (keys : ∀ key ∈ properties.map Prod.fst, ObjectKey header.objectId key)
      (each : ∀ item ∈ properties, Parsed item.2) : Parsed (.object header properties)

/-- Every successful outcome is a value of the parser. -/
def Parses (result : Except SpaError SpaValue) : Prop := ∀ value, result = .ok value → Parsed value

variable {Value : Type} {value : SpaValue} {items : List (SpaKey × SpaValue)}

theorem parses_ok (parsed : Parsed value) : Parses (.ok value) :=
  fun _ same => Except.ok.inj same ▸ parsed

theorem parses_error (error : SpaError) : Parses (.error error) := fun _ same => nomatch same

theorem parses_bind {first : Except SpaError Value} {next : Value → Except SpaError SpaValue}
    (each : ∀ value, first = .ok value → Parses (next value)) : Parses (first >>= next) := by
  intro value finished
  obtain ⟨middle, isMiddle, later⟩ := bind_ok finished
  exact each middle isMiddle value later

theorem parses_map {first : Except SpaError Value} {function : Value → SpaValue}
    (each : ∀ value, first = .ok value → Parsed (function value)) : Parses (first.map function) := by
  intro value finished
  obtain ⟨middle, isMiddle, isValue⟩ := map_ok finished
  exact isValue ▸ each middle isMiddle

/-- The items of a mapping of the parser are values of the parser. -/
theorem Parsed.mapped (parsed : Parsed value) (isMapping : value.mapping? = some items) :
    ∀ item ∈ items, Parsed item.2 := by
  cases parsed with
  | names _ _ each | numbers _ _ each | object _ _ each => exact Option.some.inj isMapping ▸ each
  | none | bool | int | member | float | str | bytes | list => cases isMapping

theorem parsed_getField {name : String} {found : SpaValue} (each : ∀ item ∈ items, Parsed item.2)
    (isField : getField items name = some found) : Parsed found :=
  each _ (Dictionary.mem_of_lookup isField)

/-- Listing a value of the parser gives values of the parser. -/
theorem Parsed.listed {values : List SpaValue} (parsed : Parsed value)
    (listed : pyList value = .ok values) : ∀ item ∈ values, Parsed item := by
  have keys : ∀ {items : List (SpaKey × SpaValue)} {item : SpaValue},
      item ∈ items.map (fun item => item.1.value) → Parsed item := by
    intro items item member
    obtain ⟨⟨key, _⟩, -, isItem⟩ := List.mem_map.mp member
    cases key with
    | name name => exact isItem ▸ .str name
    | number number => exact isItem ▸ .int number
  cases parsed with
  | list each => exact Except.ok.inj listed ▸ each
  | str string =>
      intro item member
      rw [← Except.ok.inj listed] at member
      obtain ⟨codePoint, -, isItem⟩ := List.mem_map.mp member
      exact isItem ▸ .str [codePoint]
  | bytes data =>
      intro item member
      rw [← Except.ok.inj listed] at member
      obtain ⟨byte, -, isItem⟩ := List.mem_map.mp member
      exact isItem ▸ .int byte.toNat
  | names | numbers | object =>
      intro item member
      rw [← Except.ok.inj listed] at member
      exact keys member
  | none | bool | int | member | float => cases listed

/-- A mapping with fixed names. -/
theorem parsed_fields (names : List String)
    (isKeys : items.map Prod.fst = names.map fun name => .name (text name))
    (distinct : (names.map fun name => SpaKey.name (text name)).Nodup)
    (each : ∀ item ∈ items, Parsed item.2) : Parsed (.dict items) := by
  refine .names (isKeys ▸ distinct) (fun key member => ?_) each
  rw [isKeys] at member
  obtain ⟨name, -, isKey⟩ := List.mem_map.mp member
  exact ⟨text name, isKey.symm⟩

/-- A mapping collected from named items. -/
theorem Parsed.ofNamedItems (keys : ∀ item ∈ items, ∃ name, item.1 = .name name)
    (each : ∀ item ∈ items, Parsed item.2) : Parsed (.dict (Dictionary.ofItems items)) := by
  refine .names (Dictionary.keys_nodup_ofItems items) (fun key member => ?_) fun item member => ?_
  · obtain ⟨item, inItems, isKey⟩ := List.mem_map.mp member
    obtain ⟨name, isName⟩ := keys item (Dictionary.mem_ofItems inItems)
    exact ⟨name, isKey ▸ isName⟩
  · exact each item (Dictionary.mem_ofItems member)

end Image

section Specialization

variable {value : SpaValue} {items : List (SpaKey × SpaValue)} {values : List SpaValue}

/-- The specialization of a value of the parser is one. -/
def Keeps (specialize : SpaValue → Except SpaError SpaValue) : Prop :=
  ∀ value, Parsed value → Parses (specialize value)

/-- A mapping by distinct names of values of the parser. -/
structure NamedItems (items : List (SpaKey × SpaValue)) : Prop where
  distinct : (items.map Prod.fst).Nodup
  keys : ∀ key ∈ items.map Prod.fst, ∃ name, key = .name name
  each : ∀ item ∈ items, Parsed item.2

theorem NamedItems.parsed (named : NamedItems items) : Parsed (.dict items) :=
  .names named.distinct named.keys named.each

theorem propertySpecs_untyped {objectId : Int} {spec : PropertySpec}
    (member : spec ∈ propertySpecs objectId) : spec.name ≠ text "_pod_type" := by
  obtain ⟨objectClass, known, inTable⟩ := objectClass_of_propertySpecs member
  obtain ⟨-, -, -, named⟩ := objectClasses_tables objectClass known
  exact (named spec inTable).1.1

/-- Only a mapping by names is marked with a pod type. -/
theorem Parsed.marked {podType : PodType} (parsed : Parsed value)
    (isPod : podItems? podType value = some items) : NamedItems items := by
  obtain ⟨isMapping, marked⟩ := Option.filter_eq_some_iff.mp isPod
  have present : SpaKey.name (text "_pod_type") ∈ items.map Prod.fst := by
    refine Dictionary.lookup_isSome_iff.mp ?_
    unfold hasPodType at marked
    cases found : getField items "_pod_type" with
    | none =>
        rw [found] at marked
        cases marked
    | some mark =>
        rw [getField] at found
        rw [found]
        rfl
  have each := parsed.mapped isMapping
  cases parsed with
  | names distinct keys _ =>
      rw [← Option.some.inj isMapping]
      exact ⟨distinct, keys, Option.some.inj isMapping ▸ each⟩
  | numbers _ keys _ =>
      rw [← Option.some.inj isMapping] at present
      obtain ⟨number, isNumber, -⟩ := keys _ present
      cases isNumber
  | object _ keys _ =>
      rw [← Option.some.inj isMapping] at present
      rcases keys _ present with ⟨spec, member, isName⟩ | ⟨number, isNumber, -⟩
      · exact absurd (SpaKey.name.inj isName).symm (propertySpecs_untyped member)
      · cases isNumber
  | none | bool | int | member | float | str | bytes | list => cases isMapping

theorem memberValues_parsed (each : ∀ item ∈ items, Parsed item.2)
    (listed : memberValues items = .ok values) : ∀ value ∈ values, Parsed value := by
  unfold memberValues at listed
  cases found : getField items "values" with
  | none =>
      rw [found] at listed
      rw [← Except.ok.inj listed]
      simp
  | some value =>
      rw [found] at listed
      exact (parsed_getField each found).listed listed

theorem structToShape_keeps {shape : List SpaValue → Option SpaValue}
    (shaped : ∀ values result, (∀ value ∈ values, Parsed value) → shape values = some result →
      Parsed result) : Keeps (structToShape shape) := by
  intro value parsed
  unfold structToShape
  cases found : podItems? .struct value with
  | none => exact parses_ok parsed
  | some items =>
      refine parses_map fun values listed => ?_
      have members := memberValues_parsed (parsed.marked found).each listed
      cases isShape : shape values with
      | none => exact parsed
      | some result => exact shaped values result members isShape

theorem mem_pairs {pair : SpaValue × SpaValue} (member : pair ∈ pairs values) :
    pair.1 ∈ values ∧ pair.2 ∈ values := by
  induction values using pairs.induct with
  | case1 first second rest inductionHypothesis =>
      rw [pairs, List.mem_cons] at member
      rcases member with isPair | inRest
      · simp [isPair]
      · have inside := inductionHypothesis inRest
        simp [inside]
  | case2 values short =>
      rw [pairs.eq_2 _ short] at member
      cases member

/-- The items of a struct with names before its values. -/
theorem namedPairs_parsed (members : ∀ value ∈ values, Parsed value)
    (named : (pairs values).mapM namedItem = some items) :
    Parsed (.dict (Dictionary.ofItems items)) := by
  have each : ∀ item ∈ items, (∃ name, item.1 = .name name) ∧ Parsed item.2 := by
    intro item member
    obtain ⟨pair, inPairs, isItem⟩ := exists_of_mem_mapM_some named member
    obtain ⟨name, -, isNamed⟩ := Option.map_eq_some_iff.mp isItem
    rw [← isNamed]
    exact ⟨⟨name, rfl⟩, members _ (mem_pairs inPairs).2⟩
  exact .ofNamedItems (fun item member => (each item member).1) fun item member =>
    (each item member).2

theorem structToDictInfo_keeps : Keeps structToDictInfo := by
  refine structToShape_keeps fun values result members isShape => ?_
  unfold dictInfo? at isShape
  split at isShape
  · cases isShape
  · rename_i first rest
    split at isShape
    · split at isShape
      · obtain ⟨items, named, isResult⟩ := Option.map_eq_some_iff.mp isShape
        rw [← isResult]
        exact namedPairs_parsed (fun value member => members value (List.mem_cons_of_mem _ member))
          named
      · cases isShape
    · cases isShape

theorem structToParams_keeps : Keeps structToParams := by
  refine structToShape_keeps fun values result members isShape => ?_
  unfold params? at isShape
  split at isShape
  · obtain ⟨items, named, isResult⟩ := Option.map_eq_some_iff.mp isShape
    rw [← isResult]
    exact namedPairs_parsed members named
  · cases isShape

theorem structToLabels_keeps : Keeps structToLabels := by
  refine structToShape_keeps fun values result members isShape => ?_
  unfold labels? at isShape
  split at isShape
  · obtain ⟨labels, labelled, isResult⟩ := Option.map_eq_some_iff.mp isShape
    rw [← isResult]
    refine .list fun label member => ?_
    obtain ⟨pair, inPairs, isLabel⟩ := exists_of_mem_mapM_some labelled member
    obtain ⟨string, -, isDict⟩ := Option.map_eq_some_iff.mp isLabel
    rw [← isDict]
    refine parsed_fields ["value", "label"] rfl (by decide) ?_
    simp only [List.forall_mem_cons]
    exact ⟨members _ (mem_pairs inPairs).1, .str string, by simp⟩
  · cases isShape

theorem convertInt_keeps : Keeps convertInt :=
  fun _ _ => parses_map fun number _ => .int number

theorem convertFloat_keeps : Keeps convertFloat :=
  fun _ _ => parses_map fun number _ => .float number

theorem mapM_keeps {specialize : SpaValue → Except SpaError SpaValue} (keeps : Keeps specialize)
    (members : ∀ value ∈ values, Parsed value) {converted : List SpaValue}
    (finished : values.mapM specialize = .ok converted) : ∀ value ∈ converted, Parsed value := by
  intro value member
  obtain ⟨item, inValues, isValue⟩ := exists_of_mem_mapM finished member
  exact keeps item (members item inValues) value isValue

theorem arrayToValues_keeps {convert : SpaValue → Except SpaError SpaValue} (keeps : Keeps convert)
    (parsed : Parsed value) {converted : Option (List SpaValue)}
    (finished : arrayToValues? convert value = .ok converted) :
    ∀ values, converted = some values → ∀ value ∈ values, Parsed value := by
  intro values isConverted
  unfold arrayToValues? at finished
  cases found : podItems? .array value with
  | none =>
      rw [found] at finished
      rw [← Except.ok.inj finished] at isConverted
      cases isConverted
  | some items =>
      rw [found] at finished
      obtain ⟨members, listed, afterList⟩ := bind_ok finished
      obtain ⟨results, traversed, whole⟩ := bind_ok afterList
      rw [← Except.ok.inj whole] at isConverted
      rw [← Option.some.inj isConverted]
      exact mapM_keeps keeps (memberValues_parsed (parsed.marked found).each listed) traversed

theorem deviceIndexes_parsed (parsed : Parsed value) {indexes : SpaValue}
    (finished : deviceIndexes value = .ok (some indexes)) : Parsed indexes := by
  obtain ⟨converted, isConverted, chosen⟩ := bind_ok finished
  have each := arrayToValues_keeps convertInt_keeps parsed isConverted
  split at chosen
  · rename_i values
    rw [← Option.some.inj (Except.ok.inj chosen)]
    exact .list (each values rfl)
  · rw [← Option.some.inj (Except.ok.inj chosen)]
    exact parsed
  · cases Except.ok.inj chosen

theorem profileClass_parsed (parsed : Parsed value) {entry : SpaValue}
    (finished : profileClass value = .ok (some entry)) : Parsed entry := by
  unfold profileClass at finished
  cases found : podItems? .struct value with
  | none =>
      rw [found] at finished
      cases Except.ok.inj finished
  | some items =>
      rw [found] at finished
      obtain ⟨members, listed, chosen⟩ := bind_ok finished
      have each := memberValues_parsed (parsed.marked found).each listed
      split at chosen
      · rename_i name count property devices
        split at chosen
        · obtain ⟨indexes, isIndexes, isEntry⟩ := map_ok chosen
          obtain ⟨index, isIndex, whole⟩ := Option.map_eq_some_iff.mp isEntry
          rw [isIndex] at isIndexes
          have ofIndexes := deviceIndexes_parsed (each devices (by simp)) isIndexes
          rw [← whole]
          refine parsed_fields ["class", "count", "property", "devices"] rfl (by decide) ?_
          simp only [List.forall_mem_cons]
          exact ⟨.str name, each count (by simp), .str property, ofIndexes, by simp⟩
        · cases Except.ok.inj chosen
      · cases Except.ok.inj chosen

theorem profileClasses_parsed (members : ∀ value ∈ values, Parsed value)
    {classes : List SpaValue} (finished : profileClasses values = .ok (some classes)) :
    ∀ entry ∈ classes, Parsed entry := by
  induction values generalizing classes with
  | nil =>
      rw [← Option.some.inj (Except.ok.inj finished)]
      simp
  | cons item rest inductionHypothesis =>
      obtain ⟨itemParsed, restParsed⟩ := List.forall_mem_cons.mp members
      obtain ⟨entry, isEntry, continued⟩ := bind_ok finished
      cases entry with
      | none => cases Except.ok.inj continued
      | some entry =>
          obtain ⟨others, isOthers, whole⟩ := map_ok continued
          obtain ⟨tail, isTail, isClasses⟩ := Option.map_eq_some_iff.mp whole
          rw [isTail] at isOthers
          rw [← isClasses]
          exact List.forall_mem_cons.mpr
            ⟨profileClass_parsed itemParsed isEntry, inductionHypothesis restParsed isOthers⟩

theorem nestedClasses_mem {nested : List SpaValue} (isNested : nestedClasses? values = some nested)
    {item : SpaValue} (member : item ∈ nested) : item ∈ values := by
  unfold nestedClasses? at isNested
  split at isNested
  · cases isNested
  · split at isNested
    · rw [← Option.some.inj isNested] at member
      exact List.mem_cons_of_mem _ member
    · cases isNested
  · split at isNested
    · rw [← Option.some.inj isNested] at member
      exact List.mem_cons_of_mem _ member
    · cases isNested
  · rw [← Option.some.inj isNested] at member
    exact member

theorem structToProfileClasses_keeps : Keeps structToProfileClasses := by
  intro value parsed
  unfold structToProfileClasses
  cases found : podItems? .struct value with
  | none => exact parses_ok parsed
  | some items =>
      refine parses_bind fun values listed => ?_
      have members := memberValues_parsed (parsed.marked found).each listed
      cases isNested : nestedClasses? values with
      | none => exact parses_ok parsed
      | some nested =>
          refine parses_map fun classes isClasses => ?_
          cases classes with
          | none => exact parsed
          | some classes =>
              exact .list (profileClasses_parsed
                (fun item member => members item (nestedClasses_mem isNested member)) isClasses)

theorem specializeEach_keeps {specialize : SpaValue → Except SpaError SpaValue}
    (keeps : Keeps specialize) : Keeps (specializeEach specialize) := by
  intro value parsed
  refine parses_bind fun items listed => parses_bind fun converted traversed => ?_
  exact parses_ok (.list (mapM_keeps keeps (parsed.listed listed) traversed))

theorem specializeField_named {specialize : SpaValue → Except SpaError SpaValue}
    (keeps : Keeps specialize) (named : NamedItems items) {name : String}
    {next : List (SpaKey × SpaValue)} (finished : specializeField specialize items name = .ok next) :
    NamedItems next := by
  unfold specializeField at finished
  cases found : getField items name with
  | none =>
      rw [found] at finished
      exact Except.ok.inj finished ▸ named
  | some value =>
      rw [found] at finished
      obtain ⟨converted, isConverted, whole⟩ := map_ok finished
      have parsed := keeps value (parsed_getField named.each found) converted isConverted
      rw [← whole]
      refine ⟨Dictionary.keys_nodup_set named.distinct, fun key member => ?_, fun item member => ?_⟩
      · rcases Dictionary.mem_keys_set.mp member with isKey | wasThere
        · exact ⟨text name, isKey⟩
        · exact named.keys key wasThere
      · rcases Dictionary.mem_set member with isItem | wasThere
        · exact isItem ▸ parsed
        · exact named.each item wasThere

theorem specializeChoice_parsed {specialize : SpaValue → Except SpaError SpaValue}
    (keeps : Keeps specialize) (named : NamedItems items) :
    Parses (specializeChoice specialize items) := by
  have each := specializeEach_keeps keeps
  refine parses_bind fun items here => ?_
  replace named := specializeField_named each named here
  refine parses_bind fun items here => ?_
  replace named := specializeField_named keeps named here
  refine parses_bind fun items here => ?_
  replace named := specializeField_named keeps named here
  refine parses_bind fun items here => ?_
  replace named := specializeField_named keeps named here
  refine parses_bind fun items here => ?_
  replace named := specializeField_named keeps named here
  refine parses_bind fun items here => ?_
  replace named := specializeField_named keeps named here
  refine parses_bind fun items here => ?_
  replace named := specializeField_named each named here
  refine parses_bind fun items here => ?_
  exact parses_ok (specializeField_named each named here).parsed

theorem specializeValues_keeps {specialize : SpaValue → Except SpaError SpaValue}
    (keeps : Keeps specialize) : Keeps (specializeValues specialize) := by
  intro value parsed
  unfold specializeValues
  cases found : podItems? .choice value with
  | none => exact keeps value parsed
  | some items => exact specializeChoice_parsed keeps (parsed.marked found)

theorem coerceEnumMember_parsed (enumClass : EnumClass) (parsed : Parsed value) :
    Parsed (coerceEnumMember enumClass value) := by
  unfold coerceEnumMember
  split
  · split
    · exact .member enumClass _
    · exact parsed
  · exact parsed

theorem specializeArray_keeps {convert : SpaValue → Except SpaError SpaValue}
    (keeps : Keeps convert) (enumClass : Option EnumClass) :
    Keeps (specializeArray convert enumClass) := by
  intro value parsed
  refine parses_bind fun converted isConverted => ?_
  have each := arrayToValues_keeps keeps parsed isConverted
  split
  · exact parses_ok parsed
  · exact parses_ok (.list (each _ rfl))
  · refine parses_ok (.list fun item member => ?_)
    obtain ⟨origin, inValues, isItem⟩ := List.mem_map.mp member
    exact isItem ▸ coerceEnumMember_parsed _ (each _ rfl origin inValues)

theorem specializeByEnum_keeps (enumClass : Option EnumClass) :
    Keeps (specializeByEnum enumClass) := by
  cases enumClass with
  | none => exact fun _ parsed => parses_ok parsed
  | some enumClass =>
      exact specializeValues_keeps fun _ parsed =>
        parses_ok (coerceEnumMember_parsed enumClass parsed)

/-- A property of a value of the parser specializes to one. -/
theorem specializePropertyValue_keeps (objectId key : Int) :
    Keeps (specializePropertyValue objectId key) := by
  intro value parsed
  unfold specializePropertyValue
  cases propertySpecByKey objectId key with
  | none => exact parses_ok parsed
  | some spec =>
      have byEnum := specializeByEnum_keeps spec.enumClass value parsed
      dsimp only
      unfold specializeBySpec
      cases spec.shape with
      | none => exact byEnum
      | some shape =>
          cases shape with
          | dictInfo => exact structToDictInfo_keeps value parsed
          | params => exact structToParams_keeps value parsed
          | labels => exact structToLabels_keeps value parsed
          | profileClasses => exact structToProfileClasses_keeps value parsed
          | arrayInt =>
              exact specializeValues_keeps (specializeArray_keeps convertInt_keeps _) value parsed
          | arrayFloat =>
              exact specializeValues_keeps (specializeArray_keeps convertFloat_keeps _) value parsed
          | arrayId =>
              exact specializeValues_keeps (specializeArray_keeps convertInt_keeps _) value parsed
          | objectProps | objectFormat => exact byEnum

end Specialization

section Objects

namespace SpaPodObject

/-- The properties of an object of the parser while they are stored. -/
structure Built (objectClass : ObjectClass) (objectId : Int) (object : SpaPodObject SpaValue) :
    Prop where
  sameClass : object.header.objectClass = objectClass
  sameId : object.header.objectId = objectId
  distinct : (object.properties.map Prod.fst).Nodup
  keys : ∀ key ∈ object.properties.map Prod.fst, ObjectKey objectId key
  each : ∀ item ∈ object.properties, Parsed item.2

variable {objectClass : ObjectClass} {objectId : Int} {object : SpaPodObject SpaValue}

/-- The keys of an object are stored as they are. -/
theorem storageKey_objectKey (isSpecs : propertySpecs objectId = objectClass.specs) {key : SpaKey}
    (isKey : ObjectKey objectId key) : objectClass.storageKey key = key := by
  cases found : objectClass.spec key with
  | none => rw [ObjectClass.storageKey, found]
  | some spec =>
      have named : objectClass.storageKey key = .name spec.name := by
        rw [ObjectClass.storageKey, found]
      obtain ⟨-, isName | isNumber⟩ := ObjectClass.mem_of_spec found
      · rw [named, isName]
      · rcases isKey with ⟨other, -, isName⟩ | ⟨number, sameNumber, -, unknown⟩
        · rw [isNumber] at isName
          cases isName
        · rw [isNumber] at sameNumber found
          have search : objectClass.specByKey number = none := by
            rw [propertySpecByKey, isSpecs] at unknown
            exact unknown
          rw [sameNumber] at found
          exact absurd (search.symm.trans found) (by simp)

theorem Built.setItem (isSpecs : propertySpecs objectId = objectClass.specs)
    (built : Built objectClass objectId object) {key : SpaKey} (isKey : ObjectKey objectId key)
    {value : SpaValue} (parsed : Parsed value) :
    Built objectClass objectId (object.setItem key value) := by
  have assigned := setItem_assigned built.sameClass key value
  have own := storageKey_objectKey isSpecs isKey
  refine ⟨?_, ?_, ?_, fun other member => ?_, fun item member => ?_⟩
  · rw [assigned.header]
    exact built.sameClass
  · rw [assigned.header]
    exact built.sameId
  · rw [assigned.properties]
    exact Dictionary.keys_nodup_set built.distinct
  · rw [assigned.properties, own, Dictionary.mem_keys_set] at member
    rcases member with same | wasThere
    · exact same ▸ isKey
    · exact built.keys other wasThere
  · rw [assigned.properties] at member
    rcases Dictionary.mem_set member with isItem | wasThere
    · exact isItem ▸ parsed
    · exact built.each item wasThere

theorem init_parsed (isSpecs : propertySpecs objectId = objectClass.specs) {header : ObjectHeader}
    (sameClass : header.objectClass = objectClass) (sameId : header.objectId = objectId)
    {items : List (SpaKey × SpaValue)} (keys : ∀ item ∈ items, ObjectKey objectId item.1)
    (each : ∀ item ∈ items, Parsed item.2) : Parsed (init header items).value := by
  have folded : ∀ object : SpaPodObject SpaValue, Built objectClass objectId object →
      Built objectClass objectId
        (items.foldl (fun object item => object.setItem item.1 item.2) object) := by
    induction items with
    | nil => exact fun _ built => built
    | cons item rest inductionHypothesis =>
        intro object built
        obtain ⟨itemKey, restKeys⟩ := List.forall_mem_cons.mp keys
        obtain ⟨itemParsed, restParsed⟩ := List.forall_mem_cons.mp each
        exact inductionHypothesis restKeys restParsed _ (built.setItem isSpecs itemKey itemParsed)
  have start : Built objectClass objectId ⟨header, []⟩ :=
    ⟨sameClass, sameId, List.nodup_nil, by simp, by simp⟩
  have built := folded _ start
  exact .object built.distinct (built.sameId.symm ▸ built.keys) built.each

end SpaPodObject

/-- A property as the parser leaves it. -/
structure ParsedProperty.Fits (objectId : Int) (property : ParsedProperty) : Prop where
  key : ObjectKey objectId property.target
  value : Parsed property.value

theorem parsedProperty_fits {objectId key flags : Nat} {value : SpaValue}
    (word : key < 256 ^ 4) (parsed : Parsed value) {property : ParsedProperty}
    (finished : parsedProperty objectId key flags value = .ok property) :
    property.Fits objectId := by
  unfold parsedProperty at finished
  cases found : propertySpecByKey objectId key with
  | none =>
      rw [found] at finished
      rw [← Except.ok.inj finished]
      exact ⟨.inr ⟨key, rfl, ⟨by omega, by omega⟩, found⟩, parsed⟩
  | some spec =>
      rw [found] at finished
      obtain ⟨specialized, isSpecialized, whole⟩ := map_ok finished
      rw [← whole]
      exact ⟨.inl ⟨spec, List.mem_of_find?_eq_some found, rfl⟩,
        specializePropertyValue_keeps objectId key value parsed specialized isSpecialized⟩

theorem intDict_parsed {table : List (SpaKey × Int)} (distinct : (table.map Prod.fst).Nodup)
    (keys : ∀ key ∈ table.map Prod.fst, ∃ number, key = .number number ∧ IsWord number) :
    Parsed (intDict table) := by
  have sameKeys : (table.map fun item => (item.1, SpaValue.int item.2)).map Prod.fst =
      table.map Prod.fst := by
    rw [List.map_map]
    rfl
  refine .numbers (sameKeys ▸ distinct) (sameKeys ▸ keys) fun item member => ?_
  obtain ⟨origin, -, isItem⟩ := List.mem_map.mp member
  exact isItem ▸ .int origin.2

/-- The object of fitting properties is a value of the parser. -/
theorem objectOf_parsed {objectType objectId : Int} {properties : List ParsedProperty}
    (fits : ∀ property ∈ properties, property.Fits objectId) :
    Parsed (objectOf objectType objectId properties) := by
  have valueKeys : ∀ item ∈ parsedValues properties,
      ObjectKey objectId item.1 ∧ Parsed item.2 := by
    intro item member
    obtain ⟨property, inProperties, isItem⟩ := List.mem_map.mp (Dictionary.mem_ofItems member)
    rw [← isItem]
    exact ⟨(fits property inProperties).key, (fits property inProperties).value⟩
  unfold objectOf
  cases known : objectClassesById.lookup objectId with
  | some objectClass =>
      have isSpecs : propertySpecs objectId = objectClass.specs := by
        rw [propertySpecs, known]
        rfl
      exact SpaPodObject.init_parsed isSpecs rfl rfl (fun item member => (valueKeys item member).1)
        fun item member => (valueKeys item member).2
  | none =>
      have noSpecs : propertySpecs objectId = [] := by
        rw [propertySpecs, known]
        rfl
      have isNumber : ∀ key, ObjectKey objectId key →
          ∃ number, key = .number number ∧ IsWord number := by
        intro key isKey
        rcases isKey with ⟨spec, member, -⟩ | ⟨number, isKey, word, -⟩
        · rw [noSpecs] at member
          cases member
        · exact ⟨number, isKey, word⟩
      have targets : ∀ property ∈ properties,
          ∃ number, property.target = .number number ∧ IsWord number :=
        fun property member => isNumber _ (fits property member).key
      have values : Parsed (.dict (parsedValues properties)) := by
        refine .numbers (Dictionary.keys_nodup_ofItems _) (fun key member => ?_)
          fun item member => (valueKeys item member).2
        obtain ⟨item, inItems, isKey⟩ := List.mem_map.mp member
        exact isNumber key (isKey ▸ (valueKeys item inItems).1)
      have flags : Parsed (intDict (parsedFlags properties)) := by
        refine intDict_parsed (Dictionary.keys_nodup_ofItems _) fun key member => ?_
        obtain ⟨item, inItems, isKey⟩ := List.mem_map.mp member
        obtain ⟨property, inProperties, isItem⟩ :=
          List.mem_map.mp (Dictionary.mem_ofItems inItems)
        rw [← isKey, ← isItem]
        exact targets property inProperties
      have keys : Parsed (intDict (parsedKeys properties)) := by
        refine intDict_parsed (Dictionary.keys_nodup_ofItems _) fun key member => ?_
        obtain ⟨item, inItems, -⟩ := List.mem_map.mp member
        obtain ⟨property, inProperties, isItem⟩ :=
          List.mem_filterMap.mp (Dictionary.mem_ofItems inItems)
        obtain ⟨number, isTarget, -⟩ := targets property inProperties
        rw [isTarget] at isItem
        cases isItem
      unfold objectDict podDict
      cases objectIdToName.lookup objectId with
      | none =>
          refine parsed_fields ["_pod_type", "_object_type", "_object_id", "object_type",
            "object_id", "properties", "property_flags", "property_keys"] rfl (by decide) ?_
          simp only [Option.map_none, Option.toList_none, List.append_nil, List.forall_mem_cons]
          exact ⟨.int _, .int _, .int _, .int _, .int _, values, flags, keys, by simp⟩
      | some name =>
          refine parsed_fields ["_pod_type", "_object_type", "_object_id", "object_type",
            "object_id", "properties", "property_flags", "property_keys", "object_name"] rfl
            (by decide) ?_
          simp only [Option.map_some, Option.toList_some, List.cons_append, List.nil_append,
            List.forall_mem_cons]
          exact ⟨.int _, .int _, .int _, .int _, .int _, values, flags, keys, .str name, by simp⟩

end Objects

section Pods

variable {parse : Bytes → Nat → Except SpaError SpaValue} {data : Bytes}

/-- Every contained pod parses to a value of the parser. -/
def ParsesAll (parse : Bytes → Nat → Except SpaError SpaValue) : Prop :=
  ∀ data offset, Parses (parse data offset)

/-- A dictionary of a pod type with further fields. -/
theorem parsed_podDict {podType : PodType} {items : List (SpaKey × SpaValue)} (names : List String)
    (isKeys : items.map Prod.fst = names.map fun name => .name (text name))
    (distinct : (("_pod_type" :: names).map fun name => SpaKey.name (text name)).Nodup)
    (each : ∀ item ∈ items, Parsed item.2) : Parsed (podDict podType items) := by
  refine parsed_fields ("_pod_type" :: names) ?_ distinct ?_
  · rw [List.map_cons, List.map_cons, isKeys]
    rfl
  · exact List.forall_mem_cons.mpr ⟨.int _, each⟩

theorem parseItems_parsed (all : ParsesAll parse) {start finish childSize childType : Nat}
    {values : List SpaValue}
    (parsed : parseItems parse data start finish childSize childType = .ok values) :
    ∀ value ∈ values, Parsed value := by
  unfold parseItems at parsed
  split at parsed
  · rw [← Except.ok.inj parsed]
    simp
  · refine gather_forall (fun current item next found => ?_) parsed
    unfold itemStep at found
    split at found
    · obtain ⟨child, childParsed, isPair⟩ := map_ok found
      have isItem : child = item := congrArg Prod.fst (Option.some.inj isPair)
      exact isItem ▸ all _ _ child childParsed
    · cases found

theorem containedPod_parsed (all : ParsesAll parse) {finish current next : Nat} {value : SpaValue}
    (found : containedPod parse data finish current = .ok (some (value, next))) :
    Parsed value := by
  obtain ⟨⟨podSize, _⟩, -, chosen⟩ := bind_ok found
  dsimp only at chosen
  split at chosen
  · cases chosen
  · obtain ⟨child, childParsed, isPair⟩ := map_ok chosen
    have isValue : child = value := congrArg Prod.fst (Option.some.inj isPair)
    exact isValue ▸ all _ _ child childParsed

theorem parseArray_parses (all : ParsesAll parse) (offset size : Nat) :
    Parses (parseArray parse data offset size) := by
  unfold parseArray
  split
  · refine parses_ok (parsed_podDict ["child_size", "child_type", "values"] rfl (by decide) ?_)
    simp only [List.forall_mem_cons]
    exact ⟨.int _, .int _, .list (by simp), by simp⟩
  · refine parses_bind fun childSize _ => parses_bind fun childType _ =>
      parses_bind fun values isValues => ?_
    refine parses_ok (parsed_podDict ["child_size", "child_type", "values"] rfl (by decide) ?_)
    simp only [List.forall_mem_cons]
    exact ⟨.int _, .int _, .list (parseItems_parsed all isValues), by simp⟩

theorem parseStruct_parses (all : ParsesAll parse) (offset size : Nat) :
    Parses (parseStruct parse data offset size) := by
  refine parses_map fun values gathered => ?_
  have each : ∀ value ∈ values, Parsed value := by
    refine gather_forall (fun current item next found => ?_) gathered
    unfold structStep at found
    split at found
    · exact containedPod_parsed all found
    · cases found
  refine parsed_podDict ["values"] rfl (by decide) ?_
  simp only [List.forall_mem_cons]
  exact ⟨.list each, by simp⟩

theorem objectStep_fits (all : ParsesAll parse) {finish objectId current next : Nat}
    {property : ParsedProperty}
    (found : objectStep parse data finish objectId current = .ok (some (property, next))) :
    property.Fits objectId := by
  unfold objectStep at found
  split at found
  · obtain ⟨key, isKey, afterKey⟩ := bind_ok found
    obtain ⟨flags, -, afterFlags⟩ := bind_ok afterKey
    obtain ⟨contained, isContained, chosen⟩ := bind_ok afterFlags
    cases contained with
    | none => cases chosen
    | some pair =>
        obtain ⟨value, after⟩ := pair
        obtain ⟨made, isMade, isPair⟩ := map_ok chosen
        have isProperty : made = property := congrArg Prod.fst (Option.some.inj isPair)
        rw [← isProperty]
        exact parsedProperty_fits (unpackUnsigned_lt isKey) (containedPod_parsed all isContained)
          isMade
  · cases found

theorem parseObject_parses (all : ParsesAll parse) (offset size : Nat) :
    Parses (parseObject parse data offset size) := by
  unfold parseObject
  split
  · refine parses_ok (parsed_podDict ["_object_type", "_object_id", "object_type", "object_id",
      "properties", "property_flags", "property_keys"] rfl (by decide) ?_)
    have empty : Parsed (.dict []) := .names List.nodup_nil (by simp) (by simp)
    simp only [List.forall_mem_cons]
    exact ⟨.int _, .int _, .int _, .int _, empty, empty, empty, by simp⟩
  · refine parses_bind fun objectType _ => parses_bind fun objectId _ =>
      parses_bind fun parsed gathered => ?_
    exact parses_ok (objectOf_parsed
      (gather_forall (fun _ _ _ found => objectStep_fits all found) gathered))

/-- The named fields of a choice are distinct and hold its values. -/
theorem choiceDict_parsed (choiceType flags childSize childType : Nat) {values : List SpaValue}
    (each : ∀ value ∈ values, Parsed value) :
    Parsed (choiceDict choiceType flags childSize childType values) := by
  have head : Parsed (.list values) := .list each
  unfold choiceDict choiceItems choiceTypeFields
  split
  · rename_i kind _
    unfold derivedFields
    split
    · simp only [List.forall_mem_cons] at each
      refine parsed_fields ["_pod_type", "choice_type", "flags", "child_size", "child_type", "values",
        "default", "min", "max"] rfl (by decide) ?_
      simp only [List.cons_append, List.nil_append, List.forall_mem_cons]
      exact ⟨.int _, .int _, .int _, .int _, .int _, head, each.1, each.2.1, each.2.2.1, by simp⟩
    · simp only [List.forall_mem_cons] at each
      refine parsed_fields ["_pod_type", "choice_type", "flags", "child_size", "child_type", "values",
        "default", "min", "max", "step"] rfl (by decide) ?_
      simp only [List.cons_append, List.nil_append, List.forall_mem_cons]
      exact ⟨.int _, .int _, .int _, .int _, .int _, head, each.1, each.2.1, each.2.2.1, each.2.2.2.1,
        by simp⟩
    · simp only [List.forall_mem_cons] at each
      refine parsed_fields ["_pod_type", "choice_type", "flags", "child_size", "child_type", "values",
        "default", "alternatives"] rfl (by decide) ?_
      simp only [List.cons_append, List.nil_append, List.forall_mem_cons]
      exact ⟨.int _, .int _, .int _, .int _, .int _, head, each.1, .list each.2, by simp⟩
    · simp only [List.forall_mem_cons] at each
      refine parsed_fields ["_pod_type", "choice_type", "flags", "child_size", "child_type", "values",
        "default", "flags_values"] rfl (by decide) ?_
      simp only [List.cons_append, List.nil_append, List.forall_mem_cons]
      exact ⟨.int _, .int _, .int _, .int _, .int _, head, each.1, .list each.2, by simp⟩
    · simp only [List.forall_mem_cons] at each
      refine parsed_fields ["_pod_type", "choice_type", "flags", "child_size", "child_type", "values",
        "value"] rfl (by decide) ?_
      simp only [List.cons_append, List.nil_append, List.forall_mem_cons]
      exact ⟨.int _, .int _, .int _, .int _, .int _, head, each.1, by simp⟩
    · refine parsed_fields ["_pod_type", "choice_type", "flags", "child_size", "child_type", "values"] rfl
        (by decide) ?_
      simp only [List.append_nil, List.forall_mem_cons]
      exact ⟨.int _, .int _, .int _, .int _, .int _, head, by simp⟩
  · refine parsed_fields ["_pod_type", "choice_type", "flags", "child_size", "child_type", "values"] rfl
      (by decide) ?_
    simp only [List.append_nil, List.forall_mem_cons]
    exact ⟨.int _, .int _, .int _, .int _, .int _, head, by simp⟩

theorem parseChoice_parses (all : ParsesAll parse) (offset size : Nat) :
    Parses (parseChoice parse data offset size) := by
  unfold parseChoice
  split
  · refine parses_ok (parsed_podDict ["choice_type", "flags", "child_size", "child_type",
      "values"] rfl (by decide) ?_)
    simp only [List.forall_mem_cons]
    exact ⟨.int _, .int _, .int _, .int _, .list (by simp), by simp⟩
  · refine parses_bind fun choiceType _ => parses_bind fun flags _ => parses_bind fun childSize _ =>
      parses_bind fun childType _ => parses_bind fun values isValues => ?_
    exact parses_ok (choiceDict_parsed _ _ _ _ (parseItems_parsed all isValues))

theorem controlStep_parsed (all : ParsesAll parse) {finish current next : Nat} {value : SpaValue}
    (found : controlStep parse data finish current = .ok (some (value, next))) : Parsed value := by
  unfold controlStep at found
  split at found
  · obtain ⟨controlOffset, -, afterOffset⟩ := bind_ok found
    obtain ⟨controlType, -, afterType⟩ := bind_ok afterOffset
    obtain ⟨contained, isContained, whole⟩ := bind_ok afterType
    obtain ⟨pair, isPair, isValue⟩ := Option.map_eq_some_iff.mp (Except.ok.inj whole)
    rw [isPair] at isContained
    have inner := containedPod_parsed all isContained
    have isDict := congrArg Prod.fst isValue
    dsimp only at isDict
    rw [← isDict]
    refine parsed_fields ["offset", "type", "value"] rfl (by decide) ?_
    simp only [List.forall_mem_cons]
    exact ⟨.int _, .int _, inner, by simp⟩
  · cases found

theorem parseSequence_parses (all : ParsesAll parse) (offset size : Nat) :
    Parses (parseSequence parse data offset size) := by
  unfold parseSequence
  split
  · refine parses_ok (parsed_podDict ["unit", "controls"] rfl (by decide) ?_)
    simp only [List.forall_mem_cons]
    exact ⟨.int _, .list (by simp), by simp⟩
  · refine parses_bind fun unit _ => parses_bind fun controls gathered => ?_
    have each := gather_forall (fun _ _ _ found => controlStep_parsed all found) gathered
    refine parses_ok (parsed_podDict ["unit", "controls"] rfl (by decide) ?_)
    simp only [List.forall_mem_cons]
    exact ⟨.int _, .list each, by simp⟩

theorem parsePointer_parses (offset size : Nat) : Parses (parsePointer data offset size) := by
  have pointer : ∀ pointerType pointerValue : Nat,
      Parsed (podDict .pointer [natField "pointer_type" pointerType,
        natField "value" pointerValue]) := by
    intro pointerType pointerValue
    refine parsed_podDict ["pointer_type", "value"] rfl (by decide) ?_
    simp only [List.forall_mem_cons]
    exact ⟨.int _, .int _, by simp⟩
  unfold parsePointer
  split
  · exact parses_ok (pointer 0 0)
  · refine parses_bind fun pointerType _ => ?_
    split
    · exact parses_bind fun pointerValue _ => parses_ok (pointer _ _)
    · split
      · exact parses_bind fun pointerValue _ => parses_ok (pointer _ _)
      · exact parses_ok (pointer _ 0)

theorem parseEmbeddedPod_parses (all : ParsesAll parse) (offset size : Nat) :
    Parses (parseEmbeddedPod parse data offset size) := by
  have embedded : ∀ value, Parsed value → Parsed (podDict .pod [field "pod" value]) := by
    intro value parsed
    refine parsed_podDict ["pod"] rfl (by decide) ?_
    simp only [List.forall_mem_cons]
    exact ⟨parsed, by simp⟩
  unfold parseEmbeddedPod
  split
  · exact parses_ok (embedded .none .none)
  · refine parses_bind fun header _ => ?_
    obtain ⟨podSize, _⟩ := header
    dsimp only
    split
    · exact parses_error _
    · exact parses_map fun value isValue => embedded value (all _ _ value isValue)

theorem parseBody_parses (all : ParsesAll parse) (offset size : Nat) (podType : PodType) :
    Parses (parseBody parse data offset size podType) := by
  have pair : ∀ (podType : PodType) (first second : String) (left right : Nat),
      (["_pod_type", first, second].map fun name => SpaKey.name (text name)).Nodup →
      Parsed (podDict podType [natField first left, natField second right]) := by
    intro podType first second left right distinct
    refine parsed_podDict [first, second] rfl distinct ?_
    simp only [List.forall_mem_cons]
    exact ⟨.int _, .int _, by simp⟩
  cases podType with
  | none => exact parses_ok .none
  | bool => exact parses_map fun _ _ => .bool _
  | id => exact parses_map fun _ _ => .int _
  | int => exact parses_map fun _ _ => .int _
  | long => exact parses_map fun _ _ => .int _
  | float => exact parses_map fun _ _ => .float _
  | double => exact parses_map fun _ _ => .float _
  | string => exact parses_ok (.str _)
  | bytes => exact parses_ok (.bytes _)
  | rectangle =>
      exact parses_bind fun _ _ => parses_bind fun _ _ =>
        parses_ok (pair .rectangle "width" "height" _ _ (by decide))
  | fraction =>
      exact parses_bind fun _ _ => parses_bind fun _ _ =>
        parses_ok (pair .fraction "num" "denom" _ _ (by decide))
  | bitmap =>
      refine parses_ok (parsed_podDict ["data"] rfl (by decide) ?_)
      simp only [List.forall_mem_cons]
      exact ⟨.bytes _, by simp⟩
  | array => exact parseArray_parses all offset size
  | struct => exact parseStruct_parses all offset size
  | object => exact parseObject_parses all offset size
  | sequence => exact parseSequence_parses all offset size
  | pointer => exact parsePointer_parses offset size
  | fd => exact parses_map fun _ _ => .int _
  | choice => exact parseChoice_parses all offset size
  | pod => exact parseEmbeddedPod_parses all offset size

theorem parsePod_parses (all : ParsesAll parse) : ParsesAll (parsePod parse) := by
  intro data offset
  refine parses_bind fun header _ => parses_bind fun _ _ => ?_
  split
  · exact parseBody_parses all _ _ _
  · refine parses_ok (parsed_fields ["_pod_type", "_type", "_size", "_data"] rfl (by decide) ?_)
    simp only [List.forall_mem_cons]
    exact ⟨.int _, .int _, .int _, .bytes _, by simp⟩

/-- Whatever the bytes, the parser returns one of its values. -/
theorem parseSpaPod_parsed (fuel : Nat) : ParsesAll (parseSpaPod fuel) := by
  induction fuel with
  | zero => exact fun _ _ => parses_error _
  | succ fuel inductionHypothesis => exact parsePod_parses inductionHypothesis

end Pods

end WyrePlumber.Spa
