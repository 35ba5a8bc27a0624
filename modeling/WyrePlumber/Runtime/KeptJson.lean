import WyrePlumber.Runtime.Normalize
import WyrePlumber.Spa.ParsedValues

/-!
# Parsed values kept as JSON

`normalize_spa_json` turns every value of the parser into string-keyed JSON under
distinct names.  `freeze_json` refuses it exactly where a float in the value is
infinite or no number.
-/

set_option autoImplicit false
set_option linter.constructorNameAsVariable false

namespace WyrePlumber.Runtime

open Python Spa Results

section Freezing

def Freezes (value : PyValue) : Prop := ∃ frozen, freezeJson value = .ok frozen

theorem exists_mapM_iff {α β : Type} {function : α → Except PyError β} {items : List α} :
    (∃ values, items.mapM function = .ok values) ↔
      ∀ item ∈ items, ∃ value, function item = .ok value := by
  induction items with
  | nil => exact iff_of_true ⟨[], rfl⟩ (by simp)
  | cons item rest inductionHypothesis =>
      rw [List.forall_mem_cons, ← inductionHypothesis, List.mapM_cons]
      constructor
      · rintro ⟨values, finished⟩
        obtain ⟨value, isValue, continued⟩ := bind_ok finished
        obtain ⟨others, isOthers, -⟩ := bind_ok continued
        exact ⟨⟨value, isValue⟩, others, isOthers⟩
      · rintro ⟨⟨value, isValue⟩, others, isOthers⟩
        exact ⟨value :: others, by rw [isValue, ok_bind, isOthers]; rfl⟩

theorem exists_map_iff {α β : Type} {result : Except PyError α} {function : α → β} :
    (∃ value, result.map function = .ok value) ↔ ∃ value, result = .ok value := by
  cases result with
  | error error => exact ⟨fun ⟨_, failed⟩ => (nomatch failed), fun ⟨_, failed⟩ => (nomatch failed)⟩
  | ok value => exact ⟨fun _ => ⟨value, rfl⟩, fun _ => ⟨function value, rfl⟩⟩

theorem freezes_list {items : List PyValue} :
    Freezes (.list items) ↔ ∀ item ∈ items, Freezes item := by
  rw [Freezes, freezeJson, exists_map_iff, freezeAll_eq, exists_mapM_iff]
  rfl

theorem freezes_dict {items : List (PyString × PyValue)} :
    Freezes (.dict items) ↔ ∀ item ∈ items, Freezes item.2 := by
  rw [Freezes, freezeJson, exists_map_iff, freezeItems_eq, exists_mapM_iff]
  refine forall₂_congr fun item member => ?_
  rw [exists_map_iff, Freezes]

theorem freezes_float {value : Binary64} : Freezes (.float value) ↔ value.isFinite = true := by
  rw [Freezes, freezeJson]
  cases value.isFinite with
  | true => exact ⟨fun _ => rfl, fun _ => ⟨_, rfl⟩⟩
  | false =>
      constructor
      · rintro ⟨frozen, failed⟩
        cases failed
      · intro finite
        cases finite

end Freezing

section Floats

mutual

/-- Whether every float in a value is finite. -/
def finiteFloats : SpaValue → Bool
  | .float value => value.isFinite
  | .list items => finiteAll items
  | .dict items => finiteItems items
  | .object _ properties => finiteItems properties
  | .none | .bool _ | .int _ | .member _ _ | .str _ | .bytes _ | .other _ => true

def finiteAll : List SpaValue → Bool
  | [] => true
  | item :: rest => finiteFloats item && finiteAll rest

def finiteItems : List (SpaKey × SpaValue) → Bool
  | [] => true
  | (_, item) :: rest => finiteFloats item && finiteItems rest

end

theorem finiteFloats_list {items : List SpaValue} :
    finiteFloats (.list items) = true ↔ ∀ item ∈ items, finiteFloats item = true := by
  rw [finiteFloats]
  induction items with
  | nil => simp [finiteAll]
  | cons item rest inductionHypothesis =>
      rw [finiteAll, Bool.and_eq_true, inductionHypothesis, List.forall_mem_cons]

theorem finiteItems_iff {items : List (SpaKey × SpaValue)} :
    finiteItems items = true ↔ ∀ item ∈ items, finiteFloats item.2 = true := by
  induction items with
  | nil => simp [finiteItems]
  | cons item rest inductionHypothesis =>
      rw [finiteItems, Bool.and_eq_true, inductionHypothesis, List.forall_mem_cons]

end Floats

section Names

variable {objectId : Option Int} {keys : List SpaKey}

/-- Every key has a name as JSON, and no two have the same. -/
structure Naming (objectId : Option Int) (keys : List SpaKey) (name : SpaKey → PyString) :
    Prop where
  named : ∀ key ∈ keys, propertyName key objectId = .ok (name key)
  apart : ∀ first ∈ keys, ∀ second ∈ keys, name first = name second → first = second

/-- The name of a key without an object: a number is written out. -/
def keyText : SpaKey → PyString
  | .name name => name
  | .number number => text (toString number)

theorem pyIntText_word {number : Int} (word : IsWord number) :
    pyIntText number = .ok (text (toString number)) := by
  obtain ⟨natural, isNatural⟩ := Int.eq_ofNat_of_zero_le word.1
  have small : number.natAbs < 10 ^ 10 := by
    have bound := word.2
    omega
  exact pyIntText_of_some (intText?_of_lt small (by decide))

/-- The key of no known property is written out. -/
theorem propertyName_number {number : Int} (word : IsWord number)
    (unknown : objectId.bind (propertySpecByKey · number) = none) :
    propertyName (.number number) objectId = .ok (keyText (.number number)) := by
  rw [propertyName, unknown, keyText]
  exact pyIntText_word word

theorem wordText_injective {first second : Int} (firstWord : IsWord first)
    (secondWord : IsWord second)
    (same : text (toString first) = text (toString second)) : first = second := by
  obtain ⟨left, isLeft⟩ := Int.eq_ofNat_of_zero_le firstWord.1
  obtain ⟨right, isRight⟩ := Int.eq_ofNat_of_zero_le secondWord.1
  rw [isLeft, isRight] at same
  rw [isLeft, isRight, natural_text_injective same]

theorem naming_names (onlyNames : ∀ key ∈ keys, ∃ name, key = .name name) :
    Naming objectId keys keyText where
  named := by
    intro key member
    obtain ⟨name, isName⟩ := onlyNames key member
    rw [isName]
    rfl
  apart := by
    intro first firstMember second secondMember same
    obtain ⟨left, isLeft⟩ := onlyNames first firstMember
    obtain ⟨right, isRight⟩ := onlyNames second secondMember
    rw [isLeft, isRight] at same ⊢
    exact congrArg SpaKey.name same

theorem naming_numbers (onlyNumbers : ∀ key ∈ keys, ∃ number, key = .number number ∧ IsWord number) :
    Naming none keys keyText where
  named := by
    intro key member
    obtain ⟨number, isNumber, word⟩ := onlyNumbers key member
    rw [isNumber]
    exact propertyName_number word rfl
  apart := by
    intro first firstMember second secondMember same
    obtain ⟨left, isLeft, leftWord⟩ := onlyNumbers first firstMember
    obtain ⟨right, isRight, rightWord⟩ := onlyNumbers second secondMember
    rw [isLeft, isRight] at same ⊢
    exact congrArg SpaKey.number (wordText_injective leftWord rightWord same)

/-- No property is named like a number. -/
theorem propertySpecs_undigital {objectId : Int} {spec : PropertySpec}
    (member : spec ∈ propertySpecs objectId) : ∃ codePoint ∈ spec.name, 57 < codePoint := by
  obtain ⟨objectClass, known, inTable⟩ := objectClass_of_propertySpecs member
  obtain ⟨-, -, -, named⟩ := objectClasses_tables objectClass known
  exact (named spec inTable).2

theorem name_ne_wordText {objectId : Int} {spec : PropertySpec} {number : Int}
    (member : spec ∈ propertySpecs objectId) (word : IsWord number) :
    spec.name ≠ text (toString number) := by
  intro same
  obtain ⟨natural, isNatural⟩ := Int.eq_ofNat_of_zero_le word.1
  obtain ⟨codePoint, inName, large⟩ := propertySpecs_undigital member
  rw [same, isNatural] at inName
  have digit := digits_of_natural inName
  omega

theorem naming_object {objectId : Int} (ofObject : ∀ key ∈ keys, ObjectKey objectId key) :
    Naming (some objectId) keys keyText where
  named := by
    intro key member
    rcases ofObject key member with ⟨spec, -, isName⟩ | ⟨number, isNumber, word, unknown⟩
    · rw [isName]
      rfl
    · rw [isNumber]
      exact propertyName_number word unknown
  apart := by
    intro first firstMember second secondMember same
    rcases ofObject first firstMember with ⟨left, inLeft, isLeft⟩ | ⟨left, isLeft, leftWord, -⟩
    · rcases ofObject second secondMember with ⟨right, -, isRight⟩ | ⟨right, isRight, rightWord, -⟩
      · rw [isLeft, isRight] at same ⊢
        exact congrArg SpaKey.name same
      · rw [isLeft, isRight] at same
        exact absurd same (name_ne_wordText inLeft rightWord)
    · rcases ofObject second secondMember with ⟨right, inRight, isRight⟩ | ⟨right, isRight, rightWord, -⟩
      · rw [isLeft, isRight] at same
        exact absurd same.symm (name_ne_wordText inRight leftWord)
      · rw [isLeft, isRight] at same ⊢
        exact congrArg SpaKey.number (wordText_injective leftWord rightWord same)

end Names

section Kept

/-- A value has JSON, and the JSON freezes exactly where the floats are finite. -/
def FreezesIfFinite (value : SpaValue) : Prop :=
  ∃ json, normalizeSpaJson value = .ok json ∧ (Freezes json ↔ finiteFloats value = true)

theorem freezesIfFinite_of {value : SpaValue} {json : PyValue}
    (normalized : normalizeSpaJson value = .ok json) (freezes : Freezes json)
    (finite : finiteFloats value = true) : FreezesIfFinite value :=
  ⟨json, normalized, iff_of_true freezes finite⟩

theorem normalizeAll_of {items : List SpaValue} (each : ∀ item ∈ items, FreezesIfFinite item) :
    ∃ jsons, normalizeAll items = .ok jsons ∧
      ((∀ json ∈ jsons, Freezes json) ↔ ∀ item ∈ items, finiteFloats item = true) := by
  induction items with
  | nil => exact ⟨[], rfl, by simp⟩
  | cons item rest inductionHypothesis =>
      obtain ⟨⟨json, normalized, freezes⟩, restEach⟩ := List.forall_mem_cons.mp each
      obtain ⟨jsons, others, restFreezes⟩ := inductionHypothesis restEach
      refine ⟨json :: jsons, ?_, ?_⟩
      · rw [normalizeAll, normalized, ok_bind, others, ok_bind]
      · rw [List.forall_mem_cons, List.forall_mem_cons, freezes, restFreezes]

theorem normalizeItems_of {objectId : Option Int} {items : List (SpaKey × SpaValue)}
    {name : SpaKey → PyString}
    (named : ∀ key ∈ items.map Prod.fst, propertyName key objectId = .ok (name key))
    (each : ∀ item ∈ items, FreezesIfFinite item.2) :
    ∃ jsons, normalizeItems objectId items = .ok jsons ∧
      jsons.map Prod.fst = (items.map Prod.fst).map name ∧
      ((∀ json ∈ jsons, Freezes json.2) ↔ ∀ item ∈ items, finiteFloats item.2 = true) := by
  induction items with
  | nil => exact ⟨[], rfl, rfl, by simp⟩
  | cons item rest inductionHypothesis =>
      obtain ⟨key, value⟩ := item
      obtain ⟨⟨json, normalized, freezes⟩, restEach⟩ := List.forall_mem_cons.mp each
      rw [List.map_cons] at named
      obtain ⟨isName, restNamed⟩ := List.forall_mem_cons.mp named
      obtain ⟨jsons, others, names, restFreezes⟩ := inductionHypothesis restNamed restEach
      refine ⟨(name key, json) :: jsons, ?_, ?_, ?_⟩
      · rw [normalizeItems, normalized, ok_bind, isName, ok_bind, others, ok_bind]
      · rw [List.map_cons, List.map_cons, List.map_cons, names]
      · rw [List.forall_mem_cons, List.forall_mem_cons, freezes, restFreezes]

/-- Items under distinct keys become items under distinct names. -/
theorem normalizeItems_named {objectId : Option Int} {items : List (SpaKey × SpaValue)}
    {name : SpaKey → PyString} (naming : Naming objectId (items.map Prod.fst) name)
    (distinct : (items.map Prod.fst).Nodup) (each : ∀ item ∈ items, FreezesIfFinite item.2) :
    ∃ json, (normalizeItems objectId items).map
        (fun items => PyValue.dict (Dictionary.ofItems items)) = .ok json ∧
      (Freezes json ↔ finiteItems items = true) := by
  obtain ⟨jsons, normalized, names, freezes⟩ := normalizeItems_of naming.named each
  have namesDistinct : (jsons.map Prod.fst).Nodup := by
    rw [names]
    exact List.Nodup.map_on naming.apart distinct
  refine ⟨.dict jsons, ?_, ?_⟩
  · rw [normalized, Except.map, Dictionary.ofItems_of_nodup namesDistinct]
  · rw [freezes_dict, freezes, finiteItems_iff]

/-- A mapping by numbers says nothing of an object. -/
theorem dictObjectId_numbers {items : List (SpaKey × SpaValue)}
    (onlyNumbers : ∀ key ∈ items.map Prod.fst, ∃ number, key = .number number ∧ IsWord number) :
    dictObjectId items = none := by
  have absent : ∀ name, getField items name = none := by
    intro name
    refine Dictionary.lookup_eq_none_iff.mpr fun member => ?_
    obtain ⟨number, isNumber, -⟩ := onlyNumbers _ member
    cases isNumber
  rw [dictObjectId, absent, absent]
  rfl

theorem Parsed.freezesIfFinite {value : SpaValue} (parsed : Parsed value) :
    FreezesIfFinite value := by
  induction parsed with
  | none | bool | int | str => exact freezesIfFinite_of rfl ⟨_, rfl⟩ rfl
  | member enumClass value =>
      refine freezesIfFinite_of rfl ?_ rfl
      rw [memberJson, freezes_dict]
      simp [Freezes, freezeJson]
  | bytes data =>
      refine freezesIfFinite_of rfl ?_ rfl
      rw [bytesJson, freezes_dict]
      simp [Freezes, freezeJson]
  | float value => exact ⟨.float value, rfl, freezes_float⟩
  | @list items each inductionHypothesis =>
      obtain ⟨jsons, normalized, freezes⟩ := normalizeAll_of inductionHypothesis
      refine ⟨.list jsons, ?_, ?_⟩
      · rw [normalizeSpaJson, normalized]
        rfl
      · rw [freezes_list, freezes, finiteFloats_list]
  | @names items distinct keys each inductionHypothesis =>
      exact normalizeItems_named (naming_names keys) distinct inductionHypothesis
  | @numbers items distinct keys each inductionHypothesis =>
      have naming : Naming (dictObjectId items) (items.map Prod.fst) keyText := by
        rw [dictObjectId_numbers keys]
        exact naming_numbers keys
      exact normalizeItems_named naming distinct inductionHypothesis
  | @object header properties distinct keys each inductionHypothesis =>
      exact normalizeItems_named (naming_object keys) distinct inductionHypothesis

/-- `freeze_json(normalize_spa_json(value))` succeeds. -/
def Keepable (value : SpaValue) : Prop :=
  ∃ frozen, (normalizeSpaJson value >>= freezeJson) = .ok frozen

theorem keepable_of_json {value : SpaValue} {json : PyValue}
    (normalized : normalizeSpaJson value = .ok json) : Keepable value ↔ Freezes json := by
  rw [Keepable, normalized]
  rfl

theorem Parsed.kept_iff {value : SpaValue} (parsed : Parsed value) :
    Keepable value ↔ finiteFloats value = true := by
  obtain ⟨json, normalized, freezes⟩ := Parsed.freezesIfFinite parsed
  rw [keepable_of_json normalized, freezes]

/-- What the parser returns can be kept as JSON exactly where its floats are finite. -/
theorem keepable_iff {fuel offset : Nat} {data : Bytes} {value : SpaValue}
    (parsed : parseSpaPod fuel data offset = .ok value) :
    Keepable value ↔ finiteFloats value = true :=
  Parsed.kept_iff (parseSpaPod_parsed fuel data offset value parsed)

def floatPod (word : Nat) : Bytes :=
  Bytes.ofNat 4 4 ++ Bytes.ofNat 4 PodType.float.code ++ Bytes.ofNat 4 word

/-- A pod inside another one: its body is filled up to a multiple of eight bytes. -/
def innerPod (podType : PodType) (body : Bytes) : Bytes :=
  Bytes.ofNat 4 body.length ++ Bytes.ofNat 4 podType.code ++ body ++
    Bytes.ofNat ((8 - body.length % 8) % 8) 0

/-- An object with the pods of its properties under their keys. -/
def objectOf (objectType objectId : Nat) (properties : List (Nat × Bytes)) : Bytes :=
  innerPod .object (Bytes.ofNat 4 objectType ++ Bytes.ofNat 4 objectId ++
    properties.flatMap fun property => Bytes.ofNat 4 property.1 ++ Bytes.ofNat 4 0 ++ property.2)

def routePod : Bytes :=
  objectOf 0x40009 13
    [(1, innerPod .int (Bytes.ofNat 4 0)),
      (10, objectOf 0x40002 2
        [(0x10003, innerPod .float (Bytes.ofNat 4 0x3F000000)),
          (0x10008, innerPod .array (Bytes.ofNat 4 4 ++ Bytes.ofNat 4 PodType.float.code ++
            Bytes.ofNat 4 0x3F000000 ++ Bytes.ofNat 4 0x3F800000))])]

/-- Whether a value holds a typed object under the name `props`, and finite floats only. -/
def hasFiniteProps (value : SpaValue) : Bool :=
  match value.mapping?.bind (getField · "props") with
  | some (.object _ properties) => properties.length = 2 && finiteFloats value
  | _ => false

/-- The properties inside the route are kept with it. -/
theorem keepable_route : ∃ value, parseSpaPod 4 routePod 0 = .ok value ∧
    hasFiniteProps value = true ∧ Keepable value := by
  obtain ⟨value, parsed, finite⟩ := exists_of_gives (show gives hasFiniteProps
    (parseSpaPod 4 routePod 0) = true by decide +kernel)
  refine ⟨value, parsed, finite, (keepable_iff parsed).mpr ?_⟩
  unfold hasFiniteProps at finite
  split at finite
  · exact (Bool.and_eq_true _ _ ▸ finite).2
  · cases finite

theorem not_keepable_infinity :
    ¬ ∀ (fuel offset : Nat) (data : Bytes) (value : SpaValue),
      parseSpaPod fuel data offset = .ok value → Keepable value := by
  intro always
  have parsed : parseSpaPod 1 (floatPod 0x7F800000) 0 =
      .ok (.float (Binary32.unpack 0x7F800000)) := rfl
  obtain ⟨frozen, accepted⟩ := always 1 0 _ _ parsed
  have infinite : (Binary32.unpack 0x7F800000).isFinite = false := by decide +kernel
  have freezes : Freezes (.float (Binary32.unpack 0x7F800000)) := ⟨frozen, accepted⟩
  rw [freezes_float, infinite] at freezes
  cases freezes

end Kept

end WyrePlumber.Runtime
