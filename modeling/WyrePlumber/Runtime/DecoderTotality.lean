import WyrePlumber.Runtime.Escapes

/-!
# Totality of the decoder

A document either gives a runtime value or a decoding error, except when an
exception escapes: exactly when the decoder comes to an overflow, or to a huge
integer in the place of a schema version or of a value type.
-/

set_option autoImplicit false
set_option linter.constructorNameAsVariable false

namespace WyrePlumber.Runtime

open Python Results

section Paths

variable {order : SetOrder}

/-- What the items of a mapping give, whatever their path. -/
def decodeValues (decoded : List (PyString × Except PyError PyValue)) :
    Except PyError (List (PyString × PyValue)) :=
  decoded.mapM fun entry => entry.2.map fun value => (entry.1, value)

/-- The path of a value only stands in its errors. -/
def Pathless (order : SetOrder) (value : PyValue) : Prop :=
  ∀ path other decoded, deserialize order path value = .ok decoded →
    deserialize order other value = .ok decoded

theorem deserializeAll_path {items : List PyValue} (each : ∀ item ∈ items, Pathless order item) :
    ∀ {path other : PyString} {index : Nat} {values : List PyValue},
      deserializeAll order path index items = .ok values →
        deserializeAll order other index items = .ok values := by
  induction items with
  | nil => exact fun accepted => accepted
  | cons item rest inductionHypothesis =>
      intro path other index values accepted
      obtain ⟨itemPathless, restPathless⟩ := List.forall_mem_cons.mp each
      obtain ⟨first, firstOk, afterFirst⟩ := bind_ok accepted
      obtain ⟨others, othersOk, whole⟩ := bind_ok afterFirst
      rw [deserializeAll, itemPathless _ (other ++ text "[" ++ text (toString index) ++ text "]") _ firstOk,
        inductionHypothesis restPathless othersOk]
      exact whole

theorem deserializeItems_path {items : List (PyString × PyValue)}
    (each : ∀ item ∈ items, Pathless order item.2) {path other : PyString} :
    ∀ {values : List (PyString × PyValue)},
      decodeValues (deserializeItems order path items) = .ok values →
        decodeValues (deserializeItems order other items) = .ok values := by
  induction items with
  | nil => exact fun accepted => accepted
  | cons item rest inductionHypothesis =>
      intro values accepted
      obtain ⟨itemPathless, restPathless⟩ := List.forall_mem_cons.mp each
      simp only [decodeValues, deserializeItems, List.mapM_cons] at accepted inductionHypothesis ⊢
      obtain ⟨first, firstOk, afterFirst⟩ := bind_ok accepted
      obtain ⟨others, othersOk, whole⟩ := bind_ok afterFirst
      obtain ⟨decoded, itemOk, isFirst⟩ := map_ok firstOk
      rw [itemPathless _ (other ++ text "." ++ item.1) _ itemOk,
        inductionHypothesis restPathless othersOk]
      rw [← isFirst] at whole
      exact whole

theorem decodeMapping_path {items : List (PyString × PyValue)}
    (each : ∀ item ∈ items, Pathless order item.2) {path other : PyString} {decoded : PyValue}
    (accepted : decodeMapping order path items
      (deserializeItems order (itemsPath path items) items) = .ok decoded) :
    decodeMapping order other items (deserializeItems order (itemsPath other items) items) =
      .ok decoded := by
  unfold decodeMapping itemsPath at accepted ⊢
  by_cases envelope : isEnvelope items = true
  · rw [if_pos envelope, if_pos envelope] at accepted ⊢
    rw [atPath_ok accepted]
    rfl
  · rw [if_neg envelope, if_neg envelope] at accepted ⊢
    obtain ⟨values, valuesOk, frozen⟩ := bind_ok (asInvalidJson_ok accepted)
    have sameValues := @deserializeItems_path order items each path other _ valuesOk
    unfold decodeValues at sameValues
    rw [sameValues]
    change asInvalidJson other (freezeJson (.dict values)) = _
    rw [frozen]
    rfl

theorem pathless (value : PyValue) : Pathless order value := by
  intro path other decoded accepted
  induction value using PyValue.induction generalizing path other decoded with
  | list items inductionHypothesis =>
      obtain ⟨values, valuesOk, isTuple⟩ := map_ok accepted
      have each : ∀ item ∈ items, Pathless order item := fun item member path other decoded =>
        inductionHypothesis item member path other decoded
      rw [deserialize, deserializeAll_path each valuesOk, ← isTuple]
      rfl
  | dict items inductionHypothesis | frozenDict items inductionHypothesis =>
      have each : ∀ item ∈ items, Pathless order item.2 := fun item member path other decoded =>
        inductionHypothesis item member path other decoded
      exact decodeMapping_path each accepted
  | none | bool | int | float | str | bytes | datetime | tuple | runtime | other =>
      simp only [deserialize] at accepted ⊢
      rw [asInvalidJson_ok accepted]
      rfl

end Paths

section Documents

variable (order : SetOrder)

def Decodes (document : PyValue) : Prop :=
  ∃ decoded, deserialize order [] document = .ok decoded

variable {order} in
theorem decodes_iff {document : PyValue} (path : PyString) :
    Decodes order document ↔ ∃ decoded, deserialize order path document = .ok decoded :=
  ⟨fun ⟨decoded, accepted⟩ => ⟨decoded, pathless document _ _ _ accepted⟩,
    fun ⟨decoded, accepted⟩ => ⟨decoded, pathless document _ _ _ accepted⟩⟩

/-- The envelope names its class and nothing but fields of it. -/
structure Header (items : List (PyString × PyValue)) (type : ValueType) : Prop where
  version : checkSchemaVersion items = .ok ()
  valueType : checkValueType items = .ok type
  names : checkNames type items = .ok ()

mutual

/-- An exception of the kind escapes the decoding of a document. -/
inductive Escapes : Escape → PyValue → Prop
  | item {kind : Escape} {before after : List PyValue} {item : PyValue}
      (earlier : ∀ other ∈ before, Decodes order other) (escapes : Escapes kind item) :
      Escapes kind (.list (before ++ item :: after))
  /-- A mapping without the two tags translates all but an overflow. -/
  | member {document : PyValue} {before after : List (PyString × PyValue)} {key : PyString}
      {item : PyValue} (isMapping : document.mapping? = some (before ++ (key, item) :: after))
      (untagged : isEnvelope (before ++ (key, item) :: after) = false)
      (earlier : ∀ other ∈ before, Decodes order other.2) (escapes : Escapes .overflow item) :
      Escapes .overflow document
  | envelope {kind : Escape} {document : PyValue} {items : List (PyString × PyValue)}
      (isMapping : document.mapping? = some items) (tagged : isEnvelope items = true)
      (escapes : EnvelopeEscapes kind items) : Escapes kind document

/-- An exception of the kind escapes the decoding of an envelope. -/
inductive EnvelopeEscapes : Escape → List (PyString × PyValue) → Prop
  | version {items : List (PyString × PyValue)} (refused : checkSchemaVersion items ≠ .ok ())
      (huge : printable ((items.lookup schemaVersionKey).getD .none) = false) :
      EnvelopeEscapes .value items
  | valueType {items : List (PyString × PyValue)} (version : checkSchemaVersion items = .ok ())
      (refused : ∀ type, checkValueType items ≠ .ok type)
      (huge : printable ((items.lookup valueTypeKey).getD .none) = false) :
      EnvelopeEscapes .value items
  /-- The walk comes to the field when those before it are decoded. -/
  | field {kind : Escape} {items : List (PyString × PyValue)} {type : ValueType}
      {before after : List (FieldName × PyValue)} {name : FieldName} {item : PyValue}
      (header : Header items type)
      (isField : fieldItems order type items = before ++ (name, item) :: after)
      (earlier : ∀ other ∈ before, Decodes order other.2) (escapes : Escapes kind item) :
      EnvelopeEscapes kind items
  | construction {items : List (PyString × PyValue)} {type : ValueType}
      {arguments : List (FieldName × PyValue)} (header : Header items type)
      (decoded : List.Forall₂ (fun item argument => argument.1 = item.1 ∧
        deserialize order [] item.2 = .ok argument.2) (fieldItems order type items) arguments)
      (overflows : ConstructionOverflows type arguments) : EnvelopeEscapes .overflow items

end

end Documents

section Parts

variable {kind : Escape}

theorem escaping_asInvalidJson {path : PyString} {result : Except PyError PyValue} :
    Escaping kind (asInvalidJson path result) ↔ kind = .overflow ∧ Escaping .overflow result := by
  cases result with
  | ok value => simp [asInvalidJson]
  | error error =>
      cases error <;> simp [asInvalidJson, PyError.isTypeOrValueError, eq_comm]

theorem escaping_atPath {path : PyString} {result : Except PyError PyValue} :
    Escaping kind (atPath path result) ↔ Escaping kind result := by
  cases result with
  | ok value => exact Iff.rfl
  | error error => cases error <;> simp [atPath]

theorem escaping_describing {α : Type} {value : PyValue} {code path : PyString}
    {message : Message} :
    Escaping kind (.error (describing value (.decodeError code path message)) : Except PyError α) ↔
      kind = .value ∧ printable value = false := by
  unfold describing
  cases printable value <;> simp [digitLimit, eq_comm]

theorem escaping_checkSchemaVersion {items : List (PyString × PyValue)} :
    Escaping kind (checkSchemaVersion items) ↔ kind = .value ∧
      checkSchemaVersion items ≠ .ok () ∧
      printable ((items.lookup schemaVersionKey).getD .none) = false := by
  unfold checkSchemaVersion
  dsimp only
  split_ifs with refused
  · rw [escaping_describing]
    simp
  · simp

theorem escaping_checkValueType {items : List (PyString × PyValue)} :
    Escaping kind (checkValueType items) ↔ kind = .value ∧
      (∀ type, checkValueType items ≠ .ok type) ∧
      printable ((items.lookup valueTypeKey).getD .none) = false := by
  unfold checkValueType
  dsimp only
  split
  · rename_i type found
    refine iff_of_false (escaping_ok _) ?_
    rintro ⟨-, refused, -⟩
    exact refused type rfl
  · rw [escaping_describing]
    simp

theorem checkNames_quiet (type : ValueType) (items : List (PyString × PyValue)) :
    ¬ Escaping kind (checkNames type items) := by
  unfold checkNames
  split <;> simp

theorem escaping_decodeConstruct {type : ValueType} {arguments : List (FieldName × PyValue)} :
    Escaping kind (decodeConstruct type arguments) ↔
      kind = .overflow ∧ ConstructionOverflows type arguments := by
  rw [← escaping_construct]
  unfold decodeConstruct
  cases construct type arguments with
  | ok value => simp
  | error error => cases error <;> simp [eq_comm]

end Parts

section Items

variable {order : SetOrder} {kind : Escape}

/-- What is known of the items of a container. -/
def Classified (order : SetOrder) (value : PyValue) : Prop :=
  ∀ path kind, Escaping kind (deserialize order path value) ↔ Escapes order kind value

theorem escaping_deserializeAll {items : List PyValue}
    (each : ∀ item ∈ items, Classified order item) (path : PyString) :
    ∀ index, Escaping kind (deserializeAll order path index items) ↔
      ∃ before item after, items = before ++ item :: after ∧
        (∀ earlier ∈ before, Decodes order earlier) ∧ Escapes order kind item := by
  induction items with
  | nil =>
      intro index
      refine iff_of_false (escaping_ok _) ?_
      rintro ⟨before, item, after, split, -⟩
      simp at split
  | cons item rest inductionHypothesis =>
      intro index
      obtain ⟨itemClassified, restClassified⟩ := List.forall_mem_cons.mp each
      rw [deserializeAll, escaping_bind, itemClassified, exists_first_cons,
        ← inductionHypothesis restClassified (index + 1),
        decodes_iff (path ++ text "[" ++ text (toString index) ++ text "]")]
      refine or_congr Iff.rfl ?_
      have continued : ∀ first : PyValue, Escaping kind
          (do
            let others ← deserializeAll order path (index + 1) rest
            .ok (first :: others)) ↔ Escaping kind (deserializeAll order path (index + 1) rest) := by
        intro first
        rw [escaping_bind]
        simp
      simp only [continued, exists_and_right]

/-- The first entry that escapes, of any entries decoded one by one. -/
theorem escaping_entries {Key : Type} {entries : List (Key × PyValue)}
    (each : ∀ entry ∈ entries, Classified order entry.2) (path : Key × PyValue → PyString) :
    Escaping kind (entries.mapM fun entry =>
        (deserialize order (path entry) entry.2).map fun value => (entry.1, value)) ↔
      ∃ before entry after, entries = before ++ entry :: after ∧
        (∀ earlier ∈ before, Decodes order earlier.2) ∧ Escapes order kind entry.2 := by
  have decodes : ∀ entry : Key × PyValue, (∃ decoded, (deserialize order (path entry) entry.2).map
      (fun value => (entry.1, value)) = .ok decoded) ↔ Decodes order entry.2 := by
    intro entry
    rw [decodes_iff (path entry)]
    cases deserialize order (path entry) entry.2 <;> simp [Except.map]
  rw [escaping_mapM]
  simp only [decodes, escaping_map]
  constructor
  · rintro ⟨before, entry, after, split, earlier, escapes⟩
    exact ⟨before, entry, after, split, earlier, (each entry (by simp [split]) _ _).mp escapes⟩
  · rintro ⟨before, entry, after, split, earlier, escapes⟩
    exact ⟨before, entry, after, split, earlier, (each entry (by simp [split]) _ _).mpr escapes⟩

theorem escaping_decodeValues {items : List (PyString × PyValue)}
    (each : ∀ item ∈ items, Classified order item.2) (path : PyString) :
    Escaping kind (decodeValues (deserializeItems order path items)) ↔
      ∃ before item after, items = before ++ item :: after ∧
        (∀ earlier ∈ before, Decodes order earlier.2) ∧ Escapes order kind item.2 := by
  rw [decodeValues, deserializeItems_eq, List.mapM_map]
  exact escaping_entries each fun item => path ++ text "." ++ item.1

theorem escaping_payload {type : ValueType} {items : List (PyString × PyValue)}
    (each : ∀ item ∈ items, Classified order item.2) (path : PyString) :
    Escaping kind (payload order type (deserializeItems order path items)) ↔
      ∃ before item after, fieldItems order type items = before ++ item :: after ∧
        (∀ earlier ∈ before, Decodes order earlier.2) ∧ Escapes order kind item.2 := by
  have classified : ∀ entry ∈ fieldItems order type items, Classified order entry.2 := by
    intro entry member
    exact each _ (mem_of_fieldItems member)
  rw [payload_deserializeItems]
  exact escaping_entries classified fun entry => path ++ text "." ++ entry.1.text

theorem payload_ok {type : ValueType} {items : List (PyString × PyValue)} {path : PyString}
    {arguments : List (FieldName × PyValue)} :
    payload order type (deserializeItems order path items) = .ok arguments ↔
      List.Forall₂ (fun item argument => argument.1 = item.1 ∧
        deserialize order [] item.2 = .ok argument.2) (fieldItems order type items) arguments := by
  rw [payload_deserializeItems, mapM_ok_iff]
  have same : ∀ (item argument : FieldName × PyValue),
      (deserialize order (path ++ text "." ++ item.1.text) item.2).map (fun value => (item.1, value)) =
        .ok argument ↔ argument.1 = item.1 ∧ deserialize order [] item.2 = .ok argument.2 := by
    intro item argument
    constructor
    · intro made
      obtain ⟨decoded, isDecoded, isArgument⟩ := map_ok made
      rw [← isArgument]
      exact ⟨rfl, pathless _ _ _ _ isDecoded⟩
    · rintro ⟨sameName, isDecoded⟩
      rw [pathless item.2 [] (path ++ text "." ++ item.1.text) _ isDecoded, ← sameName]
      rfl
  simp only [same]

theorem escaping_decodeEnvelope {items : List (PyString × PyValue)}
    (each : ∀ item ∈ items, Classified order item.2) (path : PyString) :
    Escaping kind (decodeEnvelope order items (deserializeItems order path items)) ↔
      EnvelopeEscapes order kind items := by
  unfold decodeEnvelope
  constructor
  · intro escapes
    rw [escaping_bind, escaping_checkSchemaVersion] at escapes
    rcases escapes with ⟨isValue, refused, huge⟩ | ⟨⟨⟩, version, escapes⟩
    · exact isValue ▸ .version refused huge
    · rw [escaping_bind, escaping_checkValueType] at escapes
      rcases escapes with ⟨isValue, refused, huge⟩ | ⟨type, valueType, escapes⟩
      · exact isValue ▸ .valueType version refused huge
      · rw [escaping_bind] at escapes
        rcases escapes with escapes | ⟨⟨⟩, names, escapes⟩
        · exact absurd escapes (checkNames_quiet _ _)
        · have header : Header items type := ⟨version, valueType, names⟩
          rw [escaping_bind, escaping_payload each] at escapes
          rcases escapes with ⟨before, item, after, isField, earlier, escapes⟩ |
            ⟨arguments, decoded, escapes⟩
          · exact .field header isField earlier escapes
          · obtain ⟨isOverflow, overflows⟩ := escaping_decodeConstruct.mp escapes
            exact isOverflow ▸ .construction header (payload_ok.mp decoded) overflows
  · intro escapes
    cases escapes with
    | version refused huge =>
        rw [escaping_bind, escaping_checkSchemaVersion]
        exact .inl ⟨rfl, refused, huge⟩
    | valueType version refused huge =>
        rw [escaping_bind]
        refine .inr ⟨(), version, ?_⟩
        rw [escaping_bind, escaping_checkValueType]
        exact .inl ⟨rfl, refused, huge⟩
    | field header isField earlier escapes =>
        simp only [header.version, header.valueType, header.names, bind, Except.bind]
        change Escaping kind (_ >>= _)
        rw [escaping_bind, escaping_payload each]
        exact .inl ⟨_, _, _, isField, earlier, escapes⟩
    | construction header decoded overflows =>
        simp only [header.version, header.valueType, header.names, payload_ok.mpr decoded, bind,
          Except.bind]
        exact escaping_decodeConstruct.mpr ⟨rfl, overflows⟩

theorem escaping_decodeMapping {document : PyValue} {items : List (PyString × PyValue)}
    (isMapping : document.mapping? = some items) (each : ∀ item ∈ items, Classified order item.2)
    (path : PyString) :
    Escaping kind (decodeMapping order path items (deserializeItems order (itemsPath path items) items)) ↔
      Escapes order kind document := by
  unfold decodeMapping
  by_cases tagged : isEnvelope items = true
  · rw [if_pos tagged, escaping_atPath, escaping_decodeEnvelope each]
    constructor
    · exact .envelope isMapping tagged
    · intro escapes
      cases escapes with
      | item => cases isMapping
      | member otherMapping untagged =>
          rw [isMapping, Option.some.injEq] at otherMapping
          rw [otherMapping, untagged] at tagged
          cases tagged
      | envelope otherMapping _ escapes =>
          rw [isMapping, Option.some.injEq] at otherMapping
          rw [otherMapping]
          exact escapes
  · rw [if_neg tagged, escaping_asInvalidJson, escaping_bind]
    have freezes : ∀ values, ¬ Escaping .overflow (freezeJson (.dict values)) :=
      fun values => freezeJson_quiet _
    simp only [freezes, and_false, exists_false, or_false]
    constructor
    · rintro ⟨isOverflow, escapes⟩
      obtain ⟨before, item, after, split, earlier, itemEscapes⟩ :=
        (escaping_decodeValues each (itemsPath path items)).mp escapes
      subst isOverflow
      rw [split] at isMapping tagged
      exact .member isMapping (Bool.eq_false_iff.mpr tagged) earlier itemEscapes
    · intro escapes
      cases escapes with
      | item => cases isMapping
      | member otherMapping untagged earlier itemEscapes =>
          rw [isMapping, Option.some.injEq] at otherMapping
          exact ⟨rfl, (escaping_decodeValues each (itemsPath path items)).mpr
            ⟨_, _, _, otherMapping, earlier, itemEscapes⟩⟩
      | envelope otherMapping isTagged =>
          rw [isMapping, Option.some.injEq] at otherMapping
          exact absurd (otherMapping ▸ isTagged) tagged

/-- What escapes the decoding of a value inside a document. -/
theorem escaping_deserialize (value : PyValue) : Classified order value := by
  intro path kind
  induction value using PyValue.induction generalizing path kind with
  | list items inductionHypothesis =>
      rw [deserialize, escaping_map, escaping_deserializeAll
        (fun item member path kind => inductionHypothesis item member path kind)]
      constructor
      · rintro ⟨before, item, after, split, earlier, escapes⟩
        exact split ▸ .item earlier escapes
      · intro escapes
        cases escapes with
        | item earlier escapes => exact ⟨_, _, _, rfl, earlier, escapes⟩
        | member isMapping => cases isMapping
        | envelope isMapping => cases isMapping
  | dict items inductionHypothesis | frozenDict items inductionHypothesis =>
      exact escaping_decodeMapping rfl
        (fun item member path kind => inductionHypothesis item member path kind) path
  | none | bool | int | float | str | bytes | datetime | tuple | runtime | other =>
      simp only [deserialize, escaping_asInvalidJson]
      refine iff_of_false (fun escapes => freezeJson_quiet _ escapes.2) fun escapes => ?_
      cases escapes with
      | member isMapping => cases isMapping
      | envelope isMapping => cases isMapping

end Items

section Total

/-- `runtime_value_from_dict` returns a runtime value or raises
`RuntimeValueDecodeError`. -/
def DecodesTotally (order : SetOrder) (document : PyValue) : Prop :=
  (∃ value type, runtimeValueFromDict order document = .ok value ∧ value.isA type = true) ∨
    ∃ code path message, runtimeValueFromDict order document = .error (.decodeError code path message)

/-- The decoder is total on a document, with its sets walked in any order, exactly
when nothing escapes in that order. -/
theorem decodesTotally_iff (order : SetOrder) (document : PyValue) :
    DecodesTotally order document ↔
      ∀ items, document.mapping? = some items → ∀ kind, ¬ EnvelopeEscapes order kind items := by
  cases isMapping : document.mapping? with
  | none =>
      refine iff_of_true (.inr ?_) (by simp)
      simp [runtimeValueFromDict, isMapping]
  | some items =>
      have decodes : runtimeValueFromDict order document =
          decodeEnvelope order items (deserializeItems order (text "$") items) := by
        simp only [runtimeValueFromDict, isMapping]
      have escaping : ∀ kind, Escaping kind (runtimeValueFromDict order document) ↔
          EnvelopeEscapes order kind items := fun kind => by
        rw [decodes, escaping_decodeEnvelope fun item _ => escaping_deserialize item.2]
      constructor
      · rintro (⟨value, type, accepted, -⟩ | ⟨code, path, message, refused⟩) other same kind escapes
        · rw [Option.some.injEq] at same
          have impossible := (escaping kind).mpr (same ▸ escapes)
          rw [accepted] at impossible
          exact escaping_ok _ impossible
        · rw [Option.some.injEq] at same
          have impossible := (escaping kind).mpr (same ▸ escapes)
          rw [refused] at impossible
          simp at impossible
      · intro nothing
        have quiet : ∀ kind, ¬ Escaping kind (runtimeValueFromDict order document) := fun kind =>
          (escaping kind).not.mpr (nothing items rfl kind)
        cases result : runtimeValueFromDict order document with
        | ok value =>
            obtain ⟨type, fields, isRuntime⟩ := decodeEnvelope_runtime (decodes ▸ result)
            exact .inl ⟨value, type, result, by simp [isRuntime, PyValue.isA]⟩
        | error error =>
            cases error with
            | decodeError code path message => exact .inr ⟨code, path, message, result⟩
            | typeError message | valueError message =>
                exact absurd ⟨_, result, rfl⟩ (quiet .value)
            | overflowError message => exact absurd ⟨_, result, rfl⟩ (quiet .overflow)

def hugeVolume : PyValue :=
  .dict [(schemaVersionKey, .int 1), (valueTypeKey, .str (text "audio_properties")),
    (text "volume", .int (10 ^ 400))]

/-- The overflow of the volume escapes. -/
theorem hugeVolume_escapes : ¬ DecodesTotally .document hugeVolume := by
  have overflows : (match runtimeValueFromDict .document hugeVolume with
      | .error error => error.escape
      | .ok _ => none) = some .overflow := by
    decide +kernel
  rintro (⟨value, type, accepted, -⟩ | ⟨code, path, message, refused⟩)
  · rw [accepted] at overflows
    cases overflows
  · rw [refused] at overflows
    cases overflows

end Total

end WyrePlumber.Runtime
