import WyrePlumber.Runtime.ConfirmationSoundness
import WyrePlumber.Runtime.RoundTrip

/-!
# Evaluation of predicates

On what a snapshot holds a predicate always has an answer, apart from the
comparison of numbers: the document of a value in normal form is JSON, and so
is whatever a path finds in it.
-/

set_option autoImplicit false
set_option linter.constructorNameAsVariable false

namespace WyrePlumber.Runtime

open Python RecordValidation Results

/-- JSON that a path can be followed into and that `freeze_json` accepts. -/
inductive Readable : PyValue → Prop where
  | none : Readable .none
  | bool (value : Bool) : Readable (.bool value)
  | int (value : Int) : Readable (.int value)
  | float {value : Binary64} (finite : value.isFinite = true) : Readable (.float value)
  | str (value : PyString) : Readable (.str value)
  | list {items : List PyValue} (readable : ∀ item ∈ items, Readable item) :
      Readable (.list items)
  | tuple {items : List PyValue} (readable : ∀ item ∈ items, Readable item) :
      Readable (.tuple items)
  | dict {items : List (PyString × PyValue)} (readable : ∀ item ∈ items, Readable item.2) :
      Readable (.dict items)
  | frozenDict {items : List (PyString × PyValue)} (readable : ∀ item ∈ items, Readable item.2) :
      Readable (.frozenDict items)

section Readable

theorem exists_mapM {α β : Type} {function : α → Except PyError β} {items : List α}
    (each : ∀ item ∈ items, ∃ value, function item = .ok value) :
    ∃ values, items.mapM function = .ok values := by
  induction items with
  | nil => exact ⟨[], rfl⟩
  | cons item rest inductionHypothesis =>
      obtain ⟨value, valueOk⟩ := each item List.mem_cons_self
      obtain ⟨values, valuesOk⟩ :=
        inductionHypothesis fun other member => each other (List.mem_cons_of_mem _ member)
      refine ⟨value :: values, ?_⟩
      rw [List.mapM_cons, valueOk, valuesOk]
      rfl

theorem Readable.freezes {value : PyValue} (readable : Readable value) :
    ∃ frozen, freezeJson value = .ok frozen := by
  induction readable with
  | none | bool | int | str | frozenDict => exact ⟨_, rfl⟩
  | @float value finite => exact ⟨.float value, by rw [freezeJson, if_pos finite]⟩
  | list readable inductionHypothesis =>
      obtain ⟨frozen, frozenOk⟩ := exists_mapM inductionHypothesis
      exact ⟨.tuple frozen, by rw [freezeJson, freezeAll_eq, frozenOk]; rfl⟩
  | tuple readable inductionHypothesis =>
      obtain ⟨frozen, frozenOk⟩ := exists_mapM inductionHypothesis
      exact ⟨.tuple frozen, by rw [freezeJson, freezeAll_eq, frozenOk]; rfl⟩
  | dict readable inductionHypothesis =>
      have each := exists_mapM fun item member => by
        obtain ⟨frozen, frozenOk⟩ := inductionHypothesis item member
        exact ⟨(item.1, frozen), congrArg (Except.map fun value => (item.1, value)) frozenOk⟩
      obtain ⟨frozen, frozenOk⟩ := each
      refine ⟨.frozenDict frozen, ?_⟩
      rw [freezeJson, freezeItems_eq]
      exact congrArg (Except.map PyValue.frozenDict) frozenOk

theorem Frozen.readable {value : PyValue} (frozen : Frozen value) : Readable value := by
  induction frozen with
  | none => exact .none
  | bool value => exact .bool value
  | int value => exact .int value
  | float finite => exact .float finite
  | str value => exact .str value
  | tuple frozen inductionHypothesis => exact .tuple inductionHypothesis
  | frozenDict distinct frozen inductionHypothesis => exact .frozenDict inductionHypothesis

theorem Readable.items {value : PyValue} {items : List (PyString × PyValue)}
    (readable : Readable value) (isMapping : value.mapping? = some items) :
    ∀ item ∈ items, Readable item.2 := by
  cases readable with
  | dict readable | frozenDict readable =>
      cases isMapping
      exact readable
  | none | bool | int | float | str | list | tuple => cases isMapping

theorem Readable.elements {value : PyValue} {items : List PyValue}
    (readable : Readable value) (isSequence : value.sequence? = some items) :
    ∀ item ∈ items, Readable item := by
  cases readable with
  | list readable | tuple readable =>
      cases isSequence
      exact readable
  | none | bool | int | float | str | dict | frozenDict => cases isSequence

theorem mem_of_lookup {items : List (PyString × PyValue)} {key : PyString} {value : PyValue}
    (found : items.lookup key = some value) : (key, value) ∈ items := by
  obtain ⟨before, after, split, -⟩ := List.lookup_eq_some_iff.mp found
  rw [split]
  exact List.mem_append_right _ List.mem_cons_self

/-- What a path finds in readable JSON is readable. -/
theorem resolvePath_readable {path : List PyValue} :
    ∀ {value found : PyValue}, Readable value → resolvePath value path = some found →
      Readable found := by
  induction path with
  | nil =>
      intro value found readable resolved
      cases resolved
      exact readable
  | cons component rest inductionHypothesis =>
      intro value found readable resolved
      cases component with
      | str key =>
          rw [resolvePath] at resolved
          split at resolved
          · rename_i next isNext
            obtain ⟨items, isMapping, isItem⟩ := Option.bind_eq_some_iff.mp isNext
            exact inductionHypothesis (readable.items isMapping _ (mem_of_lookup isItem)) resolved
          · cases resolved
      | int index =>
          rw [resolvePath] at resolved
          split at resolved
          · rename_i next isNext
            obtain ⟨items, isSequence, isItem⟩ := Option.bind_eq_some_iff.mp isNext
            exact inductionHypothesis
              (readable.elements isSequence _ (List.mem_of_getElem? isItem)) resolved
          · cases resolved
      | _ => cases resolved

end Readable

section Documents

instance : Inhabited PyValue := ⟨.none⟩

theorem readable_list {items : List PyValue} {write : PyValue → Except PyError PyValue}
    (each : ∀ item ∈ items, ∃ document, write item = .ok document ∧ Readable document) :
    ∃ documents, items.mapM write = .ok documents ∧ ∀ document ∈ documents, Readable document := by
  obtain ⟨documents, written⟩ := exists_mapM fun item member =>
    (each item member).imp fun document held => held.1
  refine ⟨documents, written, fun document member => ?_⟩
  obtain ⟨item, inItems, itemOk⟩ := exists_of_mem_mapM written member
  obtain ⟨other, otherOk, readable⟩ := each item inItems
  rw [itemOk] at otherOk
  cases otherOk
  exact readable

theorem Frozen.thaws {value : PyValue} (frozen : Frozen value) :
    ∃ document, thawJson value = .ok document ∧ Readable document := by
  induction frozen with
  | none => exact ⟨.none, rfl, .none⟩
  | bool value => exact ⟨.bool value, rfl, .bool value⟩
  | int value => exact ⟨.int value, rfl, .int value⟩
  | @float value finite => exact ⟨.float value, rfl, .float finite⟩
  | str value => exact ⟨.str value, rfl, .str value⟩
  | tuple frozen inductionHypothesis =>
      obtain ⟨documents, written, readable⟩ := readable_list inductionHypothesis
      refine ⟨.list documents, ?_, .list readable⟩
      rw [thawJson, thawAll_eq, written]
      rfl
  | @frozenDict items distinct frozen inductionHypothesis =>
      choose! document documentOk readable using inductionHypothesis
      refine ⟨.dict (items.map fun item => (item.1, document item)), ?_, .dict ?_⟩
      · have written : items.mapM (fun item => (thawJson item.2).map fun value => (item.1, value)) =
            .ok (items.map fun item => (item.1, document item)) := by
          refine mapM_ok_iff.mpr (List.forall₂_map_right_iff.mpr (List.forall₂_same.mpr ?_))
          intro item member
          rw [documentOk item member]
          rfl
        rw [thawJson, thawItems_eq, written]
        rfl
      · intro item member
        obtain ⟨origin, inItems, isItem⟩ := List.mem_map.mp member
        rw [← isItem]
        exact readable origin inItems

/-- The document of a value in normal form is readable JSON. -/
theorem Stored.document {value : PyValue} (stored : Stored value) :
    ∃ document, serialize value = .ok document ∧ Readable document := by
  induction stored with
  | frozen frozen =>
      obtain ⟨document, written, readable⟩ := frozen.thaws
      exact ⟨document, (serialize_frozen frozen).trans written, readable⟩
  | tuple stored inductionHypothesis =>
      obtain ⟨documents, written, readable⟩ := readable_list inductionHypothesis
      refine ⟨.list documents, ?_, .list readable⟩
      rw [serialize, serializeAll_eq, written]
      rfl
  | runtime type record settled stored inductionHypothesis =>
      choose! document documentOk readable using inductionHypothesis
      refine ⟨_, serialize_runtime documentOk, .dict fun item member => ?_⟩
      rcases List.mem_append.mp member with inTags | inFields
      · rcases List.mem_cons.mp inTags with isVersion | inRest
        · rw [isVersion]
          exact .int _
        · rw [List.mem_singleton.mp inRest]
          exact .str _
      · obtain ⟨name, isWritten, isItem⟩ := List.mem_map.mp inFields
        rw [← isItem]
        exact readable name (List.mem_filter.mp isWritten).1

end Documents

section Matches

/-- What a predicate may be evaluated on: frozen JSON or a runtime value. -/
inductive Evaluable : PyValue → Prop where
  | frozen {value : PyValue} (frozen : Frozen value) : Evaluable value
  | runtime {type : ValueType} {fields : List (FieldName × PyValue)}
      (stored : Stored (.runtime type fields)) : Evaluable (.runtime type fields)

variable {predicate observation value : PyValue}

theorem Evaluable.observed (evaluable : Evaluable observation) :
    ∃ document, observed observation = .ok document ∧ Readable document := by
  cases evaluable with
  | frozen frozen =>
      refine ⟨observation, ?_, frozen.readable⟩
      cases frozen <;> rfl
  | runtime stored => exact stored.document

theorem Readable.comparable (readable : Readable value) :
    ∃ frozen, comparable value = .ok frozen := by
  have freezes := readable.freezes
  cases readable <;> exact freezes

theorem Evaluable.comparable (evaluable : Evaluable value) :
    ∃ frozen, comparable value = .ok frozen := by
  cases evaluable with
  | frozen frozen => exact frozen.readable.comparable
  | runtime stored =>
      obtain ⟨document, written, readable⟩ := stored.document
      obtain ⟨frozen, frozenOk⟩ := readable.freezes
      refine ⟨frozen, ?_⟩
      change (toDict _ >>= freezeJson) = _
      rw [toDict, written]
      exact frozenOk

/-- Only the comparison of numbers can fail. -/
theorem predicateMatches_total (evaluable : Evaluable observation)
    (expected : Evaluable (predicate.get .expected))
    (notApproximate : (predicate.get .operator).isMember ConfirmationOperator.approximatelyEquals = false) :
    ∃ satisfied, predicateMatches predicate observation = .ok satisfied := by
  obtain ⟨document, documentOk, readable⟩ := evaluable.observed
  obtain ⟨right, rightOk⟩ := expected.comparable
  simp only [predicateMatches, documentOk, bind, Except.bind, notApproximate]
  split
  · exact ⟨_, rfl⟩
  · split
    · exact ⟨_, rfl⟩
    · split
      · exact ⟨_, rfl⟩
      · rename_i found isFound
        obtain ⟨left, leftOk⟩ := (resolvePath_readable readable isFound).comparable
        simp [leftOk, rightOk]

end Matches

end WyrePlumber.Runtime
