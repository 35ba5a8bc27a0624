import Mathlib.Data.List.Forall2

/-!
# Results of fallible functions

How a successful `Except` computation comes apart: a bind into its two halves,
a traversal of a list into its items.
-/

set_option autoImplicit false

namespace Results

variable {Error α β : Type}

theorem bind_ok {result : Except Error α} {next : α → Except Error β} {value : β}
    (finished : result >>= next = .ok value) :
    ∃ middle, result = .ok middle ∧ next middle = .ok value := by
  cases result with
  | error error => cases finished
  | ok middle => exact ⟨middle, rfl, finished⟩

theorem error_ne_ok {error : Error} {value : α} : (.error error : Except Error α) ≠ .ok value := by
  intro same
  cases same

theorem ok_bind (value : α) (next : α → Except Error β) :
    ((.ok value : Except Error α) >>= next) = next value := rfl

theorem map_ok {result : Except Error α} {function : α → β} {value : β}
    (finished : result.map function = .ok value) :
    ∃ middle, result = .ok middle ∧ function middle = value := by
  cases result with
  | error error => cases finished
  | ok middle => exact ⟨middle, rfl, Except.ok.inj finished⟩

theorem mapError_ok {Other : Type} {result : Except Error α} {function : Error → Other} {value : α}
    (finished : result.mapError function = .ok value) : result = .ok value := by
  cases result with
  | error error => cases finished
  | ok found => exact congrArg Except.ok (Except.ok.inj finished)

/-- The call succeeds, with a value of the property. -/
def gives (property : α → Bool) : Except Error α → Bool
  | .ok value => property value
  | .error _ => false

theorem exists_of_gives {property : α → Bool} {result : Except Error α}
    (given : gives property result = true) : ∃ value, result = .ok value ∧ property value = true := by
  cases result with
  | error error => cases given
  | ok value => exact ⟨value, rfl, given⟩

/-- A traversal succeeds exactly when it does at every item. -/
theorem mapM_ok_iff {function : α → Except Error β} {items : List α} {values : List β} :
    items.mapM function = .ok values ↔
      List.Forall₂ (fun item value => function item = .ok value) items values := by
  induction items generalizing values with
  | nil =>
      rw [List.mapM_nil, List.forall₂_nil_left_iff]
      constructor
      · intro finished
        exact (Except.ok.inj finished).symm
      · intro empty
        rw [empty]
        rfl
  | cons item rest inductionHypothesis =>
      rw [List.mapM_cons]
      constructor
      · intro finished
        obtain ⟨first, firstOk, continued⟩ := bind_ok finished
        obtain ⟨others, othersOk, whole⟩ := bind_ok continued
        rw [← Except.ok.inj whole]
        exact .cons firstOk (inductionHypothesis.mp othersOk)
      · intro related
        cases related with
        | cons firstOk othersRelated =>
            rw [firstOk, inductionHypothesis.mpr othersRelated]
            rfl

theorem mapM_ok_self {function : α → Except Error α} {items : List α} :
    (∀ item ∈ items, function item = .ok item) → items.mapM function = .ok items := by
  intro fixed
  refine mapM_ok_iff.mpr (List.forall₂_same.mpr fixed)

/-- Every value of a successful traversal comes from an item. -/
theorem exists_of_mem_mapM {function : α → Except Error β} {items : List α} {values : List β}
    (finished : items.mapM function = .ok values) {value : β} (member : value ∈ values) :
    ∃ item ∈ items, function item = .ok value := by
  have related := mapM_ok_iff.mp finished
  clear finished
  induction related with
  | nil => simp at member
  | cons firstOk _ inductionHypothesis =>
      rcases List.mem_cons.mp member with isFirst | inRest
      · exact ⟨_, List.mem_cons_self, isFirst ▸ firstOk⟩
      · obtain ⟨item, inItems, itemOk⟩ := inductionHypothesis inRest
        exact ⟨item, List.mem_cons_of_mem _ inItems, itemOk⟩

/-- A successful traversal succeeds at every item. -/
theorem exists_of_mem_mapM_left {function : α → Except Error β} {items : List α} {values : List β}
    (finished : items.mapM function = .ok values) {item : α} (member : item ∈ items) :
    ∃ value ∈ values, function item = .ok value := by
  have related := mapM_ok_iff.mp finished
  clear finished
  induction related with
  | nil => simp at member
  | cons firstOk _ inductionHypothesis =>
      rcases List.mem_cons.mp member with isFirst | inRest
      · exact ⟨_, List.mem_cons_self, isFirst ▸ firstOk⟩
      · obtain ⟨value, inValues, valueOk⟩ := inductionHypothesis inRest
        exact ⟨value, List.mem_cons_of_mem _ inValues, valueOk⟩

/-- Every value of a traversal without failures comes from an item. -/
theorem exists_of_mem_mapM_some {function : α → Option β} {items : List α} {values : List β}
    (finished : items.mapM function = some values) {value : β} (member : value ∈ values) :
    ∃ item ∈ items, function item = some value := by
  induction items generalizing values with
  | nil =>
      rw [List.mapM_nil] at finished
      rw [← Option.some.inj finished] at member
      cases member
  | cons first rest inductionHypothesis =>
      rw [List.mapM_cons] at finished
      obtain ⟨head, isHead, continued⟩ := Option.bind_eq_some_iff.mp finished
      obtain ⟨others, isOthers, whole⟩ := Option.bind_eq_some_iff.mp continued
      rw [← Option.some.inj whole] at member
      rcases List.mem_cons.mp member with isFirst | inRest
      · exact ⟨first, List.mem_cons_self, isFirst ▸ isHead⟩
      · obtain ⟨item, inItems, isValue⟩ := inductionHypothesis isOthers inRest
        exact ⟨item, List.mem_cons_of_mem _ inItems, isValue⟩

/-- What is related to two lists in a row comes apart into two. -/
theorem forall₂_append {Related : α → β → Prop} {first second : List α} {values : List β}
    (related : List.Forall₂ Related (first ++ second) values) :
    ∃ firstValues secondValues, values = firstValues ++ secondValues ∧
      List.Forall₂ Related first firstValues ∧ List.Forall₂ Related second secondValues := by
  induction first generalizing values with
  | nil => exact ⟨[], values, rfl, .nil, related⟩
  | cons item rest inductionHypothesis =>
      cases related with
      | cons here later =>
          obtain ⟨restValues, secondValues, split, ofRest, ofSecond⟩ := inductionHypothesis later
          exact ⟨_ :: restValues, secondValues, by rw [split, List.cons_append], .cons here ofRest,
            ofSecond⟩

/-- The first item with a property, with another property of the items before:
it is the head, or it comes later. -/
theorem exists_first_cons {Before Here : α → Prop} {first : α} {rest : List α} :
    (∃ before item after, first :: rest = before ++ item :: after ∧
        (∀ earlier ∈ before, Before earlier) ∧ Here item) ↔
      Here first ∨ Before first ∧ ∃ before item after, rest = before ++ item :: after ∧
        (∀ earlier ∈ before, Before earlier) ∧ Here item := by
  constructor
  · rintro ⟨before, item, after, split, earlier, here⟩
    cases before with
    | nil =>
        rw [List.nil_append, List.cons.injEq] at split
        exact .inl (split.1 ▸ here)
    | cons head tail =>
        rw [List.cons_append, List.cons.injEq] at split
        obtain ⟨headBefore, tailBefore⟩ := List.forall_mem_cons.mp earlier
        exact .inr ⟨split.1 ▸ headBefore, tail, item, after, split.2, tailBefore, here⟩
  · rintro (here | ⟨firstBefore, before, item, after, split, earlier, here⟩)
    · exact ⟨[], first, rest, rfl, by simp, here⟩
    · exact ⟨first :: before, item, after, by rw [split, List.cons_append],
        List.forall_mem_cons.mpr ⟨firstBefore, earlier⟩, here⟩

/-- A traversal fails with the error of the first item that has one. -/
theorem mapM_error_iff {function : α → Except Error β} {items : List α} {error : Error} :
    items.mapM function = .error error ↔
      ∃ before item after, items = before ++ item :: after ∧
        (∀ earlier ∈ before, ∃ value, function earlier = .ok value) ∧
        function item = .error error := by
  induction items with
  | nil =>
      constructor
      · intro failed
        cases failed
      · rintro ⟨before, item, after, split, -⟩
        simp at split
  | cons first rest inductionHypothesis =>
      rw [List.mapM_cons, exists_first_cons, ← inductionHypothesis]
      cases function first with
      | error firstError =>
          constructor
          · intro failed
            cases failed
            exact .inl rfl
          · rintro (failed | ⟨⟨value, isOk⟩, -⟩)
            · cases failed
              rfl
            · cases isOk
      | ok value =>
          constructor
          · intro failed
            refine .inr ⟨⟨value, rfl⟩, ?_⟩
            cases others : rest.mapM function with
            | error restError =>
                rw [others] at failed
                exact failed
            | ok values =>
                rw [others] at failed
                cases failed
          · rintro (failed | ⟨-, failed⟩)
            · cases failed
            · rw [failed]
              rfl

section Below

variable {first second : Except Error α}

/-- What the first result gives, the second gives. -/
def Below (first second : Except Error α) : Prop := ∀ value, first = .ok value → second = .ok value

theorem Below.refl (result : Except Error α) : Below result result := fun _ given => given

theorem below_error (error : Error) (second : Except Error α) : Below (.error error) second :=
  fun _ given => nomatch given

theorem Below.bind {next other : α → Except Error β} (below : Below first second)
    (later : ∀ value, Below (next value) (other value)) : Below (first >>= next) (second >>= other) := by
  intro value given
  obtain ⟨middle, isMiddle, continued⟩ := bind_ok given
  rw [below middle isMiddle, ok_bind]
  exact later middle value continued

theorem Below.map (below : Below first second) (function : α → β) :
    Below (first.map function) (second.map function) := by
  intro value given
  obtain ⟨middle, isMiddle, isValue⟩ := map_ok given
  rw [below middle isMiddle, ← isValue]
  rfl

end Below

section Yields

variable {Property : β → Prop} {result : Except Error β}

/-- What the result gives has a property. -/
def Yields (Property : β → Prop) (result : Except Error β) : Prop :=
  ∀ value, result = .ok value → Property value

theorem yields_ok {value : β} (holds : Property value) : Yields Property (.ok value : Except Error β) :=
  fun _ given => Except.ok.inj given ▸ holds

theorem yields_error (error : Error) : Yields Property (.error error) := fun _ given => nomatch given

theorem yields_bind {first : Except Error α} {next : α → Except Error β}
    (later : ∀ value, Yields Property (next value)) : Yields Property (first >>= next) := by
  intro value given
  obtain ⟨middle, -, continued⟩ := bind_ok given
  exact later middle value continued

theorem yields_map {first : Except Error α} {function : α → β}
    (holds : ∀ value, Property (function value)) : Yields Property (first.map function) := by
  intro value given
  obtain ⟨middle, -, isValue⟩ := map_ok given
  exact isValue ▸ holds middle

end Yields

end Results
