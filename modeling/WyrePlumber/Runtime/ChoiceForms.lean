import WyrePlumber.Runtime.KeptJson

/-!
# Choices in their derived and their raw form

The parser gives a choice named fields beside its values and specializes both.
Normalizing that mapping gives what normalizing the type, the flags and the
values alone gives, except for what is kept as extra.
-/

set_option autoImplicit false
set_option linter.constructorNameAsVariable false

namespace WyrePlumber.Runtime

open Python Spa Results Gathering RecordValidation

section IntegerPods

variable {fuel : Nat} {data : Bytes} {offset size code : Nat} {value : SpaValue}

theorem parsePodHeader_packed {childSize childType : Nat} (smallSize : childSize < 256 ^ 4)
    (smallType : childType < 256 ^ 4) (rest : Bytes) :
    parsePodHeader (Bytes.ofNat 4 childSize ++ Bytes.ofNat 4 childType ++ rest) 0 =
      .ok (childSize, childType) := by
  have sizeBytes : Bytes.slice (Bytes.ofNat 4 childSize ++ Bytes.ofNat 4 childType ++ rest) 0 4 =
      Bytes.ofNat 4 childSize := by
    have start := Bytes.slice_append_left (Bytes.ofNat 4 childSize)
      (Bytes.ofNat 4 childType ++ rest)
    rw [Bytes.length_ofNat] at start
    rw [List.append_assoc, start]
  have typeBytes : Bytes.slice (Bytes.ofNat 4 childSize ++ Bytes.ofNat 4 childType ++ rest) 4 4 =
      Bytes.ofNat 4 childType := by
    have skipped := Bytes.slice_append_right (Bytes.ofNat 4 childSize)
      (Bytes.ofNat 4 childType ++ rest) 0 4
    have start := Bytes.slice_append_left (Bytes.ofNat 4 childType) rest
    rw [Bytes.length_ofNat] at skipped start
    rw [List.append_assoc, skipped, start]
  have long : ¬ (Bytes.ofNat 4 childSize ++ Bytes.ofNat 4 childType ++ rest).length < 0 + 8 := by
    simp only [List.length_append, Bytes.length_ofNat]
    omega
  rw [parsePodHeader, if_neg long, sizeBytes, Nat.zero_add, typeBytes,
    Bytes.toNat_ofNat smallSize, Bytes.toNat_ofNat smallType]

/-- The types whose pods hold an integer. -/
def IntegerCode (code : Nat) : Prop := code = PodType.int.code ∨ code = PodType.id.code

theorem parseSpaPod_integer (parsed : parseSpaPod fuel data offset = .ok value)
    (header : parsePodHeader data offset = .ok (size, code)) (integer : IntegerCode code) :
    ∃ number, value = .int number := by
  cases fuel with
  | zero => cases parsed
  | succ fuel =>
      rcases integer with isInt | isId
      · have body := parseSpaPod_of_header parsed header
          (show PodType.ofCode? code = some .int by rw [isInt, PodType.ofCode?_code])
        obtain ⟨number, -, isValue⟩ := map_ok body
        exact ⟨number, isValue.symm⟩
      · have body := parseSpaPod_of_header parsed header
          (show PodType.ofCode? code = some .id by rw [isId, PodType.ofCode?_code])
        obtain ⟨number, -, isValue⟩ := map_ok body
        exact ⟨number, isValue.symm⟩

theorem exists_ints {values : List SpaValue} (integers : ∀ value ∈ values, ∃ number, value = .int number) :
    ∃ numbers : List Int, values = numbers.map SpaValue.int := by
  induction values with
  | nil => exact ⟨[], rfl⟩
  | cons value rest inductionHypothesis =>
      obtain ⟨⟨number, isNumber⟩, restIntegers⟩ := List.forall_mem_cons.mp integers
      obtain ⟨numbers, isRest⟩ := inductionHypothesis restIntegers
      exact ⟨number :: numbers, by rw [isNumber, isRest, List.map_cons]⟩

theorem parseItems_integer {start finish childSize childType : Nat} {values : List SpaValue}
    (parsed : parseItems (parseSpaPod fuel) data start finish childSize childType = .ok values)
    (smallSize : childSize < 256 ^ 4) (integer : IntegerCode childType) :
    ∃ numbers : List Int, values = numbers.map SpaValue.int := by
  apply exists_ints
  unfold parseItems at parsed
  split at parsed
  · rw [← Except.ok.inj parsed]
    simp
  · refine gather_forall (fun current item next found => ?_) parsed
    unfold itemStep at found
    split at found
    · obtain ⟨child, childParsed, isPair⟩ := map_ok found
      have smallType : childType < 256 ^ 4 := by
        rcases integer with isInt | isId
        · rw [isInt]
          decide
        · rw [isId]
          decide
      obtain ⟨number, isNumber⟩ := parseSpaPod_integer childParsed
        (parsePodHeader_packed smallSize smallType _) integer
      have isItem : child = item := by
        have same := Option.some.inj isPair
        exact congrArg Prod.fst same
      exact ⟨number, by rw [← isItem, isNumber]⟩
    · cases found

end IntegerPods

section Specialized

variable {specialize : SpaValue → Except SpaError SpaValue} {shown : Int → SpaValue}

theorem specializeEach_integers (each : ∀ number, specialize (.int number) = .ok (shown number))
    (numbers : List Int) :
    specializeEach specialize (.list (numbers.map SpaValue.int)) =
      .ok (.list (numbers.map shown)) := by
  have converted : (numbers.map SpaValue.int).mapM specialize = .ok (numbers.map shown) := by
    refine mapM_ok_iff.mpr ?_
    rw [List.forall₂_map_left_iff, List.forall₂_map_right_iff, List.forall₂_same]
    exact fun number _ => each number
  rw [specializeEach, pyList, ok_bind, converted]
  rfl

theorem specializeField_here {items : List (SpaKey × SpaValue)} {name : String}
    {value converted : SpaValue} (here : getField items name = some value)
    (specialized : specialize value = .ok converted) :
    specializeField specialize items name =
      .ok (Dictionary.set items (.name (text name)) converted) := by
  rw [specializeField, here]
  dsimp only
  rw [specialized]
  rfl

theorem specializeField_absent {items : List (SpaKey × SpaValue)} {name : String}
    (absent : getField items name = none) :
    specializeField specialize items name = .ok items := by
  rw [specializeField, absent]

/-- A choice with too few values for its type has no other fields. -/
theorem specializeChoice_plain (each : ∀ number, specialize (.int number) = .ok (shown number))
    {kind : ChoiceType} (flags childSize childType : Nat) {numbers : List Int}
    (noneBefore : derivedFields kind (numbers.map SpaValue.int) = [])
    (noneAfter : derivedFields kind (numbers.map shown) = []) :
    specializeChoice specialize
        (choiceItems kind.code flags childSize childType (numbers.map SpaValue.int)) =
      .ok (choiceDict kind.code flags childSize childType (numbers.map shown)) := by
  have values := specializeEach_integers each
  rw [choiceDict, choiceItems, choiceItems, choiceTypeFields_code, choiceTypeFields_code, noneBefore,
    noneAfter]
  unfold specializeChoice
  rw [specializeField_here rfl (values _), ok_bind, specializeField_absent rfl, ok_bind,
    specializeField_absent rfl, ok_bind, specializeField_absent rfl, ok_bind,
    specializeField_absent rfl, ok_bind, specializeField_absent rfl, ok_bind,
    specializeField_absent rfl, ok_bind, specializeField_absent rfl, ok_bind]
  rfl

/-- Both copies of the values of a choice are specialized. -/
theorem specializeChoice_integers (each : ∀ number, specialize (.int number) = .ok (shown number))
    (kind : ChoiceType) (flags childSize childType : Nat) (numbers : List Int) :
    specializeChoice specialize
        (choiceItems kind.code flags childSize childType (numbers.map SpaValue.int)) =
      .ok (choiceDict kind.code flags childSize childType (numbers.map shown)) := by
  have values := specializeEach_integers each
  cases kind with
  | range =>
      match numbers with
      | [] | [_] | [_, _] => exact specializeChoice_plain each _ _ _ rfl rfl
      | default :: minimum :: maximum :: rest =>
          rw [choiceDict, choiceItems, choiceItems, choiceTypeFields_code, choiceTypeFields_code]
          unfold specializeChoice
          rw [specializeField_here rfl (values _), ok_bind, specializeField_absent rfl, ok_bind,
            specializeField_here rfl (each _), ok_bind, specializeField_here rfl (each _), ok_bind,
            specializeField_here rfl (each _), ok_bind, specializeField_absent rfl, ok_bind,
            specializeField_absent rfl, ok_bind, specializeField_absent rfl, ok_bind]
          rfl
  | step =>
      match numbers with
      | [] | [_] | [_, _] | [_, _, _] => exact specializeChoice_plain each _ _ _ rfl rfl
      | default :: minimum :: maximum :: step :: rest =>
          rw [choiceDict, choiceItems, choiceItems, choiceTypeFields_code, choiceTypeFields_code]
          unfold specializeChoice
          rw [specializeField_here rfl (values _), ok_bind, specializeField_absent rfl, ok_bind,
            specializeField_here rfl (each _), ok_bind, specializeField_here rfl (each _), ok_bind,
            specializeField_here rfl (each _), ok_bind, specializeField_here rfl (each _), ok_bind,
            specializeField_absent rfl, ok_bind, specializeField_absent rfl, ok_bind]
          rfl
  | enum =>
      match numbers with
      | [] => exact specializeChoice_plain each _ _ _ rfl rfl
      | default :: alternatives =>
          rw [choiceDict, choiceItems, choiceItems, choiceTypeFields_code, choiceTypeFields_code]
          unfold specializeChoice
          rw [specializeField_here rfl (values _), ok_bind, specializeField_absent rfl, ok_bind,
            specializeField_here rfl (each _), ok_bind, specializeField_absent rfl, ok_bind,
            specializeField_absent rfl, ok_bind, specializeField_absent rfl, ok_bind,
            specializeField_here rfl (values _), ok_bind, specializeField_absent rfl, ok_bind]
          rfl
  | flags =>
      match numbers with
      | [] => exact specializeChoice_plain each _ _ _ rfl rfl
      | default :: others =>
          rw [choiceDict, choiceItems, choiceItems, choiceTypeFields_code, choiceTypeFields_code]
          unfold specializeChoice
          rw [specializeField_here rfl (values _), ok_bind, specializeField_absent rfl, ok_bind,
            specializeField_here rfl (each _), ok_bind, specializeField_absent rfl, ok_bind,
            specializeField_absent rfl, ok_bind, specializeField_absent rfl, ok_bind,
            specializeField_absent rfl, ok_bind, specializeField_here rfl (values _), ok_bind]
          rfl
  | none =>
      match numbers with
      | [] => exact specializeChoice_plain each _ _ _ rfl rfl
      | value :: rest =>
          rw [choiceDict, choiceItems, choiceItems, choiceTypeFields_code, choiceTypeFields_code]
          unfold specializeChoice
          rw [specializeField_here rfl (values _), ok_bind, specializeField_here rfl (each _),
            ok_bind, specializeField_absent rfl, ok_bind, specializeField_absent rfl, ok_bind,
            specializeField_absent rfl, ok_bind, specializeField_absent rfl, ok_bind,
            specializeField_absent rfl, ok_bind, specializeField_absent rfl, ok_bind]
          rfl

theorem specializeValues_choiceDict (specialize : SpaValue → Except SpaError SpaValue)
    (kind flags childSize childType : Nat) (values : List SpaValue) :
    specializeValues specialize (choiceDict kind flags childSize childType values) =
      specializeChoice specialize (choiceItems kind flags childSize childType values) := rfl

/-- A number as itself or as the member of an enumeration. -/
def ShowsNumber (shown : Int → SpaValue) : Prop :=
  ∀ number, shown number = .int number ∨ ∃ enumClass, shown number = .member enumClass number

theorem showsNumber_int : ShowsNumber SpaValue.int := fun _ => .inl rfl

theorem coerceEnumMember_int (enumClass : EnumClass) (number : Int) :
    coerceEnumMember enumClass (.int number) =
      if (enumClass.nameOf? number).isSome then .member enumClass number else .int number := rfl

theorem showsNumber_coerce (enumClass : EnumClass) :
    ShowsNumber fun number => coerceEnumMember enumClass (.int number) := by
  intro number
  dsimp only
  rw [coerceEnumMember_int]
  split
  · exact .inr ⟨enumClass, rfl⟩
  · exact .inl rfl

theorem specializeArrayProperty_choice (convert : SpaValue → Except SpaError SpaValue)
    (enumClass : Option EnumClass) (kind : ChoiceType) (flags childSize childType : Nat)
    (numbers : List Int) :
    specializeArrayProperty convert enumClass
        (choiceDict kind.code flags childSize childType (numbers.map SpaValue.int)) =
      .ok (choiceDict kind.code flags childSize childType (numbers.map SpaValue.int)) := by
  have unchanged : ∀ number, specializeArray convert enumClass (.int number) = .ok (.int number) :=
    fun _ => rfl
  rw [specializeArrayProperty, specializeValues_choiceDict]
  exact specializeChoice_integers unchanged kind flags childSize childType numbers

/-- The enumeration of a spec shows the numbers of a choice in one way. -/
theorem specializeByEnum_choice (enumClass : Option EnumClass) (kind : ChoiceType)
    (flags childSize childType : Nat) (numbers : List Int) :
    ∃ shown, ShowsNumber shown ∧
      specializeByEnum enumClass
          (choiceDict kind.code flags childSize childType (numbers.map SpaValue.int)) =
        .ok (choiceDict kind.code flags childSize childType (numbers.map shown)) := by
  cases enumClass with
  | none => exact ⟨.int, showsNumber_int, rfl⟩
  | some enumClass =>
      have coerced : ∀ number, (fun item => Except.ok (coerceEnumMember enumClass item) :
          SpaValue → Except SpaError SpaValue) (.int number) =
            .ok (coerceEnumMember enumClass (.int number)) := fun _ => rfl
      refine ⟨_, showsNumber_coerce enumClass, ?_⟩
      rw [specializeByEnum, coerceEnumPropertyValue, specializeValues_choiceDict]
      exact specializeChoice_integers coerced kind flags childSize childType numbers

/-- So does the specialization of a property. -/
theorem specializePropertyValue_choice (objectId key : Int) (kind : ChoiceType)
    (flags childSize childType : Nat) (numbers : List Int) :
    ∃ shown, ShowsNumber shown ∧
      specializePropertyValue objectId key
          (choiceDict kind.code flags childSize childType (numbers.map SpaValue.int)) =
        .ok (choiceDict kind.code flags childSize childType (numbers.map shown)) := by
  unfold specializePropertyValue
  cases propertySpecByKey objectId key with
  | none => exact ⟨.int, showsNumber_int, rfl⟩
  | some spec =>
      have byEnum := specializeByEnum_choice spec.enumClass kind flags childSize childType numbers
      dsimp only
      unfold specializeBySpec
      cases spec.shape with
      | none => exact byEnum
      | some shape =>
          cases shape with
          | dictInfo | params | labels | profileClasses => exact ⟨.int, showsNumber_int, rfl⟩
          | arrayInt | arrayFloat | arrayId =>
              exact ⟨.int, showsNumber_int,
                specializeArrayProperty_choice _ _ kind flags childSize childType numbers⟩
          | objectProps | objectFormat => exact byEnum

end Specialized

section Parts

variable (cases : CaseTables) {normalizer : SpaValue → Except PyError PyValue}
  {shown : Int → SpaValue}

/-- The choice with its type, its flags and its values alone. -/
def rawChoice (choiceType flags : Nat) (values : List SpaValue) : List (SpaKey × SpaValue) :=
  [natField "choice_type" choiceType, natField "flags" flags, field "values" (.list values)]

/-- A normalizer that reads a member of an enumeration as its number. -/
def ReadsNumbers (normalizer : SpaValue → Except PyError PyValue) : Prop :=
  ∀ enumClass number, normalizer (.member enumClass number) = normalizer (.int number)

theorem readsNumbers_spaId (enumClass : EnumClass) : ReadsNumbers (spaId cases enumClass) :=
  fun _ _ => rfl

theorem readsNumbers_intItem (name : String) : ReadsNumbers (intItem name) := fun _ _ => rfl

theorem normalizer_shown (reads : ReadsNumbers normalizer) (shows_ : ShowsNumber shown)
    (number : Int) : normalizer (shown number) = normalizer (.int number) := by
  rcases shows_ number with isInt | ⟨enumClass, isMember⟩
  · rw [isInt]
  · rw [isMember, reads]

theorem optionalItem_shown (reads : ReadsNumbers normalizer) (shows_ : ShowsNumber shown)
    (number : Int) :
    optionalItem normalizer (shown number) = optionalItem normalizer (.int number) := by
  rcases shows_ number with isInt | ⟨enumClass, isMember⟩
  · rw [isInt]
  · rw [isMember]
    exact reads enumClass number

theorem mapM_shown (reads : ReadsNumbers normalizer) (shows_ : ShowsNumber shown)
    (numbers : List Int) :
    (numbers.map shown).mapM normalizer = (numbers.map SpaValue.int).mapM normalizer := by
  induction numbers with
  | nil => rfl
  | cons number rest inductionHypothesis =>
      rw [List.map_cons, List.map_cons, List.mapM_cons, List.mapM_cons, inductionHypothesis,
        normalizer_shown reads shows_]

def kindName : ChoiceType → PyString
  | .none => text "none"
  | .range => text "range"
  | .step => text "step"
  | .enum => text "enum"
  | .flags => text "flags"

theorem choiceKind_code (kind : ChoiceType) :
    choiceKind cases (.int kind.code) = .ok (kindName kind) := by
  have small : (kind.code : Int).natAbs < 10 ^ 1 := by
    cases kind <;> decide
  have digits := pyIntText_of_some (intText?_of_lt small (by decide))
  unfold choiceKind
  dsimp only
  rw [intOf, ok_bind, digits, ok_bind]
  cases kind <;> rfl

inductive SameItem (shown : Int → SpaValue) : SpaValue → SpaValue → Prop where
  | none : SameItem shown .none .none
  | number (number : Int) : SameItem shown (shown number) (.int number)

/-- Two selections of the same items. -/
structure SameSelection (shown : Int → SpaValue) (left right : ChoiceSelection) : Prop where
  default : SameItem shown left.default right.default
  minimum : SameItem shown left.minimum right.minimum
  maximum : SameItem shown left.maximum right.maximum
  step : SameItem shown left.step right.step
  alternatives : ∃ numbers : List Int, left.alternatives = .list (numbers.map shown) ∧
    right.alternatives = .list (numbers.map SpaValue.int)

theorem optionalItem_same (reads : ReadsNumbers normalizer) (shows_ : ShowsNumber shown)
    {left right : SpaValue} (same : SameItem shown left right) :
    optionalItem normalizer left = optionalItem normalizer right := by
  cases same with
  | none => rfl
  | number number => exact optionalItem_shown reads shows_ number

theorem choiceArguments_same (reads : ReadsNumbers normalizer) (shows_ : ShowsNumber shown)
    {left right : ChoiceSelection} (same : SameSelection shown left right) (kind : PyString)
    (flags : Option SpaValue) :
    choiceArguments normalizer kind flags left = choiceArguments normalizer kind flags right := by
  obtain ⟨numbers, isLeft, isRight⟩ := same.alternatives
  have alternatives : normalizeAlternatives normalizer left.alternatives =
      normalizeAlternatives normalizer right.alternatives := by
    rw [isLeft, isRight]
    exact mapM_shown reads shows_ numbers
  rw [choiceArguments, choiceArguments, optionalItem_same reads shows_ same.default,
    optionalItem_same reads shows_ same.minimum, optionalItem_same reads shows_ same.maximum,
    optionalItem_same reads shows_ same.step, alternatives]

/-- The named fields of a choice are the items at the positions of its kind. -/
theorem sameSelection_forms (kind : ChoiceType) (flags childSize childType : Nat)
    (numbers : List Int) :
    SameSelection shown
      (selectItems (kindName kind) (numbers.map shown)
        (choiceFields (choiceItems kind.code flags childSize childType (numbers.map shown))))
      (selectItems (kindName kind) (numbers.map SpaValue.int)
        (choiceFields (rawChoice kind.code flags (numbers.map SpaValue.int)))) := by
  rw [choiceItems, choiceTypeFields_code]
  cases kind with
  | range =>
      match numbers with
      | [] => exact ⟨.none, .none, .none, .none, [], rfl, rfl⟩
      | [a] => exact ⟨.number a, .none, .none, .none, [], rfl, rfl⟩
      | [a, b] => exact ⟨.number a, .number b, .none, .none, [], rfl, rfl⟩
      | a :: b :: c :: rest => exact ⟨.number a, .number b, .number c, .none, [], rfl, rfl⟩
  | step =>
      match numbers with
      | [] => exact ⟨.none, .none, .none, .none, [], rfl, rfl⟩
      | [a] => exact ⟨.number a, .none, .none, .none, [], rfl, rfl⟩
      | [a, b] => exact ⟨.number a, .number b, .none, .none, [], rfl, rfl⟩
      | [a, b, c] => exact ⟨.number a, .number b, .number c, .none, [], rfl, rfl⟩
      | a :: b :: c :: d :: rest =>
          exact ⟨.number a, .number b, .number c, .number d, [], rfl, rfl⟩
  | enum | flags =>
      match numbers with
      | [] => exact ⟨.none, .none, .none, .none, [], rfl, rfl⟩
      | a :: rest => exact ⟨.number a, .none, .none, .none, rest, rfl, rfl⟩
  | none =>
      match numbers with
      | [] => exact ⟨.none, .none, .none, .none, [], rfl, rfl⟩
      | a :: rest => exact ⟨.number a, .none, .none, .none, [], rfl, rfl⟩

theorem choiceParts_eq {fields : ChoiceFields} {kind : ChoiceType} {values : List SpaValue}
    (noKind : fields.kind = none) (isType : fields.choiceType = some (.int kind.code))
    (isValues : fields.values = some (.list values)) :
    choiceParts cases normalizer fields =
      choiceArguments normalizer (kindName kind) fields.flags
        (selectItems (kindName kind) values fields) := by
  rw [choiceParts, noKind, isType, Option.getD_none, Option.getD_some, choiceKind_code, ok_bind,
    isValues]
  rfl

theorem choiceParts_forms (reads : ReadsNumbers normalizer) (shows_ : ShowsNumber shown)
    (kind : ChoiceType) (flags childSize childType : Nat) (numbers : List Int) :
    choiceParts cases normalizer
        (choiceFields (choiceItems kind.code flags childSize childType (numbers.map shown))) =
      choiceParts cases normalizer
        (choiceFields (rawChoice kind.code flags (numbers.map SpaValue.int))) := by
  have noKind : getField (choiceItems kind.code flags childSize childType (numbers.map shown))
      "kind" = none := by
    rw [choiceItems, choiceTypeFields_code]
    cases kind with
    | range => match numbers with | [] | [_] | [_, _] | _ :: _ :: _ :: _ => rfl
    | step => match numbers with | [] | [_] | [_, _] | [_, _, _] | _ :: _ :: _ :: _ :: _ => rfl
    | enum | flags | none => match numbers with | [] | _ :: _ => rfl
  rw [@choiceParts_eq cases _ (choiceFields (choiceItems _ _ _ _ _)) _ _ noKind rfl rfl,
    @choiceParts_eq cases _ (choiceFields (rawChoice _ _ _)) _ _ rfl rfl rfl]
  exact choiceArguments_same reads shows_
    (sameSelection_forms kind flags childSize childType numbers) (kindName kind) _

end Parts

section Extra

/-- The fields of a choice value besides what it keeps as extra. -/
def summaryFields : List FieldName :=
  [.kind, .default, .minimum, .maximum, .step, .alternatives, .flags]

/-- A normalized choice without its extra, or the error in its place. -/
def choiceSummary (result : Except PyError PyValue) : Except PyError (List PyValue) :=
  result.map fun value => summaryFields.map value.get

def summarySteps : List ClassStep := (steps .spaChoice).dropLast

theorem steps_spaChoice : steps .spaChoice = summarySteps ++ [fieldStep .extra .mapping] := rfl

theorem summarySteps_untouched : ∀ step ∈ summarySteps, FieldName.extra ∉ step.footprint := by
  decide

theorem initialRecord_extra {parts : List (FieldName × PyValue)}
    (unnamed : parts.lookup .extra = none) (extra : PyValue) :
    initialRecord .spaChoice (parts ++ [(.extra, extra)]) =
      Function.update (initialRecord .spaChoice parts) .extra extra := by
  funext name
  unfold initialRecord
  rw [List.lookup_append]
  by_cases isExtra : name = .extra
  · rw [isExtra, unnamed, Function.update_self]
    rfl
  · have absent : List.lookup name [(FieldName.extra, extra)] = none := by
      rw [List.lookup_cons, beq_eq_false_iff_ne.mpr isExtra]
      rfl
    rw [absent, Option.or_none, Function.update_of_ne isExtra]

/-- The last step of the constructor touches the extra alone. -/
theorem choiceSummary_run {record : Record} {extra frozen : PyValue}
    (accepted : mapping (FieldName.text .extra) extra = .ok frozen) :
    choiceSummary ((runSteps (steps .spaChoice) (Function.update record .extra extra)).map
        (toRuntime .spaChoice (fieldNames .spaChoice))) =
      (runSteps summarySteps record).map fun made => summaryFields.map made := by
  rw [steps_spaChoice, runSteps_append, runSteps_update_map summarySteps_untouched]
  cases runSteps summarySteps record with
  | error error => rfl
  | ok made =>
      have last : runSteps [fieldStep .extra .mapping] (Function.update made .extra extra) =
          .ok (Function.update (Function.update made .extra extra) .extra frozen) := by
        have normalized : (FieldKind.mapping).normalize (FieldName.text .extra)
            (Function.update made .extra extra .extra) = .ok frozen := by
          rw [Function.update_self]
          exact accepted
        rw [runSteps, fieldStep_run normalized]
        rfl
      change choiceSummary ((runSteps [fieldStep .extra .mapping]
        (Function.update made .extra extra)).map _) = _
      rw [last]
      rfl

/-- What a choice keeps as extra changes nothing else. -/
theorem choiceSummary_construct (kind default minimum maximum step alternatives flags : PyValue)
    {extra frozen : PyValue} (accepted : mapping (FieldName.text .extra) extra = .ok frozen) :
    choiceSummary (construct .spaChoice ([(.kind, kind), (.default, default), (.minimum, minimum),
        (.maximum, maximum), (.step, step), (.alternatives, alternatives), (.flags, flags)] ++
        [(.extra, extra)])) =
      (runSteps summarySteps (initialRecord .spaChoice [(.kind, kind), (.default, default),
        (.minimum, minimum), (.maximum, maximum), (.step, step), (.alternatives, alternatives),
        (.flags, flags)])).map fun made => summaryFields.map made := by
  rw [← choiceSummary_run accepted, ← initialRecord_extra rfl]
  rfl

/-- What is kept as extra of a mapping by names is accepted where its floats are finite. -/
theorem choiceExtra_accepted {items : List (SpaKey × SpaValue)} (named : NamedItems items)
    (finite : ∀ item ∈ items, finiteFloats item.2 = true) :
    ∃ extra frozen, normalizeSpaJson (.dict (choiceExtra items)) = .ok extra ∧
      mapping (FieldName.text .extra) extra = .ok frozen := by
  have inItems : ∀ item ∈ choiceExtra items, item ∈ items := fun _ member =>
    List.mem_of_mem_filter member
  have parsed : Parsed (.dict (choiceExtra items)) := by
    refine .names ((List.filter_sublist.map Prod.fst).nodup named.distinct) ?_ ?_
    · intro key member
      obtain ⟨item, inExtra, isKey⟩ := List.mem_map.mp member
      exact named.keys key (isKey ▸ List.mem_map_of_mem (inItems item inExtra))
    · exact fun item member => named.each item (inItems item member)
  have finiteExtra : finiteFloats (.dict (choiceExtra items)) = true := by
    rw [finiteFloats, finiteItems_iff]
    exact fun item member => finite item (inItems item member)
  obtain ⟨frozen, accepted⟩ := (Parsed.kept_iff parsed).mpr finiteExtra
  obtain ⟨json, normalized, freezes⟩ := bind_ok accepted
  obtain ⟨items, -, isDict⟩ := map_ok normalized
  rw [← isDict] at normalized freezes
  exact ⟨_, frozen, normalized, freezes⟩

variable (cases : CaseTables) {normalizer : SpaValue → Except PyError PyValue}

theorem choiceArguments_shape {kind : PyString} {flags : Option SpaValue}
    {selection : ChoiceSelection} {parts : List (FieldName × PyValue)}
    (made : choiceArguments normalizer kind flags selection = .ok parts) :
    ∃ kind default minimum maximum step alternatives flags,
      parts = [(.kind, kind), (.default, default), (.minimum, minimum), (.maximum, maximum),
        (.step, step), (.alternatives, alternatives), (.flags, flags)] := by
  obtain ⟨default, -, afterDefault⟩ := bind_ok made
  obtain ⟨minimum, -, afterMinimum⟩ := bind_ok afterDefault
  obtain ⟨maximum, -, afterMaximum⟩ := bind_ok afterMinimum
  obtain ⟨step, -, afterStep⟩ := bind_ok afterMaximum
  obtain ⟨alternatives, -, afterAlternatives⟩ := bind_ok afterStep
  obtain ⟨flags, -, whole⟩ := bind_ok afterAlternatives
  exact ⟨_, default, minimum, maximum, step, _, _, (Except.ok.inj whole).symm⟩

/-- Without its extra a choice is made of its parts alone. -/
theorem choiceSummary_choice {items : List (SpaKey × SpaValue)} {extra frozen : PyValue}
    (normalized : normalizeSpaJson (.dict (choiceExtra items)) = .ok extra)
    (accepted : mapping (FieldName.text .extra) extra = .ok frozen) :
    choiceSummary (choice cases normalizer items) =
      choiceParts cases normalizer (choiceFields items) >>= fun parts =>
        (runSteps summarySteps (initialRecord .spaChoice parts)).map fun made =>
          summaryFields.map made := by
  unfold choice
  cases made : choiceParts cases normalizer (choiceFields items) with
  | error error => rfl
  | ok parts =>
      obtain ⟨kind, -, afterKind⟩ := bind_ok made
      obtain ⟨sequence, -, arguments⟩ := bind_ok afterKind
      obtain ⟨kind, default, minimum, maximum, step, alternatives, flags, isParts⟩ :=
        choiceArguments_shape arguments
      rw [ok_bind, ok_bind, normalized, ok_bind, isParts]
      exact choiceSummary_construct kind default minimum maximum step alternatives flags accepted

end Extra

section Forms

variable {fuel offset : Nat} {data : Bytes} {value : SpaValue} {shown : Int → SpaValue}

/-- A choice pod of a known kind whose items are of the type `Int` or `Id`; one that is
too short has no items. -/
structure IntegerChoice (data : Bytes) (offset size : Nat) : Prop where
  header : parsePodHeader data offset = .ok (size, PodType.choice.code)
  kind : 16 ≤ size → ∃ kind : ChoiceType, Bytes.readNat data (offset + 8) 4 = some kind.code
  child : 16 ≤ size →
    ∃ childType, Bytes.readNat data (offset + 20) 4 = some childType ∧ IntegerCode childType

theorem unpackUnsigned_some {position width number : Nat}
    (read : Bytes.readNat data position width = some number) :
    unpackUnsigned data position width = .ok number := by
  rw [unpackUnsigned, read]
  rfl

theorem parse_integerChoice {size : Nat} (pod : IntegerChoice data offset size)
    (parsed : parseSpaPod fuel data offset = .ok value) :
    ∃ (kind : ChoiceType) (flags childSize childType : Nat) (numbers : List Int),
      value = choiceDict kind.code flags childSize childType (numbers.map SpaValue.int) := by
  cases fuel with
  | zero => cases parsed
  | succ fuel =>
      have body := parseSpaPod_of_header parsed pod.header (PodType.ofCode?_code .choice)
      rw [parseBody, parseChoice] at body
      split at body
      · exact ⟨.none, 0, 0, PodType.none.code, [], (Except.ok.inj body).symm⟩
      · rename_i long
        obtain ⟨kind, isKind⟩ := pod.kind (by omega)
        obtain ⟨childType, isChild, integer⟩ := pod.child (by omega)
        obtain ⟨readKind, kindRead, afterKind⟩ := bind_ok body
        obtain ⟨flags, -, afterFlags⟩ := bind_ok afterKind
        obtain ⟨childSize, sizeRead, afterSize⟩ := bind_ok afterFlags
        obtain ⟨readType, typeRead, afterType⟩ := bind_ok afterSize
        obtain ⟨values, isValues, whole⟩ := bind_ok afterType
        rw [unpackUnsigned_some isKind] at kindRead
        rw [unpackUnsigned_some isChild] at typeRead
        rw [← Except.ok.inj typeRead] at isValues
        obtain ⟨numbers, areNumbers⟩ :=
          parseItems_integer isValues (unpackUnsigned_lt sizeRead) integer
        refine ⟨kind, flags, childSize, readType, numbers, ?_⟩
        rw [← Except.ok.inj whole, ← Except.ok.inj kindRead, areNumbers]

/-- The items of a choice under its type, its flags and its values. -/
def rawForm (items : List (SpaKey × SpaValue)) : List (SpaKey × SpaValue) :=
  items.filter fun item => item.1 ∈ ["choice_type", "flags", "values"].map
    fun name => SpaKey.name (text name)

theorem rawForm_choiceItems (kind : ChoiceType) (flags childSize childType : Nat)
    (numbers : List Int) :
    rawForm (choiceItems kind.code flags childSize childType (numbers.map SpaValue.int)) =
      rawChoice kind.code flags (numbers.map SpaValue.int) := by
  rw [choiceItems, choiceTypeFields_code]
  cases kind with
  | range => match numbers with | [] | [_] | [_, _] | _ :: _ :: _ :: _ => rfl
  | step => match numbers with | [] | [_] | [_, _] | [_, _, _] | _ :: _ :: _ :: _ :: _ => rfl
  | enum | flags | none => match numbers with | [] | _ :: _ => rfl

theorem ShowsNumber.parsed (shows_ : ShowsNumber shown) (number : Int) : Parsed (shown number) := by
  rcases shows_ number with isInt | ⟨enumClass, isMember⟩
  · exact isInt ▸ .int number
  · exact isMember ▸ .member enumClass number

theorem ShowsNumber.finite (shows_ : ShowsNumber shown) (number : Int) :
    finiteFloats (shown number) = true := by
  rcases shows_ number with isInt | ⟨enumClass, isMember⟩
  · exact isInt ▸ rfl
  · exact isMember ▸ rfl

/-- The named fields of a choice hold its values. -/
theorem derivedFields_finite {kind : ChoiceType} {values : List SpaValue}
    (finite : ∀ value ∈ values, finiteFloats value = true) :
    ∀ item ∈ derivedFields kind values, finiteFloats item.2 = true := by
  unfold derivedFields
  split
  · simp only [List.forall_mem_cons] at finite ⊢
    exact ⟨finite.1, finite.2.1, finite.2.2.1, by simp⟩
  · simp only [List.forall_mem_cons] at finite ⊢
    exact ⟨finite.1, finite.2.1, finite.2.2.1, finite.2.2.2.1, by simp⟩
  · simp only [List.forall_mem_cons] at finite ⊢
    exact ⟨finite.1, finiteFloats_list.mpr finite.2, by simp⟩
  · simp only [List.forall_mem_cons] at finite ⊢
    exact ⟨finite.1, finiteFloats_list.mpr finite.2, by simp⟩
  · simp only [List.forall_mem_cons] at finite ⊢
    exact ⟨finite.1, by simp⟩
  · simp

theorem choiceItems_finite (kind : ChoiceType) (flags childSize childType : Nat)
    {values : List SpaValue} (finite : ∀ value ∈ values, finiteFloats value = true) :
    ∀ item ∈ choiceItems kind.code flags childSize childType values,
      finiteFloats item.2 = true := by
  rw [choiceItems, choiceTypeFields_code]
  intro item member
  rcases List.mem_append.mp member with isField | derived
  · have ofFields : ∀ item ∈ [field "_pod_type" (.int PodType.choice.code),
        natField "choice_type" kind.code, natField "flags" flags, natField "child_size" childSize,
        natField "child_type" childType, field "values" (.list values)],
        finiteFloats item.2 = true := by
      simp only [List.forall_mem_cons]
      exact ⟨rfl, rfl, rfl, rfl, rfl, finiteFloats_list.mpr finite, by simp⟩
    exact ofFields item isField
  · exact derivedFields_finite finite item derived

theorem choiceItems_named (shows_ : ShowsNumber shown) (kind flags childSize childType : Nat)
    (numbers : List Int) :
    NamedItems (choiceItems kind flags childSize childType (numbers.map shown)) := by
  have parsed : Parsed (choiceDict kind flags childSize childType (numbers.map shown)) := by
    refine choiceDict_parsed kind flags childSize childType fun value member => ?_
    obtain ⟨number, -, isValue⟩ := List.mem_map.mp member
    exact isValue ▸ shows_.parsed number
  have isPod : podItems? .choice
      (choiceDict kind flags childSize childType (numbers.map shown)) = some _ := rfl
  exact parsed.marked isPod

variable (cases : CaseTables) {normalizer : SpaValue → Except PyError PyValue}

/-- The summary of a choice with its named fields is that of its raw form. -/
theorem choiceSummary_forms (reads : ReadsNumbers normalizer) (shows_ : ShowsNumber shown)
    (kind : ChoiceType) (flags childSize childType : Nat) (numbers : List Int) :
    choiceSummary (choice cases normalizer
        (choiceItems kind.code flags childSize childType (numbers.map shown))) =
      choiceSummary (choice cases normalizer
        (rawChoice kind.code flags (numbers.map SpaValue.int))) := by
  have finite : ∀ value ∈ numbers.map shown, finiteFloats value = true := by
    intro value member
    obtain ⟨number, -, isValue⟩ := List.mem_map.mp member
    exact isValue ▸ shows_.finite number
  obtain ⟨extra, frozen, normalized, accepted⟩ :=
    choiceExtra_accepted (choiceItems_named shows_ kind.code flags childSize childType numbers)
      (choiceItems_finite kind flags childSize childType finite)
  have rawNormalized : normalizeSpaJson
      (.dict (choiceExtra (rawChoice kind.code flags (numbers.map SpaValue.int)))) =
        .ok (.dict []) := rfl
  rw [choiceSummary_choice cases normalized accepted,
    @choiceSummary_choice cases normalizer _ _ (.frozenDict []) rawNormalized rfl,
    choiceParts_forms cases reads shows_]

/-- The normalization of a parsed choice of integers, specialized for any property, agrees
with that of its type, flags and values alone. -/
theorem choiceForms_agree {size : Nat} (pod : IntegerChoice data offset size)
    (parsed : parseSpaPod fuel data offset = .ok value) :
    ∃ items, value = .dict items ∧
      ∀ objectId key, ∃ special, specializePropertyValue objectId key value = .ok special ∧
        (∀ enumClass, choiceSummary (choiceOrId cases enumClass special) =
          choiceSummary (choiceOrId cases enumClass (.dict (rawForm items)))) ∧
        (∀ name, choiceSummary (choiceOrInt cases name special) =
          choiceSummary (choiceOrInt cases name (.dict (rawForm items)))) := by
  obtain ⟨kind, flags, childSize, childType, numbers, isValue⟩ := parse_integerChoice pod parsed
  refine ⟨_, isValue, fun objectId key => ?_⟩
  obtain ⟨shown, shows_, specialized⟩ :=
    specializePropertyValue_choice objectId key kind flags childSize childType numbers
  refine ⟨_, by rw [isValue]; exact specialized, fun enumClass => ?_, fun name => ?_⟩
  · rw [rawForm_choiceItems]
    exact choiceSummary_forms cases (readsNumbers_spaId cases enumClass) shows_ kind flags childSize
      childType numbers
  · rw [rawForm_choiceItems]
    exact choiceSummary_forms cases (readsNumbers_intItem name) shows_ kind flags childSize childType
      numbers

/-- A choice pod of a kind with the given items of the type `Id`. -/
def idChoicePod (kind : ChoiceType) (numbers : List Nat) : Bytes :=
  Bytes.ofNat 4 (16 + 4 * numbers.length) ++ Bytes.ofNat 4 PodType.choice.code ++
    Bytes.ofNat 4 kind.code ++ Bytes.ofNat 4 0 ++ Bytes.ofNat 4 4 ++
    Bytes.ofNat 4 PodType.id.code ++ numbers.flatMap (Bytes.ofNat 4)

/-- A range of only two numbers. -/
theorem choiceForms_agree_short :
    ∃ value items, parseSpaPod 2 (idChoicePod .range [3, 1]) 0 = .ok value ∧
      value = .dict items ∧
      ∀ objectId key, ∃ special, specializePropertyValue objectId key value = .ok special ∧
        (∀ enumClass, choiceSummary (choiceOrId ⟨id, id⟩ enumClass special) =
          choiceSummary (choiceOrId ⟨id, id⟩ enumClass (.dict (rawForm items)))) ∧
        (∀ name, choiceSummary (choiceOrInt ⟨id, id⟩ name special) =
          choiceSummary (choiceOrInt ⟨id, id⟩ name (.dict (rawForm items)))) := by
  have pod : IntegerChoice (idChoicePod .range [3, 1]) 0 24 :=
    ⟨rfl, fun _ => ⟨.range, rfl⟩, fun _ => ⟨PodType.id.code, rfl, .inr rfl⟩⟩
  have parsed : parseSpaPod 2 (idChoicePod .range [3, 1]) 0 =
      .ok (choiceDict 1 0 4 PodType.id.code [.int 3, .int 1]) := rfl
  obtain ⟨items, isValue, agrees⟩ := choiceForms_agree ⟨id, id⟩ pod parsed
  exact ⟨_, items, parsed, isValue, agrees⟩

end Forms

end WyrePlumber.Runtime
