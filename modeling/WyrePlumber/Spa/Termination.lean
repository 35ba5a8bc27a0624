import WyrePlumber.Spa.Parse

/-!
# The parser ends

A pod contains only pods of a smaller declared size, and every loop over a container
moves towards its end.  So the declared size bounds the nesting of calls, and the parser
needs no more fuel than that.
-/

set_option autoImplicit false
set_option linter.constructorNameAsVariable false

namespace WyrePlumber.Spa

open Python Results Gathering

section Endings

variable {Value Result : Type}

/-- A Python outcome: a value or an exception. -/
def Ends (result : Except SpaError Value) : Prop := result ≠ .error .exhausted

theorem ends_ok (value : Value) : Ends (.ok value) := fun same => nomatch same

theorem ends_python (kind : ErrorKind) : Ends (.error (.python kind) : Except SpaError Value) :=
  fun same => nomatch same

theorem ends_raise (message : String) : Ends (raise message : Except SpaError Value) :=
  fun same => nomatch same

theorem ends_orElseRaise (kind : ErrorKind) (value : Option Value) :
    Ends (orElseRaise kind value) := by
  cases value with
  | none => exact ends_python kind
  | some value => exact ends_ok value

theorem Ends.bind {first : Except SpaError Value} {next : Value → Except SpaError Result}
    (ends : Ends first) (later : ∀ value, Ends (next value)) : Ends (first >>= next) := by
  cases first with
  | error error => exact fun same => ends (congrArg _ (Except.error.inj same))
  | ok value => exact later value

theorem Ends.map {first : Except SpaError Value} {function : Value → Result} (ends : Ends first) :
    Ends (first.map function) := by
  cases first with
  | error error => exact fun same => ends (congrArg _ (Except.error.inj same))
  | ok value => exact ends_ok _

theorem ends_mapM {Item : Type} {function : Item → Except SpaError Value}
    (ends : ∀ item, Ends (function item)) (items : List Item) : Ends (items.mapM function) := by
  induction items with
  | nil => exact ends_ok []
  | cons item rest inductionHypothesis =>
      rw [List.mapM_cons]
      exact (ends item).bind fun _ => inductionHypothesis.bind fun _ => ends_ok _

theorem Ends.agrees {result : Except SpaError Value} (ends : Ends result) (asked : Prop) :
    Agrees .exhausted asked result result :=
  ⟨rfl, fun _ => ends⟩

end Endings

section Specialization

variable {convert : SpaValue → Except SpaError SpaValue}

theorem pyInt_ends (value : SpaValue) : Ends (pyInt value) := by
  cases value with
  | bool | int | member => exact ends_ok _
  | float value =>
      rw [pyInt]
      split
      · exact ends_ok _
      · exact ends_python _
  | str string => exact ends_orElseRaise _ _
  | bytes data => exact ends_orElseRaise _ _
  | none | list | dict | object | other => exact ends_python _

theorem pyFloat_ends (value : SpaValue) : Ends (pyFloat value) := by
  cases value with
  | bool | int | member => exact ends_orElseRaise _ _
  | float value => exact ends_ok _
  | str string => exact ends_orElseRaise _ _
  | bytes data => exact ends_orElseRaise _ _
  | none | list | dict | object | other => exact ends_python _

theorem pyList_ends (value : SpaValue) : Ends (pyList value) := by
  cases value with
  | list | str | bytes | dict | object => exact ends_ok _
  | none | bool | int | member | float | other => exact ends_python _

theorem structToShape_ends (shape : List SpaValue → Option SpaValue) (value : SpaValue) :
    Ends (structToShape shape value) := by
  unfold structToShape
  split
  · exact (pyList_ends _).map
  · exact ends_ok _

theorem arrayToValues_ends (ends : ∀ value, Ends (convert value)) (value : SpaValue) :
    Ends (arrayToValues? convert value) := by
  unfold arrayToValues?
  split
  · exact (pyList_ends _).bind fun values => (ends_mapM ends values).bind fun _ => ends_ok _
  · exact ends_ok _

theorem convertInt_ends (value : SpaValue) : Ends (convertInt value) := (pyInt_ends value).map

theorem convertFloat_ends (value : SpaValue) : Ends (convertFloat value) := (pyFloat_ends value).map

theorem deviceIndexes_ends (value : SpaValue) : Ends (deviceIndexes value) := by
  refine (arrayToValues_ends convertInt_ends value).bind fun converted => ?_
  split
  · exact ends_ok _
  · exact ends_ok _
  · exact ends_ok _

theorem profileClass_ends (item : SpaValue) : Ends (profileClass item) := by
  unfold profileClass
  split
  · refine (pyList_ends _).bind fun entry => ?_
    split
    · split
      · exact (deviceIndexes_ends _).map
      · exact ends_ok _
    · exact ends_ok _
  · exact ends_ok _

theorem profileClasses_ends (items : List SpaValue) : Ends (profileClasses items) := by
  induction items with
  | nil => exact ends_ok _
  | cons item rest inductionHypothesis =>
      refine (profileClass_ends item).bind fun entry => ?_
      cases entry with
      | none => exact ends_ok _
      | some entry => exact inductionHypothesis.map

theorem structToProfileClasses_ends (value : SpaValue) : Ends (structToProfileClasses value) := by
  unfold structToProfileClasses
  split
  · refine (pyList_ends _).bind fun values => ?_
    split
    · exact (profileClasses_ends _).map
    · exact ends_ok _
  · exact ends_ok _

theorem specializeField_ends (ends : ∀ value, Ends (convert value))
    (items : List (SpaKey × SpaValue)) (name : String) :
    Ends (specializeField convert items name) := by
  unfold specializeField
  split
  · exact (ends _).map
  · exact ends_ok _

theorem specializeEach_ends (ends : ∀ value, Ends (convert value)) (value : SpaValue) :
    Ends (specializeEach convert value) :=
  (pyList_ends value).bind fun values => (ends_mapM ends values).bind fun _ => ends_ok _

theorem specializeValues_ends (ends : ∀ value, Ends (convert value)) (value : SpaValue) :
    Ends (specializeValues convert value) := by
  unfold specializeValues
  split
  · have each := specializeEach_ends ends
    exact (specializeField_ends each _ _).bind fun _ => (specializeField_ends ends _ _).bind fun _ =>
      (specializeField_ends ends _ _).bind fun _ => (specializeField_ends ends _ _).bind fun _ =>
      (specializeField_ends ends _ _).bind fun _ => (specializeField_ends ends _ _).bind fun _ =>
      (specializeField_ends each _ _).bind fun _ => (specializeField_ends each _ _).bind fun _ =>
      ends_ok _
  · exact ends value

theorem specializeArray_ends (ends : ∀ value, Ends (convert value)) (enumClass : Option EnumClass)
    (value : SpaValue) : Ends (specializeArray convert enumClass value) := by
  refine (arrayToValues_ends ends value).bind fun converted => ?_
  split
  · exact ends_ok _
  · exact ends_ok _
  · exact ends_ok _

theorem specializeByEnum_ends (enumClass : Option EnumClass) (value : SpaValue) :
    Ends (specializeByEnum enumClass value) := by
  cases enumClass with
  | none => exact ends_ok _
  | some enumClass => exact specializeValues_ends (fun _ => ends_ok _) value

theorem specializePropertyValue_ends (objectId key : Int) (value : SpaValue) :
    Ends (specializePropertyValue objectId key value) := by
  unfold specializePropertyValue
  cases propertySpecByKey objectId key with
  | none => exact ends_ok _
  | some spec =>
      dsimp only
      unfold specializeBySpec
      cases spec.shape with
      | none => exact specializeByEnum_ends _ value
      | some shape =>
          cases shape with
          | dictInfo | params | labels => exact structToShape_ends _ value
          | profileClasses => exact structToProfileClasses_ends value
          | arrayInt => exact specializeValues_ends (specializeArray_ends convertInt_ends _) value
          | arrayFloat => exact specializeValues_ends (specializeArray_ends convertFloat_ends _) value
          | arrayId => exact specializeValues_ends (specializeArray_ends convertInt_ends _) value
          | objectProps | objectFormat => exact specializeByEnum_ends _ value

end Specialization

section Loops

variable {Item : Type} {parse : Bytes → Nat → Except SpaError SpaValue} {data : Bytes}
  {finish current : Nat}

/-- Every item that a step reads moves the position towards the end. -/
def Advances (finish : Nat) (step : Nat → Except SpaError (Option (Item × Nat))) : Prop :=
  ∀ current item next, step current = .ok (some (item, next)) → current < next ∧ next ≤ finish

/-- The size that a pod header declares. -/
def declaredSize (data : Bytes) (offset : Nat) : Nat := Bytes.toNat (Bytes.slice data offset 4)

theorem parsePodHeader_ok {offset size code : Nat}
    (header : parsePodHeader data offset = .ok (size, code)) :
    size = declaredSize data offset ∧ offset + 8 ≤ data.length := by
  unfold parsePodHeader at header
  split at header
  · cases header
  · have fields := Except.ok.inj header
    exact ⟨(congrArg Prod.fst fields).symm, by omega⟩

/-- The parse of a pod goes by its header. -/
theorem parseSpaPod_of_header {fuel offset size code : Nat} {data : Bytes} {value : SpaValue}
    (parsed : parseSpaPod (fuel + 1) data offset = .ok value)
    (header : parsePodHeader data offset = .ok (size, code)) {podType : PodType}
    (known : PodType.ofCode? code = some podType) :
    parseBody (parseSpaPod fuel) data (offset + 8) size podType = .ok value := by
  unfold parseSpaPod parsePod at parsed
  rw [header, ok_bind] at parsed
  obtain ⟨_, -, body⟩ := bind_ok parsed
  rw [known] at body
  exact body

/-- A contained pod lies between the position and the end. -/
theorem containedPod_bounds {value : SpaValue} {next : Nat}
    (found : containedPod parse data finish current = .ok (some (value, next))) :
    current + 8 ≤ next ∧ next ≤ finish := by
  obtain ⟨⟨podSize, _⟩, -, chosen⟩ := bind_ok found
  dsimp only at chosen
  split at chosen
  · cases chosen
  · obtain ⟨child, -, isPair⟩ := map_ok chosen
    have isNext : current + align (8 + podSize) = next := congrArg Prod.snd (Option.some.inj isPair)
    have aligned := le_align (8 + podSize)
    omega

theorem itemStep_advances (parse : Bytes → Nat → Except SpaError SpaValue) (data : Bytes)
    (finish childType : Nat) {childSize : Nat} (positive : 0 < childSize) :
    Advances finish (itemStep parse data finish childSize childType) := by
  intro current item next found
  unfold itemStep at found
  split at found
  · obtain ⟨child, -, isPair⟩ := map_ok found
    have isNext : current + childSize = next := congrArg Prod.snd (Option.some.inj isPair)
    omega
  · cases found

theorem structStep_advances (parse : Bytes → Nat → Except SpaError SpaValue) (data : Bytes)
    (finish : Nat) : Advances finish (structStep parse data finish) := by
  intro current item next found
  unfold structStep at found
  split at found
  · have bounds := containedPod_bounds found
    omega
  · cases found

theorem objectStep_advances (parse : Bytes → Nat → Except SpaError SpaValue) (data : Bytes)
    (finish objectId : Nat) : Advances finish (objectStep parse data finish objectId) := by
  intro current item next found
  unfold objectStep at found
  split at found
  · obtain ⟨key, -, afterKey⟩ := bind_ok found
    obtain ⟨flags, -, afterFlags⟩ := bind_ok afterKey
    obtain ⟨contained, isContained, chosen⟩ := bind_ok afterFlags
    cases contained with
    | none => cases chosen
    | some pair =>
        obtain ⟨value, after⟩ := pair
        obtain ⟨made, -, isPair⟩ := map_ok chosen
        have isNext : after = next := congrArg Prod.snd (Option.some.inj isPair)
        have bounds := containedPod_bounds isContained
        omega
  · cases found

theorem controlStep_advances (parse : Bytes → Nat → Except SpaError SpaValue) (data : Bytes)
    (finish : Nat) : Advances finish (controlStep parse data finish) := by
  intro current item next found
  unfold controlStep at found
  split at found
  · obtain ⟨controlOffset, -, afterOffset⟩ := bind_ok found
    obtain ⟨controlType, -, afterType⟩ := bind_ok afterOffset
    obtain ⟨contained, isContained, whole⟩ := bind_ok afterType
    obtain ⟨⟨value, after⟩, isPair, isNext⟩ := Option.map_eq_some_iff.mp (Except.ok.inj whole)
    rw [isPair] at isContained
    have bounds := containedPod_bounds isContained
    have same : after = next := congrArg Prod.snd isNext
    omega
  · cases found

end Loops

section Nesting

variable {Item : Type} {parse other : Bytes → Nat → Except SpaError SpaValue} {data : Bytes}
  {asked : Prop} {bound : Nat}

/-- Two parsers that agree on every pod of a declared size below a bound. -/
def AgreeBelow (asked : Prop) (bound : Nat)
    (parse other : Bytes → Nat → Except SpaError SpaValue) : Prop :=
  ∀ data offset, declaredSize data offset < bound →
    Agrees .exhausted asked (parse data offset) (other data offset)

theorem unpackUnsigned_ends (data : Bytes) (offset width : Nat) :
    Ends (unpackUnsigned data offset width) :=
  ends_orElseRaise _ _

theorem unpackSigned_ends (data : Bytes) (offset width : Nat) :
    Ends (unpackSigned data offset width) :=
  (unpackUnsigned_ends data offset width).map

theorem parsePodHeader_ends (data : Bytes) (offset : Nat) : Ends (parsePodHeader data offset) := by
  unfold parsePodHeader
  split
  · exact ends_raise _
  · exact ends_ok _

/-- Loops with agreeing steps agree when every item moves them towards the end. -/
theorem gather_agree {step another : Nat → Except SpaError (Option (Item × Nat))}
    {start finish rounds : Nat} (advances : Advances finish step)
    (agree : ∀ current, start ≤ current → Agrees .exhausted asked (step current) (another current))
    (enough : finish - start < rounds) :
    Agrees .exhausted asked (gather .exhausted step rounds start)
      (gather .exhausted another rounds start) := by
  refine @gather_agrees _ _ _ _ step rounds start asked another (start ≤ ·) (finish - ·) agree ?_
    (Nat.le_refl start) enough
  intro current item next comes found
  have advance := advances current item next found
  omega

/-- The pod that is found has a smaller size than a container with the same end. -/
theorem containedPod_agree (agree : AgreeBelow asked bound parse other) {finish current : Nat}
    (inside : finish ≤ current + bound) :
    Agrees .exhausted asked (containedPod parse data finish current)
      (containedPod other data finish current) := by
  refine ((parsePodHeader_ends data current).agrees asked).bind fun header isHeader => ?_
  obtain ⟨podSize, podType⟩ := header
  dsimp only
  split
  · exact agrees_ok _
  · rename_i fits
    have aligned := le_align (8 + podSize)
    obtain ⟨isSize, -⟩ := parsePodHeader_ok isHeader
    exact (agree data current (by omega)).map

theorem structStep_agree (agree : AgreeBelow asked bound parse other) {finish current : Nat}
    (inside : finish ≤ current + bound) :
    Agrees .exhausted asked (structStep parse data finish current)
      (structStep other data finish current) := by
  unfold structStep
  split
  · exact containedPod_agree agree inside
  · exact agrees_ok _

theorem objectStep_agree (agree : AgreeBelow asked bound parse other) {finish current : Nat}
    (objectId : Nat) (inside : finish ≤ current + bound) :
    Agrees .exhausted asked (objectStep parse data finish objectId current)
      (objectStep other data finish objectId current) := by
  unfold objectStep
  split
  · refine ((unpackUnsigned_ends _ _ _).agrees asked).bind fun key _ =>
      ((unpackUnsigned_ends _ _ _).agrees asked).bind fun flags _ =>
      (containedPod_agree agree (by omega)).bind fun found _ => ?_
    cases found with
    | none => exact agrees_ok _
    | some pair =>
        have ends : Ends (parsedProperty objectId key flags pair.1) := by
          unfold parsedProperty
          split
          · exact (specializePropertyValue_ends _ _ _).map
          · exact ends_ok _
        exact (ends.agrees asked).map
  · exact agrees_ok _

theorem controlStep_agree (agree : AgreeBelow asked bound parse other) {finish current : Nat}
    (inside : finish ≤ current + bound) :
    Agrees .exhausted asked (controlStep parse data finish current)
      (controlStep other data finish current) := by
  unfold controlStep
  split
  · exact ((unpackUnsigned_ends _ _ _).agrees asked).bind fun controlOffset _ =>
      ((unpackUnsigned_ends _ _ _).agrees asked).bind fun controlType _ =>
      (containedPod_agree agree (by omega)).bind fun found _ => agrees_ok _
  · exact agrees_ok _

/-- An item is parsed from a pod assembled for it. -/
theorem itemStep_agree (agree : AgreeBelow asked bound parse other)
    {finish childSize childType current : Nat} (smallSize : childSize < 256 ^ 4)
    (inside : finish < current + bound) :
    Agrees .exhausted asked (itemStep parse data finish childSize childType current)
      (itemStep other data finish childSize childType current) := by
  unfold itemStep
  split
  · have assembled : declaredSize (Bytes.ofNat 4 childSize ++ Bytes.ofNat 4 childType ++
        Bytes.slice data current childSize) 0 = childSize := by
      have start := Bytes.slice_append_left (Bytes.ofNat 4 childSize)
        (Bytes.ofNat 4 childType ++ Bytes.slice data current childSize)
      rw [Bytes.length_ofNat] at start
      rw [declaredSize, List.append_assoc, start, Bytes.toNat_ofNat smallSize]
    exact (agree _ 0 (by rw [assembled]; omega)).map
  · exact agrees_ok _

theorem parseItems_agree (agree : AgreeBelow asked bound parse other)
    {start finish childSize childType : Nat} (smallSize : childSize < 256 ^ 4)
    (inside : finish < start + bound) :
    Agrees .exhausted asked (parseItems parse data start finish childSize childType)
      (parseItems other data start finish childSize childType) := by
  unfold parseItems
  split
  · exact agrees_ok _
  · rename_i nonzero
    refine gather_agree (itemStep_advances parse data finish childType (Nat.pos_of_ne_zero nonzero))
      (fun current after => ?_) (by omega)
    exact itemStep_agree agree smallSize (by omega)

theorem unpackUnsigned_lt {offset width number : Nat}
    (read : unpackUnsigned data offset width = .ok number) : number < 256 ^ width := by
  unfold unpackUnsigned orElseRaise at read
  split at read
  · rename_i value found
    rw [← Except.ok.inj read]
    exact Bytes.readNat_lt found
  · cases read

theorem parseArray_agree {size : Nat} (agree : AgreeBelow asked size parse other) (offset : Nat) :
    Agrees .exhausted asked (parseArray parse data offset size)
      (parseArray other data offset size) := by
  unfold parseArray
  split
  · exact agrees_ok _
  · refine ((unpackUnsigned_ends _ _ _).agrees asked).bind fun childSize isSize =>
      ((unpackUnsigned_ends _ _ _).agrees asked).bind fun childType _ => ?_
    exact (parseItems_agree agree (unpackUnsigned_lt isSize) (by omega)).bind fun _ _ => agrees_ok _

theorem parseStruct_agree {size : Nat} (agree : AgreeBelow asked size parse other) (offset : Nat) :
    Agrees .exhausted asked (parseStruct parse data offset size)
      (parseStruct other data offset size) := by
  refine (gather_agree (structStep_advances parse data _) (fun current after => ?_) (by omega)).map
  exact structStep_agree agree (by omega)

theorem parseObject_agree {size : Nat} (agree : AgreeBelow asked size parse other) (offset : Nat) :
    Agrees .exhausted asked (parseObject parse data offset size)
      (parseObject other data offset size) := by
  unfold parseObject
  split
  · exact agrees_ok _
  · refine ((unpackUnsigned_ends _ _ _).agrees asked).bind fun objectType _ =>
      ((unpackUnsigned_ends _ _ _).agrees asked).bind fun objectId _ => ?_
    refine (gather_agree (objectStep_advances parse data _ _) (fun current after => ?_)
      (by omega)).bind fun _ _ => agrees_ok _
    exact objectStep_agree agree objectId (by omega)

theorem parseChoice_agree {size : Nat} (agree : AgreeBelow asked size parse other) (offset : Nat) :
    Agrees .exhausted asked (parseChoice parse data offset size)
      (parseChoice other data offset size) := by
  unfold parseChoice
  split
  · exact agrees_ok _
  · refine ((unpackUnsigned_ends _ _ _).agrees asked).bind fun choiceType _ =>
      ((unpackUnsigned_ends _ _ _).agrees asked).bind fun flags _ =>
      ((unpackUnsigned_ends _ _ _).agrees asked).bind fun childSize isSize =>
      ((unpackUnsigned_ends _ _ _).agrees asked).bind fun childType _ => ?_
    exact (parseItems_agree agree (unpackUnsigned_lt isSize) (by omega)).bind fun _ _ => agrees_ok _

theorem parseSequence_agree {size : Nat} (agree : AgreeBelow asked size parse other)
    (offset : Nat) :
    Agrees .exhausted asked (parseSequence parse data offset size)
      (parseSequence other data offset size) := by
  unfold parseSequence
  split
  · exact agrees_ok _
  · refine ((unpackUnsigned_ends _ _ _).agrees asked).bind fun unit _ => ?_
    refine (gather_agree (controlStep_advances parse data _) (fun current after => ?_)
      (by omega)).bind fun _ _ => agrees_ok _
    exact controlStep_agree agree (by omega)

theorem parsePointer_ends (data : Bytes) (offset size : Nat) :
    Ends (parsePointer data offset size) := by
  unfold parsePointer
  split
  · exact ends_ok _
  · refine (unpackUnsigned_ends _ _ _).bind fun pointerType => ?_
    split
    · exact (unpackUnsigned_ends _ _ _).bind fun _ => ends_ok _
    · split
      · exact (unpackUnsigned_ends _ _ _).bind fun _ => ends_ok _
      · exact ends_ok _

theorem parseEmbeddedPod_agree {size : Nat} (agree : AgreeBelow asked size parse other)
    (offset : Nat) :
    Agrees .exhausted asked (parseEmbeddedPod parse data offset size)
      (parseEmbeddedPod other data offset size) := by
  unfold parseEmbeddedPod
  split
  · exact agrees_ok _
  · refine ((parsePodHeader_ends data offset).agrees asked).bind fun header isHeader => ?_
    obtain ⟨podSize, podType⟩ := header
    dsimp only
    split
    · exact (ends_raise _).agrees asked
    · have aligned := le_align (8 + podSize)
      obtain ⟨isSize, -⟩ := parsePodHeader_ok isHeader
      exact (agree data offset (by omega)).map

theorem parseBody_agree {size : Nat} (agree : AgreeBelow asked size parse other) (offset : Nat)
    (podType : PodType) :
    Agrees .exhausted asked (parseBody parse data offset size podType)
      (parseBody other data offset size podType) := by
  have pair : ∀ {make : Nat → Nat → SpaValue},
      Ends (do
        let first ← unpackUnsigned data offset 4
        let second ← unpackUnsigned data (offset + 4) 4
        .ok (make first second)) := fun {_} =>
    (unpackUnsigned_ends _ _ _).bind fun _ => (unpackUnsigned_ends _ _ _).bind fun _ => ends_ok _
  cases podType with
  | none | string | bytes | bitmap => exact agrees_ok _
  | bool | int | long | fd => exact (unpackSigned_ends _ _ _).map.agrees asked
  | id => exact ((unpackUnsigned_ends _ _ _).bind fun _ => ends_ok _).map.agrees asked
  | float | double => exact (unpackUnsigned_ends _ _ _).map.agrees asked
  | rectangle | fraction => exact pair.agrees asked
  | array => exact parseArray_agree agree offset
  | struct => exact parseStruct_agree agree offset
  | object => exact parseObject_agree agree offset
  | sequence => exact parseSequence_agree agree offset
  | pointer => exact (parsePointer_ends data offset size).agrees asked
  | choice => exact parseChoice_agree agree offset
  | pod => exact parseEmbeddedPod_agree agree offset

/-- A pod is parsed from what smaller pods are parsed to. -/
theorem parsePod_agree {offset : Nat}
    (agree : AgreeBelow asked (declaredSize data offset) parse other) :
    Agrees .exhausted asked (parsePod parse data offset) (parsePod other data offset) := by
  refine ((parsePodHeader_ends data offset).agrees asked).bind fun header isHeader => ?_
  obtain ⟨size, podType⟩ := header
  dsimp only
  have available : Ends (ensureAvailable data (offset + 8) size) := by
    unfold ensureAvailable
    split
    · exact ends_raise _
    · exact ends_ok _
  refine (available.agrees asked).bind fun _ _ => ?_
  split
  · obtain ⟨isSize, -⟩ := parsePodHeader_ok isHeader
    exact parseBody_agree (isSize ▸ agree) _ _
  · exact agrees_ok _

end Nesting

section Termination

/-- Fuel above the declared size is never used up, and more of it changes nothing. -/
theorem parseSpaPod_agree {size : Nat} : ∀ {fuel more : Nat} {data : Bytes} {offset : Nat},
    declaredSize data offset ≤ size → size < fuel → size < more →
      Agrees .exhausted True (parseSpaPod fuel data offset) (parseSpaPod more data offset) := by
  induction size using Nat.strong_induction_on with
  | _ size inductionHypothesis =>
      intro fuel more data offset small enough moreEnough
      obtain ⟨fuel, rfl⟩ : ∃ less, fuel = less + 1 := ⟨fuel - 1, by omega⟩
      obtain ⟨more, rfl⟩ : ∃ less, more = less + 1 := ⟨more - 1, by omega⟩
      refine parsePod_agree fun inner position smaller => ?_
      exact inductionHypothesis (declaredSize inner position) (by omega) (Nat.le_refl _) (by omega)
        (by omega)

/-- Every loop over the contents of a container moves towards its end. -/
structure LoopsAdvance (data : Bytes) (finish : Nat) : Prop where
  struct : ∀ parse, Advances finish (structStep parse data finish)
  object : ∀ parse objectId, Advances finish (objectStep parse data finish objectId)
  sequence : ∀ parse, Advances finish (controlStep parse data finish)
  items : ∀ parse childSize childType, 0 < childSize →
    Advances finish (itemStep parse data finish childSize childType)

/-- The calls for contained pods are for pods of a smaller declared size alone. -/
def RecursesBelow (data : Bytes) (offset : Nat) : Prop :=
  ∀ parse other : Bytes → Nat → Except SpaError SpaValue,
    (∀ inner position, declaredSize inner position < declaredSize data offset →
      parse inner position = other inner position) →
    parsePod parse data offset = parsePod other data offset

/-- The parser ends on every byte string at every offset. -/
theorem parseSpaPod_terminates (data : Bytes) (offset : Nat) :
    (∀ fuel, declaredSize data offset < fuel →
      parseSpaPod fuel data offset ≠ .error .exhausted ∧
        parseSpaPod fuel data offset = parseSpaPod (declaredSize data offset + 1) data offset) ∧
    (∀ finish, LoopsAdvance data finish) ∧ RecursesBelow data offset := by
  refine ⟨fun fuel enough => ?_, fun finish => ?_, fun parse other same => ?_⟩
  · have agrees := parseSpaPod_agree (Nat.le_refl (declaredSize data offset)) enough
      (Nat.lt_succ_self _)
    exact ⟨agrees.2 trivial, agrees.1⟩
  · exact ⟨fun parse => structStep_advances parse data finish,
      fun parse objectId => objectStep_advances parse data finish objectId,
      fun parse => controlStep_advances parse data finish,
      fun parse _ childType positive => itemStep_advances parse data finish childType positive⟩
  · have agree : AgreeBelow False (declaredSize data offset) parse other :=
      fun inner position smaller => ⟨same inner position smaller, fun asked => asked.elim⟩
    exact (parsePod_agree agree).1

end Termination

end WyrePlumber.Spa
