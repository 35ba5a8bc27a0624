import WyrePlumber.Spa.AccessStyles
import WyrePlumber.Spa.Build

/-!
# Emitted properties

What `build_spa_pod` writes for a typed object: one entry for each stored
property, with the key of its spec and the flags the object kept for it.
-/

set_option autoImplicit false
set_option linter.constructorNameAsVariable false

namespace WyrePlumber.Spa

open Python Results

section PackedPods

/-- A pod as `_pack_pod` lays it out. -/
def Packed (pod : Bytes) : Prop := ∃ podType body, packPod podType body = .ok pod

/-- Every successful outcome is a packed pod. -/
def Packs (result : Except SpaError Bytes) : Prop := ∀ pod, result = .ok pod → Packed pod

variable {Value : Type} {pod : Bytes}

theorem packs_packPod (podType : PodType) (body : Bytes) : Packs (packPod podType body) :=
  fun _ packed => ⟨podType, body, packed⟩

theorem packs_error (error : SpaError) : Packs (.error error) := by
  intro pod packed
  cases packed

theorem packs_bind {first : Except SpaError Value} {next : Value → Except SpaError Bytes}
    (each : ∀ value, Packs (next value)) : Packs (first >>= next) := by
  intro pod packed
  obtain ⟨value, -, later⟩ := bind_ok packed
  exact each value pod later

theorem Packed.layout (packed : Packed pod) :
    ∃ size, size < 2 ^ 32 ∧ Bytes.toNat (Bytes.slice pod 0 4) = size ∧
      pod.length = align (headerSize + size) := by
  obtain ⟨podType, body, isPod⟩ := packed
  obtain ⟨size, isSize, whole⟩ := bind_ok isPod
  unfold packUnsigned at isSize
  split at isSize
  · rename_i inRange
    have small : body.length < 256 ^ 4 := by omega
    have aligned := le_align (headerSize + body.length)
    refine ⟨body.length, by omega, ?_, ?_⟩
    · rw [← Except.ok.inj whole, ← Except.ok.inj isSize, Int.toNat_natCast]
      have front : Bytes.slice (Bytes.ofNat 4 body.length ++ Bytes.ofNat 4 podType.code ++ body ++
          List.replicate (align (headerSize + body.length) - (headerSize + body.length)) 0) 0 4 =
          Bytes.ofNat 4 body.length := by
        have start := Bytes.slice_append_left (Bytes.ofNat 4 body.length)
          (Bytes.ofNat 4 podType.code ++ (body ++
            List.replicate (align (headerSize + body.length) - (headerSize + body.length)) 0))
        rw [Bytes.length_ofNat] at start
        rw [List.append_assoc, List.append_assoc, start]
      rw [front, Bytes.toNat_ofNat small]
    · rw [← Except.ok.inj whole, ← Except.ok.inj isSize, Int.toNat_natCast]
      simp only [List.length_append, Bytes.length_ofNat, List.length_replicate]
      rw [headerSize] at aligned ⊢
      omega
  · cases isSize

end PackedPods

section Builders

variable (display : SpaValue → PyString)
  (build : SpaValue → Option SpaValue → Except SpaError Bytes)

theorem packs_buildPair (podType : PodType) (first second problem : String) (value : SpaValue) :
    Packs (buildPair podType first second problem value) :=
  packs_bind fun _ => packs_bind fun _ => packs_bind fun _ => packs_packPod _ _

theorem packs_buildArrayPod (value : SpaValue) : Packs (buildArrayPod build value) :=
  packs_bind fun _ => packs_bind fun _ => packs_bind fun _ => packs_bind fun _ =>
    packs_bind fun _ => packs_bind fun _ => packs_bind fun _ => packs_packPod _ _

theorem packs_buildStructPod (value : SpaValue) : Packs (buildStructPod build value) :=
  packs_bind fun _ => packs_bind fun _ => packs_packPod _ _

theorem packs_buildChoicePod (value : SpaValue) : Packs (buildChoicePod build value) := by
  unfold buildChoicePod
  split
  · exact packs_error _
  · exact packs_bind fun _ => packs_bind fun _ => packs_bind fun _ => packs_bind fun _ =>
      packs_bind fun _ => packs_bind fun _ => packs_bind fun _ => packs_bind fun _ =>
      packs_bind fun _ => packs_bind fun _ => packs_bind fun _ => packs_packPod _ _

theorem packs_buildObject (objectType objectId : Int)
    (properties propertyFlags propertyKeys : List (SpaKey × SpaValue)) :
    Packs (buildObject display build objectType objectId properties propertyFlags propertyKeys) :=
  packs_bind fun _ => packs_bind fun _ => packs_bind fun _ => packs_packPod _ _

theorem packs_buildObjectPod (value : SpaValue) : Packs (buildObjectPod display build value) := by
  unfold buildObjectPod
  split
  · exact packs_buildObject display build _ _ _ _ _
  · exact packs_bind fun _ => packs_bind fun _ => packs_bind fun _ =>
      packs_buildObject display build _ _ _ _ _
  · exact packs_error _

theorem packs_buildSequencePod (value : SpaValue) : Packs (buildSequencePod build value) := by
  unfold buildSequencePod
  split
  · exact packs_error _
  · refine packs_bind fun _ => ?_
    split
    · exact packs_error _
    · exact packs_bind fun _ => packs_bind fun _ => packs_packPod _ _

theorem packs_buildPointerPod (value : SpaValue) : Packs (buildPointerPod value) := by
  unfold buildPointerPod
  split
  · exact packs_error _
  · exact packs_bind fun _ => packs_bind fun _ => packs_bind fun _ => packs_bind fun _ =>
      packs_packPod _ _

theorem packs_buildEmbeddedPod (value : SpaValue) : Packs (buildEmbeddedPod build value) := by
  refine packs_bind fun _ => ?_
  split
  · exact packs_error _
  · exact packs_packPod _ _

theorem packs_buildPod (value : SpaValue) (given : Option SpaValue) :
    Packs (buildPod display build value given) := by
  unfold buildPod
  refine packs_bind fun podType => ?_
  split
  · exact packs_packPod _ _
  · exact packs_packPod _ _
  · exact packs_bind fun _ => packs_bind fun _ => packs_packPod _ _
  · exact packs_bind fun _ => packs_bind fun _ => packs_packPod _ _
  · exact packs_bind fun _ => packs_bind fun _ => packs_packPod _ _
  · exact packs_bind fun _ => packs_bind fun _ => packs_packPod _ _
  · exact packs_bind fun _ => packs_packPod _ _
  · exact packs_bind fun _ => packs_packPod _ _
  · exact packs_bind fun _ => packs_packPod _ _
  · exact packs_buildPair _ _ _ _ _
  · exact packs_buildPair _ _ _ _ _
  · exact packs_bind fun _ => packs_packPod _ _
  · exact packs_buildArrayPod build value
  · exact packs_buildStructPod build value
  · exact packs_buildObjectPod display build value
  · exact packs_buildSequencePod build value
  · exact packs_buildPointerPod value
  · exact packs_bind fun _ => packs_bind fun _ => packs_packPod _ _
  · exact packs_buildChoicePod build value
  · exact packs_buildEmbeddedPod build value
  · exact packs_error _

theorem packs_buildSpaPod (fuel : Nat) (value : SpaValue) (given : Option SpaValue) :
    Packs (buildSpaPod display fuel value given) := by
  cases fuel with
  | zero => exact packs_error _
  | succ fuel => exact packs_buildPod display _ value given

end Builders

section Heads

/-- The keys and flags of the entries in the body of an object pod. -/
def propertyHeads : Nat → Bytes → List (Int × Int)
  | 0, _ => []
  | fuel + 1, body =>
      if body.length < 16 then []
      else
        (Bytes.toNat (Bytes.slice body 0 4), Bytes.toNat (Bytes.slice body 4 4)) ::
          propertyHeads fuel
            (body.drop (8 + align (headerSize + Bytes.toNat (Bytes.slice body 8 4))))

/-- The keys and flags of the entries of an object pod, in order. -/
def objectHeads (pod : Bytes) : List (Int × Int) :=
  let size := Bytes.toNat (Bytes.slice pod 0 4)
  propertyHeads size (Bytes.slice pod 16 (size - 8))

variable {pod rest : Bytes} {key flag : Nat}

theorem slice_prefix {front tail : Bytes} {start size : Nat} (inside : start + size ≤ front.length) :
    Bytes.slice (front ++ tail) start size = Bytes.slice front start size := by
  rw [Bytes.slice, Bytes.slice, List.drop_append_of_le_length (by omega), List.take_append_of_le_length]
  rw [List.length_drop]
  omega

theorem propertyHeads_chunk (packed : Packed pod) (smallKey : key < 2 ^ 32)
    (smallFlag : flag < 2 ^ 32) (fuel : Nat) (rest : Bytes) :
    propertyHeads (fuel + 1) (Bytes.ofNat 4 key ++ Bytes.ofNat 4 flag ++ pod ++ rest) =
      (↑key, ↑flag) :: propertyHeads fuel rest := by
  obtain ⟨size, small, isSize, length⟩ := packed.layout
  have enough : 8 ≤ pod.length := by
    rw [length, align, headerSize]
    omega
  have keyBytes : Bytes.slice (Bytes.ofNat 4 key ++ Bytes.ofNat 4 flag ++ pod ++ rest) 0 4 =
      Bytes.ofNat 4 key := by
    have start := Bytes.slice_append_left (Bytes.ofNat 4 key) (Bytes.ofNat 4 flag ++ (pod ++ rest))
    rw [Bytes.length_ofNat] at start
    rw [List.append_assoc, List.append_assoc, start]
  have flagBytes : Bytes.slice (Bytes.ofNat 4 key ++ Bytes.ofNat 4 flag ++ pod ++ rest) 4 4 =
      Bytes.ofNat 4 flag := by
    have skipped := Bytes.slice_append_right (Bytes.ofNat 4 key)
      (Bytes.ofNat 4 flag ++ (pod ++ rest)) 0 4
    have start := Bytes.slice_append_left (Bytes.ofNat 4 flag) (pod ++ rest)
    rw [Bytes.length_ofNat] at skipped start
    rw [List.append_assoc, List.append_assoc, skipped, start]
  have sizeBytes : Bytes.slice (Bytes.ofNat 4 key ++ Bytes.ofNat 4 flag ++ pod ++ rest) 8 4 =
      Bytes.slice pod 0 4 := by
    have skipped := Bytes.slice_append_right (Bytes.ofNat 4 key ++ Bytes.ofNat 4 flag)
      (pod ++ rest) 0 4
    rw [List.length_append, Bytes.length_ofNat, Bytes.length_ofNat] at skipped
    rw [List.append_assoc _ pod, skipped]
    exact slice_prefix (by omega)
  have remaining : (Bytes.ofNat 4 key ++ Bytes.ofNat 4 flag ++ pod ++ rest).drop
      (8 + align (headerSize + size)) = rest := by
    rw [← length]
    apply List.drop_left'
    simp only [List.length_append, Bytes.length_ofNat]
  rw [propertyHeads, if_neg (by simp only [List.length_append, Bytes.length_ofNat]; omega), keyBytes,
    flagBytes, sizeBytes, isSize, remaining, Bytes.toNat_ofNat (by omega),
    Bytes.toNat_ofNat (by omega)]

/-- An entry of an object pod with its key and its flags. -/
def Entry (head : Int × Int) (chunk : Bytes) : Prop :=
  ∃ pod, Packed pod ∧ (0 ≤ head.1 ∧ head.1 < 256 ^ 4) ∧ (0 ≤ head.2 ∧ head.2 < 256 ^ 4) ∧
    chunk = Bytes.ofNat 4 head.1.toNat ++ Bytes.ofNat 4 head.2.toNat ++ pod

theorem propertyHeads_chunks {heads : List (Int × Int)} {chunks : List Bytes}
    (entries : List.Forall₂ Entry heads chunks) (fuel : Nat) (enough : heads.length ≤ fuel) :
    propertyHeads fuel chunks.flatten = heads := by
  induction entries generalizing fuel with
  | nil => cases fuel <;> rfl
  | @cons head chunk heads chunks entry _ inductionHypothesis =>
      obtain ⟨pod, packed, keyRange, flagRange, isChunk⟩ := entry
      cases fuel with
      | zero =>
          rw [List.length_cons] at enough
          omega
      | succ fuel =>
          rw [List.length_cons] at enough
          have tail := inductionHypothesis fuel (by omega)
          rw [List.flatten_cons, isChunk, propertyHeads_chunk packed (by omega) (by omega), tail,
            Int.toNat_of_nonneg keyRange.1, Int.toNat_of_nonneg flagRange.1]

theorem entries_length {heads : List (Int × Int)} {chunks : List Bytes}
    (entries : List.Forall₂ Entry heads chunks) : heads.length ≤ chunks.flatten.length := by
  induction entries with
  | nil => exact Nat.le_refl _
  | cons entry _ inductionHypothesis =>
      obtain ⟨pod, -, -, -, isChunk⟩ := entry
      rw [List.flatten_cons, List.length_append, List.length_cons, isChunk]
      simp only [List.length_append, Bytes.length_ofNat]
      omega

theorem packUnsigned_ok {width : Nat} {value : Int} {data : Bytes}
    (packed : packUnsigned width value = .ok data) :
    (0 ≤ value ∧ value < 256 ^ width) ∧ data = Bytes.ofNat width value.toNat := by
  unfold packUnsigned at packed
  split at packed
  · exact ⟨‹_›, (Except.ok.inj packed).symm⟩
  · cases packed

/-- An object pod reads back as the entries it was packed from. -/
theorem objectHeads_packed {head identity : Bytes} {heads : List (Int × Int)}
    {chunks : List Bytes} (headLength : head.length = 4) (identityLength : identity.length = 4)
    (entries : List.Forall₂ Entry heads chunks)
    (packed : packPod .object (head ++ identity ++ chunks.flatten) = .ok pod) :
    objectHeads pod = heads := by
  obtain ⟨sizeBytes, isSize, whole⟩ := bind_ok packed
  obtain ⟨range, isBytes⟩ := packUnsigned_ok isSize
  have bodyLength : (head ++ identity ++ chunks.flatten).length = 8 + chunks.flatten.length := by
    simp only [List.length_append, headLength, identityLength]
  have small : (head ++ identity ++ chunks.flatten).length < 256 ^ 4 := by omega
  have count := entries_length entries
  rw [Int.toNat_natCast] at isBytes
  generalize padding : List.replicate (align (headerSize +
    (head ++ identity ++ chunks.flatten).length) -
    (headerSize + (head ++ identity ++ chunks.flatten).length)) (0 : UInt8) = zeros at whole
  have isPod : pod = Bytes.ofNat 4 (head ++ identity ++ chunks.flatten).length ++
      (Bytes.ofNat 4 PodType.object.code ++ head ++ identity) ++ (chunks.flatten ++ zeros) := by
    rw [← Except.ok.inj whole, isBytes]
    simp only [List.append_assoc]
  have sizeField : Bytes.toNat (Bytes.slice pod 0 4) = 8 + chunks.flatten.length := by
    have start := Bytes.slice_append_left
      (Bytes.ofNat 4 (head ++ identity ++ chunks.flatten).length)
      (Bytes.ofNat 4 PodType.object.code ++ head ++ identity ++ (chunks.flatten ++ zeros))
    rw [Bytes.length_ofNat] at start
    rw [isPod, List.append_assoc, start, Bytes.toNat_ofNat small, bodyLength]
  have bodyBytes : Bytes.slice pod 16 (8 + chunks.flatten.length - 8) = chunks.flatten := by
    have skipped := Bytes.slice_append_right
      (Bytes.ofNat 4 (head ++ identity ++ chunks.flatten).length ++
        (Bytes.ofNat 4 PodType.object.code ++ head ++ identity)) (chunks.flatten ++ zeros) 0
      (8 + chunks.flatten.length - 8)
    have start := Bytes.slice_append_left chunks.flatten zeros
    have frontLength : (Bytes.ofNat 4 (head ++ identity ++ chunks.flatten).length ++
        (Bytes.ofNat 4 PodType.object.code ++ head ++ identity)).length = 16 := by
      simp only [List.length_append, Bytes.length_ofNat, headLength, identityLength]
    rw [frontLength] at skipped
    rw [isPod, skipped, Nat.add_sub_cancel_left, start]
  rw [objectHeads, sizeField, bodyBytes]
  exact propertyHeads_chunks entries _ (by omega)

end Heads

section Emission

namespace SpaPodObject

variable {objectClass : ObjectClass} {propertyFlags : List (SpaKey × Int)}
  {current : History SpaValue} {display : SpaValue → PyString}

/-- The number under which the property of a storage key is written. -/
def numericKey (objectClass : ObjectClass) : SpaKey → Int
  | .number key => key
  | .name name => ((objectClass.specByName name).map PropertySpec.key).getD 0

theorem notNone_int (number : Option Int) :
    notNone (number.map SpaValue.int) = number.map SpaValue.int := by
  cases number <;> rfl

theorem lookup_intTable (table : List (SpaKey × Int)) (key : SpaKey) :
    (intTable table).lookup key = (table.lookup key).map SpaValue.int := by
  induction table with
  | nil => rfl
  | cons item rest inductionHypothesis =>
      rw [intTable] at inductionHypothesis ⊢
      rw [List.map_cons, Dictionary.lookup_cons, Dictionary.lookup_cons, inductionHypothesis]
      split <;> rfl

theorem resolveKey_stored (wellFormed : objectClass.WellFormed)
    (tracked : Tracked objectClass propertyFlags current) {key : SpaKey}
    (admitted : objectClass.Admits key) :
    ∃ spec, resolveKey current.object.header.objectId
      (intTable current.object.header.propertyKeys) key =
        .ok (.int (numericKey objectClass key), spec) := by
  cases key with
  | number number => exact ⟨_, rfl⟩
  | name name =>
      obtain ⟨spec, member, isName⟩ := admitted
      have byName : objectClass.specByName name = some spec := by
        rw [← isName]
        exact objectClass.specByName_mem wellFormed member
      have registered : propertySpecByName current.object.header.objectId name = some spec := by
        rw [propertySpecByName, tracked.sameId, wellFormed.registered]
        exact byName
      have number : numericKey objectClass (.name name) = spec.key := by
        rw [numericKey, byName, Option.map_some, Option.getD_some]
      unfold resolveKey
      dsimp only
      rw [lookup_intTable, notNone_int, registered, number]
      cases known : current.object.header.propertyKeys.lookup (.name name) with
      | none => exact ⟨_, rfl⟩
      | some given =>
          obtain ⟨other, otherMember, otherName, isGiven⟩ := tracked.keys _ _ known
          have sameName : other.name = spec.name := by
            rw [isName]
            exact (SpaKey.name.inj otherName).symm
          have same : other = spec :=
            List.inj_on_of_nodup_map wellFormed.names otherMember member sameName
          rw [isGiven, same]
          exact ⟨_, rfl⟩

theorem pyInt_flag (tracked : Tracked objectClass propertyFlags current) {key : SpaKey}
    (own : objectClass.storageKey key = key) :
    pyInt (((intTable current.object.header.propertyFlags).lookup key).getD (.int 0)) =
      .ok (keptFlag propertyFlags current.deleted key) := by
  rw [lookup_intTable, ← keptFlag_of_lookup tracked own]
  cases current.object.header.propertyFlags.lookup key <;> rfl

/-- Each stored property is written with its number and the flags kept for it. -/
theorem buildProperty_entry (wellFormed : objectClass.WellFormed)
    (tracked : Tracked objectClass propertyFlags current) {fuel : Nat} {item : SpaKey × SpaValue}
    (stored : item ∈ current.object.properties) {chunk : Bytes}
    (built : buildProperty display (buildSpaPod display fuel) current.object.header.objectId
      (intTable current.object.header.propertyFlags) (intTable current.object.header.propertyKeys)
      item = .ok chunk) :
    Entry (numericKey objectClass item.1, keptFlag propertyFlags current.deleted item.1) chunk := by
  obtain ⟨admitted, own⟩ := tracked.stored item.1 (List.mem_map_of_mem stored)
  obtain ⟨spec, resolved⟩ := resolveKey_stored wellFormed tracked admitted
  unfold buildProperty at built
  rw [resolved, pyInt_flag tracked own] at built
  obtain ⟨_, isResolved, afterResolve⟩ := bind_ok built
  cases isResolved
  obtain ⟨_, isNumber, afterNumber⟩ := bind_ok afterResolve
  cases isNumber
  obtain ⟨prepared, -, afterPrepare⟩ := bind_ok afterNumber
  obtain ⟨pod, isPod, afterPod⟩ := bind_ok afterPrepare
  obtain ⟨_, isFlags, afterFlags⟩ := bind_ok afterPod
  cases isFlags
  obtain ⟨keyBytes, isKey, afterKey⟩ := bind_ok afterFlags
  obtain ⟨flagBytes, isFlag, whole⟩ := bind_ok afterKey
  obtain ⟨keyRange, keyWritten⟩ := packUnsigned_ok isKey
  obtain ⟨flagRange, flagWritten⟩ := packUnsigned_ok isFlag
  refine ⟨pod, packs_buildSpaPod display fuel prepared _ pod isPod, keyRange, flagRange, ?_⟩
  rw [← Except.ok.inj whole, keyWritten, flagWritten]

/-- No property name is read as the type of a pod. -/
theorem explicitPodType_object (wellFormed : objectClass.WellFormed)
    (tracked : Tracked objectClass propertyFlags current) :
    explicitPodType current.object.value = none := by
  have missing : ∀ name : String, (∀ spec ∈ objectClass.specs, spec.name ≠ text name) →
      intField current.object.properties name = none := by
    intro name other
    have absent : getField current.object.properties name = none := by
      refine Dictionary.lookup_eq_none_iff.mpr fun member => ?_
      obtain ⟨spec, inSpecs, isName⟩ := (tracked.stored _ member).1
      exact other spec inSpecs isName
    rw [intField, absent]
    rfl
  have first := missing "_pod_type" fun spec member => (wellFormed.untyped spec member).1
  have second := missing "pod_type" fun spec member => (wellFormed.untyped spec member).2
  unfold explicitPodType value SpaValue.mapping?
  dsimp only
  rw [first, second]
  rfl

theorem chosenType_object (wellFormed : objectClass.WellFormed)
    (tracked : Tracked objectClass propertyFlags current) :
    chosenType current.object.value none = .ok (.int PodType.object.code) := by
  unfold chosenType inferSpaType
  rw [explicitPodType_object wellFormed tracked]
  rfl

theorem podTypeOf_object : podTypeOf? (.int PodType.object.code) = some .object := by rfl

theorem buildSpaPod_object (wellFormed : objectClass.WellFormed)
    (tracked : Tracked objectClass propertyFlags current) (fuel : Nat) :
    buildSpaPod display (fuel + 1) current.object.value none =
      buildObject display (buildSpaPod display fuel) current.object.header.objectType
        current.object.header.objectId current.object.properties
        (intTable current.object.header.propertyFlags)
        (intTable current.object.header.propertyKeys) := by
  rw [buildSpaPod, buildPod, chosenType_object wellFormed tracked]
  dsimp only [bind, Except.bind]
  rw [podTypeOf_object]
  rfl

/-- The entries of a built object are its stored properties, each once and in order. -/
theorem objectHeads_built (wellFormed : objectClass.WellFormed)
    (tracked : Tracked objectClass propertyFlags current) {fuel : Nat} {pod : Bytes}
    (built : buildSpaPod display fuel current.object.value none = .ok pod) :
    objectHeads pod = current.object.properties.map fun item =>
      (numericKey objectClass item.1, keptFlag propertyFlags current.deleted item.1) := by
  cases fuel with
  | zero => cases built
  | succ fuel =>
      rw [buildSpaPod_object wellFormed tracked] at built
      obtain ⟨head, isHead, afterHead⟩ := bind_ok built
      obtain ⟨identity, isIdentity, afterIdentity⟩ := bind_ok afterHead
      obtain ⟨chunks, eachBuilt, packed⟩ := bind_ok afterIdentity
      have headLength : head.length = 4 := by
        rw [(packUnsigned_ok isHead).2, Bytes.length_ofNat]
      have identityLength : identity.length = 4 := by
        rw [(packUnsigned_ok isIdentity).2, Bytes.length_ofNat]
      have entries : List.Forall₂ Entry (current.object.properties.map fun item =>
          (numericKey objectClass item.1, keptFlag propertyFlags current.deleted item.1))
          chunks := by
        rw [List.forall₂_map_left_iff]
        have related := mapM_ok_iff.mp eachBuilt
        have stored := (List.forall₂_and_left _ _).mpr ⟨fun _ inItems => inItems, related⟩
        exact stored.imp fun item chunk both =>
          buildProperty_entry wellFormed tracked both.1 both.2
      exact objectHeads_packed headLength identityLength entries packed

end SpaPodObject

end Emission

section Agreement

namespace SpaPodObject

variable {objectClass : ObjectClass} {propertyFlags : List (SpaKey × Int)}
  {current : History SpaValue} {spec : PropertySpec}

/-- The flags supplied for a property, under its name or else under its number. -/
def suppliedFlag (objectClass : ObjectClass) (propertyFlags : List (SpaKey × Int))
    (key : SpaKey) : Int :=
  (propertyFlags.lookup key).getD
    ((propertyFlags.lookup (.number (numericKey objectClass key))).getD 0)

/-- The flags to be written for a property: the supplied ones until it is deleted. -/
def claimedFlag (objectClass : ObjectClass) (propertyFlags : List (SpaKey × Int))
    (deleted : List SpaKey) (key : SpaKey) : Int :=
  if key ∈ deleted then 0 else suppliedFlag objectClass propertyFlags key

/-- Flags are supplied for a property under its number and not under its name. -/
def NumberedAlone (objectClass : ObjectClass) (propertyFlags : List (SpaKey × Int))
    (key : SpaKey) : Prop :=
  propertyFlags.lookup key = none ∧
    propertyFlags.lookup (.number (numericKey objectClass key)) ≠ none

/-- Both return the same value, or both raise `KeyError`. -/
def SameResult (first second : Except KeyError SpaValue) : Prop :=
  first.toOption = second.toOption

/-- What the access styles of an object promise each other.  Of flags that are
supplied under the number of a property alone nothing is said while it is undeleted. -/
structure StylesAgree (objectClass : ObjectClass) (propertyFlags : List (SpaKey × Int))
    (current : History SpaValue) : Prop where
  items : ∀ spec ∈ objectClass.specs,
    SameResult (current.object.getItem (.number spec.key))
      (current.object.getItem (.name spec.name))
  stored : ∀ spec ∈ objectClass.specs,
    .name spec.name ∈ current.object.properties.map Prod.fst →
      current.object.getItem (.name spec.name) = .ok (current.object.getAttribute spec)
  absent : ∀ spec ∈ objectClass.specs,
    .name spec.name ∉ current.object.properties.map Prod.fst →
      current.object.getItem (.name spec.name) = .error ⟨.name spec.name⟩ ∧
        current.object.getAttribute spec = .none
  named : ∀ spec ∈ objectClass.specs,
    .number spec.key ∉ current.object.properties.map Prod.fst
  once : (current.object.properties.map Prod.fst).Nodup
  emitted : ∀ display fuel pod,
    buildSpaPod display fuel current.object.value none = .ok pod →
      List.Forall₂ (fun item entry => entry.1 = numericKey objectClass item.1 ∧
          (NumberedAlone objectClass propertyFlags item.1 ∧ item.1 ∉ current.deleted ∨
            entry.2 = claimedFlag objectClass propertyFlags current.deleted item.1))
        current.object.properties (objectHeads pod)

/-- Every stored property is written once, with the flags supplied for it under
either key. -/
def FlagsWritten (objectClass : ObjectClass) (propertyFlags : List (SpaKey × Int))
    (current : History SpaValue) : Prop :=
  ∀ display fuel pod, buildSpaPod display fuel current.object.value none = .ok pod →
    objectHeads pod = current.object.properties.map fun item =>
      (numericKey objectClass item.1,
        claimedFlag objectClass propertyFlags current.deleted item.1)

/-- No flags but zero are supplied under the number of a property alone. -/
def FlagsNamed (objectClass : ObjectClass) (propertyFlags : List (SpaKey × Int)) : Prop :=
  ∀ spec ∈ objectClass.specs, propertyFlags.lookup (.name spec.name) = none →
    (propertyFlags.lookup (.number spec.key)).getD 0 = 0

theorem numericKey_name (wellFormed : objectClass.WellFormed) (member : spec ∈ objectClass.specs) :
    numericKey objectClass (.name spec.name) = spec.key := by
  rw [numericKey, objectClass.specByName_mem wellFormed member, Option.map_some, Option.getD_some]

theorem keptFlag_claimed (wellFormed : objectClass.WellFormed)
    (flagsNamed : FlagsNamed objectClass propertyFlags) (deleted : List SpaKey) {key : SpaKey}
    (admitted : objectClass.Admits key) :
    keptFlag propertyFlags deleted key = claimedFlag objectClass propertyFlags deleted key := by
  rw [keptFlag, claimedFlag, suppliedFlag]
  cases supplied : propertyFlags.lookup key with
  | some flags => rfl
  | none =>
      have alone : (propertyFlags.lookup (.number (numericKey objectClass key))).getD 0 = 0 := by
        cases key with
        | number number =>
            rw [numericKey, supplied]
            rfl
        | name name =>
            obtain ⟨spec, member, isName⟩ := admitted
            rw [← isName] at supplied ⊢
            rw [numericKey_name wellFormed member]
            exact flagsNamed spec member supplied
      rw [Option.getD_none, Option.getD_none, alone]

theorem flagsWritten_of_flagsNamed (wellFormed : objectClass.WellFormed)
    (flagsNamed : FlagsNamed objectClass propertyFlags)
    (tracked : Tracked objectClass propertyFlags current) :
    FlagsWritten objectClass propertyFlags current := by
  intro display fuel pod built
  rw [objectHeads_built wellFormed tracked built]
  refine List.map_congr_left fun item stored => ?_
  have admitted := (tracked.stored item.1 (List.mem_map_of_mem stored)).1
  rw [keptFlag_claimed wellFormed flagsNamed current.deleted admitted]

/-- The flags that an object keeps are the supplied ones, those under a number apart. -/
theorem keptFlag_named (deleted : List SpaKey) (key : SpaKey) :
    NumberedAlone objectClass propertyFlags key ∧ key ∉ deleted ∨
      keptFlag propertyFlags deleted key = claimedFlag objectClass propertyFlags deleted key := by
  unfold NumberedAlone keptFlag claimedFlag suppliedFlag
  by_cases removed : key ∈ deleted
  · exact .inr (by rw [if_pos removed, if_pos removed])
  · rw [if_neg removed, if_neg removed]
    cases propertyFlags.lookup key with
    | some flags => exact .inr rfl
    | none =>
        cases propertyFlags.lookup (.number (numericKey objectClass key)) with
        | some flags => exact .inl ⟨⟨rfl, Option.some_ne_none flags⟩, removed⟩
        | none => exact .inr rfl

theorem Tracked.stylesAgree (wellFormed : objectClass.WellFormed)
    (tracked : Tracked objectClass propertyFlags current) :
    StylesAgree objectClass propertyFlags current where
  items spec member := by
    cases held : current.object.properties.lookup (.name spec.name) with
    | some value =>
        obtain ⟨byNumber, byName⟩ := getItem_stored wellFormed tracked member held
        rw [SameResult, byNumber, byName]
    | none =>
        obtain ⟨byNumber, byName⟩ := getItem_absent wellFormed tracked member held
        rw [SameResult, byNumber, byName]
        rfl
  stored spec member present := by
    obtain ⟨value, held⟩ := Option.isSome_iff_exists.mp (Dictionary.lookup_isSome_iff.mpr present)
    have byName := (getItem_stored wellFormed tracked member held).2
    rw [getAttribute, SpaPodObject.get, byName]
  absent spec member missing := by
    have byName := (getItem_absent wellFormed tracked member
      (Dictionary.lookup_eq_none_iff.mpr missing)).2
    rw [getAttribute, SpaPodObject.get, byName]
    exact ⟨rfl, rfl⟩
  named spec member := tracked.number_not_stored wellFormed member
  once := tracked.distinct
  emitted display fuel pod built := by
    rw [objectHeads_built wellFormed tracked built, List.forall₂_map_right_iff, List.forall₂_same]
    exact fun item _ => ⟨rfl, keptFlag_named current.deleted item.1⟩

/-- The access styles agree after every sequence of operations from any initial
mapping, except that the attribute of an absent property reads as `None`. -/
theorem stylesAgree_of_history (known : objectClass ∈ objectClasses)
    (properties : List (objectClass.PropertyKey × SpaValue)) (propertyFlags : List (SpaKey × Int))
    (operations : List (Operation objectClass SpaValue)) :
    StylesAgree objectClass propertyFlags (history properties propertyFlags operations) := by
  have wellFormed := objectClasses_wellFormed known
  exact (tracked_history wellFormed properties propertyFlags operations).stylesAgree wellFormed

def muteNumber : spaProps.PropertyKey := ⟨.number 0x10004, trivial⟩

/-- Muted under the number, unmuted as an attribute, deleted and muted again. -/
theorem stylesAgree_mute : spaProps ∈ objectClasses ∧
    StylesAgree spaProps [(.name (text "mute"), 5), (.number 0x10003, 3)]
      (history [(muteNumber, .bool true)] [(.name (text "mute"), 5), (.number 0x10003, 3)]
        [.set (.item ⟨.number 0x10003, trivial⟩) (.int 1), .delete (.item muteNumber),
          .set (.item muteNumber) (.bool false)]) := by
  have known : spaProps ∈ objectClasses := by simp [objectClasses]
  exact ⟨known, stylesAgree_of_history known _ _ _⟩

/-- `mute` of an object without it is `None` as an attribute and raises as an item. -/
theorem absentMute_differs :
    ¬ ∀ objectClass ∈ objectClasses,
      ∀ (properties : List (objectClass.PropertyKey × SpaValue))
        (propertyFlags : List (SpaKey × Int))
        (operations : List (Operation objectClass SpaValue)),
        ∀ spec ∈ objectClass.specs,
          SameResult
            (.ok ((history properties propertyFlags operations).object.getAttribute spec))
            ((history properties propertyFlags operations).object.getItem (.name spec.name)) := by
  intro agree
  have found : (spaProps.specByName (text "mute")).isSome = true := by decide +kernel
  obtain ⟨spec, isMute⟩ := Option.isSome_iff_exists.mp found
  have member : spec ∈ spaProps.specs := List.mem_of_find?_eq_some isMute
  have same := agree spaProps (by simp [objectClasses]) [] [] [] spec member
  have tracked := tracked_history (objectClasses_wellFormed (by simp [objectClasses]))
    ([] : List (spaProps.PropertyKey × SpaValue)) [] []
  have absent := (getItem_absent (objectClasses_wellFormed (by simp [objectClasses])) tracked member
    rfl).2
  rw [SameResult, absent] at same
  cases same

/-- A value that every property takes: a choice without alternatives. -/
def emptyChoice : SpaValue :=
  .dict [field "_pod_type" (.int PodType.choice.code), field "child_type" (.int PodType.int.code)]

theorem preparePropertyValue_emptyChoice (display : SpaValue → PyString) (objectId key : Int) :
    preparePropertyValue display objectId key emptyChoice = .ok emptyChoice := by
  unfold preparePropertyValue
  cases propertySpecByKey objectId key with
  | none => rfl
  | some spec =>
      have unchanged : prepareChoice spec
          [field "_pod_type" (.int PodType.choice.code),
            field "child_type" (.int PodType.int.code)] = emptyChoice := by
        unfold prepareChoice
        split <;> rfl
      exact congrArg Except.ok unchanged

/-- The other properties of an object can be deleted. -/
theorem exists_deletes (wellFormed : objectClass.WellFormed) (key : SpaKey) :
    ∀ (size : Nat) (current : History SpaValue), current.object.properties.length ≤ size →
      Tracked objectClass propertyFlags current →
      ∃ operations : List (Operation objectClass SpaValue),
        (∀ stored ∈ (operations.foldl History.step current).object.properties.map Prod.fst,
          stored = key) ∧
        (key ∈ (operations.foldl History.step current).deleted → key ∈ current.deleted) := by
  intro size
  induction size with
  | zero =>
      intro current isEmpty _
      refine ⟨[], ?_, fun deleted => deleted⟩
      intro stored member
      have isEmpty : current.object.properties = [] :=
        List.eq_nil_of_length_eq_zero (by omega)
      rw [List.foldl_nil, isEmpty] at member
      cases member
  | succ size inductionHypothesis =>
      intro current atMost tracked
      by_cases alone : ∀ stored ∈ current.object.properties.map Prod.fst, stored = key
      · exact ⟨[], alone, fun deleted => deleted⟩
      · obtain ⟨other, present, different⟩ := by
          simpa only [not_forall] using alone
        have admitted := (tracked.stored other present).1
        have held := (contains_iff current.object other).mpr present
        have own : current.object.resolveExistingKey other = other := if_pos held
        have stepped : current.step (Operation.delete (Access.item ⟨other, admitted⟩)) =
            ⟨(current.object.deleteItem other).getD current.object, other :: current.deleted⟩ := by
          simp only [History.step, Operation.apply, Operation.deletes, own, held, if_true,
            Option.toList_some, List.singleton_append]
        have erased : ((current.object.deleteItem other).getD current.object).properties =
            Dictionary.erase current.object.properties other := by
          simp only [deleteItem, own, held, if_true, Option.getD_some]
        have smaller : (Dictionary.erase current.object.properties other).length <
            current.object.properties.length := by
          obtain ⟨item, member, isOther⟩ := List.mem_map.mp present
          exact List.length_filter_lt_length_iff_exists.mpr ⟨item, member, by simp [isOther]⟩
        obtain ⟨operations, onlyKey, keptDeleted⟩ := inductionHypothesis
          (current.step (Operation.delete (Access.item ⟨other, admitted⟩)))
          (by rw [stepped, erased]; omega) (tracked.step wellFormed _)
        refine ⟨_ :: operations, onlyKey, fun deleted => ?_⟩
        have before := keptDeleted deleted
        rw [stepped] at before
        exact (List.mem_cons.mp before).resolve_left (Ne.symm different)

theorem objectClasses_range {objectClass : ObjectClass} (known : objectClass ∈ objectClasses) :
    (0 ≤ objectClass.objectType ∧ objectClass.objectType < 256 ^ 4) ∧
      (0 ≤ objectClass.objectId ∧ objectClass.objectId < 256 ^ 4) := by
  revert objectClass
  decide +kernel

theorem packUnsigned_of_range {width : Nat} {value : Int} (range : 0 ≤ value ∧ value < 256 ^ width) :
    packUnsigned width value = .ok (Bytes.ofNat width value.toNat) :=
  if_pos range

def emptyChoicePod : Bytes :=
  Bytes.ofNat 4 16 ++ Bytes.ofNat 4 PodType.choice.code ++ Bytes.ofNat 4 0 ++ Bytes.ofNat 4 0 ++
    Bytes.ofNat 4 0 ++ Bytes.ofNat 4 PodType.int.code

theorem explicitPodType_emptyChoice :
    explicitPodType emptyChoice = some (.int PodType.choice.code) := by
  rfl

theorem buildSpaPod_emptyChoice (display : SpaValue → PyString) :
    buildSpaPod display 1 emptyChoice (some (.int PodType.choice.code)) = .ok emptyChoicePod := by
  rfl

theorem packPod_of_length {podType : PodType} {body : Bytes} (small : body.length < 256 ^ 4) :
    ∃ pod, packPod podType body = .ok pod := by
  unfold packPod
  rw [packUnsigned_of_range (by omega)]
  exact ⟨_, rfl⟩

/-- An object that holds an empty choice alone is written. -/
theorem exists_pod (known : objectClass ∈ objectClasses)
    (tracked : Tracked objectClass propertyFlags current) (member : spec ∈ objectClass.specs)
    (alone : current.object.properties = [(.name spec.name, emptyChoice)])
    (noFlags : keptFlag propertyFlags current.deleted (.name spec.name) = 0)
    (display : SpaValue → PyString) :
    ∃ pod, buildSpaPod display 2 current.object.value none = .ok pod := by
  have wellFormed := objectClasses_wellFormed known
  obtain ⟨typeRange, idRange⟩ := objectClasses_range known
  have keyRange : 0 ≤ spec.key ∧ spec.key < 256 ^ 4 := by
    have range := wellFormed.range spec member
    omega
  obtain ⟨resolvedSpec, resolved⟩ := resolveKey_stored wellFormed tracked
    (show objectClass.Admits (.name spec.name) from ⟨spec, member, rfl⟩)
  rw [numericKey_name wellFormed member] at resolved
  have flags := pyInt_flag tracked (objectClass.storageKey_name wellFormed member)
  rw [noFlags] at flags
  have chunk : buildProperty display (buildSpaPod display 1) current.object.header.objectId
      (intTable current.object.header.propertyFlags) (intTable current.object.header.propertyKeys)
      (.name spec.name, emptyChoice) =
        .ok (Bytes.ofNat 4 spec.key.toNat ++ Bytes.ofNat 4 0 ++ emptyChoicePod) := by
    unfold buildProperty
    rw [resolved, flags]
    change (preparePropertyValue display _ spec.key emptyChoice >>= _) = _
    rw [preparePropertyValue_emptyChoice, ok_bind]
    dsimp only
    rw [explicitPodType_emptyChoice, Option.orElse_some, buildSpaPod_emptyChoice,
      packUnsigned_of_range keyRange]
    rfl
  have chunks := mapM_ok_iff.mpr (.cons chunk .nil)
  rw [buildSpaPod_object wellFormed tracked, buildObject, alone, chunks, tracked.sameType,
    tracked.sameId, packUnsigned_of_range typeRange, packUnsigned_of_range idRange, ok_bind,
    ok_bind, ok_bind]
  apply packPod_of_length
  simp only [emptyChoicePod, List.length_append, List.flatten_cons, List.flatten_nil,
    List.length_nil, Bytes.length_ofNat]
  omega

/-- The supplied flags are written after every sequence of operations exactly when no
flags but zero are supplied under the number of a property alone. -/
theorem flagsWritten_iff (known : objectClass ∈ objectClasses)
    (properties : List (objectClass.PropertyKey × SpaValue)) (propertyFlags : List (SpaKey × Int)) :
    (∀ operations, FlagsWritten objectClass propertyFlags
        (history properties propertyFlags operations)) ↔
      FlagsNamed objectClass propertyFlags := by
  have wellFormed := objectClasses_wellFormed known
  constructor
  · intro agree spec member unnamed
    have start := tracked_history wellFormed properties propertyFlags []
    obtain ⟨operations, onlyKey, keptDeleted⟩ :=
      exists_deletes wellFormed (.name spec.name) _ _ (Nat.le_refl _) start
    have assigned : history properties propertyFlags
        (operations ++ [Operation.set (Access.attr ⟨spec, member⟩) emptyChoice]) =
        ⟨(history properties propertyFlags operations).object.setItem (.name spec.name) emptyChoice,
          (history properties propertyFlags operations).deleted⟩ := by
      unfold history
      rw [List.foldl_append]
      rfl
    have tracked := tracked_history wellFormed properties propertyFlags
      (operations ++ [Operation.set (Access.attr ⟨spec, member⟩) emptyChoice])
    have agreed := agree (operations ++ [Operation.set (Access.attr ⟨spec, member⟩) emptyChoice])
    rw [assigned] at tracked agreed
    have before := tracked_history wellFormed properties propertyFlags operations
    have alone : ((history properties propertyFlags operations).object.setItem (.name spec.name)
        emptyChoice).properties = [(.name spec.name, emptyChoice)] := by
      rw [(setItem_assigned before.sameClass (.name spec.name) emptyChoice).properties,
        objectClass.storageKey_name wellFormed member]
      exact Dictionary.set_of_keys_eq before.distinct onlyKey
    have undeleted : SpaKey.name spec.name ∉ (history properties propertyFlags operations).deleted :=
      fun deleted => List.not_mem_nil (keptDeleted deleted)
    have noFlags : keptFlag propertyFlags (history properties propertyFlags operations).deleted
        (.name spec.name) = 0 := by
      rw [keptFlag, if_neg undeleted, unnamed, Option.getD_none]
    obtain ⟨pod, built⟩ := exists_pod known tracked member alone noFlags fun _ => []
    have heads := agreed _ _ _ built
    rw [objectHeads_built wellFormed tracked built, alone, List.map_singleton, List.map_singleton,
      noFlags, claimedFlag, if_neg undeleted, suppliedFlag, unnamed, Option.getD_none,
      numericKey_name wellFormed member] at heads
    simp only [List.cons.injEq, Prod.mk.injEq, true_and, and_true] at heads
    exact heads.symm
  · intro flagsNamed operations
    exact flagsWritten_of_flagsNamed wellFormed flagsNamed
      (tracked_history wellFormed properties propertyFlags operations)

/-- Flags under both keys of `mute`, and zero under the number of another property. -/
theorem flagsWritten_mute : spaProps ∈ objectClasses ∧
    ∀ operations : List (Operation spaProps SpaValue),
      FlagsWritten spaProps
        [(.name (text "mute"), 5), (.number 0x10004, 3), (.number 0x10003, 0)]
        (history [(muteNumber, .bool true)]
          [(.name (text "mute"), 5), (.number 0x10004, 3), (.number 0x10003, 0)] operations) := by
  have known : spaProps ∈ objectClasses := by simp [objectClasses]
  refine ⟨known, (flagsWritten_iff known _ _).mpr ?_⟩
  unfold FlagsNamed
  decide +kernel

end SpaPodObject

end Agreement

end WyrePlumber.Spa
