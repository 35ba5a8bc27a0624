import WyrePlumber.Spa.Termination
import Mathlib.Logic.Relation

/-!
# What a parsed value depends on

A scalar is read in its fixed width, whatever size its header declares.  Where every
pod of such a type declares at least its width, the value of each pod is determined by
the pod's own bytes; a pod that does not is read from the bytes behind it, be they
outside the outermost pod or those of its sibling.
-/

set_option autoImplicit false
set_option linter.constructorNameAsVariable false

namespace WyrePlumber.Spa

open Python Results Gathering

section Agreement

variable {data other : Bytes} {low high start size : Nat}

/-- Byte strings that agree on the positions from `low` up to `high`. -/
def AgreeOn (low high : Nat) (data other : Bytes) : Prop :=
  ∀ position, low ≤ position → position < high → data[position]? = other[position]?

theorem AgreeOn.slice (agree : AgreeOn low high data other) (above : low ≤ start)
    (below : start + size ≤ high) : Bytes.slice data start size = Bytes.slice other start size := by
  refine List.ext_getElem? fun index => ?_
  rw [Bytes.slice, Bytes.slice, List.getElem?_take, List.getElem?_take]
  split
  · rw [List.getElem?_drop, List.getElem?_drop]
    exact agree (start + index) (by omega) (by omega)
  · rfl

theorem AgreeOn.length (agree : AgreeOn low high data other) (nonempty : low < high)
    (long : high ≤ data.length) : high ≤ other.length := by
  have last := agree (high - 1) (by omega) (by omega)
  rw [List.getElem?_eq_getElem (by omega)] at last
  have within := (List.getElem?_eq_some_iff.mp last.symm).1
  omega

/-- Two byte strings that are the same inside an extent both of them have. -/
structure SameInside (low high : Nat) (data other : Bytes) : Prop where
  agree : AgreeOn low high data other
  long : high ≤ data.length
  otherLong : high ≤ other.length

theorem SameInside.unpackUnsigned (same : SameInside low high data other) {width : Nat}
    (above : low ≤ start) (below : start + width ≤ high) :
    unpackUnsigned data start width = unpackUnsigned other start width := by
  have long := same.long
  have otherLong := same.otherLong
  rw [Spa.unpackUnsigned, Spa.unpackUnsigned, Bytes.readNat, Bytes.readNat, if_pos (by omega),
    if_pos (by omega), same.agree.slice above below]

theorem SameInside.unpackSigned (same : SameInside low high data other) {width : Nat}
    (above : low ≤ start) (below : start + width ≤ high) :
    unpackSigned data start width = unpackSigned other start width := by
  rw [Spa.unpackSigned, Spa.unpackSigned, same.unpackUnsigned above below]

/-- The type that a pod header declares. -/
def declaredType (data : Bytes) (offset : Nat) : Nat := Bytes.toNat (Bytes.slice data (offset + 4) 4)

theorem SameInside.declaredSize (same : SameInside low high data other) (above : low ≤ start)
    (below : start + 8 ≤ high) : declaredSize data start = declaredSize other start := by
  rw [Spa.declaredSize, Spa.declaredSize, same.agree.slice above (by omega)]

theorem SameInside.declaredType (same : SameInside low high data other) (above : low ≤ start)
    (below : start + 8 ≤ high) : declaredType data start = declaredType other start := by
  rw [Spa.declaredType, Spa.declaredType, same.agree.slice (by omega) (by omega)]

theorem parsePodHeader_of_long (long : start + 8 ≤ data.length) :
    parsePodHeader data start = .ok (Spa.declaredSize data start, Spa.declaredType data start) := by
  rw [parsePodHeader, if_neg (by omega)]
  rfl

theorem SameInside.parsePodHeader (same : SameInside low high data other) (above : low ≤ start)
    (below : start + 8 ≤ high) : parsePodHeader data start = parsePodHeader other start := by
  have long := same.long
  have otherLong := same.otherLong
  rw [parsePodHeader_of_long (by omega), parsePodHeader_of_long (by omega),
    same.declaredSize above below, same.declaredType above below]

end Agreement

section Nesting

variable {data other : Bytes} {offset inner position lead finish start low high : Nat}

/-- A position of a loop over contained pods, each behind `lead` other bytes. -/
inductive Position (data : Bytes) (lead finish start : Nat) : Nat → Prop where
  | first : Position data lead finish start start
  | next {current : Nat} (before : Position data lead finish start current)
      (fits : current + lead + align (8 + declaredSize data (current + lead)) ≤ finish) :
      Position data lead finish start
        (current + lead + align (8 + declaredSize data (current + lead)))

/-- What stands before each pod of a container, and where its first one begins. -/
def contentsOf (size : Nat) : PodType → Option (Nat × Nat)
  | .struct => some (0, 0)
  | .object | .sequence => if size < 8 then none else some (8, 8)
  | _ => none

/-- The body of a pod ends here. -/
def bodyEnd (data : Bytes) (offset : Nat) : Nat := offset + 8 + declaredSize data offset

/-- The pods in the body of a pod that the parser reads in place. -/
inductive Contains (data : Bytes) (offset : Nat) : Nat → Prop where
  | entry {podType : PodType} {lead skip current : Nat}
      (isType : PodType.ofCode? (declaredType data offset) = some podType)
      (container : contentsOf (declaredSize data offset) podType = some (lead, skip))
      (reached : Position data lead (bodyEnd data offset) (offset + 8 + skip) current)
      (fits : current + lead + align (8 + declaredSize data (current + lead)) ≤
        bodyEnd data offset) : Contains data offset (current + lead)
  | embedded (isType : PodType.ofCode? (declaredType data offset) = some .pod)
      (fits : align (8 + declaredSize data (offset + 8)) ≤ declaredSize data offset) :
      Contains data offset (offset + 8)

/-- The bytes that the parser reads of a pod of a scalar type, whatever its size. -/
def fixedWidth? : PodType → Option Nat
  | .bool | .id | .int | .float => some 4
  | .long | .double | .rectangle | .fraction | .fd => some 8
  | _ => none

/-- A pod keeps the width of its type below a position. -/
def WidthBelow (data : Bytes) (high offset : Nat) : Prop :=
  ∀ podType width, PodType.ofCode? (declaredType data offset) = some podType →
    fixedWidth? podType = some width → offset + 8 + width ≤ high

/-- So does every pod nested in a pod. -/
def NestedBelow (data : Bytes) (high offset : Nat) : Prop :=
  ∀ inner, Relation.ReflTransGen (Contains data) offset inner → WidthBelow data high inner

theorem NestedBelow.self (nested : NestedBelow data high offset) : WidthBelow data high offset :=
  nested offset .refl

theorem NestedBelow.below (nested : NestedBelow data high offset)
    (contains : Contains data offset inner) : NestedBelow data high inner :=
  fun deeper inside => nested deeper (.head contains inside)

theorem Position.start_le (reached : Position data lead finish start position) :
    start ≤ position := by
  induction reached with
  | first => exact Nat.le_refl start
  | next before fits inductionHypothesis => omega

theorem Contains.bounds (contains : Contains data offset inner) :
    offset + 8 ≤ inner ∧ bodyEnd data inner ≤ bodyEnd data offset := by
  unfold bodyEnd
  cases contains with
  | @entry podType lead skip current isType container reached fits =>
      have after := reached.start_le
      have aligned := le_align (8 + declaredSize data (current + lead))
      unfold bodyEnd at fits
      omega
  | embedded isType fits =>
      have aligned := le_align (8 + declaredSize data (offset + 8))
      omega

theorem Position.transfer (same : SameInside low high data other) (above : low ≤ start)
    (below : finish ≤ high) (reached : Position data lead finish start position) :
    Position other lead finish start position := by
  induction reached with
  | first => exact .first
  | @next current before fits inductionHypothesis =>
      have after := before.start_le
      have aligned := le_align (8 + declaredSize data (current + lead))
      have sizes : declaredSize data (current + lead) = declaredSize other (current + lead) :=
        same.declaredSize (by omega) (by omega)
      rw [sizes] at fits ⊢
      exact .next inductionHypothesis fits

/-- Nesting is a matter of the headers inside the outer pod. -/
theorem Contains.transfer (same : SameInside low high data other) (above : low ≤ offset)
    (below : bodyEnd data offset ≤ high) (contains : Contains data offset inner) :
    Contains other offset inner := by
  have headerBelow : offset + 8 ≤ high := by
    unfold bodyEnd at below
    omega
  have sizes := same.declaredSize above headerBelow
  have types := same.declaredType above headerBelow
  have ends : bodyEnd data offset = bodyEnd other offset := by
    rw [bodyEnd, bodyEnd, sizes]
  cases contains with
  | @entry podType lead skip current isType container reached fits =>
      have after := reached.start_le
      have aligned := le_align (8 + declaredSize data (current + lead))
      have innerSizes : declaredSize data (current + lead) = declaredSize other (current + lead) :=
        same.declaredSize (by omega) (by omega)
      have moved := reached.transfer same (by omega) below
      rw [types] at isType
      rw [sizes] at container
      rw [ends] at moved
      rw [innerSizes, ends] at fits
      exact .entry isType container moved fits
  | embedded isType fits =>
      have aligned := le_align (8 + declaredSize data (offset + 8))
      unfold bodyEnd at below
      have innerSizes : declaredSize data (offset + 8) = declaredSize other (offset + 8) :=
        same.declaredSize (by omega) (by omega)
      rw [types] at isType
      rw [sizes, innerSizes] at fits
      exact .embedded isType fits

theorem nested_transfer (same : SameInside low high data other) (above : low ≤ offset)
    (below : bodyEnd data offset ≤ high)
    (nested : Relation.ReflTransGen (Contains data) offset inner) :
    Relation.ReflTransGen (Contains other) offset inner ∧ low ≤ inner ∧
      bodyEnd data inner ≤ high := by
  induction nested with
  | refl => exact ⟨.refl, above, below⟩
  | tail before contains inductionHypothesis =>
      obtain ⟨moved, innerAbove, innerBelow⟩ := inductionHypothesis
      have bounds := contains.bounds
      exact ⟨moved.tail (contains.transfer same innerAbove innerBelow), by omega, by omega⟩

end Nesting

section Determined

variable {parse : Bytes → Nat → Except SpaError SpaValue} {data other : Bytes}
  {offset low high : Nat}

/-- The pod at a loop position is the same in both byte strings. -/
theorem containedPod_same (same : SameInside low high data other) {finish current : Nat}
    (above : low ≤ current) (header : current + 8 ≤ high)
    (inner : current + align (8 + declaredSize data current) ≤ finish →
      parse data current = parse other current) :
    containedPod parse data finish current = containedPod parse other finish current := by
  have long := same.long
  rw [containedPod, containedPod, ← same.parsePodHeader above header,
    parsePodHeader_of_long (by omega), ok_bind, ok_bind]
  dsimp only
  split
  · rfl
  · rw [inner (by omega)]

theorem containedPod_next {finish current next : Nat} {value : SpaValue}
    (found : containedPod parse data finish current = .ok (some (value, next))) :
    next = current + align (8 + declaredSize data current) ∧ next ≤ finish := by
  obtain ⟨⟨podSize, podType⟩, isHeader, chosen⟩ := bind_ok found
  obtain ⟨isSize, -⟩ := parsePodHeader_ok isHeader
  dsimp only at chosen
  rw [isSize] at chosen
  split at chosen
  · cases chosen
  · obtain ⟨child, -, isPair⟩ := map_ok chosen
    have isNext : current + align (8 + declaredSize data current) = next :=
      congrArg Prod.snd (Option.some.inj isPair)
    exact ⟨isNext.symm, by omega⟩

/-- Loops over contained pods that agree at their positions agree. -/
theorem gather_same {Item : Type} {step another : Nat → Except SpaError (Option (Item × Nat))}
    {finish start rounds : Nat} (data : Bytes) (lead : Nat) (advances : Advances finish step)
    (moves : ∀ current item next, step current = .ok (some (item, next)) →
      next = current + lead + align (8 + declaredSize data (current + lead)) ∧ next ≤ finish)
    (same : ∀ current, Position data lead finish start current → step current = another current)
    (enough : finish - start < rounds) :
    gather .exhausted step rounds start = gather .exhausted another rounds start := by
  refine (@gather_agrees _ _ _ SpaError.exhausted step rounds start False another
    (Position data lead finish start) (finish - ·) ?_ ?_ .first enough).1
  · exact fun current reached => ⟨same current reached, False.elim⟩
  · intro current item next reached found
    have advance := advances current item next found
    obtain ⟨isNext, fits⟩ := moves current item next found
    refine ⟨?_, by omega⟩
    rw [isNext] at fits ⊢
    exact .next reached fits

theorem structStep_moves {finish current next : Nat} {value : SpaValue}
    (found : structStep parse data finish current = .ok (some (value, next))) :
    next = current + 0 + align (8 + declaredSize data (current + 0)) ∧ next ≤ finish := by
  unfold structStep at found
  split at found
  · exact containedPod_next found
  · cases found

theorem objectStep_moves {finish objectId current next : Nat} {property : ParsedProperty}
    (found : objectStep parse data finish objectId current = .ok (some (property, next))) :
    next = current + 8 + align (8 + declaredSize data (current + 8)) ∧ next ≤ finish := by
  unfold objectStep at found
  split at found
  · obtain ⟨key, -, afterKey⟩ := bind_ok found
    obtain ⟨flags, -, afterFlags⟩ := bind_ok afterKey
    obtain ⟨contained, isContained, chosen⟩ := bind_ok afterFlags
    cases contained with
    | none => cases chosen
    | some pair =>
        obtain ⟨value, after⟩ := pair
        obtain ⟨made, -, isPair⟩ := map_ok chosen
        have isNext : after = next := congrArg Prod.snd (Option.some.inj isPair)
        exact isNext ▸ containedPod_next isContained
  · cases found

theorem controlStep_moves {finish current next : Nat} {value : SpaValue}
    (found : controlStep parse data finish current = .ok (some (value, next))) :
    next = current + 8 + align (8 + declaredSize data (current + 8)) ∧ next ≤ finish := by
  unfold controlStep at found
  split at found
  · obtain ⟨controlOffset, -, afterOffset⟩ := bind_ok found
    obtain ⟨controlType, -, afterType⟩ := bind_ok afterOffset
    obtain ⟨contained, isContained, whole⟩ := bind_ok afterType
    obtain ⟨⟨value, after⟩, isPair, isNext⟩ := Option.map_eq_some_iff.mp (Except.ok.inj whole)
    rw [isPair] at isContained
    have same : after = next := congrArg Prod.snd isNext
    exact same ▸ containedPod_next isContained
  · cases found

theorem itemStep_same (same : SameInside low high data other) {finish childSize childType current : Nat}
    (above : low ≤ current) (below : finish ≤ high) :
    itemStep parse data finish childSize childType current =
      itemStep parse other finish childSize childType current := by
  unfold itemStep
  split
  · rw [same.agree.slice above (by omega)]
  · rfl

theorem parseItems_same (same : SameInside low high data other)
    {start finish childSize childType : Nat} (above : low ≤ start) (below : finish ≤ high) :
    parseItems parse data start finish childSize childType =
      parseItems parse other start finish childSize childType := by
  unfold parseItems
  split
  · rfl
  · rename_i nonzero
    refine (@gather_agree _ False _ _ start finish _
      (itemStep_advances parse data finish childType (Nat.pos_of_ne_zero nonzero))
      (fun current after => ⟨?_, False.elim⟩) (by omega)).1
    exact itemStep_same same (by omega) below

variable {size : Nat}

theorem parseArray_same (same : SameInside low high data other) (above : low ≤ offset)
    (below : offset + size ≤ high) :
    parseArray parse data offset size = parseArray parse other offset size := by
  unfold parseArray
  split
  · rfl
  · rw [same.unpackUnsigned above (by omega), same.unpackUnsigned (by omega) (by omega)]
    refine bind_congr fun childSize => bind_congr fun childType => ?_
    rw [parseItems_same same (by omega) below]

theorem parseChoice_same (same : SameInside low high data other) (above : low ≤ offset)
    (below : offset + size ≤ high) :
    parseChoice parse data offset size = parseChoice parse other offset size := by
  unfold parseChoice
  split
  · rfl
  · rw [same.unpackUnsigned above (by omega), same.unpackUnsigned (by omega) (by omega),
      same.unpackUnsigned (by omega) (by omega), same.unpackUnsigned (by omega) (by omega)]
    refine bind_congr fun choiceType => bind_congr fun flags => bind_congr fun childSize =>
      bind_congr fun childType => ?_
    rw [parseItems_same same (by omega) below]

theorem parsePointer_same (same : SameInside low high data other) (above : low ≤ offset)
    (below : offset + size ≤ high) :
    parsePointer data offset size = parsePointer other offset size := by
  unfold parsePointer
  split
  · rfl
  · rw [same.unpackUnsigned above (by omega)]
    refine bind_congr fun pointerType => ?_
    split
    · rw [same.unpackUnsigned (by omega) (by omega)]
    · split
      · rw [same.unpackUnsigned (by omega) (by omega)]
      · rfl

end Determined

section Containers

variable {parse : Bytes → Nat → Except SpaError SpaValue} {data other : Bytes}
  {offset low high : Nat}

/-- What the calls for the contained pods of a pod return does not differ. -/
def SameContents (parse : Bytes → Nat → Except SpaError SpaValue) (data other : Bytes)
    (offset : Nat) : Prop :=
  ∀ inner, Contains data offset inner → parse data inner = parse other inner

theorem containedPod_entry (same : SameInside low high data other) (above : low ≤ offset)
    (below : bodyEnd data offset ≤ high) (contents : SameContents parse data other offset)
    {podType : PodType} {lead skip current : Nat}
    (isType : PodType.ofCode? (declaredType data offset) = some podType)
    (container : contentsOf (declaredSize data offset) podType = some (lead, skip))
    (reached : Position data lead (bodyEnd data offset) (offset + 8 + skip) current)
    (header : current + lead + 8 ≤ bodyEnd data offset) :
    containedPod parse data (bodyEnd data offset) (current + lead) =
      containedPod parse other (bodyEnd data offset) (current + lead) := by
  have after := reached.start_le
  exact containedPod_same same (by omega) (by omega) fun fits =>
    contents _ (.entry isType container reached fits)

theorem parseStruct_same (same : SameInside low high data other) (above : low ≤ offset)
    (below : bodyEnd data offset ≤ high) (contents : SameContents parse data other offset)
    (isType : PodType.ofCode? (declaredType data offset) = some .struct) :
    parseStruct parse data (offset + 8) (declaredSize data offset) =
      parseStruct parse other (offset + 8) (declaredSize data offset) := by
  unfold parseStruct
  refine congrArg _ (gather_same data 0 (structStep_advances parse data _)
    (fun current item next found => structStep_moves found) (fun current reached => ?_) (by omega))
  unfold structStep
  split
  · exact containedPod_entry same above below contents isType rfl reached (by assumption)
  · rfl

theorem parseObject_same (same : SameInside low high data other) (above : low ≤ offset)
    (below : bodyEnd data offset ≤ high) (contents : SameContents parse data other offset)
    (isType : PodType.ofCode? (declaredType data offset) = some .object) :
    parseObject parse data (offset + 8) (declaredSize data offset) =
      parseObject parse other (offset + 8) (declaredSize data offset) := by
  unfold parseObject
  split
  · rfl
  · rename_i long
    have container : contentsOf (declaredSize data offset) .object = some (8, 8) := if_neg long
    have within : offset + 16 ≤ high := by
      unfold bodyEnd at below
      omega
    rw [same.unpackUnsigned (by omega) (by omega), same.unpackUnsigned (by omega) (by omega)]
    refine bind_congr fun objectType => bind_congr fun objectId => ?_
    refine congrArg (· >>= _) (gather_same data 8
      (objectStep_advances parse data _ objectId)
      (fun current item next found => objectStep_moves found) (fun current reached => ?_) (by omega))
    unfold objectStep
    split
    · rename_i room
      have after := reached.start_le
      have inside : current + 16 ≤ high := Nat.le_trans room below
      rw [same.unpackUnsigned (by omega) (by omega), same.unpackUnsigned (by omega) (by omega)]
      refine bind_congr fun key => bind_congr fun flags => ?_
      have entry := containedPod_entry same above below contents isType container reached
        (by rw [bodyEnd]; omega)
      exact congrArg (· >>= _) entry
    · rfl

theorem parseSequence_same (same : SameInside low high data other) (above : low ≤ offset)
    (below : bodyEnd data offset ≤ high) (contents : SameContents parse data other offset)
    (isType : PodType.ofCode? (declaredType data offset) = some .sequence) :
    parseSequence parse data (offset + 8) (declaredSize data offset) =
      parseSequence parse other (offset + 8) (declaredSize data offset) := by
  unfold parseSequence
  split
  · rfl
  · rename_i long
    have container : contentsOf (declaredSize data offset) .sequence = some (8, 8) := if_neg long
    have within : offset + 16 ≤ high := by
      unfold bodyEnd at below
      omega
    rw [same.unpackUnsigned (by omega) (by omega)]
    refine bind_congr fun unit => ?_
    refine congrArg (· >>= _) (gather_same data 8
      (controlStep_advances parse data _)
      (fun current item next found => controlStep_moves found) (fun current reached => ?_) (by omega))
    unfold controlStep
    split
    · rename_i room
      have after := reached.start_le
      have inside : current + 16 ≤ high := Nat.le_trans room below
      rw [same.unpackUnsigned (by omega) (by omega), same.unpackUnsigned (by omega) (by omega)]
      refine bind_congr fun controlOffset => bind_congr fun controlType => ?_
      have entry := containedPod_entry same above below contents isType container reached
        (by rw [bodyEnd]; omega)
      exact congrArg (· >>= _) entry
    · rfl

theorem parseEmbeddedPod_same (same : SameInside low high data other) (above : low ≤ offset)
    (below : bodyEnd data offset ≤ high) (contents : SameContents parse data other offset)
    (isType : PodType.ofCode? (declaredType data offset) = some .pod) :
    parseEmbeddedPod parse data (offset + 8) (declaredSize data offset) =
      parseEmbeddedPod parse other (offset + 8) (declaredSize data offset) := by
  unfold parseEmbeddedPod
  split
  · rfl
  · have long := same.long
    have within : offset + 16 ≤ high := by
      unfold bodyEnd at below
      omega
    rw [← same.parsePodHeader (by omega) (by omega), parsePodHeader_of_long (by omega), ok_bind,
      ok_bind]
    dsimp only
    split
    · rfl
    · rw [contents _ (.embedded isType (by omega))]

theorem parseBody_same (same : SameInside low high data other) (above : low ≤ offset)
    (below : bodyEnd data offset ≤ high) (contents : SameContents parse data other offset)
    {podType : PodType} (isType : PodType.ofCode? (declaredType data offset) = some podType)
    (width : WidthBelow data high offset) :
    parseBody parse data (offset + 8) (declaredSize data offset) podType =
      parseBody parse other (offset + 8) (declaredSize data offset) podType := by
  have body : offset + 8 + declaredSize data offset ≤ high := below
  have kept : ∀ {bytes}, fixedWidth? podType = some bytes → offset + 8 + bytes ≤ high :=
    fun fixed => width podType _ isType fixed
  have content : Bytes.slice data (offset + 8) (declaredSize data offset) =
      Bytes.slice other (offset + 8) (declaredSize data offset) :=
    same.agree.slice (by omega) body
  cases podType with
  | none => rfl
  | bool | int =>
      have inside := kept rfl
      rw [parseBody, parseBody, same.unpackSigned (by omega) inside]
  | long | fd =>
      have inside := kept rfl
      rw [parseBody, parseBody, same.unpackSigned (by omega) inside]
  | id | float =>
      have inside := kept rfl
      rw [parseBody, parseBody, same.unpackUnsigned (by omega) inside]
  | double =>
      have inside := kept rfl
      rw [parseBody, parseBody, same.unpackUnsigned (by omega) inside]
  | rectangle | fraction =>
      have inside := kept rfl
      rw [parseBody, parseBody, same.unpackUnsigned (by omega) (by omega),
        same.unpackUnsigned (by omega) (by omega)]
  | string | bytes | bitmap => rw [parseBody, parseBody, content]
  | array => exact parseArray_same same (by omega) body
  | struct => exact parseStruct_same same above below contents isType
  | object => exact parseObject_same same above below contents isType
  | sequence => exact parseSequence_same same above below contents isType
  | pointer => exact parsePointer_same same (by omega) body
  | choice => exact parseChoice_same same (by omega) body
  | pod => exact parseEmbeddedPod_same same above below contents isType

theorem parsePod_same (same : SameInside low high data other) (above : low ≤ offset)
    (below : bodyEnd data offset ≤ high) (contents : SameContents parse data other offset)
    (width : WidthBelow data high offset) :
    parsePod parse data offset = parsePod parse other offset := by
  have body : offset + 8 + declaredSize data offset ≤ high := below
  have long := same.long
  have otherLong := same.otherLong
  have available : ensureAvailable data (offset + 8) (declaredSize data offset) = .ok () :=
    if_neg (by omega)
  have otherAvailable : ensureAvailable other (offset + 8) (declaredSize data offset) = .ok () :=
    if_neg (by omega)
  have content : Bytes.slice data (offset + 8) (declaredSize data offset) =
      Bytes.slice other (offset + 8) (declaredSize data offset) :=
    same.agree.slice (by omega) body
  unfold parsePod
  rw [← same.parsePodHeader above (by omega), parsePodHeader_of_long (by omega), ok_bind, ok_bind]
  dsimp only
  rw [available, otherAvailable, ok_bind, ok_bind]
  cases isType : PodType.ofCode? (declaredType data offset) with
  | none =>
      dsimp only
      rw [content]
  | some podType => exact parseBody_same same above below contents isType width

/-- Where every nested pod keeps its width, the parser sees no difference. -/
theorem parseSpaPod_same (same : SameInside low high data other) {fuel : Nat} :
    ∀ {offset}, low ≤ offset → bodyEnd data offset ≤ high → NestedBelow data high offset →
      parseSpaPod fuel data offset = parseSpaPod fuel other offset := by
  induction fuel with
  | zero => exact fun _ _ _ => rfl
  | succ fuel inductionHypothesis =>
      intro offset above below nested
      refine parsePod_same same above below (fun inner contains => ?_) nested.self
      have bounds := contains.bounds
      exact inductionHypothesis (by omega) (by omega) (nested.below contains)

end Containers

section Widths

variable {parse : Bytes → Nat → Except SpaError SpaValue} {data : Bytes} {offset inner : Nat}
  {value : SpaValue}

theorem unpackUnsigned_inside {start width number : Nat}
    (read : unpackUnsigned data start width = .ok number) : start + width ≤ data.length := by
  unfold unpackUnsigned Bytes.readNat at read
  split at read
  · assumption
  · cases read

theorem unpackSigned_inside {start width : Nat} {number : Int}
    (read : unpackSigned data start width = .ok number) : start + width ≤ data.length := by
  obtain ⟨raw, unsigned, -⟩ := map_ok read
  exact unpackUnsigned_inside unsigned

/-- A scalar was read in its whole width. -/
theorem parseBody_inside {size : Nat} {podType : PodType} {width : Nat}
    (parsed : parseBody parse data offset size podType = .ok value)
    (fixed : fixedWidth? podType = some width) : offset + width ≤ data.length := by
  cases podType with
  | bool | int | long | fd =>
      cases fixed
      obtain ⟨number, read, -⟩ := map_ok parsed
      exact unpackSigned_inside read
  | id =>
      cases fixed
      obtain ⟨number, cast, -⟩ := map_ok parsed
      obtain ⟨raw, read, -⟩ := bind_ok cast
      exact unpackUnsigned_inside read
  | float | double =>
      cases fixed
      obtain ⟨word, read, -⟩ := map_ok parsed
      exact unpackUnsigned_inside read
  | rectangle | fraction =>
      cases fixed
      obtain ⟨first, -, afterFirst⟩ := bind_ok parsed
      obtain ⟨second, read, -⟩ := bind_ok afterFirst
      have inside := unpackUnsigned_inside read
      omega
  | none | string | bytes | bitmap | array | struct | object | sequence | pointer | choice | pod =>
      cases fixed

/-- A loop that ends went through every position it had room for. -/
theorem gather_position {Item : Type} {step : Nat → Except SpaError (Option (Item × Nat))}
    {lead finish start position rounds : Nat} {items : List Item}
    (moves : ∀ current, current + lead + align (8 + declaredSize data (current + lead)) ≤ finish →
      ∀ result, step current = .ok result →
        ∃ item, result = some (item, current + lead + align (8 + declaredSize data (current + lead))))
    (gathered : gather .exhausted step rounds start = .ok items)
    (reached : Position data lead finish start position) :
    ∃ result, step position = .ok result := by
  have later : ∃ rounds items, gather .exhausted step rounds position = .ok items := by
    induction reached with
    | first => exact ⟨rounds, items, gathered⟩
    | @next current before fits inductionHypothesis =>
        obtain ⟨left, others, continued⟩ := inductionHypothesis
        cases left with
        | zero => cases continued
        | succ left =>
            obtain ⟨result, found, chosen⟩ := bind_ok continued
            obtain ⟨item, isResult⟩ := moves current fits result found
            rw [isResult] at chosen
            obtain ⟨rest, restGathered, -⟩ := map_ok chosen
            exact ⟨left, rest, restGathered⟩
  obtain ⟨left, others, continued⟩ := later
  cases left with
  | zero => cases continued
  | succ left =>
      obtain ⟨result, found, -⟩ := bind_ok continued
      exact ⟨result, found⟩

/-- A contained pod that fits is parsed. -/
theorem containedPod_fits {finish current : Nat} {result : Option (SpaValue × Nat)}
    (found : containedPod parse data finish current = .ok result)
    (fits : current + align (8 + declaredSize data current) ≤ finish) :
    ∃ value, parse data current = .ok value ∧
      result = some (value, current + align (8 + declaredSize data current)) := by
  obtain ⟨⟨podSize, podType⟩, isHeader, chosen⟩ := bind_ok found
  obtain ⟨isSize, -⟩ := parsePodHeader_ok isHeader
  dsimp only at chosen
  rw [isSize, if_neg (by omega)] at chosen
  obtain ⟨value, parsed, isResult⟩ := map_ok chosen
  exact ⟨value, parsed, isResult.symm⟩

theorem structStep_fits {finish current : Nat} {result : Option (SpaValue × Nat)}
    (found : structStep parse data finish current = .ok result)
    (fits : current + 0 + align (8 + declaredSize data (current + 0)) ≤ finish) :
    ∃ value, parse data (current + 0) = .ok value ∧
      result = some (value, current + 0 + align (8 + declaredSize data (current + 0))) := by
  have aligned := le_align (8 + declaredSize data (current + 0))
  rw [structStep, if_pos (by omega)] at found
  exact containedPod_fits found fits

theorem objectStep_reads {finish objectId current : Nat} {result : Option (ParsedProperty × Nat)}
    (found : objectStep parse data finish objectId current = .ok result)
    (fits : current + 8 + align (8 + declaredSize data (current + 8)) ≤ finish) :
    ∃ value property, parse data (current + 8) = .ok value ∧
      result = some (property, current + 8 + align (8 + declaredSize data (current + 8))) := by
  have aligned := le_align (8 + declaredSize data (current + 8))
  rw [objectStep, if_pos (by omega)] at found
  obtain ⟨key, -, afterKey⟩ := bind_ok found
  obtain ⟨flags, -, afterFlags⟩ := bind_ok afterKey
  obtain ⟨contained, isContained, chosen⟩ := bind_ok afterFlags
  obtain ⟨value, parsed, isPair⟩ := containedPod_fits isContained fits
  rw [isPair] at chosen
  obtain ⟨property, -, isResult⟩ := map_ok chosen
  exact ⟨value, property, parsed, isResult.symm⟩

theorem controlStep_reads {finish current : Nat} {result : Option (SpaValue × Nat)}
    (found : controlStep parse data finish current = .ok result)
    (fits : current + 8 + align (8 + declaredSize data (current + 8)) ≤ finish) :
    ∃ value control, parse data (current + 8) = .ok value ∧
      result = some (control, current + 8 + align (8 + declaredSize data (current + 8))) := by
  have aligned := le_align (8 + declaredSize data (current + 8))
  rw [controlStep, if_pos (by omega)] at found
  obtain ⟨controlOffset, -, afterOffset⟩ := bind_ok found
  obtain ⟨controlType, -, afterType⟩ := bind_ok afterOffset
  obtain ⟨contained, isContained, whole⟩ := bind_ok afterType
  obtain ⟨value, parsed, isPair⟩ := containedPod_fits isContained fits
  rw [isPair] at whole
  exact ⟨value, _, parsed, (Except.ok.inj whole).symm⟩

/-- A pod that is parsed has its contained pods parsed. -/
theorem contains_parsed (parsed : parsePod parse data offset = .ok value)
    (contains : Contains data offset inner) : ∃ value, parse data inner = .ok value := by
  obtain ⟨⟨size, code⟩, isHeader, afterHeader⟩ := bind_ok parsed
  obtain ⟨isSize, long⟩ := parsePodHeader_ok isHeader
  rw [parsePodHeader_of_long long] at isHeader
  have isCode : declaredType data offset = code := congrArg Prod.snd (Except.ok.inj isHeader)
  obtain ⟨_, -, body⟩ := bind_ok afterHeader
  cases contains with
  | @entry podType lead skip current isType container reached fits =>
      rw [← isCode, isSize, isType] at body
      cases podType with
      | struct =>
          cases container
          obtain ⟨items, gathered, -⟩ := map_ok body
          obtain ⟨result, found⟩ := gather_position (fun current fits result found => by
            obtain ⟨value, -, isResult⟩ := structStep_fits found fits
            exact ⟨value, isResult⟩) gathered reached
          obtain ⟨value, isValue, -⟩ := structStep_fits found fits
          exact ⟨value, isValue⟩
      | object =>
          change (if declaredSize data offset < 8 then none else some (8, 8)) = _ at container
          split at container
          · cases container
          · rename_i long
            cases container
            dsimp only at body
            rw [parseBody, parseObject, if_neg long] at body
            obtain ⟨objectType, -, afterType⟩ := bind_ok body
            obtain ⟨objectId, -, afterId⟩ := bind_ok afterType
            obtain ⟨items, gathered, -⟩ := bind_ok afterId
            obtain ⟨result, found⟩ := gather_position (fun current fits result found => by
              obtain ⟨value, property, -, isResult⟩ := objectStep_reads found fits
              exact ⟨property, isResult⟩) gathered reached
            obtain ⟨value, property, isValue, -⟩ := objectStep_reads found fits
            exact ⟨value, isValue⟩
      | sequence =>
          change (if declaredSize data offset < 8 then none else some (8, 8)) = _ at container
          split at container
          · cases container
          · rename_i long
            cases container
            dsimp only at body
            rw [parseBody, parseSequence, if_neg long] at body
            obtain ⟨unit, -, afterUnit⟩ := bind_ok body
            obtain ⟨items, gathered, -⟩ := bind_ok afterUnit
            obtain ⟨result, found⟩ := gather_position (fun current fits result found => by
              obtain ⟨value, control, -, isResult⟩ := controlStep_reads found fits
              exact ⟨control, isResult⟩) gathered reached
            obtain ⟨value, control, isValue, -⟩ := controlStep_reads found fits
            exact ⟨value, isValue⟩
      | none | bool | id | int | long | float | double | string | bytes | rectangle | fraction
      | bitmap | array | pointer | fd | choice | pod => cases container
  | embedded isType fits =>
      have aligned := le_align (8 + declaredSize data (offset + 8))
      rw [← isCode, isSize, isType] at body
      dsimp only at body
      rw [parseBody, parseEmbeddedPod, if_neg (by omega)] at body
      obtain ⟨⟨podSize, podType⟩, innerHeader, chosen⟩ := bind_ok body
      obtain ⟨innerSize, -⟩ := parsePodHeader_ok innerHeader
      dsimp only at chosen
      rw [innerSize, if_neg (by omega)] at chosen
      obtain ⟨value, isValue, -⟩ := map_ok chosen
      exact ⟨value, isValue⟩

/-- Whatever is parsed keeps all its widths inside the data. -/
theorem parsed_nestedBelow {fuel : Nat} :
    ∀ {offset value}, parseSpaPod fuel data offset = .ok value →
      NestedBelow data data.length offset := by
  induction fuel with
  | zero => exact fun parsed => nomatch parsed
  | succ fuel inductionHypothesis =>
      intro offset value parsed inner nested
      rcases nested.cases_head with isSelf | ⟨middle, contains, later⟩
      · intro podType width isType fixed
        rw [← isSelf] at isType ⊢
        have whole := parsed
        obtain ⟨⟨size, code⟩, isHeader, -⟩ := bind_ok whole
        obtain ⟨-, long⟩ := parsePodHeader_ok isHeader
        have body := parseSpaPod_of_header parsed (parsePodHeader_of_long long) isType
        exact parseBody_inside body fixed
      · obtain ⟨child, isChild⟩ := contains_parsed parsed contains
        exact inductionHypothesis isChild inner later

end Widths

section Extent

/-- The bytes of a pod from its header to the end of its declared body. -/
def SameExtent (data other : Bytes) (offset : Nat) : Prop :=
  AgreeOn offset (bodyEnd data offset) data other

/-- Every pod of a type of fixed width that is nested in the pod, itself included, keeps
that width inside the extent of the outermost pod. -/
def WidthsInside (data : Bytes) (offset : Nat) : Prop :=
  NestedBelow data (bodyEnd data offset) offset

theorem AgreeOn.symm {low high : Nat} {data other : Bytes} (agree : AgreeOn low high data other) :
    AgreeOn low high other data :=
  fun position above below => (agree position above below).symm

theorem AgreeOn.mono {low high less : Nat} {data other : Bytes}
    (agree : AgreeOn low high data other) (below : less ≤ high) : AgreeOn low less data other :=
  fun position above inside => agree position above (by omega)

theorem parsePodHeader_of_short {data : Bytes} {offset : Nat} (short : ¬ offset + 8 ≤ data.length) :
    parsePodHeader data offset = raise "Data too short for SPA pod header" := by
  rw [parsePodHeader, if_pos (by omega)]

/-- A pod that is cut off is refused. -/
theorem parsePod_of_short {parse : Bytes → Nat → Except SpaError SpaValue} {data : Bytes}
    {offset : Nat} (header : offset + 8 ≤ data.length) (short : ¬ bodyEnd data offset ≤ data.length) :
    parsePod parse data offset = raise "Data too short for SPA pod body" := by
  have unavailable : ensureAvailable data (offset + 8) (declaredSize data offset) =
      raise "Data too short for SPA pod body" := by
    unfold bodyEnd at short
    rw [ensureAvailable, if_pos (by omega)]
  unfold parsePod
  rw [parsePodHeader_of_long header, ok_bind]
  dsimp only
  rw [unavailable]
  rfl

theorem bodyEnd_same {data other : Bytes} {offset : Nat} (same : SameExtent data other offset)
    (header : offset + 8 ≤ data.length) (otherHeader : offset + 8 ≤ other.length) :
    bodyEnd data offset = bodyEnd other offset := by
  have inside : SameInside offset (offset + 8) data other :=
    ⟨same.mono (by unfold bodyEnd; omega), header, otherHeader⟩
  rw [bodyEnd, bodyEnd, inside.declaredSize (Nat.le_refl offset) (Nat.le_refl _)]

/-- Where the widths are contained, bytes outside the pod change nothing. -/
theorem parseSpaPod_extent {fuel offset : Nat} {data other : Bytes}
    (inside : bodyEnd data offset ≤ data.length → WidthsInside data offset)
    (same : SameExtent data other offset) :
    parseSpaPod fuel data offset = parseSpaPod fuel other offset := by
  have header : offset + 8 ≤ bodyEnd data offset := by
    unfold bodyEnd
    omega
  by_cases long : bodyEnd data offset ≤ data.length
  · exact parseSpaPod_same ⟨same, long, same.length (by omega) long⟩ (Nat.le_refl offset)
      (Nat.le_refl _) (inside long)
  · cases fuel with
    | zero => rfl
    | succ fuel =>
        have headers := same.mono header
        change parsePod _ data offset = parsePod _ other offset
        by_cases room : offset + 8 ≤ data.length
        · have otherRoom := headers.length (by omega) room
          have otherShort : ¬ bodyEnd other offset ≤ other.length := by
            rw [← bodyEnd_same same room otherRoom]
            exact fun otherLong => long (same.symm.length (by omega) otherLong)
          rw [parsePod_of_short room long, parsePod_of_short otherRoom otherShort]
        · have otherRoom : ¬ offset + 8 ≤ other.length :=
            fun otherRoom => room (headers.symm.length (by omega) otherRoom)
          rw [parsePod, parsePod, parsePodHeader_of_short room, parsePodHeader_of_short otherRoom]
          rfl

theorem bodyEnd_le_of_parsed {fuel offset : Nat} {data : Bytes} {value : SpaValue}
    (parsed : parseSpaPod fuel data offset = .ok value) : bodyEnd data offset ≤ data.length := by
  cases fuel with
  | zero => cases parsed
  | succ fuel =>
      have whole := parsed
      obtain ⟨⟨size, code⟩, isHeader, -⟩ := bind_ok whole
      obtain ⟨-, header⟩ := parsePodHeader_ok isHeader
      by_contra short
      rw [parseSpaPod, parsePod_of_short header short] at parsed
      cases parsed

/-- The value of an accepted pod is determined by the pod's bytes exactly where no
width reaches behind it. -/
theorem determined_iff {fuel offset : Nat} {data : Bytes} {value : SpaValue}
    (parsed : parseSpaPod fuel data offset = .ok value) :
    (∀ other, SameExtent data other offset → parseSpaPod fuel other offset = .ok value) ↔
      WidthsInside data offset := by
  have long := bodyEnd_le_of_parsed parsed
  constructor
  · intro determined
    -- The pod alone, cut off behind its extent.
    have cut : (data.take (bodyEnd data offset)).length = bodyEnd data offset := by
      rw [List.length_take]
      omega
    have same : SameExtent data (data.take (bodyEnd data offset)) offset := by
      intro position _ below
      rw [List.getElem?_take, if_pos below]
    have within := parsed_nestedBelow (determined _ same)
    rw [cut] at within
    have inside : SameInside offset (bodyEnd data offset) data (data.take (bodyEnd data offset)) :=
      ⟨same, long, by rw [cut]⟩
    intro inner nested podType width isType fixed
    obtain ⟨moved, above, below⟩ :=
      nested_transfer inside (Nat.le_refl offset) (Nat.le_refl _) nested
    have headerBelow : inner + 8 ≤ bodyEnd data offset := by
      unfold bodyEnd at below ⊢
      omega
    rw [inside.declaredType above headerBelow] at isType
    exact within inner moved podType width isType fixed
  · intro inside other same
    rw [← parseSpaPod_extent (fun _ => inside) same]
    exact parsed

end Extent

section Places

/-- A pod as the parser meets it: within bytes that go on behind it, or as an item, in
bytes assembled for it alone. -/
inductive PodPlace where
  | within (data : Bytes) (offset : Nat)
  | alone (data : Bytes)

def PodPlace.data : PodPlace → Bytes
  | .within data _ => data
  | .alone data => data

def PodPlace.offset : PodPlace → Nat
  | .within _ offset => offset
  | .alone _ => 0

/-- The fields in front of the child's size and type. -/
def childHeader (size : Nat) : PodType → Option Nat
  | .array => if size < 8 then none else some 0
  | .choice => if size < 16 then none else some 8
  | _ => none

/-- The bytes that the parser assembles for an item of an array or a choice. -/
inductive ItemOf (data : Bytes) (offset : Nat) : Bytes → Prop where
  | item {podType : PodType} {skip childSize childType : Nat} (count : Nat)
      (isType : PodType.ofCode? (declaredType data offset) = some podType)
      (container : childHeader (declaredSize data offset) podType = some skip)
      (isSize : childSize = Bytes.toNat (Bytes.slice data (offset + 8 + skip) 4))
      (isChild : childType = Bytes.toNat (Bytes.slice data (offset + 12 + skip) 4))
      (positive : 0 < childSize)
      (fits : offset + 16 + skip + count * childSize + childSize ≤ bodyEnd data offset) :
      ItemOf data offset (Bytes.ofNat 4 childSize ++ Bytes.ofNat 4 childType ++
        Bytes.slice data (offset + 16 + skip + count * childSize) childSize)

/-- A pod that is not cut off, and one that the parser may read for it. -/
inductive Inside : PodPlace → PodPlace → Prop where
  | placed {place : PodPlace} {inner : Nat}
      (whole : bodyEnd place.data place.offset ≤ place.data.length)
      (contains : Contains place.data place.offset inner) : Inside place (.within place.data inner)
  | item {place : PodPlace} {bytes : Bytes}
      (whole : bodyEnd place.data place.offset ≤ place.data.length)
      (isItem : ItemOf place.data place.offset bytes) : Inside place (.alone bytes)

/-- The byte strings that the same pod could stand in; nothing stands beside an item. -/
def PodPlace.Surrounds : PodPlace → Bytes → Prop
  | .within data offset, other => SameExtent data other offset
  | .alone data, other => other = data

/-- Every pod nested in the pod, itself included, is read from its own bytes. -/
def Contained (fuel : Nat) (data : Bytes) (offset : Nat) : Prop :=
  ∀ place, Relation.ReflTransGen Inside (.within data offset) place →
    ∀ other, place.Surrounds other →
      parseSpaPod fuel place.data place.offset = parseSpaPod fuel other place.offset

/-- A pod of a type of fixed width declares at least that width, unless it is an item
or cut off. -/
def PodPlace.KeepsWidth : PodPlace → Prop
  | .within data offset => bodyEnd data offset ≤ data.length → ∀ podType width,
      PodType.ofCode? (declaredType data offset) = some podType →
        fixedWidth? podType = some width → width ≤ declaredSize data offset
  | .alone _ => True

/-- Every pod nested in the pod, itself included, declares at least its width. -/
def WidthsContained (data : Bytes) (offset : Nat) : Prop :=
  ∀ place, Relation.ReflTransGen Inside (.within data offset) place → place.KeepsWidth

variable {data other : Bytes} {fuel offset inner : Nat}

/-- The pods nested in place are nested. -/
theorem nested_inside (whole : bodyEnd data offset ≤ data.length)
    (nested : Relation.ReflTransGen (Contains data) offset inner) :
    Relation.ReflTransGen Inside (.within data offset) (.within data inner) ∧
      bodyEnd data inner ≤ bodyEnd data offset := by
  induction nested with
  | refl => exact ⟨.refl, Nat.le_refl _⟩
  | @tail middle deeper before contains inductionHypothesis =>
      obtain ⟨reached, below⟩ := inductionHypothesis
      have bounds := contains.bounds
      have step : Inside (.within data middle) (.within data deeper) :=
        .placed (Nat.le_trans below whole) contains
      exact ⟨reached.tail step, by omega⟩

theorem WidthsContained.inside (contained : WidthsContained data offset)
    (whole : bodyEnd data offset ≤ data.length) : WidthsInside data offset := by
  intro inner nested podType width isType fixed
  obtain ⟨reached, below⟩ := nested_inside whole nested
  have kept : width ≤ declaredSize data inner :=
    contained _ reached (Nat.le_trans below whole) podType width isType fixed
  unfold bodyEnd at below ⊢
  omega

theorem unpackUnsigned_long {start width : Nat} (long : start + width ≤ data.length) :
    ∃ number, unpackUnsigned data start width = .ok number := by
  rw [unpackUnsigned, Bytes.readNat, if_pos long]
  exact ⟨_, rfl⟩

theorem unpackSigned_long {start width : Nat} (long : start + width ≤ data.length) :
    ∃ number, unpackSigned data start width = .ok number := by
  obtain ⟨number, read⟩ := unpackUnsigned_long long
  rw [unpackSigned, read]
  exact ⟨_, rfl⟩

/-- A scalar is read wherever the bytes reach, whatever size it declares. -/
theorem parseBody_long {parse : Bytes → Nat → Except SpaError SpaValue} {size width : Nat}
    {podType : PodType} (fixed : fixedWidth? podType = some width)
    (long : offset + width ≤ data.length) :
    ∃ value, parseBody parse data offset size podType = .ok value := by
  cases podType with
  | bool | int | long | fd =>
      cases fixed
      obtain ⟨number, read⟩ := unpackSigned_long long
      rw [parseBody, read]
      exact ⟨_, rfl⟩
  | id | float | double =>
      cases fixed
      obtain ⟨number, read⟩ := unpackUnsigned_long long
      rw [parseBody, read]
      exact ⟨_, rfl⟩
  | rectangle | fraction =>
      cases fixed
      have halfLong : offset + 4 ≤ data.length := by omega
      have restLong : offset + 4 + 4 ≤ data.length := by omega
      obtain ⟨first, readFirst⟩ := unpackUnsigned_long halfLong
      obtain ⟨second, readSecond⟩ := unpackUnsigned_long restLong
      rw [parseBody, readFirst, ok_bind, readSecond]
      exact ⟨_, rfl⟩
  | none | string | bytes | bitmap | array | struct | object | sequence | pointer | choice | pod =>
      cases fixed

theorem parseSpaPod_long {podType : PodType} {width : Nat}
    (whole : bodyEnd data offset ≤ data.length)
    (isType : PodType.ofCode? (declaredType data offset) = some podType)
    (fixed : fixedWidth? podType = some width) (long : offset + 8 + width ≤ data.length) :
    ∃ value, parseSpaPod (fuel + 1) data offset = .ok value := by
  unfold bodyEnd at whole
  have available : ensureAvailable data (offset + 8) (declaredSize data offset) = .ok () :=
    if_neg (by omega)
  have body : ∃ value, parseBody (parseSpaPod fuel) data (offset + 8) (declaredSize data offset)
      podType = .ok value := parseBody_long fixed long
  obtain ⟨value, read⟩ := body
  refine ⟨value, ?_⟩
  unfold parseSpaPod parsePod
  rw [parsePodHeader_of_long (by omega), ok_bind]
  dsimp only
  rw [available, ok_bind, isType]
  exact read

/-- A scalar whose value is its own declares its width: cut off behind its extent, it
would be refused, and with enough bytes behind it, read. -/
theorem width_of_contained {podType : PodType} {width : Nat}
    (whole : bodyEnd data offset ≤ data.length)
    (own : ∀ other, SameExtent data other offset →
      parseSpaPod (fuel + 1) data offset = parseSpaPod (fuel + 1) other offset)
    (isType : PodType.ofCode? (declaredType data offset) = some podType)
    (fixed : fixedWidth? podType = some width) : width ≤ declaredSize data offset := by
  have header : offset + 8 ≤ bodyEnd data offset := by
    unfold bodyEnd
    omega
  have cutLength : (data.take (bodyEnd data offset)).length = bodyEnd data offset := by
    rw [List.length_take]
    omega
  have sameCut : SameExtent data (data.take (bodyEnd data offset)) offset := by
    intro position _ below
    rw [List.getElem?_take, if_pos below]
  have sameFilled : SameExtent data (data ++ List.replicate width 0) offset := by
    intro position _ below
    rw [List.getElem?_append_left (by omega)]
  have cut : SameInside offset (bodyEnd data offset) data (data.take (bodyEnd data offset)) :=
    ⟨sameCut, whole, by omega⟩
  have filled : SameInside offset (bodyEnd data offset) data (data ++ List.replicate width 0) :=
    ⟨sameFilled, whole, by rw [List.length_append]; omega⟩
  have filledType := isType
  have cutType := isType
  have filledEnd : bodyEnd data offset = bodyEnd (data ++ List.replicate width 0) offset := by
    rw [bodyEnd, bodyEnd, filled.declaredSize (Nat.le_refl _) header]
  rw [filled.declaredType (Nat.le_refl _) header] at filledType
  rw [cut.declaredType (Nat.le_refl _) header] at cutType
  have filledRead : ∃ value,
      parseSpaPod (fuel + 1) (data ++ List.replicate width 0) offset = .ok value := by
    refine parseSpaPod_long ?_ filledType fixed ?_
    · rw [← filledEnd, List.length_append]
      omega
    · rw [List.length_append, List.length_replicate]
      omega
  obtain ⟨value, read⟩ := filledRead
  have cutRead : parseSpaPod (fuel + 1) (data.take (bodyEnd data offset)) offset = .ok value := by
    rw [← own _ sameCut, own _ sameFilled, read]
  have body := parseSpaPod_of_header cutRead
    (parsePodHeader_of_long (by omega)) cutType
  have inside := parseBody_inside body fixed
  rw [cutLength, bodyEnd] at inside
  omega

/-- Every pod is read from its own bytes exactly where every pod of a type of fixed
width declares at least that width, whether the parser accepts the pods or not. -/
theorem contained_iff (fuel offset : Nat) (data : Bytes) :
    Contained (fuel + 1) data offset ↔ WidthsContained data offset := by
  constructor
  · intro contained place reached
    cases place with
    | alone item => trivial
    | within bytes inner =>
        intro whole podType width isType fixed
        exact width_of_contained whole (contained _ reached) isType fixed
  · intro widths place reached other surrounds
    cases place with
    | alone item =>
        rw [surrounds]
        rfl
    | within bytes inner =>
        have below : WidthsContained bytes inner := fun deeper nested =>
          widths deeper (reached.trans nested)
        exact parseSpaPod_extent below.inside surrounds

/-- The header of an `Int` pod without a body. -/
def emptyIntPod : Bytes := Bytes.ofNat 4 0 ++ Bytes.ofNat 4 PodType.int.code

/-- An `Int` of no size is read from the bytes behind it. -/
theorem not_contained_emptyInt :
    ¬ ∀ (fuel offset : Nat) (data other : Bytes), SameExtent data other offset →
      parseSpaPod fuel data offset = parseSpaPod fuel other offset := by
  intro always
  have same : SameExtent (emptyIntPod ++ Bytes.ofNat 4 1) (emptyIntPod ++ Bytes.ofNat 4 2) 0 := by
    intro position _ below
    have inside : position < emptyIntPod.length := below
    rw [List.getElem?_append_left inside, List.getElem?_append_left inside]
  have equal := always 1 0 _ _ same
  have first : parseSpaPod 1 (emptyIntPod ++ Bytes.ofNat 4 1) 0 = .ok (.int 1) := rfl
  have second : parseSpaPod 1 (emptyIntPod ++ Bytes.ofNat 4 2) 0 = .ok (.int 2) := rfl
  rw [first, second] at equal
  cases equal

end Places

end WyrePlumber.Spa
