import WyrePlumber.Library.Bytes
import WyrePlumber.Library.Binary64
import WyrePlumber.Library.Dictionary
import WyrePlumber.Spa.Types

/-!
# SPA values

The Python objects that parsing a SPA pod produces and that native records hold.
-/

set_option autoImplicit false
set_option linter.constructorNameAsVariable false

namespace WyrePlumber.Spa

open Python

inductive SpaKey where
  | name (string : PyString)
  | number (value : Int)
  deriving DecidableEq

/-- What a `SpaPodObject` holds besides its properties. -/
structure ObjectHeader where
  objectClass : ObjectClass
  objectType : Int
  objectId : Int
  objectName : Option PyString
  propertyFlags : List (SpaKey × Int)
  propertyKeys : List (SpaKey × Int)

/-- Lists stand for every sequence that is neither a string nor bytes, and `other`
is an object of none of the kinds above it, known by its class. -/
inductive SpaValue where
  | none
  | bool (value : Bool)
  | int (value : Int)
  | member (enumClass : EnumClass) (value : Int)
  | float (value : Binary64)
  | str (value : PyString)
  | bytes (value : Bytes)
  | list (items : List SpaValue)
  | dict (items : List (SpaKey × SpaValue))
  | object (header : ObjectHeader) (properties : List (SpaKey × SpaValue))
  | other (className : PyString)

namespace SpaValue

/-- Induction over values: the items of a container before the container. -/
@[elab_as_elim]
theorem induction {motive : SpaValue → Prop} (none : motive .none)
    (bool : ∀ value, motive (.bool value)) (int : ∀ value, motive (.int value))
    (member : ∀ enumClass value, motive (.member enumClass value))
    (float : ∀ value, motive (.float value)) (str : ∀ value, motive (.str value))
    (bytes : ∀ value, motive (.bytes value))
    (list : ∀ items, (∀ item ∈ items, motive item) → motive (.list items))
    (dict : ∀ items, (∀ item ∈ items, motive item.2) → motive (.dict items))
    (object : ∀ header properties, (∀ item ∈ properties, motive item.2) →
      motive (.object header properties))
    (other : ∀ className, motive (.other className)) (value : SpaValue) : motive value := by
  refine @SpaValue.rec motive (fun items => ∀ item ∈ items, motive item)
    (fun items => ∀ item ∈ items, motive item.2) (fun item => motive item.2) none bool int member
    float str bytes list dict object other ?_ ?_ ?_ ?_ ?_ value
  · simp
  · intro head tail ofHead ofTail
    exact List.forall_mem_cons.mpr ⟨ofHead, ofTail⟩
  · simp
  · intro head tail ofHead ofTail
    exact List.forall_mem_cons.mpr ⟨ofHead, ofTail⟩
  · intro key item ofItem
    exact ofItem

/-- The items of a `Mapping`; a typed object is one. -/
def mapping? : SpaValue → Option (List (SpaKey × SpaValue))
  | dict items => some items
  | object _ properties => some properties
  | _ => Option.none

/-- The items of a `Sequence` other than a string or bytes. -/
def sequence? : SpaValue → Option (List SpaValue)
  | list items => some items
  | _ => Option.none

def integral? : SpaValue → Option Int
  | bool value => some (if value then 1 else 0)
  | int value => some value
  | member _ value => some value
  | _ => Option.none

end SpaValue

section Dictionaries

def field (name : String) (value : SpaValue) : SpaKey × SpaValue := (.name (text name), value)

/-- `items.get(name)`, none where the key is missing. -/
def getField (items : List (SpaKey × SpaValue)) (name : String) : Option SpaValue :=
  items.lookup (.name (text name))

/-- `value == number`. -/
def equalsNumber (number : Int) : SpaValue → Bool
  | .float value => value.eqInt number
  | value => value.integral? = some number

def hasPodType (items : List (SpaKey × SpaValue)) (podType : PodType) : Bool :=
  (getField items "_pod_type").any (equalsNumber podType.code)

end Dictionaries

end WyrePlumber.Spa
