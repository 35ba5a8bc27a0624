import WyrePlumber.Spa.Conversions
import WyrePlumber.Spa.Objects

/-!
# Specialized properties

The values of known properties in the shape their spec names: mappings for
string structs, lists for arrays, enumeration members for ids.
-/

set_option autoImplicit false
set_option linter.constructorNameAsVariable false

namespace WyrePlumber.Spa

open Python

section Structs

def podItems? (podType : PodType) (value : SpaValue) : Option (List (SpaKey × SpaValue)) :=
  value.mapping?.filter fun items => hasPodType items podType

/-- `list(value.get("values", []))`. -/
def memberValues (items : List (SpaKey × SpaValue)) : Except SpaError (List SpaValue) :=
  pyList ((getField items "values").getD (.list []))

def string? : SpaValue → Option PyString
  | .str string => some string
  | _ => none

def pairs : List SpaValue → List (SpaValue × SpaValue)
  | first :: second :: rest => (first, second) :: pairs rest
  | _ => []

def namedItem (pair : SpaValue × SpaValue) : Option (SpaKey × SpaValue) :=
  (string? pair.1).map fun name => (.name name, pair.2)

/-- A counted list of strings as a mapping. -/
def dictInfo? : List SpaValue → Option SpaValue
  | [] => none
  | first :: values =>
      match first.integral? with
      | some count =>
          if values.length = count * 2 ∧ ∀ value ∈ values, (string? value).isSome = true then
            ((pairs values).mapM namedItem).map fun items => .dict (Dictionary.ofItems items)
          else none
      | none => none

def params? (values : List SpaValue) : Option SpaValue :=
  if values.length % 2 = 0 then
    ((pairs values).mapM namedItem).map fun items => .dict (Dictionary.ofItems items)
  else none

def labelItem (pair : SpaValue × SpaValue) : Option SpaValue :=
  (string? pair.2).map fun label =>
    .dict [field "value" pair.1, field "label" (.str label)]

def labels? (values : List SpaValue) : Option SpaValue :=
  if values.length % 2 = 0 then ((pairs values).mapM labelItem).map .list else none

/-- A struct in a shape of its values; the struct itself where they do not fit. -/
def structToShape (shape : List SpaValue → Option SpaValue) (value : SpaValue) :
    Except SpaError SpaValue :=
  match podItems? .struct value with
  | some items => (memberValues items).map fun values => (shape values).getD value
  | none => .ok value

def structToDictInfo (value : SpaValue) : Except SpaError SpaValue := structToShape dictInfo? value

def structToParams (value : SpaValue) : Except SpaError SpaValue := structToShape params? value

def structToLabels (value : SpaValue) : Except SpaError SpaValue := structToShape labels? value

end Structs

section Arrays

/-- `_array_to_values`; none where the value is no array and stays as it is. -/
def arrayToValues? (convert : SpaValue → Except SpaError SpaValue) (value : SpaValue) :
    Except SpaError (Option (List SpaValue)) :=
  match podItems? .array value with
  | some items => do
      let values ← memberValues items
      let converted ← values.mapM convert
      .ok (some converted)
  | none => .ok none

def convertInt (value : SpaValue) : Except SpaError SpaValue := (pyInt value).map .int

def convertFloat (value : SpaValue) : Except SpaError SpaValue := (pyFloat value).map .float

end Arrays

section ProfileClasses

/-- The device list of a profile class: an array, or a value that is a list. -/
def deviceIndexes (value : SpaValue) : Except SpaError (Option SpaValue) := do
  let converted ← arrayToValues? convertInt value
  match converted, value with
  | some values, _ => .ok (some (.list values))
  | none, .list items => .ok (some (.list items))
  | none, _ => .ok none

def classEntry (name : PyString) (count : SpaValue) (property : PyString) (devices : SpaValue) :
    SpaValue :=
  .dict [field "class" (.str name), field "count" count, field "property" (.str property),
    field "devices" devices]

/-- One entry of the profile classes; none where it has another form. -/
def profileClass (item : SpaValue) : Except SpaError (Option SpaValue) :=
  match podItems? .struct item with
  | some items => do
      let entry ← memberValues items
      match entry with
      | [.str name, count, .str property, devices] =>
          if count.integral?.isSome then
            (deviceIndexes devices).map fun indexes =>
              indexes.map (classEntry name count property)
          else .ok none
      | _ => .ok none
  | none => .ok none

/-- The entries up to the first one of another form, which gives none. -/
def profileClasses : List SpaValue → Except SpaError (Option (List SpaValue))
  | [] => .ok (some [])
  | item :: rest => do
      let entry ← profileClass item
      match entry with
      | some entry => (profileClasses rest).map fun others => others.map (entry :: ·)
      | none => .ok none

/-- The class entries of a struct, which may count them in its first item. -/
def nestedClasses? : List SpaValue → Option (List SpaValue)
  | [] => none
  | .int count :: rest => if rest.length = count then some rest else none
  | .member _ count :: rest => if rest.length = count then some rest else none
  | items => some items

def structToProfileClasses (value : SpaValue) : Except SpaError SpaValue :=
  match podItems? .struct value with
  | some items => do
      let values ← memberValues items
      match nestedClasses? values with
      | some nested => (profileClasses nested).map fun classes => (classes.map .list).getD value
      | none => .ok value
  | none => .ok value

end ProfileClasses

section Choices

def coerceEnumMember (enumClass : EnumClass) (value : SpaValue) : SpaValue :=
  match value.integral? with
  | some number => if (enumClass.nameOf? number).isSome then .member enumClass number else value
  | none => value

def specializeField (specialize : SpaValue → Except SpaError SpaValue)
    (items : List (SpaKey × SpaValue)) (name : String) :
    Except SpaError (List (SpaKey × SpaValue)) :=
  match getField items name with
  | some value => (specialize value).map (Dictionary.set items (.name (text name)))
  | none => .ok items

def specializeEach (specialize : SpaValue → Except SpaError SpaValue) (value : SpaValue) :
    Except SpaError SpaValue := do
  let items ← pyList value
  let converted ← items.mapM specialize
  .ok (.list converted)

/-- The values of a choice, the ones its type names and the remaining ones. -/
def specializeChoice (specialize : SpaValue → Except SpaError SpaValue)
    (items : List (SpaKey × SpaValue)) : Except SpaError SpaValue := do
  let items ← specializeField (specializeEach specialize) items "values"
  let items ← specializeField specialize items "value"
  let items ← specializeField specialize items "default"
  let items ← specializeField specialize items "min"
  let items ← specializeField specialize items "max"
  let items ← specializeField specialize items "step"
  let items ← specializeField (specializeEach specialize) items "alternatives"
  let items ← specializeField (specializeEach specialize) items "flags_values"
  .ok (.dict items)

/-- A value, or every value of a choice. -/
def specializeValues (specialize : SpaValue → Except SpaError SpaValue) (value : SpaValue) :
    Except SpaError SpaValue :=
  match podItems? .choice value with
  | some items => specializeChoice specialize items
  | none => specialize value

/-- The `specialize` of `_specialize_array_property`. -/
def specializeArray (convert : SpaValue → Except SpaError SpaValue) (enumClass : Option EnumClass)
    (candidate : SpaValue) : Except SpaError SpaValue := do
  let converted ← arrayToValues? convert candidate
  match converted, enumClass with
  | none, _ => .ok candidate
  | some values, none => .ok (.list values)
  | some values, some enumClass => .ok (.list (values.map (coerceEnumMember enumClass)))

def specializeArrayProperty (convert : SpaValue → Except SpaError SpaValue)
    (enumClass : Option EnumClass) (value : SpaValue) : Except SpaError SpaValue :=
  specializeValues (specializeArray convert enumClass) value

def coerceEnumPropertyValue (enumClass : EnumClass) (value : SpaValue) :
    Except SpaError SpaValue :=
  specializeValues (fun item => .ok (coerceEnumMember enumClass item)) value

end Choices

section Properties

/-- The shapes that the parser gives a value; none leaves it to the enumeration. -/
def specializeShape (enumClass : Option EnumClass) (value : SpaValue) :
    Shape → Option (Except SpaError SpaValue)
  | .dictInfo => some (structToDictInfo value)
  | .params => some (structToParams value)
  | .labels => some (structToLabels value)
  | .profileClasses => some (structToProfileClasses value)
  | .arrayInt => some (specializeArrayProperty convertInt none value)
  | .arrayFloat => some (specializeArrayProperty convertFloat none value)
  | .arrayId => some (specializeArrayProperty convertInt enumClass value)
  | .objectProps => none
  | .objectFormat => none

def specializeByEnum (enumClass : Option EnumClass) (value : SpaValue) : Except SpaError SpaValue :=
  match enumClass with
  | some enumClass => coerceEnumPropertyValue enumClass value
  | none => .ok value

/-- The specialization that a spec asks for. -/
def specializeBySpec (spec : PropertySpec) (value : SpaValue) : Except SpaError SpaValue :=
  match spec.shape.bind (specializeShape spec.enumClass value) with
  | some specialized => specialized
  | none => specializeByEnum spec.enumClass value

def specializePropertyValue (objectId key : Int) (value : SpaValue) : Except SpaError SpaValue :=
  match propertySpecByKey objectId key with
  | some spec => specializeBySpec spec value
  | none => .ok value

end Properties

end WyrePlumber.Spa
