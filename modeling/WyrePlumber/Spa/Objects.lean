import WyrePlumber.Spa.Values

/-!
# Typed SPA objects

`SpaPodObject`: a mapping whose known properties are stored under their names,
with a table of flags and a table of numeric keys beside it.
-/

set_option autoImplicit false
set_option linter.constructorNameAsVariable false

namespace WyrePlumber.Spa

open Python

structure SpaPodObject (Value : Type) where
  header : ObjectHeader
  properties : List (SpaKey × Value)

namespace ObjectClass

def specByKey (objectClass : ObjectClass) (key : Int) : Option PropertySpec :=
  objectClass.specs.find? fun spec => spec.key = key

def specByName (objectClass : ObjectClass) (name : PyString) : Option PropertySpec :=
  objectClass.specs.find? fun spec => spec.name = name

def spec (objectClass : ObjectClass) : SpaKey → Option PropertySpec
  | .number key => objectClass.specByKey key
  | .name name => objectClass.specByName name

end ObjectClass

namespace SpaPodObject

variable {Value : Type} (object : SpaPodObject Value)

section Keys

/-- `self.property_keys.setdefault(name, key)`. -/
def rememberKey (name : PyString) (key : Int) : SpaPodObject Value :=
  if Dictionary.contains object.header.propertyKeys (.name name) then object
  else
    { object with
      header.propertyKeys := Dictionary.set object.header.propertyKeys (.name name) key }

/-- `_key_to_storage`, with the table of keys that it may extend. -/
def keyToStorage (key : SpaKey) : SpaPodObject Value × SpaKey :=
  match object.header.objectClass.spec key with
  | some spec => (object.rememberKey spec.name spec.key, .name spec.name)
  | none => (object, key)

def resolveExistingKey (key : SpaKey) : SpaKey :=
  if Dictionary.contains object.properties key then key
  else
    match object.header.objectClass.spec key with
    | some spec =>
        if Dictionary.contains object.properties (.name spec.name) then .name spec.name else key
    | none => key

end Keys

section Access

structure KeyError where
  key : SpaKey
  deriving DecidableEq

/-- `self[key]`. -/
def getItem (key : SpaKey) : Except KeyError Value :=
  match object.properties.lookup (object.resolveExistingKey key) with
  | some value => .ok value
  | none => .error ⟨object.resolveExistingKey key⟩

def get (key : SpaKey) (default : Value) : Value :=
  match object.getItem key with
  | .ok value => value
  | .error _ => default

/-- The key whose flags a new entry of the table of flags takes over. -/
def flagKey (storageKey key : SpaKey) : SpaKey :=
  match storageKey with
  | .name name =>
      if (object.header.objectClass.specByName name).isSome then storageKey else key
  | .number _ => key

/-- The flags of a storage key that has none yet. -/
def setFlags (storageKey key : SpaKey) : SpaPodObject Value :=
  if Dictionary.contains object.header.propertyFlags storageKey then object
  else
    { object with
      header.propertyFlags := Dictionary.set object.header.propertyFlags storageKey
        ((object.header.propertyFlags.lookup (object.flagKey storageKey key)).getD 0) }

/-- `self[key] = value`. -/
def setItem (key : SpaKey) (value : Value) : SpaPodObject Value :=
  let (object, storageKey) := object.keyToStorage key
  { object with properties := Dictionary.set object.properties storageKey value }.setFlags
    storageKey key

/-- `del self[key]`; none where Python raises `KeyError`. -/
def deleteItem (key : SpaKey) : Option (SpaPodObject Value) :=
  let storageKey := object.resolveExistingKey key
  if Dictionary.contains object.properties storageKey then
    some
      { header :=
          { object.header with
            propertyFlags := Dictionary.erase object.header.propertyFlags storageKey
            propertyKeys :=
              match storageKey with
              | .name _ => Dictionary.erase object.header.propertyKeys storageKey
              | .number _ => object.header.propertyKeys }
        properties := Dictionary.erase object.properties storageKey }
  else none

/-- The getter of `_object_property`, which gets the property with the default `None`. -/
def getAttribute (object : SpaPodObject SpaValue) (spec : PropertySpec) : SpaValue :=
  object.get (.name spec.name) .none

end Access

section Construction

def init (header : ObjectHeader) (properties : List (SpaKey × Value)) : SpaPodObject Value :=
  properties.foldl (fun object item => object.setItem item.1 item.2) ⟨header, []⟩

/-- The header of an instance of a class with its own object type and id. -/
def ownHeader (objectClass : ObjectClass) (propertyFlags : List (SpaKey × Int)) : ObjectHeader :=
  { objectClass, propertyFlags
    objectType := objectClass.objectType
    objectId := objectClass.objectId
    objectName := objectIdToName.lookup objectClass.objectId
    propertyKeys := [] }

end Construction

end SpaPodObject

def SpaPodObject.value (object : SpaPodObject SpaValue) : SpaValue :=
  .object object.header object.properties

end WyrePlumber.Spa
