import VectorQuery.Json.Record
import VectorQuery.Property
import VectorQuery.Rpc.Batch
import VectorQuery.Uuid

/-!
# Objects

An object to store: an id, a class, free JSON properties and vectors. `DataObject.text` is its own
JSON form, where 32-bit numbers are written by their own digits; inside of a larger request an
object is the JSON value `DataObject.json`, whose numbers have 64 bits. `DataObject.reader` reads
both. Properties and named vectors are left out when there are none, an unnamed vector and a tenant
only when they are not set.
-/

namespace VectorQuery

open Number

/-- An object to store. -/
structure DataObject where
  id : Uuid := default
  /-- The class. -/
  className : String := ""
  properties : List (String × Json) := []
  /-- The unnamed vector. -/
  vector : Option (List Single) := none
  /-- The named vectors. -/
  vectors : List (String × List Single) := []
  tenant : Option String := none

namespace DataObject

instance : Inhabited DataObject := ⟨{}⟩

/-- A setting of an object. -/
inductive Setting where
  | id (id : Uuid)
  /-- One property. -/
  | property (name : String) (value : Json)
  /-- All properties, in place of those set before. -/
  | properties (properties : List (String × Json))
  /-- The unnamed vector. -/
  | vector (values : List Single)
  | namedVector (name : String) (values : List Single)
  | tenant (tenant : String)

/-- The object with one more setting. -/
def set (o : DataObject) : Setting → DataObject
  | .id id => { o with id }
  | .property name value => { o with properties := Keyed.insert name value o.properties }
  | .properties properties => { o with properties := Keyed.ofList properties }
  | .vector values => { o with vector := some values }
  | .namedVector name values => { o with vectors := Keyed.insert name values o.vectors }
  | .tenant tenant => { o with tenant := some tenant }

/-- The object of a class with an id and the given settings, one after another. -/
def ofSettings (id : Uuid) (className : String) (settings : List Setting) : DataObject :=
  settings.foldl set { id, className }

/-- A vector as JSON text. -/
def vectorChars (values : List Single) : List Char :=
  Json.arrayChars (values.map fun x =>
    if x.isFinite then Layout.jsonSingle.chars x else Json.chars .null)

/-- The fields of an object as JSON texts, in the order of the record. -/
def fieldTexts (o : DataObject) : List (String × List Char) :=
  [("id", Json.chars (.string o.id.text)), ("class", Json.chars (.string o.className))] ++
    (if o.properties.isEmpty then []
      else [("properties", Json.chars (.object o.properties))]) ++
    (o.vector.toList.map fun values => ("vector", vectorChars values)) ++
    (if o.vectors.isEmpty then []
      else [("vectors", Json.objectChars (o.vectors.map fun (name, values) =>
        (name, vectorChars values)))]) ++
    (o.tenant.toList.map fun tenant => ("tenant", Json.chars (.string tenant)))

/-- The JSON text of an object on its own. -/
def text (o : DataObject) : String := String.ofList (Json.objectChars o.fieldTexts)

/-- A vector as a JSON value. -/
def vectorJson (values : List Single) : Json := .array (values.map .ofSingle)

/-- An object as a JSON value. -/
def json (o : DataObject) : Json :=
  .ofMembers
    ([("id", .string o.id.text), ("class", .string o.className)] ++
      (if o.properties.isEmpty then [] else [("properties", .object o.properties)]) ++
      (o.vector.toList.map fun values => ("vector", vectorJson values)) ++
      (if o.vectors.isEmpty then []
        else [("vectors", .object (o.vectors.map fun (name, values) =>
          (name, vectorJson values)))]) ++
      (o.tenant.toList.map fun tenant => ("tenant", .string tenant)))

open Json Json.Reader Json.FieldReader in
/-- Reads an object. -/
def reader : Json.Reader DataObject :=
  record ["id", "class", "properties", "vector", "vectors", "tenant"] do
    let id ← required fun room tree => (string room tree).bind Uuid.ofString?
    let className ← required string
    let properties ← withDefault [] (keyed Reader.json)
    let vector ← FieldReader.optional (list single)
    let vectors ← withDefault [] (keyed (list single))
    let tenant ← FieldReader.optional string
    return { id, className, properties, vector, vectors, tenant }

/-- An object as a message. -/
def message (o : DataObject) : Rpc.BatchObject where
  uuid := o.id.text
  collection := o.className
  vector := o.vector.getD []
  properties := Property.values o.properties
  tenant := o.tenant.getD ""
  vectors := o.vectors.map fun (name, values) => { name, values }

end DataObject

end VectorQuery
