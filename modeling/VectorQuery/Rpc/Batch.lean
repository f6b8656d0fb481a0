import VectorQuery.Rpc.Filters
import VectorQuery.Rpc.Property

/-!
# Messages of writing in batches

The requests that insert and delete objects, and the replies to them.
-/

namespace VectorQuery.Rpc

open Number Wire

/-- One of the named vectors of an object. -/
structure NamedVector where
  /-- The name of the vector. -/
  name : String := ""
  /-- The vector. -/
  values : List Single := []
  deriving DecidableEq

namespace NamedVector

/-- The fields of a named vector. -/
def fields (m : NamedVector) : Fields :=
  Fields.plain 1 (.string m.name) ++ Fields.packed 2 .float m.values

/-- The named vector with the given fields. -/
def ofFields (fields : Fields) : NamedVector where
  name := fields.string 1
  values := fields.all Scalar.float? 2

instance : Message NamedVector := ⟨.namedVector, fields, ofFields⟩

end NamedVector

/-- An object to insert. -/
structure BatchObject where
  /-- The id of the object. -/
  uuid : String := ""
  /-- The class of the object. -/
  collection : String := ""
  /-- The unnamed vector of the object. -/
  vector : List Single := []
  /-- The properties of the object. -/
  properties : List (String × PropertyValue) := []
  /-- The tenant of the object. -/
  tenant : String := ""
  /-- The named vectors of the object. -/
  vectors : List NamedVector := []
  deriving DecidableEq

namespace BatchObject

/-- The fields of an object. -/
def fields (m : BatchObject) : Fields :=
  Fields.plain 1 (.string m.uuid) ++ Fields.plain 2 (.string m.collection) ++
    Fields.packed 3 .float m.vector ++ PropertyValue.mapFields 4 m.properties ++
    Fields.plain 5 (.string m.tenant) ++ Fields.messages 6 (m.vectors.map NamedVector.fields)

/-- The object with the given fields. -/
def ofFields (fields : Fields) : BatchObject where
  uuid := fields.string 1
  collection := fields.string 2
  vector := fields.all Scalar.float? 3
  properties := PropertyValue.mapOfFields 4 fields
  tenant := fields.string 5
  vectors := (fields.messagesAt 6).map NamedVector.ofFields

instance : Message BatchObject := ⟨.batchObject, fields, ofFields⟩

end BatchObject

/-- The request to insert objects. -/
structure BatchObjectsRequest where
  objects : List BatchObject := []
  /-- The number of the consistency level. -/
  consistencyLevel : Option Int32 := none
  deriving DecidableEq

namespace BatchObjectsRequest

/-- The fields of the request. -/
def fields (m : BatchObjectsRequest) : Fields :=
  Fields.messages 1 (m.objects.map BatchObject.fields) ++
    Fields.optional 2 (m.consistencyLevel.map .int32)

/-- The request with the given fields. -/
def ofFields (fields : Fields) : BatchObjectsRequest where
  objects := (fields.messagesAt 1).map BatchObject.ofFields
  consistencyLevel := fields.last? Scalar.int32? 2

instance : Message BatchObjectsRequest := ⟨.batchObjectsRequest, fields, ofFields⟩

end BatchObjectsRequest

/-- An error of one object of an insert. -/
structure BatchError where
  /-- The place of the object in the request. -/
  index : Int32 := 0
  /-- What is wrong. -/
  error : String := ""
  deriving DecidableEq

namespace BatchError

/-- The fields of an error. -/
def fields (m : BatchError) : Fields :=
  Fields.plain 1 (.int32 m.index) ++ Fields.plain 2 (.string m.error)

/-- The error with the given fields. -/
def ofFields (fields : Fields) : BatchError where
  index := fields.int32 1
  error := fields.string 2

instance : Message BatchError := ⟨.batchError, fields, ofFields⟩

end BatchError

/-- The reply to an insert. -/
structure BatchObjectsReply where
  /-- How long the insert took. -/
  took : Single := Binary.zero
  /-- The errors of the objects. -/
  errors : List BatchError := []
  deriving DecidableEq

namespace BatchObjectsReply

/-- The fields of the reply. -/
def fields (m : BatchObjectsReply) : Fields :=
  Fields.plain 1 (.float m.took) ++ Fields.messages 2 (m.errors.map BatchError.fields)

/-- The reply with the given fields. -/
def ofFields (fields : Fields) : BatchObjectsReply where
  took := fields.float 1
  errors := (fields.messagesAt 2).map BatchError.ofFields

instance : Message BatchObjectsReply := ⟨.batchObjectsReply, fields, ofFields⟩

end BatchObjectsReply

/-- The request to delete the objects that a filter selects. -/
structure BatchDeleteRequest where
  /-- The class of the objects. -/
  collection : String := ""
  /-- The filter. -/
  filters : Option Filters := none
  /-- Whether the reply lists the objects. -/
  verbose : Bool := false
  /-- Whether nothing is deleted. -/
  dryRun : Bool := false
  /-- The number of the consistency level. -/
  consistencyLevel : Option Int32 := none
  /-- The tenant of the objects. -/
  tenant : String := ""

namespace BatchDeleteRequest

/-- The fields of the request. -/
def fields (m : BatchDeleteRequest) : Fields :=
  Fields.plain 1 (.string m.collection) ++ Fields.message 2 (m.filters.map Filters.fields) ++
    Fields.plain 3 (.bool m.verbose) ++ Fields.plain 4 (.bool m.dryRun) ++
    Fields.optional 5 (m.consistencyLevel.map .int32) ++ Fields.plain 6 (.string m.tenant)

/-- The request with the given fields. -/
def ofFields (fields : Fields) : BatchDeleteRequest where
  collection := fields.string 1
  filters := (fields.message? 2).map Filters.ofFields
  verbose := fields.bool 3
  dryRun := fields.bool 4
  consistencyLevel := fields.last? Scalar.int32? 5
  tenant := fields.string 6

instance : Message BatchDeleteRequest := ⟨.batchDeleteRequest, fields, ofFields⟩

end BatchDeleteRequest

/-- The reply to a delete. -/
structure BatchDeleteReply where
  /-- How long the delete took. -/
  took : Single := Binary.zero
  /-- How many objects could not be deleted. -/
  failed : Int64 := 0
  /-- How many objects the filter selects. -/
  matched : Int64 := 0
  /-- How many objects were deleted. -/
  successful : Int64 := 0
  deriving DecidableEq

namespace BatchDeleteReply

/-- The fields of the reply. -/
def fields (m : BatchDeleteReply) : Fields :=
  Fields.plain 1 (.float m.took) ++ Fields.plain 2 (.int64 m.failed) ++
    Fields.plain 3 (.int64 m.matched) ++ Fields.plain 4 (.int64 m.successful)

/-- The reply with the given fields. -/
def ofFields (fields : Fields) : BatchDeleteReply where
  took := fields.float 1
  failed := fields.int64 2
  matched := fields.int64 3
  successful := fields.int64 4

instance : Message BatchDeleteReply := ⟨.batchDeleteReply, fields, ofFields⟩

end BatchDeleteReply

end VectorQuery.Rpc
