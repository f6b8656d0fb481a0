import VectorQuery.Rpc.Message

/-!
# Selection messages

Which properties and which metadata of the objects found a search asks for.
-/

namespace VectorQuery.Rpc

open Wire

/-- Which metadata is asked for. -/
structure MetadataRequest where
  /-- The id. -/
  uuid : Bool := false
  /-- The unnamed vector. -/
  vector : Bool := false
  /-- When the object was created. -/
  creationTimeUnix : Bool := false
  /-- When the object was changed. -/
  lastUpdateTimeUnix : Bool := false
  /-- The distance from what was searched. -/
  distance : Bool := false
  /-- The certainty of the match. -/
  certainty : Bool := false
  /-- The score of the match. -/
  score : Bool := false
  /-- How the score came about. -/
  explainScore : Bool := false
  /-- Whether the replicas agree. -/
  isConsistent : Bool := false
  /-- The names of the named vectors. -/
  vectors : List String := []
  deriving DecidableEq

namespace MetadataRequest

/-- The fields of the request. -/
def fields (m : MetadataRequest) : Fields :=
  Fields.plain 1 (.bool m.uuid) ++ Fields.plain 2 (.bool m.vector) ++
    Fields.plain 3 (.bool m.creationTimeUnix) ++ Fields.plain 4 (.bool m.lastUpdateTimeUnix) ++
    Fields.plain 5 (.bool m.distance) ++ Fields.plain 6 (.bool m.certainty) ++
    Fields.plain 7 (.bool m.score) ++ Fields.plain 8 (.bool m.explainScore) ++
    Fields.plain 9 (.bool m.isConsistent) ++ Fields.strings 10 m.vectors

/-- The request with the given fields. -/
def ofFields (fields : Fields) : MetadataRequest where
  uuid := fields.bool 1
  vector := fields.bool 2
  creationTimeUnix := fields.bool 3
  lastUpdateTimeUnix := fields.bool 4
  distance := fields.bool 5
  certainty := fields.bool 6
  score := fields.bool 7
  explainScore := fields.bool 8
  isConsistent := fields.bool 9
  vectors := fields.all Scalar.string? 10

instance : Message MetadataRequest := ⟨.metadataRequest, fields, ofFields⟩

end MetadataRequest

/-- Which parts of an object-valued property are asked for. -/
structure ObjectPropertiesRequest where
  /-- The name of the property. -/
  propName : String := ""
  /-- The parts without parts of their own. -/
  primitiveProperties : List String := []
  /-- The parts with parts of their own. -/
  objectProperties : List ObjectPropertiesRequest := []

namespace ObjectPropertiesRequest

instance : Inhabited ObjectPropertiesRequest := ⟨{}⟩

mutual
/-- The fields of the request. -/
def fields : ObjectPropertiesRequest → Fields
  | ⟨propName, primitiveProperties, objectProperties⟩ =>
    Fields.plain 1 (.string propName) ++ Fields.strings 2 primitiveProperties ++
      listFields 3 objectProperties

/-- The fields of requests, each under the number. -/
def listFields (number : Nat) : List ObjectPropertiesRequest → Fields
  | [] => []
  | m :: ms => (number, .message m.fields) :: listFields number ms
end

/-- The request with the given fields. -/
def ofFields (fields : Fields) : ObjectPropertiesRequest :=
  { propName := fields.string 1
    primitiveProperties := fields.all Scalar.string? 2
    objectProperties := (fields.messagesAt 3).attach.map fun ⟨m, _⟩ => ofFields m }
  termination_by Fields.weight fields
  decreasing_by exact Fields.weight_lt_of_mem_messagesAt ‹_›

instance : Message ObjectPropertiesRequest := ⟨.objectPropertiesRequest, fields, ofFields⟩

end ObjectPropertiesRequest

mutual
/-- Which properties are asked for. -/
structure PropertiesRequest where
  /-- The properties with plain values. -/
  nonRefProperties : List String := []
  /-- The properties that refer to other objects. -/
  refProperties : List RefPropertiesRequest := []
  /-- The properties with parts. -/
  objectProperties : List ObjectPropertiesRequest := []

/-- What is asked for of the objects that a property refers to. -/
structure RefPropertiesRequest where
  /-- The name of the property. -/
  referenceProperty : String := ""
  /-- The properties of the objects. -/
  properties : Option PropertiesRequest := none
  /-- The metadata of the objects. -/
  metadata : Option MetadataRequest := none
  /-- The class of the objects. -/
  targetCollection : String := ""
end

instance : Inhabited PropertiesRequest := ⟨{}⟩

instance : Inhabited RefPropertiesRequest := ⟨{}⟩

mutual
/-- The fields of a request for properties. -/
def PropertiesRequest.fields : PropertiesRequest → Fields
  | ⟨nonRefProperties, refProperties, objectProperties⟩ =>
    Fields.strings 1 nonRefProperties ++ RefPropertiesRequest.listFields refProperties ++
      ObjectPropertiesRequest.listFields 3 objectProperties

/-- The fields of requests for the objects referred to. -/
def RefPropertiesRequest.listFields : List RefPropertiesRequest → Fields
  | [] => []
  | m :: ms => (2, .message m.fields) :: RefPropertiesRequest.listFields ms

/-- The fields of a request for the objects referred to. -/
def RefPropertiesRequest.fields : RefPropertiesRequest → Fields
  | ⟨referenceProperty, properties, metadata, targetCollection⟩ =>
    Fields.plain 1 (.string referenceProperty) ++ PropertiesRequest.optionFields properties ++
      Fields.message 3 (metadata.map MetadataRequest.fields) ++
      Fields.plain 4 (.string targetCollection)

/-- The fields of a request for properties that may be absent. -/
def PropertiesRequest.optionFields : Option PropertiesRequest → Fields
  | none => []
  | some m => [(2, .message m.fields)]
end

mutual
/-- The request for properties with the given fields. -/
def PropertiesRequest.ofFields (fields : Fields) : PropertiesRequest :=
  { nonRefProperties := fields.all Scalar.string? 1
    refProperties := (fields.messagesAt 2).attach.map fun ⟨m, _⟩ => RefPropertiesRequest.ofFields m
    objectProperties := (fields.messagesAt 3).map ObjectPropertiesRequest.ofFields }
  termination_by Fields.weight fields
  decreasing_by exact Fields.weight_lt_of_mem_messagesAt ‹_›

/-- The request for the objects referred to with the given fields. -/
def RefPropertiesRequest.ofFields (fields : Fields) : RefPropertiesRequest :=
  { referenceProperty := fields.string 1
    properties := match _h : fields.message? 2 with
      | none => none
      | some m => some (PropertiesRequest.ofFields m)
    metadata := (fields.message? 3).map MetadataRequest.ofFields
    targetCollection := fields.string 4 }
  termination_by Fields.weight fields
  decreasing_by exact Fields.weight_lt_of_message? ‹_›
end

instance : Message PropertiesRequest :=
  ⟨.propertiesRequest, PropertiesRequest.fields, PropertiesRequest.ofFields⟩

instance : Message RefPropertiesRequest :=
  ⟨.refPropertiesRequest, RefPropertiesRequest.fields, RefPropertiesRequest.ofFields⟩

end VectorQuery.Rpc
