import VectorQuery.Rpc.Selection
import VectorQuery.Selection.Basic
import VectorQuery.Text.Blank

/-!
# Selections as messages

A message asks for metadata apart from properties. The metadata are the fields of `_additional`. Of
the others, a field without fields is a plain property; one with a fragment among its fields asks
for the objects it refers to, fragment by fragment; any other is a property with parts.
-/

namespace VectorQuery

open Rpc

namespace Field

/-- The name of the field that selects metadata. -/
def additional : String := "_additional"

/-- How the name of a fragment begins. -/
def fragmentStart : List Char := "... on ".toList

/-- Whether a field selects metadata. -/
def isAdditional (f : Field) : Bool := f.name = additional

/-- Whether a field selects the fields of one class. -/
def isFragment (f : Field) : Bool := fragmentStart.isPrefixOf f.name.toList

/-- The class of a fragment. -/
def fragmentClass (f : Field) : String :=
  String.ofList (Text.trim (f.name.toList.drop fragmentStart.length))

/-- The metadata asked for with one more field of `_additional`; a field of another name asks for
nothing. -/
def addMetadata (m : MetadataRequest) (f : Field) : MetadataRequest :=
  match f.name with
  | "id" => { m with uuid := true }
  | "vector" => { m with vector := true }
  | "creationTimeUnix" => { m with creationTimeUnix := true }
  | "lastUpdateTimeUnix" => { m with lastUpdateTimeUnix := true }
  | "distance" => { m with distance := true }
  | "certainty" => { m with certainty := true }
  | "score" => { m with score := true }
  | "explainScore" => { m with explainScore := true }
  | "isConsistent" => { m with isConsistent := true }
  | "vectors" => { m with vectors := m.vectors ++ f.fields.map Field.name }
  | _ => m

/-- The metadata that a selection asks for, if it has an `_additional` field. -/
def metadataRequest (fields : List Field) : Option MetadataRequest :=
  match fields.filter isAdditional with
  | [] => none
  | additionals => some ((additionals.flatMap Field.fields).foldl addMetadata {})

mutual
/-- What a property with parts asks for. -/
def objectProperties : Field → ObjectPropertiesRequest
  | ⟨name, fields⟩ =>
    { propName := name
      primitiveProperties := (fields.filter fun f => f.fields.isEmpty).map Field.name
      objectProperties := nestedProperties fields }

/-- What the fields with fields of their own ask for. -/
def nestedProperties : List Field → List ObjectPropertiesRequest
  | [] => []
  | ⟨_, []⟩ :: rest => nestedProperties rest
  | ⟨name, field :: fields⟩ :: rest =>
    objectProperties ⟨name, field :: fields⟩ :: nestedProperties rest
end

/-- The fields that are plain properties. -/
def plainProperties (fields : List Field) : List String :=
  (fields.filter fun f => !f.isAdditional && f.fields.isEmpty).map Field.name

/-- The fields that are properties with parts. -/
def partedProperties (fields : List Field) : List ObjectPropertiesRequest :=
  (fields.filter fun f => !f.isAdditional && !f.fields.isEmpty && !f.fields.any isFragment).map
    objectProperties

/-- A request for properties, unless it asks for nothing. -/
def unlessNothing (request : PropertiesRequest) : Option PropertiesRequest :=
  if request.nonRefProperties.isEmpty && request.refProperties.isEmpty &&
      request.objectProperties.isEmpty then none
  else some request

mutual
/-- What a fragment asks for of the objects that a field refers to. -/
def fragmentRequest (reference : String) : Field → RefPropertiesRequest
  | ⟨name, fields⟩ =>
    { referenceProperty := reference
      properties := unlessNothing
        { nonRefProperties := plainProperties fields
          refProperties := referenceRequests fields
          objectProperties := partedProperties fields }
      metadata := metadataRequest fields
      targetCollection := fragmentClass ⟨name, fields⟩ }

/-- What the fragments among the fields ask for of the objects that a field refers to; of a field
that is no fragment, nothing. -/
def fragmentRequests (reference : String) : List Field → List RefPropertiesRequest
  | [] => []
  | f :: rest =>
    if f.isFragment then fragmentRequest reference f :: fragmentRequests reference rest
    else fragmentRequests reference rest

/-- What a field asks for of the objects that it refers to; metadata refer to none. -/
def fieldRequests : Field → List RefPropertiesRequest
  | ⟨name, fields⟩ => if name = additional then [] else fragmentRequests name fields

/-- What the fields ask for of the objects that they refer to. -/
def referenceRequests : List Field → List RefPropertiesRequest
  | [] => []
  | f :: rest => fieldRequests f ++ referenceRequests rest
end

/-- The properties that a selection asks for, if it asks for any. -/
def propertiesRequest (fields : List Field) : Option PropertiesRequest :=
  unlessNothing
    { nonRefProperties := plainProperties fields
      refProperties := referenceRequests fields
      objectProperties := partedProperties fields }

end Field

end VectorQuery
