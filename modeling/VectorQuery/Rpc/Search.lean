import VectorQuery.Rpc.Filters
import VectorQuery.Rpc.Property
import VectorQuery.Rpc.Selection

/-!
# Messages of searching

The request of a search with a message for each of its clauses, and the reply with the objects
found.
-/

namespace VectorQuery.Rpc

open Number Wire

/-- The weight of a target. -/
structure WeightsForTarget where
  /-- The name of the target. -/
  target : String := ""
  weight : Single := Binary.zero
  deriving DecidableEq

namespace WeightsForTarget

/-- The fields of a weight. -/
def fields (m : WeightsForTarget) : Fields :=
  Fields.plain 1 (.string m.target) ++ Fields.plain 2 (.float m.weight)

/-- The weight with the given fields. -/
def ofFields (fields : Fields) : WeightsForTarget where
  target := fields.string 1
  weight := fields.float 2

instance : Message WeightsForTarget := ⟨.weightsForTarget, fields, ofFields⟩

end WeightsForTarget

/-- A combination of target vectors. A target with several weights is listed once for each. -/
structure Targets where
  /-- The names of the targets. -/
  targetVectors : List String := []
  /-- The number of the method. -/
  combination : Int32 := 0
  /-- The weights. -/
  weightsForTargets : List WeightsForTarget := []
  deriving DecidableEq

namespace Targets

/-- The fields of a combination. -/
def fields (m : Targets) : Fields :=
  Fields.strings 1 m.targetVectors ++ Fields.plain 2 (.int32 m.combination) ++
    Fields.messages 3 (m.weightsForTargets.map WeightsForTarget.fields)

/-- The combination with the given fields. -/
def ofFields (fields : Fields) : Targets where
  targetVectors := fields.all Scalar.string? 1
  combination := fields.int32 2
  weightsForTargets := (fields.messagesAt 3).map WeightsForTarget.ofFields

instance : Message Targets := ⟨.targets, fields, ofFields⟩

end Targets

/-- The vector to search one target with. -/
structure VectorForTarget where
  /-- The name of the target. -/
  name : String := ""
  vector : List Single := []
  deriving DecidableEq

namespace VectorForTarget

/-- The fields of a target's vector. -/
def fields (m : VectorForTarget) : Fields :=
  Fields.plain 1 (.string m.name) ++ Fields.packed 2 .float m.vector

/-- The target's vector with the given fields. -/
def ofFields (fields : Fields) : VectorForTarget where
  name := fields.string 1
  vector := fields.all Scalar.float? 2

instance : Message VectorForTarget := ⟨.vectorForTarget, fields, ofFields⟩

end VectorForTarget

/-- A search near a vector. -/
structure NearVector where
  vector : List Single := []
  /-- The least certainty. -/
  certainty : Option Single := none
  /-- The greatest distance. -/
  distance : Option Single := none
  /-- The names of the targets. -/
  targetVectors : List String := []
  /-- The combination of targets. -/
  targets : Option Targets := none
  /-- The vectors for single targets. -/
  vectorForTargets : List VectorForTarget := []
  deriving DecidableEq

namespace NearVector

/-- The fields of the clause. -/
def fields (m : NearVector) : Fields :=
  Fields.packed 1 .float m.vector ++ Fields.optional 2 (m.certainty.map .float) ++
    Fields.optional 3 (m.distance.map .float) ++ Fields.strings 4 m.targetVectors ++
    Fields.message 5 (m.targets.map Targets.fields) ++
    Fields.messages 6 (m.vectorForTargets.map VectorForTarget.fields)

/-- The clause with the given fields. -/
def ofFields (fields : Fields) : NearVector where
  vector := fields.all Scalar.float? 1
  certainty := fields.last? Scalar.float? 2
  distance := fields.last? Scalar.float? 3
  targetVectors := fields.all Scalar.string? 4
  targets := (fields.message? 5).map Targets.ofFields
  vectorForTargets := (fields.messagesAt 6).map VectorForTarget.ofFields

instance : Message NearVector := ⟨.nearVector, fields, ofFields⟩

end NearVector

/-- A search near an object. -/
structure NearObject where
  /-- The id of the object. -/
  id : String := ""
  /-- The beacon of the object. -/
  beacon : String := ""
  /-- The least certainty. -/
  certainty : Option Single := none
  /-- The greatest distance. -/
  distance : Option Single := none
  /-- The names of the targets. -/
  targetVectors : List String := []
  /-- The combination of targets. -/
  targets : Option Targets := none
  deriving DecidableEq

namespace NearObject

/-- The fields of the clause. -/
def fields (m : NearObject) : Fields :=
  Fields.plain 1 (.string m.id) ++ Fields.plain 2 (.string m.beacon) ++
    Fields.optional 3 (m.certainty.map .float) ++ Fields.optional 4 (m.distance.map .float) ++
    Fields.strings 5 m.targetVectors ++ Fields.message 6 (m.targets.map Targets.fields)

/-- The clause with the given fields. -/
def ofFields (fields : Fields) : NearObject where
  id := fields.string 1
  beacon := fields.string 2
  certainty := fields.last? Scalar.float? 3
  distance := fields.last? Scalar.float? 4
  targetVectors := fields.all Scalar.string? 5
  targets := (fields.message? 6).map Targets.ofFields

instance : Message NearObject := ⟨.nearObject, fields, ofFields⟩

end NearObject

/-- A move of the search towards something or away from it. -/
structure Move where
  /-- How far to move. -/
  force : Single := Binary.zero
  /-- The concepts to move by. -/
  concepts : List String := []
  /-- The ids of the objects to move by. -/
  uuids : List String := []
  /-- The beacons of the objects to move by. -/
  beacons : List String := []
  deriving DecidableEq

namespace Move

/-- The fields of a move. -/
def fields (m : Move) : Fields :=
  Fields.plain 1 (.float m.force) ++ Fields.strings 2 m.concepts ++ Fields.strings 3 m.uuids ++
    Fields.strings 4 m.beacons

/-- The move with the given fields. -/
def ofFields (fields : Fields) : Move where
  force := fields.float 1
  concepts := fields.all Scalar.string? 2
  uuids := fields.all Scalar.string? 3
  beacons := fields.all Scalar.string? 4

instance : Message Move := ⟨.move, fields, ofFields⟩

end Move

/-- A search near concepts. -/
structure NearTextSearch where
  /-- The concepts. -/
  query : List String := []
  /-- The least certainty. -/
  certainty : Option Single := none
  /-- The greatest distance. -/
  distance : Option Single := none
  /-- What to move towards. -/
  moveTo : Option Move := none
  /-- What to move away from. -/
  moveAway : Option Move := none
  /-- Whether spelling is corrected. -/
  autocorrect : Option Bool := none
  /-- The names of the targets. -/
  targetVectors : List String := []
  /-- The combination of targets. -/
  targets : Option Targets := none
  deriving DecidableEq

namespace NearTextSearch

/-- The fields of the clause. -/
def fields (m : NearTextSearch) : Fields :=
  Fields.strings 1 m.query ++ Fields.optional 2 (m.certainty.map .float) ++
    Fields.optional 3 (m.distance.map .float) ++ Fields.message 4 (m.moveTo.map Move.fields) ++
    Fields.message 5 (m.moveAway.map Move.fields) ++
    Fields.optional 6 (m.autocorrect.map .bool) ++ Fields.strings 7 m.targetVectors ++
    Fields.message 8 (m.targets.map Targets.fields)

/-- The clause with the given fields. -/
def ofFields (fields : Fields) : NearTextSearch where
  query := fields.all Scalar.string? 1
  certainty := fields.last? Scalar.float? 2
  distance := fields.last? Scalar.float? 3
  moveTo := (fields.message? 4).map Move.ofFields
  moveAway := (fields.message? 5).map Move.ofFields
  autocorrect := fields.last? Scalar.bool? 6
  targetVectors := fields.all Scalar.string? 7
  targets := (fields.message? 8).map Targets.ofFields

instance : Message NearTextSearch := ⟨.nearTextSearch, fields, ofFields⟩

end NearTextSearch

/-- A search near a medium. -/
structure NearMediaSearch where
  /-- The number of the kind of medium. -/
  mediaType : Int32 := 0
  /-- The content as base64. -/
  media : String := ""
  /-- The least certainty. -/
  certainty : Option Single := none
  /-- The greatest distance. -/
  distance : Option Single := none
  /-- The names of the targets. -/
  targetVectors : List String := []
  /-- The combination of targets. -/
  targets : Option Targets := none
  deriving DecidableEq

namespace NearMediaSearch

/-- The fields of the clause. -/
def fields (m : NearMediaSearch) : Fields :=
  Fields.plain 1 (.int32 m.mediaType) ++ Fields.plain 2 (.string m.media) ++
    Fields.optional 3 (m.certainty.map .float) ++ Fields.optional 4 (m.distance.map .float) ++
    Fields.strings 5 m.targetVectors ++ Fields.message 6 (m.targets.map Targets.fields)

/-- The clause with the given fields. -/
def ofFields (fields : Fields) : NearMediaSearch where
  mediaType := fields.int32 1
  media := fields.string 2
  certainty := fields.last? Scalar.float? 3
  distance := fields.last? Scalar.float? 4
  targetVectors := fields.all Scalar.string? 5
  targets := (fields.message? 6).map Targets.ofFields

instance : Message NearMediaSearch := ⟨.nearMediaSearch, fields, ofFields⟩

end NearMediaSearch

/-- How many of the words of a keyword query must be found. -/
structure SearchOperatorOptions where
  /-- The number of the operator. -/
  operator : Int32 := 0
  /-- How many words must be found when any of them may be. -/
  minimumOrTokensMatch : Option Int32 := none
  deriving DecidableEq

namespace SearchOperatorOptions

/-- The fields of the operator. -/
def fields (m : SearchOperatorOptions) : Fields :=
  Fields.plain 1 (.int32 m.operator) ++ Fields.optional 2 (m.minimumOrTokensMatch.map .int32)

/-- The operator with the given fields. -/
def ofFields (fields : Fields) : SearchOperatorOptions where
  operator := fields.int32 1
  minimumOrTokensMatch := fields.last? Scalar.int32? 2

instance : Message SearchOperatorOptions := ⟨.searchOperatorOptions, fields, ofFields⟩

end SearchOperatorOptions

/-- A keyword search. -/
structure Bm25 where
  query : String := ""
  /-- The properties that are searched. -/
  properties : List String := []
  /-- How many words must be found. -/
  searchOperator : Option SearchOperatorOptions := none
  deriving DecidableEq

namespace Bm25

/-- The fields of the clause. -/
def fields (m : Bm25) : Fields :=
  Fields.plain 1 (.string m.query) ++ Fields.strings 2 m.properties ++
    Fields.message 3 (m.searchOperator.map SearchOperatorOptions.fields)

/-- The clause with the given fields. -/
def ofFields (fields : Fields) : Bm25 where
  query := fields.string 1
  properties := fields.all Scalar.string? 2
  searchOperator := (fields.message? 3).map SearchOperatorOptions.ofFields

instance : Message Bm25 := ⟨.bm25, fields, ofFields⟩

end Bm25

/-- A search that joins keywords and vectors. -/
structure Hybrid where
  query : String := ""
  /-- The properties that are searched for keywords. -/
  properties : List String := []
  vector : List Single := []
  /-- The part of the vector search in the score. -/
  alpha : Option Single := none
  /-- The number of the way in which scores are joined. -/
  fusionType : Int32 := 0
  /-- The names of the targets. -/
  targetVectors : List String := []
  /-- The combination of targets. -/
  targets : Option Targets := none
  /-- The greatest distance of the vector search. -/
  maxVectorDistance : Option Single := none
  /-- How many words must be found. -/
  bm25SearchOperator : Option SearchOperatorOptions := none
  /-- The vector search, when it is by concepts. -/
  nearText : Option NearTextSearch := none
  /-- The vector search, when it is by a vector. -/
  nearVector : Option NearVector := none
  deriving DecidableEq

namespace Hybrid

/-- The fields of the clause. -/
def fields (m : Hybrid) : Fields :=
  Fields.plain 1 (.string m.query) ++ Fields.strings 2 m.properties ++
    Fields.packed 3 .float m.vector ++ Fields.optional 4 (m.alpha.map .float) ++
    Fields.plain 5 (.int32 m.fusionType) ++ Fields.strings 6 m.targetVectors ++
    Fields.message 7 (m.targets.map Targets.fields) ++
    Fields.optional 8 (m.maxVectorDistance.map .float) ++
    Fields.message 9 (m.bm25SearchOperator.map SearchOperatorOptions.fields) ++
    Fields.message 10 (m.nearText.map NearTextSearch.fields) ++
    Fields.message 11 (m.nearVector.map NearVector.fields)

/-- The clause with the given fields. -/
def ofFields (fields : Fields) : Hybrid where
  query := fields.string 1
  properties := fields.all Scalar.string? 2
  vector := fields.all Scalar.float? 3
  alpha := fields.last? Scalar.float? 4
  fusionType := fields.int32 5
  targetVectors := fields.all Scalar.string? 6
  targets := (fields.message? 7).map Targets.ofFields
  maxVectorDistance := fields.last? Scalar.float? 8
  bm25SearchOperator := (fields.message? 9).map SearchOperatorOptions.ofFields
  nearText := (fields.message? 10).map NearTextSearch.ofFields
  nearVector := (fields.message? 11).map NearVector.ofFields

instance : Message Hybrid := ⟨.hybrid, fields, ofFields⟩

end Hybrid

/-- A key that the objects found are sorted by. -/
structure SortBy where
  /-- Whether the least comes first; unset leaves it to the server. -/
  ascending : Option Bool := none
  /-- The path of the property. -/
  path : List String := []
  deriving DecidableEq

namespace SortBy

/-- The fields of a key. -/
def fields (m : SortBy) : Fields :=
  Fields.optional 1 (m.ascending.map .bool) ++ Fields.strings 2 m.path

/-- The key with the given fields. -/
def ofFields (fields : Fields) : SortBy where
  ascending := fields.last? Scalar.bool? 1
  path := fields.all Scalar.string? 2

instance : Message SortBy := ⟨.sortBy, fields, ofFields⟩

end SortBy

/-- How the objects found are grouped. -/
structure GroupBy where
  /-- The path of the property. -/
  path : List String := []
  /-- How many groups there are at most. -/
  numberOfGroups : Int32 := 0
  /-- How many objects a group has at most. -/
  objectsPerGroup : Int32 := 0
  deriving DecidableEq

namespace GroupBy

/-- The fields of a grouping. -/
def fields (m : GroupBy) : Fields :=
  Fields.strings 1 m.path ++ Fields.plain 2 (.int32 m.numberOfGroups) ++
    Fields.plain 3 (.int32 m.objectsPerGroup)

/-- The grouping with the given fields. -/
def ofFields (fields : Fields) : GroupBy where
  path := fields.all Scalar.string? 1
  numberOfGroups := fields.int32 2
  objectsPerGroup := fields.int32 3

instance : Message GroupBy := ⟨.groupBy, fields, ofFields⟩

end GroupBy

/-- What is generated from the objects found. -/
structure GenerativeSearch where
  /-- The prompt for each object. -/
  singleResponsePrompt : String := ""
  /-- The task for all objects together. -/
  groupedResponseTask : String := ""
  /-- The properties that the task may use. -/
  groupedProperties : List String := []
  deriving DecidableEq

namespace GenerativeSearch

/-- The fields of the clause. -/
def fields (m : GenerativeSearch) : Fields :=
  Fields.plain 1 (.string m.singleResponsePrompt) ++
    Fields.plain 2 (.string m.groupedResponseTask) ++ Fields.strings 3 m.groupedProperties

/-- The clause with the given fields. -/
def ofFields (fields : Fields) : GenerativeSearch where
  singleResponsePrompt := fields.string 1
  groupedResponseTask := fields.string 2
  groupedProperties := fields.all Scalar.string? 3

instance : Message GenerativeSearch := ⟨.generativeSearch, fields, ofFields⟩

end GenerativeSearch

/-- The request of a search. -/
structure SearchRequest where
  /-- The class that is searched. -/
  collection : String := ""
  /-- The tenant whose objects are searched. -/
  tenant : String := ""
  /-- The number of the consistency level. -/
  consistencyLevel : Option Int32 := none
  /-- The properties that are asked for. -/
  properties : Option PropertiesRequest := none
  /-- The metadata that is asked for. -/
  metadata : Option MetadataRequest := none
  /-- How the objects found are grouped. -/
  groupBy : Option GroupBy := none
  /-- How many objects are returned at most. -/
  limit : Option UInt32 := none
  /-- How many objects are passed over. -/
  offset : Option UInt32 := none
  /-- How many jumps in the score are allowed. -/
  autocut : Option UInt32 := none
  /-- The id after which objects are listed. -/
  after : String := ""
  /-- The keys that the objects are sorted by. -/
  sortBy : List SortBy := []
  /-- The filter. -/
  filters : Option Filters := none
  /-- The search by concepts. -/
  nearText : Option NearTextSearch := none
  /-- The search by a vector. -/
  nearVector : Option NearVector := none
  /-- The search by an object. -/
  nearObject : Option NearObject := none
  /-- The searches by media. -/
  nearMedia : List NearMediaSearch := []
  /-- The keyword search. -/
  bm25Search : Option Bm25 := none
  hybridSearch : Option Hybrid := none
  /-- What is generated. -/
  generative : Option GenerativeSearch := none

namespace SearchRequest

/-- The fields of the request. -/
def fields (m : SearchRequest) : Fields :=
  Fields.plain 1 (.string m.collection) ++ Fields.plain 2 (.string m.tenant) ++
    Fields.optional 3 (m.consistencyLevel.map .int32) ++
    Fields.message 10 (m.properties.map PropertiesRequest.fields) ++
    Fields.message 11 (m.metadata.map MetadataRequest.fields) ++
    Fields.message 12 (m.groupBy.map GroupBy.fields) ++
    Fields.optional 20 (m.limit.map .uint32) ++ Fields.optional 21 (m.offset.map .uint32) ++
    Fields.optional 22 (m.autocut.map .uint32) ++ Fields.plain 23 (.string m.after) ++
    Fields.messages 24 (m.sortBy.map SortBy.fields) ++
    Fields.message 30 (m.filters.map Filters.fields) ++
    Fields.message 40 (m.nearText.map NearTextSearch.fields) ++
    Fields.message 41 (m.nearVector.map NearVector.fields) ++
    Fields.message 42 (m.nearObject.map NearObject.fields) ++
    Fields.messages 43 (m.nearMedia.map NearMediaSearch.fields) ++
    Fields.message 44 (m.bm25Search.map Bm25.fields) ++
    Fields.message 45 (m.hybridSearch.map Hybrid.fields) ++
    Fields.message 50 (m.generative.map GenerativeSearch.fields)

/-- The request with the given fields. -/
def ofFields (fields : Fields) : SearchRequest where
  collection := fields.string 1
  tenant := fields.string 2
  consistencyLevel := fields.last? Scalar.int32? 3
  properties := (fields.message? 10).map PropertiesRequest.ofFields
  metadata := (fields.message? 11).map MetadataRequest.ofFields
  groupBy := (fields.message? 12).map GroupBy.ofFields
  limit := fields.last? Scalar.uint32? 20
  offset := fields.last? Scalar.uint32? 21
  autocut := fields.last? Scalar.uint32? 22
  after := fields.string 23
  sortBy := (fields.messagesAt 24).map SortBy.ofFields
  filters := (fields.message? 30).map Filters.ofFields
  nearText := (fields.message? 40).map NearTextSearch.ofFields
  nearVector := (fields.message? 41).map NearVector.ofFields
  nearObject := (fields.message? 42).map NearObject.ofFields
  nearMedia := (fields.messagesAt 43).map NearMediaSearch.ofFields
  bm25Search := (fields.message? 44).map Bm25.ofFields
  hybridSearch := (fields.message? 45).map Hybrid.ofFields
  generative := (fields.message? 50).map GenerativeSearch.ofFields

instance : Message SearchRequest := ⟨.searchRequest, fields, ofFields⟩

end SearchRequest

/-- The metadata of an object found. -/
structure MetadataResult where
  id : String := ""
  /-- The unnamed vector. -/
  vector : List Single := []
  /-- The distance from what was searched. -/
  distance : Option Single := none
  /-- The certainty of the match. -/
  certainty : Option Single := none
  /-- The score of the match. -/
  score : Option Single := none
  /-- How the score came about. -/
  explainScore : String := ""
  /-- When the object was created. -/
  creationTimeUnix : Int64 := 0
  /-- When the object was changed. -/
  lastUpdateTimeUnix : Int64 := 0
  deriving DecidableEq

namespace MetadataResult

/-- The fields of the metadata. -/
def fields (m : MetadataResult) : Fields :=
  Fields.plain 1 (.string m.id) ++ Fields.packed 2 .float m.vector ++
    Fields.optional 3 (m.distance.map .float) ++ Fields.optional 4 (m.certainty.map .float) ++
    Fields.optional 5 (m.score.map .float) ++ Fields.plain 6 (.string m.explainScore) ++
    Fields.plain 7 (.int64 m.creationTimeUnix) ++ Fields.plain 8 (.int64 m.lastUpdateTimeUnix)

/-- The metadata with the given fields. -/
def ofFields (fields : Fields) : MetadataResult where
  id := fields.string 1
  vector := fields.all Scalar.float? 2
  distance := fields.last? Scalar.float? 3
  certainty := fields.last? Scalar.float? 4
  score := fields.last? Scalar.float? 5
  explainScore := fields.string 6
  creationTimeUnix := fields.int64 7
  lastUpdateTimeUnix := fields.int64 8

instance : Message MetadataResult := ⟨.metadataResult, fields, ofFields⟩

end MetadataResult

/-- An object found. -/
structure SearchResult where
  /-- The properties of the object. -/
  properties : List (String × PropertyValue) := []
  /-- The metadata of the object. -/
  metadata : Option MetadataResult := none
  /-- What was generated for the object. -/
  generativeSingleResult : String := ""
  deriving DecidableEq

namespace SearchResult

/-- The fields of an object found. -/
def fields (m : SearchResult) : Fields :=
  PropertyValue.mapFields 1 m.properties ++
    Fields.message 2 (m.metadata.map MetadataResult.fields) ++
    Fields.plain 3 (.string m.generativeSingleResult)

/-- The object found with the given fields. -/
def ofFields (fields : Fields) : SearchResult where
  properties := PropertyValue.mapOfFields 1 fields
  metadata := (fields.message? 2).map MetadataResult.ofFields
  generativeSingleResult := fields.string 3

instance : Message SearchResult := ⟨.searchResult, fields, ofFields⟩

end SearchResult

/-- The reply to a search. -/
structure SearchReply where
  /-- How long the search took. -/
  took : Single := Binary.zero
  /-- The objects found. -/
  results : List SearchResult := []
  /-- What was generated for all objects together. -/
  generativeGroupedResult : String := ""
  deriving DecidableEq

namespace SearchReply

/-- The fields of the reply. -/
def fields (m : SearchReply) : Fields :=
  Fields.plain 1 (.float m.took) ++ Fields.messages 2 (m.results.map SearchResult.fields) ++
    Fields.plain 3 (.string m.generativeGroupedResult)

/-- The reply with the given fields. -/
def ofFields (fields : Fields) : SearchReply where
  took := fields.float 1
  results := (fields.messagesAt 2).map SearchResult.ofFields
  generativeGroupedResult := fields.string 3

instance : Message SearchReply := ⟨.searchReply, fields, ofFields⟩

end SearchReply

end VectorQuery.Rpc
