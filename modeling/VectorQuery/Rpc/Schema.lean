import VectorQuery.Wire.Schema

/-!
# The schema of the service

The messages of searching and of writing in batches, field by field.
-/

namespace VectorQuery.Rpc

open Wire

/-- The messages of the service. An entry of a property map is a message of its own. -/
inductive MessageType where
  | textArray | intArray | numberArray | booleanArray | geoCoordinatesFilter | filters
  | propertyValue | propertyEntry
  | weightsForTarget | targets | vectorForTarget | nearVector | nearObject | move | nearTextSearch
  | nearMediaSearch | searchOperatorOptions | bm25 | hybrid | sortBy | groupBy
  | metadataRequest | objectPropertiesRequest | refPropertiesRequest | propertiesRequest
  | generativeSearch | searchRequest | metadataResult | searchResult | searchReply
  | namedVector | batchObject | batchObjectsRequest | batchError | batchObjectsReply
  | batchDeleteRequest | batchDeleteReply
  deriving DecidableEq, Repr

open MessageType

/-- The fields of every message. -/
def schema : Schema MessageType
  | textArray => [⟨1, "values", .repeated .string⟩]
  | intArray => [⟨1, "values", .repeated .int64⟩]
  | numberArray => [⟨1, "values", .repeated .double⟩]
  | booleanArray => [⟨1, "values", .repeated .bool⟩]
  | geoCoordinatesFilter =>
    [⟨1, "latitude", .plain .float⟩, ⟨2, "longitude", .plain .float⟩,
      ⟨3, "distance", .plain .float⟩]
  | filters =>
    [⟨1, "operator", .plain .int32⟩, ⟨2, "on", .repeated .string⟩,
      ⟨3, "filters", .messages filters⟩,
      ⟨4, "value_text", .memberScalar "test_value" .string⟩,
      ⟨5, "value_int", .memberScalar "test_value" .int64⟩,
      ⟨6, "value_boolean", .memberScalar "test_value" .bool⟩,
      ⟨7, "value_number", .memberScalar "test_value" .double⟩,
      ⟨9, "value_text_array", .memberMessage "test_value" textArray⟩,
      ⟨10, "value_int_array", .memberMessage "test_value" intArray⟩,
      ⟨11, "value_boolean_array", .memberMessage "test_value" booleanArray⟩,
      ⟨12, "value_number_array", .memberMessage "test_value" numberArray⟩,
      ⟨13, "value_geo", .memberMessage "test_value" geoCoordinatesFilter⟩]
  | propertyValue =>
    [⟨1, "null_value", .memberScalar "kind" .bool⟩,
      ⟨2, "text_value", .memberScalar "kind" .string⟩,
      ⟨3, "int_value", .memberScalar "kind" .int64⟩,
      ⟨4, "number_value", .memberScalar "kind" .double⟩,
      ⟨5, "bool_value", .memberScalar "kind" .bool⟩,
      ⟨6, "text_array", .memberMessage "kind" textArray⟩,
      ⟨7, "int_array", .memberMessage "kind" intArray⟩,
      ⟨8, "number_array", .memberMessage "kind" numberArray⟩,
      ⟨9, "bool_array", .memberMessage "kind" booleanArray⟩,
      ⟨10, "json_value", .memberScalar "kind" .string⟩]
  | propertyEntry => [⟨1, "key", .plain .string⟩, ⟨2, "value", .message propertyValue⟩]
  | weightsForTarget => [⟨1, "target", .plain .string⟩, ⟨2, "weight", .plain .float⟩]
  | targets =>
    [⟨1, "target_vectors", .repeated .string⟩, ⟨2, "combination", .plain .int32⟩,
      ⟨3, "weights_for_targets", .messages weightsForTarget⟩]
  | vectorForTarget => [⟨1, "name", .plain .string⟩, ⟨2, "vector", .repeated .float⟩]
  | nearVector =>
    [⟨1, "vector", .repeated .float⟩, ⟨2, "certainty", .optional .float⟩,
      ⟨3, "distance", .optional .float⟩, ⟨4, "target_vectors", .repeated .string⟩,
      ⟨5, "targets", .message targets⟩, ⟨6, "vector_for_targets", .messages vectorForTarget⟩]
  | nearObject =>
    [⟨1, "id", .plain .string⟩, ⟨2, "beacon", .plain .string⟩, ⟨3, "certainty", .optional .float⟩,
      ⟨4, "distance", .optional .float⟩, ⟨5, "target_vectors", .repeated .string⟩,
      ⟨6, "targets", .message targets⟩]
  | move =>
    [⟨1, "force", .plain .float⟩, ⟨2, "concepts", .repeated .string⟩,
      ⟨3, "uuids", .repeated .string⟩, ⟨4, "beacons", .repeated .string⟩]
  | nearTextSearch =>
    [⟨1, "query", .repeated .string⟩, ⟨2, "certainty", .optional .float⟩,
      ⟨3, "distance", .optional .float⟩, ⟨4, "move_to", .message move⟩,
      ⟨5, "move_away", .message move⟩, ⟨6, "autocorrect", .optional .bool⟩,
      ⟨7, "target_vectors", .repeated .string⟩, ⟨8, "targets", .message targets⟩]
  | nearMediaSearch =>
    [⟨1, "media_type", .plain .int32⟩, ⟨2, "media", .plain .string⟩,
      ⟨3, "certainty", .optional .float⟩, ⟨4, "distance", .optional .float⟩,
      ⟨5, "target_vectors", .repeated .string⟩, ⟨6, "targets", .message targets⟩]
  | searchOperatorOptions =>
    [⟨1, "operator", .plain .int32⟩, ⟨2, "minimum_or_tokens_match", .optional .int32⟩]
  | bm25 =>
    [⟨1, "query", .plain .string⟩, ⟨2, "properties", .repeated .string⟩,
      ⟨3, "search_operator", .message searchOperatorOptions⟩]
  | hybrid =>
    [⟨1, "query", .plain .string⟩, ⟨2, "properties", .repeated .string⟩,
      ⟨3, "vector", .repeated .float⟩, ⟨4, "alpha", .optional .float⟩,
      ⟨5, "fusion_type", .plain .int32⟩, ⟨6, "target_vectors", .repeated .string⟩,
      ⟨7, "targets", .message targets⟩, ⟨8, "max_vector_distance", .optional .float⟩,
      ⟨9, "bm25_search_operator", .message searchOperatorOptions⟩,
      ⟨10, "near_text", .message nearTextSearch⟩, ⟨11, "near_vector", .message nearVector⟩]
  | sortBy => [⟨1, "ascending", .optional .bool⟩, ⟨2, "path", .repeated .string⟩]
  | groupBy =>
    [⟨1, "path", .repeated .string⟩, ⟨2, "number_of_groups", .plain .int32⟩,
      ⟨3, "objects_per_group", .plain .int32⟩]
  | metadataRequest =>
    [⟨1, "uuid", .plain .bool⟩, ⟨2, "vector", .plain .bool⟩,
      ⟨3, "creation_time_unix", .plain .bool⟩, ⟨4, "last_update_time_unix", .plain .bool⟩,
      ⟨5, "distance", .plain .bool⟩, ⟨6, "certainty", .plain .bool⟩, ⟨7, "score", .plain .bool⟩,
      ⟨8, "explain_score", .plain .bool⟩, ⟨9, "is_consistent", .plain .bool⟩,
      ⟨10, "vectors", .repeated .string⟩]
  | objectPropertiesRequest =>
    [⟨1, "prop_name", .plain .string⟩, ⟨2, "primitive_properties", .repeated .string⟩,
      ⟨3, "object_properties", .messages objectPropertiesRequest⟩]
  | refPropertiesRequest =>
    [⟨1, "reference_property", .plain .string⟩, ⟨2, "properties", .message propertiesRequest⟩,
      ⟨3, "metadata", .message metadataRequest⟩, ⟨4, "target_collection", .plain .string⟩]
  | propertiesRequest =>
    [⟨1, "non_ref_properties", .repeated .string⟩,
      ⟨2, "ref_properties", .messages refPropertiesRequest⟩,
      ⟨3, "object_properties", .messages objectPropertiesRequest⟩]
  | generativeSearch =>
    [⟨1, "single_response_prompt", .plain .string⟩, ⟨2, "grouped_response_task", .plain .string⟩,
      ⟨3, "grouped_properties", .repeated .string⟩]
  | searchRequest =>
    [⟨1, "collection", .plain .string⟩, ⟨2, "tenant", .plain .string⟩,
      ⟨3, "consistency_level", .optional .int32⟩, ⟨10, "properties", .message propertiesRequest⟩,
      ⟨11, "metadata", .message metadataRequest⟩, ⟨12, "group_by", .message groupBy⟩,
      ⟨20, "limit", .optional .uint32⟩, ⟨21, "offset", .optional .uint32⟩,
      ⟨22, "autocut", .optional .uint32⟩, ⟨23, "after", .plain .string⟩,
      ⟨24, "sort_by", .messages sortBy⟩, ⟨30, "filters", .message filters⟩,
      ⟨40, "near_text", .message nearTextSearch⟩, ⟨41, "near_vector", .message nearVector⟩,
      ⟨42, "near_object", .message nearObject⟩, ⟨43, "near_media", .messages nearMediaSearch⟩,
      ⟨44, "bm25_search", .message bm25⟩, ⟨45, "hybrid_search", .message hybrid⟩,
      ⟨50, "generative", .message generativeSearch⟩]
  | metadataResult =>
    [⟨1, "id", .plain .string⟩, ⟨2, "vector", .repeated .float⟩, ⟨3, "distance", .optional .float⟩,
      ⟨4, "certainty", .optional .float⟩, ⟨5, "score", .optional .float⟩,
      ⟨6, "explain_score", .plain .string⟩, ⟨7, "creation_time_unix", .plain .int64⟩,
      ⟨8, "last_update_time_unix", .plain .int64⟩]
  | searchResult =>
    [⟨1, "properties", .map propertyEntry⟩, ⟨2, "metadata", .message metadataResult⟩,
      ⟨3, "generative_single_result", .plain .string⟩]
  | searchReply =>
    [⟨1, "took", .plain .float⟩, ⟨2, "results", .messages searchResult⟩,
      ⟨3, "generative_grouped_result", .plain .string⟩]
  | namedVector => [⟨1, "name", .plain .string⟩, ⟨2, "values", .repeated .float⟩]
  | batchObject =>
    [⟨1, "uuid", .plain .string⟩, ⟨2, "collection", .plain .string⟩,
      ⟨3, "vector", .repeated .float⟩, ⟨4, "properties", .map propertyEntry⟩,
      ⟨5, "tenant", .plain .string⟩, ⟨6, "vectors", .messages namedVector⟩]
  | batchObjectsRequest =>
    [⟨1, "objects", .messages batchObject⟩, ⟨2, "consistency_level", .optional .int32⟩]
  | batchError => [⟨1, "index", .plain .int32⟩, ⟨2, "error", .plain .string⟩]
  | batchObjectsReply => [⟨1, "took", .plain .float⟩, ⟨2, "errors", .messages batchError⟩]
  | batchDeleteRequest =>
    [⟨1, "collection", .plain .string⟩, ⟨2, "filters", .message filters⟩,
      ⟨3, "verbose", .plain .bool⟩, ⟨4, "dry_run", .plain .bool⟩,
      ⟨5, "consistency_level", .optional .int32⟩, ⟨6, "tenant", .plain .string⟩]
  | batchDeleteReply =>
    [⟨1, "took", .plain .float⟩, ⟨2, "failed", .plain .int64⟩, ⟨3, "matches", .plain .int64⟩,
      ⟨4, "successful", .plain .int64⟩]

end VectorQuery.Rpc
