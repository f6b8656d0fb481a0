import VectorQuery.Proofs.Rpc.Selection
import VectorQuery.Rpc.Search

/-!
# Searches survive the wire

The clauses of a search request, the request itself, and the reply with the objects found. The
properties of an object are a map, so they may be written in any order; `WrittenAs` relates an
object to what may be written for it.
-/

namespace VectorQuery.Rpc

open Wire

namespace WeightsForTarget

/-- The weight as it is read back. -/
def readBack (m : WeightsForTarget) : WeightsForTarget := { m with weight := unsignedZero m.weight }

theorem conforms_fields (m : WeightsForTarget) :
    Fields.Conforms schema .weightsForTarget m.fields := by
  simp only [fields, conforms_append]
  exact ⟨conforms_plain rfl rfl, conforms_plain rfl rfl⟩

@[simp] theorem ofFields_received (m : WeightsForTarget) :
    ofFields (Fields.received m.fields) = m.readBack := by
  simp [ofFields, fields, readBack]

end WeightsForTarget

namespace Targets

/-- The combination as it is read back. -/
def readBack (m : Targets) : Targets :=
  { m with weightsForTargets := m.weightsForTargets.map WeightsForTarget.readBack }

theorem conforms_fields (m : Targets) : Fields.Conforms schema .targets m.fields := by
  simp only [fields, conforms_append, and_assoc]
  exact ⟨conforms_strings rfl, conforms_plain rfl rfl,
    conforms_messages rfl fun m _ => m.conforms_fields⟩

@[simp] theorem ofFields_received (m : Targets) :
    ofFields (Fields.received m.fields) = m.readBack := by
  simp [ofFields, fields, readBack, Function.comp_def]

end Targets

namespace VectorForTarget

theorem conforms_fields (m : VectorForTarget) :
    Fields.Conforms schema .vectorForTarget m.fields := by
  simp only [fields, conforms_append]
  exact ⟨conforms_plain rfl rfl, conforms_packed rfl (fun _ => rfl) (by decide)⟩

@[simp] theorem ofFields_received (m : VectorForTarget) :
    ofFields (Fields.received m.fields) = m := by
  simp [ofFields, fields, Function.comp_def]

end VectorForTarget

namespace NearVector

/-- The clause as it is read back. -/
def readBack (m : NearVector) : NearVector := { m with targets := m.targets.map Targets.readBack }

theorem conforms_fields (m : NearVector) : Fields.Conforms schema .nearVector m.fields := by
  simp only [fields, conforms_append, and_assoc]
  exact ⟨conforms_packed rfl (fun _ => rfl) (by decide), conforms_optional rfl fun _ => rfl,
    conforms_optional rfl fun _ => rfl, conforms_strings rfl,
    conforms_message rfl fun m _ => m.conforms_fields,
    conforms_messages rfl fun m _ => m.conforms_fields⟩

@[simp] theorem ofFields_received (m : NearVector) :
    ofFields (Fields.received m.fields) = m.readBack := by
  simp [ofFields, fields, readBack, Option.bind_map, Function.comp_def]

end NearVector

namespace NearObject

/-- The clause as it is read back. -/
def readBack (m : NearObject) : NearObject := { m with targets := m.targets.map Targets.readBack }

theorem conforms_fields (m : NearObject) : Fields.Conforms schema .nearObject m.fields := by
  simp only [fields, conforms_append, and_assoc]
  exact ⟨conforms_plain rfl rfl, conforms_plain rfl rfl, conforms_optional rfl fun _ => rfl,
    conforms_optional rfl fun _ => rfl, conforms_strings rfl,
    conforms_message rfl fun m _ => m.conforms_fields⟩

@[simp] theorem ofFields_received (m : NearObject) :
    ofFields (Fields.received m.fields) = m.readBack := by
  simp [ofFields, fields, readBack, Option.bind_map, Function.comp_def]

end NearObject

namespace Move

/-- The move as it is read back. -/
def readBack (m : Move) : Move := { m with force := unsignedZero m.force }

theorem conforms_fields (m : Move) : Fields.Conforms schema .move m.fields := by
  simp only [fields, conforms_append, and_assoc]
  exact ⟨conforms_plain rfl rfl, conforms_strings rfl, conforms_strings rfl, conforms_strings rfl⟩

@[simp] theorem ofFields_received (m : Move) :
    ofFields (Fields.received m.fields) = m.readBack := by
  simp [ofFields, fields, readBack, Function.comp_def]

end Move

namespace NearTextSearch

/-- The clause as it is read back. -/
def readBack (m : NearTextSearch) : NearTextSearch :=
  { m with
    moveTo := m.moveTo.map Move.readBack
    moveAway := m.moveAway.map Move.readBack
    targets := m.targets.map Targets.readBack }

theorem conforms_fields (m : NearTextSearch) : Fields.Conforms schema .nearTextSearch m.fields := by
  simp only [fields, conforms_append, and_assoc]
  exact ⟨conforms_strings rfl, conforms_optional rfl fun _ => rfl,
    conforms_optional rfl fun _ => rfl, conforms_message rfl fun m _ => m.conforms_fields,
    conforms_message rfl fun m _ => m.conforms_fields, conforms_optional rfl fun _ => rfl,
    conforms_strings rfl, conforms_message rfl fun m _ => m.conforms_fields⟩

@[simp] theorem ofFields_received (m : NearTextSearch) :
    ofFields (Fields.received m.fields) = m.readBack := by
  simp [ofFields, fields, readBack, Option.bind_map, Function.comp_def]

end NearTextSearch

namespace NearMediaSearch

/-- The clause as it is read back. -/
def readBack (m : NearMediaSearch) : NearMediaSearch :=
  { m with targets := m.targets.map Targets.readBack }

theorem conforms_fields (m : NearMediaSearch) :
    Fields.Conforms schema .nearMediaSearch m.fields := by
  simp only [fields, conforms_append, and_assoc]
  exact ⟨conforms_plain rfl rfl, conforms_plain rfl rfl, conforms_optional rfl fun _ => rfl,
    conforms_optional rfl fun _ => rfl, conforms_strings rfl,
    conforms_message rfl fun m _ => m.conforms_fields⟩

@[simp] theorem ofFields_received (m : NearMediaSearch) :
    ofFields (Fields.received m.fields) = m.readBack := by
  simp [ofFields, fields, readBack, Option.bind_map, Function.comp_def]

end NearMediaSearch

namespace SearchOperatorOptions

theorem conforms_fields (m : SearchOperatorOptions) :
    Fields.Conforms schema .searchOperatorOptions m.fields := by
  simp only [fields, conforms_append]
  exact ⟨conforms_plain rfl rfl, conforms_optional rfl fun _ => rfl⟩

@[simp] theorem ofFields_received (m : SearchOperatorOptions) :
    ofFields (Fields.received m.fields) = m := by
  simp [ofFields, fields, Option.bind_map, Function.comp_def]

end SearchOperatorOptions

namespace Bm25

theorem conforms_fields (m : Bm25) : Fields.Conforms schema .bm25 m.fields := by
  simp only [fields, conforms_append, and_assoc]
  exact ⟨conforms_plain rfl rfl, conforms_strings rfl,
    conforms_message rfl fun m _ => m.conforms_fields⟩

@[simp] theorem ofFields_received (m : Bm25) : ofFields (Fields.received m.fields) = m := by
  simp [ofFields, fields, Function.comp_def]

end Bm25

namespace Hybrid

/-- The clause as it is read back. -/
def readBack (m : Hybrid) : Hybrid :=
  { m with
    targets := m.targets.map Targets.readBack
    nearText := m.nearText.map NearTextSearch.readBack
    nearVector := m.nearVector.map NearVector.readBack }

theorem conforms_fields (m : Hybrid) : Fields.Conforms schema .hybrid m.fields := by
  simp only [fields, conforms_append, and_assoc]
  exact ⟨conforms_plain rfl rfl, conforms_strings rfl,
    conforms_packed rfl (fun _ => rfl) (by decide), conforms_optional rfl fun _ => rfl,
    conforms_plain rfl rfl, conforms_strings rfl,
    conforms_message rfl fun m _ => m.conforms_fields, conforms_optional rfl fun _ => rfl,
    conforms_message rfl fun m _ => m.conforms_fields,
    conforms_message rfl fun m _ => m.conforms_fields,
    conforms_message rfl fun m _ => m.conforms_fields⟩

@[simp] theorem ofFields_received (m : Hybrid) :
    ofFields (Fields.received m.fields) = m.readBack := by
  simp [ofFields, fields, readBack, Option.bind_map, Function.comp_def]

end Hybrid

namespace SortBy

theorem conforms_fields (m : SortBy) : Fields.Conforms schema .sortBy m.fields := by
  simp only [fields, conforms_append]
  exact ⟨conforms_optional rfl fun _ => rfl, conforms_strings rfl⟩

@[simp] theorem ofFields_received (m : SortBy) : ofFields (Fields.received m.fields) = m := by
  simp [ofFields, fields, Option.bind_map, Function.comp_def]

end SortBy

namespace GroupBy

theorem conforms_fields (m : GroupBy) : Fields.Conforms schema .groupBy m.fields := by
  simp only [fields, conforms_append, and_assoc]
  exact ⟨conforms_strings rfl, conforms_plain rfl rfl, conforms_plain rfl rfl⟩

@[simp] theorem ofFields_received (m : GroupBy) : ofFields (Fields.received m.fields) = m := by
  simp [ofFields, fields, Function.comp_def]

end GroupBy

namespace GenerativeSearch

theorem conforms_fields (m : GenerativeSearch) :
    Fields.Conforms schema .generativeSearch m.fields := by
  simp only [fields, conforms_append, and_assoc]
  exact ⟨conforms_plain rfl rfl, conforms_plain rfl rfl, conforms_strings rfl⟩

@[simp] theorem ofFields_received (m : GenerativeSearch) :
    ofFields (Fields.received m.fields) = m := by
  simp [ofFields, fields, Function.comp_def]

end GenerativeSearch

namespace SearchRequest

/-- The request as it is read back. -/
def readBack (m : SearchRequest) : SearchRequest :=
  { m with
    filters := m.filters.map Filters.readBack
    nearText := m.nearText.map NearTextSearch.readBack
    nearVector := m.nearVector.map NearVector.readBack
    nearObject := m.nearObject.map NearObject.readBack
    nearMedia := m.nearMedia.map NearMediaSearch.readBack
    hybridSearch := m.hybridSearch.map Hybrid.readBack }

theorem conforms_fields (m : SearchRequest) : Fields.Conforms schema .searchRequest m.fields := by
  -- not by its equation, which takes long to derive for so many fields
  delta fields
  simp only [conforms_append, and_assoc]
  exact ⟨conforms_plain rfl rfl, conforms_plain rfl rfl, conforms_optional rfl fun _ => rfl,
    conforms_message rfl fun m _ => m.conforms_fields,
    conforms_message rfl fun m _ => m.conforms_fields,
    conforms_message rfl fun m _ => m.conforms_fields, conforms_optional rfl fun _ => rfl,
    conforms_optional rfl fun _ => rfl, conforms_optional rfl fun _ => rfl, conforms_plain rfl rfl,
    conforms_messages rfl fun m _ => m.conforms_fields,
    conforms_message rfl fun m _ => m.conforms_fields,
    conforms_message rfl fun m _ => m.conforms_fields,
    conforms_message rfl fun m _ => m.conforms_fields,
    conforms_message rfl fun m _ => m.conforms_fields,
    conforms_messages rfl fun m _ => m.conforms_fields,
    conforms_message rfl fun m _ => m.conforms_fields,
    conforms_message rfl fun m _ => m.conforms_fields,
    conforms_message rfl fun m _ => m.conforms_fields⟩

@[simp] theorem ofFields_received (m : SearchRequest) :
    ofFields (Fields.received m.fields) = m.readBack := by
  delta fields
  simp [ofFields, readBack, Option.bind_map, Function.comp_def]

end SearchRequest

namespace MetadataResult

theorem conforms_fields (m : MetadataResult) : Fields.Conforms schema .metadataResult m.fields := by
  simp only [fields, conforms_append, and_assoc]
  exact ⟨conforms_plain rfl rfl, conforms_packed rfl (fun _ => rfl) (by decide),
    conforms_optional rfl fun _ => rfl, conforms_optional rfl fun _ => rfl,
    conforms_optional rfl fun _ => rfl, conforms_plain rfl rfl, conforms_plain rfl rfl,
    conforms_plain rfl rfl⟩

@[simp] theorem ofFields_received (m : MetadataResult) :
    ofFields (Fields.received m.fields) = m := by
  simp [ofFields, fields, Option.bind_map, Function.comp_def]

end MetadataResult

namespace SearchResult

/-- What may be written for an object found: the entries of its map come in some order. -/
structure WrittenAs (m written : SearchResult) : Prop where
  /-- The map has each key once. -/
  ordered : Keyed.Ordered m.properties
  /-- Its entries are written in some order. -/
  perm : written.properties.Perm m.properties
  /-- All else is written as it is. -/
  rest : written = { m with properties := written.properties }

theorem conforms_fields (m : SearchResult) : Fields.Conforms schema .searchResult m.fields := by
  simp only [fields, conforms_append, and_assoc]
  exact ⟨PropertyValue.conforms_mapFields rfl m.properties,
    conforms_message rfl fun m _ => m.conforms_fields, conforms_plain rfl rfl⟩

theorem ofFields_received {m written : SearchResult} (h : m.WrittenAs written) :
    ofFields (Fields.received written.fields) = m := by
  obtain ⟨hordered, hperm, hrest⟩ := h
  have hmap : PropertyValue.mapOfFields 1 (Fields.received written.fields) = m.properties := by
    refine PropertyValue.mapOfFields_eq_of_messagesAt hordered hperm ?_
    simp [fields, PropertyValue.mapFields, Function.comp_def]
  rw [ofFields, hmap, hrest]
  simp [fields, PropertyValue.mapFields, Function.comp_def]

end SearchResult

namespace SearchReply

/-- What may be written for a reply: the entries of the maps in it come in some order. -/
structure WrittenAs (m written : SearchReply) : Prop where
  /-- The time is written as it is. -/
  took : written.took = m.took
  /-- Each object is written in its place. -/
  results : List.Forall₂ SearchResult.WrittenAs m.results written.results
  /-- The generated text is written as it is. -/
  generativeGroupedResult : written.generativeGroupedResult = m.generativeGroupedResult

/-- The reply as it is read back. -/
def readBack (m : SearchReply) : SearchReply := { m with took := unsignedZero m.took }

theorem conforms_fields (m : SearchReply) : Fields.Conforms schema .searchReply m.fields := by
  simp only [fields, conforms_append, and_assoc]
  exact ⟨conforms_plain rfl rfl, conforms_messages rfl fun m _ => m.conforms_fields,
    conforms_plain rfl rfl⟩

theorem ofFields_received {m written : SearchReply} (h : m.WrittenAs written) :
    ofFields (Fields.received written.fields) = m.readBack := by
  have hresults := map_eq_of_forall₂ h.results fun _ _ => SearchResult.ofFields_received
  simp [ofFields, fields, readBack, Function.comp_def, hresults, h.took, h.generativeGroupedResult]

end SearchReply

end VectorQuery.Rpc
