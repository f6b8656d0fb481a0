import VectorQuery.Proofs.Rpc.Values
import VectorQuery.Rpc.Batch

/-!
# Batches survive the wire

The requests that insert and delete objects, and the replies to them. The properties of an object
are a map, so they may be written in any order.
-/

namespace VectorQuery.Rpc

open Wire

namespace NamedVector

theorem conforms_fields (m : NamedVector) : Fields.Conforms schema .namedVector m.fields := by
  simp only [fields, conforms_append]
  exact ⟨conforms_plain rfl rfl, conforms_packed rfl (fun _ => rfl) (by decide)⟩

@[simp] theorem ofFields_received (m : NamedVector) : ofFields (Fields.received m.fields) = m := by
  simp [ofFields, fields, Function.comp_def]

end NamedVector

namespace BatchObject

/-- What may be written for an object: the entries of its map come in some order. -/
structure WrittenAs (m written : BatchObject) : Prop where
  /-- The map has each key once. -/
  ordered : Keyed.Ordered m.properties
  /-- Its entries are written in some order. -/
  perm : written.properties.Perm m.properties
  /-- All else is written as it is. -/
  rest : written = { m with properties := written.properties }

theorem conforms_fields (m : BatchObject) : Fields.Conforms schema .batchObject m.fields := by
  simp only [fields, conforms_append, and_assoc]
  exact ⟨conforms_plain rfl rfl, conforms_plain rfl rfl,
    conforms_packed rfl (fun _ => rfl) (by decide),
    PropertyValue.conforms_mapFields rfl m.properties, conforms_plain rfl rfl,
    conforms_messages rfl fun m _ => m.conforms_fields⟩

theorem ofFields_received {m written : BatchObject} (h : m.WrittenAs written) :
    ofFields (Fields.received written.fields) = m := by
  obtain ⟨hordered, hperm, hrest⟩ := h
  have hmap : PropertyValue.mapOfFields 4 (Fields.received written.fields) = m.properties := by
    refine PropertyValue.mapOfFields_eq_of_messagesAt hordered hperm ?_
    simp [fields, PropertyValue.mapFields, Function.comp_def]
  rw [ofFields, hmap, hrest]
  simp [fields, PropertyValue.mapFields, Function.comp_def]

end BatchObject

namespace BatchObjectsRequest

/-- What may be written for a request: the entries of the maps in it come in some order. -/
structure WrittenAs (m written : BatchObjectsRequest) : Prop where
  /-- Each object is written in its place. -/
  objects : List.Forall₂ BatchObject.WrittenAs m.objects written.objects
  /-- The consistency level is written as it is. -/
  consistencyLevel : written.consistencyLevel = m.consistencyLevel

theorem conforms_fields (m : BatchObjectsRequest) :
    Fields.Conforms schema .batchObjectsRequest m.fields := by
  simp only [fields, conforms_append]
  exact ⟨conforms_messages rfl fun m _ => m.conforms_fields, conforms_optional rfl fun _ => rfl⟩

theorem ofFields_received {m written : BatchObjectsRequest} (h : m.WrittenAs written) :
    ofFields (Fields.received written.fields) = m := by
  have hobjects := map_eq_of_forall₂ h.objects fun _ _ => BatchObject.ofFields_received
  simp [ofFields, fields, Option.bind_map, Function.comp_def, hobjects, h.consistencyLevel]

end BatchObjectsRequest

namespace BatchError

theorem conforms_fields (m : BatchError) : Fields.Conforms schema .batchError m.fields := by
  simp only [fields, conforms_append]
  exact ⟨conforms_plain rfl rfl, conforms_plain rfl rfl⟩

@[simp] theorem ofFields_received (m : BatchError) : ofFields (Fields.received m.fields) = m := by
  simp [ofFields, fields]

end BatchError

namespace BatchObjectsReply

/-- The reply as it is read back. -/
def readBack (m : BatchObjectsReply) : BatchObjectsReply := { m with took := unsignedZero m.took }

theorem conforms_fields (m : BatchObjectsReply) :
    Fields.Conforms schema .batchObjectsReply m.fields := by
  simp only [fields, conforms_append]
  exact ⟨conforms_plain rfl rfl, conforms_messages rfl fun m _ => m.conforms_fields⟩

theorem ofFields_received (m : BatchObjectsReply) :
    ofFields (Fields.received m.fields) = m.readBack := by
  simp [ofFields, fields, readBack, Function.comp_def]

end BatchObjectsReply

namespace BatchDeleteRequest

/-- The request as it is read back. -/
def readBack (m : BatchDeleteRequest) : BatchDeleteRequest :=
  { m with filters := m.filters.map Filters.readBack }

theorem conforms_fields (m : BatchDeleteRequest) :
    Fields.Conforms schema .batchDeleteRequest m.fields := by
  simp only [fields, conforms_append, and_assoc]
  exact ⟨conforms_plain rfl rfl, conforms_message rfl fun m _ => m.conforms_fields,
    conforms_plain rfl rfl, conforms_plain rfl rfl, conforms_optional rfl fun _ => rfl,
    conforms_plain rfl rfl⟩

theorem ofFields_received (m : BatchDeleteRequest) :
    ofFields (Fields.received m.fields) = m.readBack := by
  simp [ofFields, fields, readBack, Option.bind_map, Function.comp_def]

end BatchDeleteRequest

namespace BatchDeleteReply

/-- The reply as it is read back. -/
def readBack (m : BatchDeleteReply) : BatchDeleteReply := { m with took := unsignedZero m.took }

theorem conforms_fields (m : BatchDeleteReply) :
    Fields.Conforms schema .batchDeleteReply m.fields := by
  simp only [fields, conforms_append, and_assoc]
  exact ⟨conforms_plain rfl rfl, conforms_plain rfl rfl, conforms_plain rfl rfl,
    conforms_plain rfl rfl⟩

theorem ofFields_received (m : BatchDeleteReply) :
    ofFields (Fields.received m.fields) = m.readBack := by
  simp [ofFields, fields, readBack]

end BatchDeleteReply

end VectorQuery.Rpc
