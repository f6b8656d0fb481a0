import VectorQuery.Proofs.Rpc.Values
import VectorQuery.Rpc.Selection

/-!
# Selections survive the wire

Requests for properties nest in each other, so what is stated of a request is proved along with what
is stated of the requests in it.
-/

namespace VectorQuery.Rpc

open Wire

namespace MetadataRequest

theorem conforms_fields (m : MetadataRequest) :
    Fields.Conforms schema .metadataRequest m.fields := by
  simp only [fields, conforms_append, and_assoc]
  exact ⟨conforms_plain rfl rfl, conforms_plain rfl rfl, conforms_plain rfl rfl,
    conforms_plain rfl rfl, conforms_plain rfl rfl, conforms_plain rfl rfl, conforms_plain rfl rfl,
    conforms_plain rfl rfl, conforms_plain rfl rfl, conforms_strings rfl⟩

@[simp] theorem ofFields_received (m : MetadataRequest) :
    ofFields (Fields.received m.fields) = m := by
  simp [ofFields, fields, Function.comp_def]

end MetadataRequest

namespace ObjectPropertiesRequest

theorem listFields_eq (number : Nat) (ms : List ObjectPropertiesRequest) :
    listFields number ms = Fields.messages number (ms.map fields) := by
  induction ms with
  | nil => simp [listFields, Fields.messages]
  | cons m rest ih => simp [listFields, ih, Fields.messages]

theorem ofFields_eq (fields : Fields) :
    ofFields fields =
      { propName := fields.string 1
        primitiveProperties := fields.all Scalar.string? 2
        objectProperties := (fields.messagesAt 3).map ofFields } := by
  rw [ofFields]
  simp

mutual
theorem conforms_fields : (m : ObjectPropertiesRequest) →
    Fields.Conforms schema .objectPropertiesRequest m.fields
  | ⟨propName, primitiveProperties, objectProperties⟩ => by
    rw [fields, listFields_eq]
    simp only [conforms_append, and_assoc]
    exact ⟨conforms_plain rfl rfl, conforms_strings rfl,
      conforms_messages rfl (conforms_parts objectProperties)⟩

theorem conforms_parts : (ms : List ObjectPropertiesRequest) →
    ∀ m ∈ ms, Fields.Conforms schema .objectPropertiesRequest m.fields
  | [] => nofun
  | m :: ms => List.forall_mem_cons.2 ⟨conforms_fields m, conforms_parts ms⟩
end

mutual
@[simp] theorem ofFields_received : (m : ObjectPropertiesRequest) →
    ofFields (Fields.received m.fields) = m
  | ⟨propName, primitiveProperties, objectProperties⟩ => by
    have hparts := List.map_congr_left (ofFields_parts objectProperties)
    rw [ofFields_eq, fields, listFields_eq]
    simpa [Function.comp_def] using hparts

theorem ofFields_parts : (ms : List ObjectPropertiesRequest) →
    ∀ m ∈ ms, ofFields (Fields.received m.fields) = m
  | [] => nofun
  | m :: ms => List.forall_mem_cons.2 ⟨ofFields_received m, ofFields_parts ms⟩
end

end ObjectPropertiesRequest

theorem RefPropertiesRequest.listFields_eq (ms : List RefPropertiesRequest) :
    listFields ms = Fields.messages 2 (ms.map fields) := by
  induction ms with
  | nil => simp [listFields, Fields.messages]
  | cons m rest ih => simp [listFields, ih, Fields.messages]

theorem PropertiesRequest.optionFields_eq (m : Option PropertiesRequest) :
    optionFields m = Fields.message 2 (m.map fields) := by
  cases m <;> simp [optionFields, Fields.message]

theorem PropertiesRequest.ofFields_eq (fields : Fields) :
    ofFields fields =
      { nonRefProperties := fields.all Scalar.string? 1
        refProperties := (fields.messagesAt 2).map RefPropertiesRequest.ofFields
        objectProperties := (fields.messagesAt 3).map ObjectPropertiesRequest.ofFields } := by
  rw [ofFields]
  simp

theorem RefPropertiesRequest.ofFields_eq (fields : Fields) :
    ofFields fields =
      { referenceProperty := fields.string 1
        properties := (fields.message? 2).map PropertiesRequest.ofFields
        metadata := (fields.message? 3).map MetadataRequest.ofFields
        targetCollection := fields.string 4 } := by
  rw [ofFields]
  congr 1
  split <;> simp_all

mutual
theorem PropertiesRequest.conforms_fields : (m : PropertiesRequest) →
    Fields.Conforms schema .propertiesRequest m.fields
  | ⟨nonRefProperties, refProperties, objectProperties⟩ => by
    rw [PropertiesRequest.fields, RefPropertiesRequest.listFields_eq,
      ObjectPropertiesRequest.listFields_eq]
    simp only [conforms_append, and_assoc]
    exact ⟨conforms_strings rfl,
      conforms_messages rfl (RefPropertiesRequest.conforms_references refProperties),
      conforms_messages rfl fun m _ => m.conforms_fields⟩

theorem RefPropertiesRequest.conforms_references : (ms : List RefPropertiesRequest) →
    ∀ m ∈ ms, Fields.Conforms schema .refPropertiesRequest m.fields
  | [] => nofun
  | m :: ms => List.forall_mem_cons.2
    ⟨RefPropertiesRequest.conforms_fields m, RefPropertiesRequest.conforms_references ms⟩

theorem RefPropertiesRequest.conforms_fields : (m : RefPropertiesRequest) →
    Fields.Conforms schema .refPropertiesRequest m.fields
  | ⟨referenceProperty, properties, metadata, targetCollection⟩ => by
    rw [RefPropertiesRequest.fields, PropertiesRequest.optionFields_eq]
    simp only [conforms_append, and_assoc]
    exact ⟨conforms_plain rfl rfl,
      conforms_message rfl (PropertiesRequest.conforms_option properties),
      conforms_message rfl fun m _ => m.conforms_fields, conforms_plain rfl rfl⟩

theorem PropertiesRequest.conforms_option : (m : Option PropertiesRequest) →
    ∀ p ∈ m, Fields.Conforms schema .propertiesRequest p.fields
  | none => nofun
  | some p => fun _ h => Option.mem_some.1 h ▸ PropertiesRequest.conforms_fields p
end

mutual
@[simp] theorem PropertiesRequest.ofFields_received : (m : PropertiesRequest) →
    PropertiesRequest.ofFields (Fields.received m.fields) = m
  | ⟨nonRefProperties, refProperties, objectProperties⟩ => by
    have hreferences := List.map_congr_left (RefPropertiesRequest.ofFields_references refProperties)
    rw [PropertiesRequest.ofFields_eq, PropertiesRequest.fields, RefPropertiesRequest.listFields_eq,
      ObjectPropertiesRequest.listFields_eq]
    simpa [Function.comp_def] using hreferences

theorem RefPropertiesRequest.ofFields_references : (ms : List RefPropertiesRequest) →
    ∀ m ∈ ms, RefPropertiesRequest.ofFields (Fields.received m.fields) = m
  | [] => nofun
  | m :: ms => List.forall_mem_cons.2
    ⟨RefPropertiesRequest.ofFields_received m, RefPropertiesRequest.ofFields_references ms⟩

@[simp] theorem RefPropertiesRequest.ofFields_received : (m : RefPropertiesRequest) →
    RefPropertiesRequest.ofFields (Fields.received m.fields) = m
  | ⟨referenceProperty, properties, metadata, targetCollection⟩ => by
    have hproperties := PropertiesRequest.ofFields_option properties
    rw [RefPropertiesRequest.ofFields_eq, RefPropertiesRequest.fields,
      PropertiesRequest.optionFields_eq]
    simpa [Function.comp_def] using hproperties

theorem PropertiesRequest.ofFields_option : (m : Option PropertiesRequest) →
    m.map (fun p => PropertiesRequest.ofFields (Fields.received p.fields)) = m
  | none => rfl
  | some p => congrArg some (PropertiesRequest.ofFields_received p)
end

end VectorQuery.Rpc
