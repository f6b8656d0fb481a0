import VectorQuery.Proofs.Wire.Listing
import VectorQuery.Rpc.Filters
import VectorQuery.Rpc.Property

/-!
# Filters and property values survive the wire

For each type of messages there are two statements. `conforms_fields` says that a message lists
fields that the schema knows, each with a value of its type. `ofFields_received` says what is read
from the fields that are received for a message. That is the message itself, but for the sign of a
zero in a plain field; where a message has such fields `readBack` says what becomes of it.
-/

namespace VectorQuery.Rpc

open Number Wire

/-- Every field of the service has a number that fits into a key. -/
theorem numbered_schema : schema.Numbered := by
  intro type
  cases type <;> decide

namespace TestValue

/-- The test value as it is read back. -/
def readBack : TestValue → TestValue
  | geo latitude longitude distance =>
    geo (unsignedZero latitude) (unsignedZero longitude) (unsignedZero distance)
  | v => v

theorem conforms_fields (v : TestValue) : Fields.Conforms schema .filters v.fields := by
  cases v with
  | text s => exact conforms_singleton rfl rfl
  | int n => exact conforms_singleton rfl rfl
  | boolean b => exact conforms_singleton rfl rfl
  | number x => exact conforms_singleton rfl rfl
  | texts values => exact conforms_singleton rfl (conforms_strings rfl)
  | ints values => exact conforms_singleton rfl (conforms_packed rfl (fun _ => rfl) (by decide))
  | booleans values => exact conforms_singleton rfl (conforms_packed rfl (fun _ => rfl) (by decide))
  | numbers values => exact conforms_singleton rfl (conforms_packed rfl (fun _ => rfl) (by decide))
  | geo latitude longitude distance =>
    refine conforms_singleton rfl ?_
    show Fields.Conforms schema .geoCoordinatesFilter _
    simp only [conforms_append]
    exact ⟨⟨conforms_plain rfl rfl, conforms_plain rfl rfl⟩, conforms_plain rfl rfl⟩

theorem ofFields?_received (v : TestValue) :
    ofFields? (Fields.received v.fields) = some v.readBack := by
  cases v <;> simp [fields, readBack, Fields.received, Value.receivedAt, ofFields?,
    Fields.chosen?, Fields.choose, Function.comp_def]

theorem scalarsAt_received (v : TestValue) {k : Nat} (hk : k < 4) :
    Fields.scalarsAt k (Fields.received v.fields) = [] := by
  cases v <;> simp [fields, Fields.received, Value.receivedAt, Fields.scalarsAt] <;> omega

theorem messagesAt_received (v : TestValue) :
    Fields.messagesAt 3 (Fields.received v.fields) = [] := by
  cases v <;> simp [fields, Fields.received, Value.receivedAt, Fields.messagesAt]

end TestValue

namespace Filters

mutual
/-- The filter as it is read back. -/
def readBack : Filters → Filters
  | ⟨operator, on, filters, testValue⟩ =>
    ⟨operator, on, readBackAll filters, testValue.map TestValue.readBack⟩

/-- The operands of a filter as they are read back. -/
def readBackAll : List Filters → List Filters
  | [] => []
  | operand :: operands => operand.readBack :: readBackAll operands
end

theorem operandFields_eq (operands : List Filters) :
    operandFields operands = Fields.messages 3 (operands.map fields) := by
  induction operands with
  | nil => simp [operandFields, Fields.messages]
  | cons operand rest ih => simp [operandFields, ih, Fields.messages]

theorem ofFields_eq (fields : Fields) :
    ofFields fields =
      { operator := fields.int32 1
        on := fields.all Scalar.string? 2
        filters := (fields.messagesAt 3).map ofFields
        testValue := TestValue.ofFields? fields } := by
  rw [ofFields]
  simp

theorem readBackAll_eq (operands : List Filters) :
    readBackAll operands = operands.map readBack := by
  induction operands with
  | nil => simp [readBackAll]
  | cons operand rest ih => simp [readBackAll, ih]

mutual
theorem conforms_fields : (m : Filters) → Fields.Conforms schema .filters m.fields
  | ⟨operator, on, filters, testValue⟩ => by
    rw [fields, operandFields_eq]
    simp only [conforms_append]
    refine ⟨⟨⟨conforms_plain rfl rfl, conforms_strings rfl⟩,
      conforms_messages rfl (conforms_operands filters)⟩, ?_⟩
    cases testValue with
    | none => exact conforms_nil
    | some v => exact v.conforms_fields

theorem conforms_operands : (operands : List Filters) →
    ∀ m ∈ operands, Fields.Conforms schema .filters m.fields
  | [] => nofun
  | operand :: operands =>
    List.forall_mem_cons.2 ⟨conforms_fields operand, conforms_operands operands⟩
end

/-- The fields before the test value are not members of its choice. -/
theorem ofFields?_received (m : Filters) :
    TestValue.ofFields? (Fields.received m.fields) = m.testValue.map TestValue.readBack := by
  obtain ⟨operator, on, filters, testValue⟩ := m
  have hfront : ∀ field ∈ Fields.received (Fields.plain 1 (.int32 operator) ++
      Fields.strings 2 on ++ operandFields filters),
      field.1 ∉ [4, 5, 6, 7, 9, 10, 11, 12, 13] := by
    intro field hfield
    simp only [operandFields_eq, Fields.received_append, Fields.received_plain,
      Fields.received_strings, Fields.received_messages, List.mem_append] at hfield
    obtain (hfield | hfield) | hfield := hfield
    · rw [Fields.number_of_mem_optional hfield]
      decide
    · rw [Fields.number_of_mem_strings hfield]
      decide
    · rw [Fields.number_of_mem_messages hfield]
      decide
  rw [fields, Fields.received_append, TestValue.ofFields?, Fields.chosen?_append_of_forall _ hfront,
    ← TestValue.ofFields?]
  cases testValue with
  | none => exact congrArg TestValue.ofFields? Fields.received_nil
  | some v => exact v.ofFields?_received

mutual
@[simp] theorem ofFields_received : (m : Filters) → ofFields (Fields.received m.fields) = m.readBack
  | ⟨operator, on, filters, testValue⟩ => by
    have hoperands := ofFields_operands filters
    rw [ofFields_eq, readBack, ofFields?_received, fields, operandFields_eq, readBackAll_eq]
    cases testValue with
    | none => simpa [Function.comp_def] using hoperands
    | some v =>
      simpa [v.scalarsAt_received, v.messagesAt_received, Function.comp_def] using hoperands

theorem ofFields_operands : (operands : List Filters) →
    ∀ m ∈ operands, ofFields (Fields.received m.fields) = m.readBack
  | [] => nofun
  | operand :: operands =>
    List.forall_mem_cons.2 ⟨ofFields_received operand, ofFields_operands operands⟩
end

end Filters

namespace PropertyValue

theorem conforms_fields (v : PropertyValue) :
    Fields.Conforms schema .propertyValue v.fields := by
  cases v with
  | unset => exact conforms_nil
  | null flag => exact conforms_singleton rfl rfl
  | text s => exact conforms_singleton rfl rfl
  | int n => exact conforms_singleton rfl rfl
  | number x => exact conforms_singleton rfl rfl
  | bool b => exact conforms_singleton rfl rfl
  | texts values => exact conforms_singleton rfl (conforms_strings rfl)
  | ints values => exact conforms_singleton rfl (conforms_packed rfl (fun _ => rfl) (by decide))
  | numbers values => exact conforms_singleton rfl (conforms_packed rfl (fun _ => rfl) (by decide))
  | bools values => exact conforms_singleton rfl (conforms_packed rfl (fun _ => rfl) (by decide))
  | json s => exact conforms_singleton rfl rfl

theorem ofFields_received (v : PropertyValue) : ofFields (Fields.received v.fields) = v := by
  cases v <;> simp [fields, Fields.received, Value.receivedAt, ofFields, Fields.chosen?,
    Fields.choose, Function.comp_def]

/-- The value of an entry, which is left out when no kind of value is set. -/
theorem conforms_entryFields (entry : String × PropertyValue) :
    Fields.Conforms schema .propertyEntry (entryFields entry) := by
  obtain ⟨key, value⟩ := entry
  refine conforms_append.2 ⟨conforms_plain rfl rfl, ?_⟩
  have hvalue := value.conforms_fields
  cases h : value.fields with
  | nil => exact conforms_nil
  | cons field rest =>
    rw [h] at hvalue
    exact conforms_singleton rfl hvalue

theorem entryOfFields_received (entry : String × PropertyValue) :
    entryOfFields (Fields.received (entryFields entry)) = entry := by
  obtain ⟨key, value⟩ := entry
  have hvalue := value.ofFields_received
  unfold entryOfFields entryFields
  cases h : value.fields with
  | nil =>
    rw [h, Fields.received_nil] at hvalue
    simp [hvalue]
  | cons field rest =>
    rw [h] at hvalue
    simp [hvalue]

theorem conforms_mapFields {type : MessageType} {number : Nat}
    (ht : schema.fieldType? type number = some (.map .propertyEntry))
    (entries : List (String × PropertyValue)) :
    Fields.Conforms schema type (mapFields number entries) :=
  conforms_entries ht fun entry _ => conforms_entryFields entry

/-- The entries of a map may be written in any order. -/
theorem mapOfFields_eq_of_messagesAt {number : Nat} {fields : Fields}
    {entries given : List (String × PropertyValue)} (h : Keyed.Ordered entries)
    (hperm : given.Perm entries)
    (hfields : fields.messagesAt number =
      given.map fun entry => Fields.received (entryFields entry)) :
    mapOfFields number fields = entries := by
  have hgiven : (fields.messagesAt number).map entryOfFields = given := by
    rw [hfields, List.map_map]
    exact List.map_id'' entryOfFields_received given
  rw [mapOfFields, hgiven, Keyed.ofList_of_perm h hperm]

end PropertyValue

end VectorQuery.Rpc
