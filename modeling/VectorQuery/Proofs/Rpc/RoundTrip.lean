import VectorQuery.Proofs.Rpc.Batch
import VectorQuery.Proofs.Rpc.Search

/-!
# Requests and replies survive the wire

`roundTrips` joins what was proved of each message of the service: whatever values its fields have
and in whatever order the entries of its maps are written, it is read back as long as its embedded
messages are nested no more than a hundred levels, and it is refused when they are. A filter of more
than a hundred levels is refused in any request.
-/

namespace VectorQuery.Rpc

open Wire

/-- Messages of a type are read back from what is written for them, or refused if more than a
hundred levels of messages are embedded in them. `WrittenAs` relates a message to the orders in
which its maps may be written, and `readBack` is the message without the signs that are lost. -/
def RoundTrips (α : Type) [Message α] (WrittenAs : α → α → Prop) (readBack : α → α) : Prop :=
  ∀ m written : α, WrittenAs m written → (Message.encode written).length < UInt64.size →
    (Fields.nesting (Message.fields written) ≤ 100 →
      Message.decode? (Message.encode written) = some (readBack m)) ∧
    (100 < Fields.nesting (Message.fields written) →
      (Message.decode? (Message.encode written) : Option α) = none)

section
variable {α : Type} [Message α] {readBack : α → α}

theorem roundTrips_of_received {WrittenAs : α → α → Prop}
    (hconf : ∀ m : α, Fields.Conforms schema (Message.type α) (Message.fields m))
    (hread : ∀ m written : α, WrittenAs m written →
      Message.ofFields (Fields.received (Message.fields written)) = readBack m) :
    RoundTrips α WrittenAs readBack := by
  intro m written hwritten hsize
  have hdecode := decode?_encode numbered_schema (hconf written) hsize
  rw [Message.decode?, Message.encode, hdecode]
  constructor
  · intro (hnest : _ ≤ deepest)
    rw [if_pos hnest, Option.map_some, hread m written hwritten]
  · intro (hnest : deepest < _)
    rw [if_neg (Nat.not_le.2 hnest), Option.map_none]

theorem roundTrips_of_received_self
    (hconf : ∀ m : α, Fields.Conforms schema (Message.type α) (Message.fields m))
    (hread : ∀ m : α, Message.ofFields (Fields.received (Message.fields m)) = readBack m) :
    RoundTrips α Eq readBack := by
  refine roundTrips_of_received hconf ?_
  rintro m _ rfl
  exact hread m

end

/-! ## Deep filters -/

theorem nesting_append (a b : Fields) :
    Fields.nesting (a ++ b) = max (Fields.nesting a) (Fields.nesting b) := by
  induction a with
  | nil => simp [Fields.nesting]
  | cons field rest ih =>
    obtain ⟨number, value⟩ := field
    rw [List.cons_append, Fields.nesting, Fields.nesting, ih, Nat.max_assoc]

theorem nesting_lt_of_mem {number : Nat} {inner fields : Fields}
    (h : (number, .message inner) ∈ fields) : Fields.nesting inner < Fields.nesting fields := by
  induction fields with
  | nil => cases h
  | cons field rest ih =>
    obtain ⟨n, value⟩ := field
    rw [Fields.nesting]
    obtain heq | hrest := List.mem_cons.1 h
    · obtain ⟨-, rfl⟩ := Prod.mk.inj heq
      rw [Value.nesting]
      omega
    · have := ih hrest
      omega

namespace Filters

mutual
/-- How many filters there are on the longest way down from a filter, with the filter itself. -/
def levels : Filters → Nat
  | ⟨_, _, filters, _⟩ => levelsAll filters + 1

/-- The levels of the deepest of filters. -/
def levelsAll : List Filters → Nat
  | [] => 0
  | operand :: operands => max operand.levels (levelsAll operands)
end

mutual
theorem levels_le_nesting : (m : Filters) → m.levels ≤ Fields.nesting m.fields + 1
  | ⟨operator, on, filters, testValue⟩ => by
    have hoperands := levelsAll_le_nesting filters
    rw [levels, fields, nesting_append, nesting_append]
    omega

theorem levelsAll_le_nesting : (operands : List Filters) →
    levelsAll operands ≤ Fields.nesting (operandFields operands)
  | [] => Nat.zero_le _
  | operand :: operands => by
    have hoperand := levels_le_nesting operand
    have hoperands := levelsAll_le_nesting operands
    rw [levelsAll, operandFields, Fields.nesting, Value.nesting]
    omega
end

end Filters

theorem levels_le_nesting_searchRequest {m : SearchRequest} {filter : Filters}
    (h : m.filters = some filter) : filter.levels ≤ Fields.nesting m.fields := by
  have hmem : (30, .message filter.fields) ∈ m.fields := by
    delta SearchRequest.fields
    simp [Fields.message, h]
  exact Nat.le_trans filter.levels_le_nesting (nesting_lt_of_mem hmem)

theorem levels_le_nesting_batchDeleteRequest {m : BatchDeleteRequest} {filter : Filters}
    (h : m.filters = some filter) : filter.levels ≤ Fields.nesting m.fields := by
  have hmem : (2, .message filter.fields) ∈ m.fields := by
    simp [BatchDeleteRequest.fields, Fields.message, h]
  exact Nat.le_trans filter.levels_le_nesting (nesting_lt_of_mem hmem)

/-- Every request and every reply is read back as it was written, but for the sign of a zero in a
plain field, and refused if it is nested too deep, as one with a filter of more than a hundred
levels is. -/
theorem roundTrips :
    RoundTrips SearchRequest Eq SearchRequest.readBack ∧
      RoundTrips BatchObjectsRequest BatchObjectsRequest.WrittenAs id ∧
      RoundTrips BatchDeleteRequest Eq BatchDeleteRequest.readBack ∧
      RoundTrips SearchReply SearchReply.WrittenAs SearchReply.readBack ∧
      RoundTrips BatchObjectsReply Eq BatchObjectsReply.readBack ∧
      RoundTrips BatchDeleteReply Eq BatchDeleteReply.readBack ∧
      (∀ (m : SearchRequest) (filter : Filters), m.filters = some filter → 100 < filter.levels →
        (Message.encode m).length < UInt64.size →
        (Message.decode? (Message.encode m) : Option SearchRequest) = none) ∧
      (∀ (m : BatchDeleteRequest) (filter : Filters), m.filters = some filter →
        100 < filter.levels → (Message.encode m).length < UInt64.size →
        (Message.decode? (Message.encode m) : Option BatchDeleteRequest) = none) := by
  have hsearch : RoundTrips SearchRequest Eq SearchRequest.readBack :=
    roundTrips_of_received_self SearchRequest.conforms_fields SearchRequest.ofFields_received
  have hdelete : RoundTrips BatchDeleteRequest Eq BatchDeleteRequest.readBack :=
    roundTrips_of_received_self BatchDeleteRequest.conforms_fields
      BatchDeleteRequest.ofFields_received
  refine ⟨hsearch, ?_, hdelete, ?_, ?_, ?_, ?_, ?_⟩
  · exact roundTrips_of_received BatchObjectsRequest.conforms_fields
      (fun _ _ => BatchObjectsRequest.ofFields_received)
  · exact roundTrips_of_received SearchReply.conforms_fields
      (fun _ _ => SearchReply.ofFields_received)
  · exact roundTrips_of_received_self BatchObjectsReply.conforms_fields
      BatchObjectsReply.ofFields_received
  · exact roundTrips_of_received_self BatchDeleteReply.conforms_fields
      BatchDeleteReply.ofFields_received
  · intro m filter hfilter hlevels hsize
    have hnest := levels_le_nesting_searchRequest hfilter
    exact (hsearch m m rfl hsize).2 (Nat.lt_of_lt_of_le hlevels hnest)
  · intro m filter hfilter hlevels hsize
    have hnest := levels_le_nesting_batchDeleteRequest hfilter
    exact (hdelete m m rfl hsize).2 (Nat.lt_of_lt_of_le hlevels hnest)

/-! ## A chain of filters at the limit -/

namespace Filters

/-- A filter above a chain of further filters, each the one operand of the one before. -/
def chain : Nat → Filters
  | 0 => ⟨0, [], [], none⟩
  | n + 1 => ⟨1, [], [chain n], none⟩

theorem readBack_chain (n : Nat) : (chain n).readBack = chain n := by
  induction n with
  | zero => simp [chain, readBack, readBackAll]
  | succ n ih => simp [chain, readBack, readBackAll, ih]

theorem levels_chain (n : Nat) : (chain n).levels = n + 1 := by
  induction n with
  | zero => simp [chain, levels, levelsAll]
  | succ n ih => simp [chain, levels, levelsAll, ih]

theorem fields_chain_zero : (chain 0).fields = Fields.plain 1 (.int32 0) := by
  simp [chain, fields, operandFields, Fields.strings]

theorem fields_chain_succ (n : Nat) :
    (chain (n + 1)).fields = Fields.plain 1 (.int32 1) ++ [(3, .message (chain n).fields)] := by
  simp [chain, fields, operandFields, Fields.strings]

theorem nesting_chain (n : Nat) : Fields.nesting (chain n).fields = n := by
  induction n with
  | zero => simp [fields_chain_zero, Fields.plain, Fields.nesting, Value.nesting]
  | succ n ih => simp [fields_chain_succ, Fields.plain, Fields.nesting, Value.nesting, ih]

/-- A level adds two bytes for its operator and at most three in front of its operand. -/
theorem length_encode_chain {n : Nat} (h : n ≤ 1000) :
    (Fields.encode (chain n).fields).length ≤ 5 * n := by
  induction n with
  | zero => simp [fields_chain_zero, Fields.plain, Fields.encode, Value.encode, Scalar.isDefault]
  | succ n ih =>
    have hrest := ih (by omega)
    have hlength : (Varint.encode (Fields.encode (chain n).fields).length).length ≤ 2 :=
      Varint.length_encode_le_two (by omega)
    have hone : (Int64.toUInt64 1).toNat = 1 := rfl
    simp [fields_chain_succ, Fields.plain, Fields.encode, Value.encode, Scalar.isDefault,
      Scalar.bytes, Scalar.wireType, WireType.code, keyBytes, delimited, Varint.encode_of_lt, hone]
    omega

end Filters

namespace SearchRequest

/-- A search with a chain of filters and nothing else. -/
def filtered (n : Nat) : SearchRequest := { filters := some (.chain n) }

theorem fields_filtered (n : Nat) :
    Fields.encode (filtered n).fields =
      Fields.encode [(30, .message (Filters.chain n).fields)] := by
  delta fields
  simp [filtered, Fields.plain, Fields.message, Fields.optional, Fields.messages,
    Fields.encode, Value.encode, Scalar.isDefault]

theorem length_encode_filtered {n : Nat} (h : n ≤ 1000) :
    (Message.encode (filtered n)).length < UInt64.size := by
  have hchain := Filters.length_encode_chain h
  have hlength : (Varint.encode (Fields.encode (Filters.chain n).fields).length).length ≤ 2 :=
    Varint.length_encode_le_two (by omega)
  have hkey : (keyBytes 30 .delimited).length ≤ 2 := Varint.length_encode_le_two (by decide)
  show (Fields.encode (filtered n).fields).length < 18446744073709551616
  simp only [fields_filtered, Fields.encode, Value.encode, delimited, List.append_nil,
    List.length_append]
  omega

theorem nesting_filtered (n : Nat) : Fields.nesting (filtered n).fields = n + 1 := by
  delta fields
  simp [filtered, Fields.plain, Fields.message, Fields.optional, Fields.messages,
    Fields.nesting, Value.nesting, Filters.nesting_chain]

theorem readBack_filtered (n : Nat) : (filtered n).readBack = filtered n := by
  simp [filtered, readBack, Filters.readBack_chain]

end SearchRequest

/-- A reply that took the negative zero of time, with an error that names no object. -/
def strayReply : BatchObjectsReply :=
  { took := .ofPattern true 0, errors := [{ index := -1 }] }

/-- A batch of one object with the properties in the given order. -/
def batchOf (properties : List (String × PropertyValue)) : BatchObjectsRequest :=
  { objects := [{ properties := properties }] }

theorem writtenAs_batchOf : (batchOf [("a", .unset), ("b", .int (-1))]).WrittenAs
    (batchOf [("b", .int (-1)), ("a", .unset)]) := by
  refine ⟨.cons ⟨?_, .swap .., rfl⟩ .nil, rfl⟩
  exact List.pairwise_pair.2 (by decide)

/-- A hundred levels of filters are read back and one more is not; the order of a map is not seen
and a negative zero loses its sign. -/
theorem roundTrips_filtered :
    Message.decode? (Message.encode (SearchRequest.filtered 99)) =
        some (SearchRequest.filtered 99) ∧
      (Message.decode? (Message.encode (SearchRequest.filtered 100)) : Option SearchRequest) =
        none ∧
      Message.decode? (Message.encode (batchOf [("b", .int (-1)), ("a", .unset)])) =
        some (batchOf [("a", .unset), ("b", .int (-1))]) ∧
      Message.decode? (Message.encode strayReply) =
        some ({ errors := [{ index := -1 }] } : BatchObjectsReply) := by
  obtain ⟨hsearch, hbatch, -, -, hreply, -, hdeep, -⟩ := roundTrips
  refine ⟨?_, ?_, ?_, ?_⟩
  · have hread := (hsearch _ _ rfl (SearchRequest.length_encode_filtered (by decide : 99 ≤ 1000))).1
      (Nat.le_of_eq (SearchRequest.nesting_filtered 99))
    rw [hread, SearchRequest.readBack_filtered]
  · refine hdeep _ (.chain 100) rfl ?_ (SearchRequest.length_encode_filtered (by decide))
    rw [Filters.levels_chain]
    decide
  · exact (hbatch _ _ writtenAs_batchOf (by decide +kernel)).1 (by decide)
  · have hread := (hreply strayReply _ rfl (by decide +kernel)).1 (by decide)
    rw [hread]
    rfl

end VectorQuery.Rpc
