import VectorQuery.Proofs.Wire.Scalar

/-!
# Messages survive the wire

What is written for a message is split into the same fields again, as long as its embedded messages
are nested no deeper than the reader has room for; it is refused when they are. `fields?_encode`
states both for every amount of room, since each embedded message is read with one level less.
-/

namespace VectorQuery.Wire

variable {τ : Type}

mutual
/-- The fields are fields of a message of a type. -/
def Fields.Conforms (schema : Schema τ) : τ → List (Nat × Value) → Prop
  | _, [] => True
  | type, (number, value) :: rest =>
    (∃ fieldType, schema.fieldType? type number = some fieldType ∧
      Value.Fits schema fieldType value) ∧ Fields.Conforms schema type rest

/-- The value is one that a field of a type can have. -/
def Value.Fits (schema : Schema τ) : FieldType τ → Value → Prop
  | .plain type, .plain s => s.type = type
  | .optional type, .scalar s => s.type = type
  | .memberScalar _ type, .scalar s => s.type = type
  | .repeated type, .scalar s => s.type = type
  | .repeated type, .packed values => type ≠ .string ∧ ∀ s ∈ values, s.type = type
  | .message type, .message fields => Fields.Conforms schema type fields
  | .messages type, .message fields => Fields.Conforms schema type fields
  | .memberMessage _ type, .message fields => Fields.Conforms schema type fields
  | .map entry, .message fields => Fields.Conforms schema entry fields
  | _, _ => False
end

mutual
/-- How many levels of embedded messages are nested in a message. -/
def Fields.nesting : List (Nat × Value) → Nat
  | [] => 0
  | (_, value) :: rest => max value.nesting (Fields.nesting rest)

/-- How many levels a field adds to the message it is in. -/
def Value.nesting : Value → Nat
  | .message fields => Fields.nesting fields + 1
  | .plain _ => 0
  | .scalar _ => 0
  | .packed _ => 0
end

mutual
/-- The fields that are read for a list of fields: those that are written. -/
def Fields.received : List (Nat × Value) → List (Nat × Value)
  | [] => []
  | (number, value) :: rest => value.receivedAt number ++ Fields.received rest

/-- The field that is read for a value, if the value is written. -/
def Value.receivedAt (number : Nat) : Value → List (Nat × Value)
  | .plain s => if s.isDefault then [] else [(number, .scalar s)]
  | .scalar s => [(number, .scalar s)]
  | .packed values => [(number, .packed values)]
  | .message fields => [(number, .message (Fields.received fields))]
end

/-- Every field has a number that fits into a key. -/
def Schema.Numbered (schema : Schema τ) : Prop :=
  ∀ type, ∀ field ∈ schema type, 0 < field.number ∧ field.number < Nat.pow 2 29

namespace Schema

theorem number_of_fieldType? {schema : Schema τ} {type : τ} {number : Nat} {t : FieldType τ}
    (h : schema.fieldType? type number = some t) :
    ∃ field ∈ schema type, field.number = number := by
  obtain ⟨field, hfind, -⟩ := Option.map_eq_some_iff.1 h
  exact ⟨field, List.mem_of_find?_eq_some hfind, by simpa using List.find?_some hfind⟩

theorem Numbered.key? {schema : Schema τ} (hschema : schema.Numbered) {type : τ} {number : Nat}
    {t : FieldType τ} (h : schema.fieldType? type number = some t) (layout : WireType)
    (rest : List UInt8) : key? (keyBytes number layout ++ rest) = some (number, layout, rest) := by
  obtain ⟨field, hfield, rfl⟩ := number_of_fieldType? h
  obtain ⟨hpos, hlt⟩ := hschema type field hfield
  exact key?_keyBytes hpos hlt layout rest

end Schema

namespace Value

/-- How a value is laid out. -/
def layout : Value → WireType
  | .plain s => s.wireType
  | .scalar s => s.wireType
  | .packed _ => .delimited
  | .message _ => .delimited

/-- What is written for a value after its key. -/
def body : Value → List UInt8
  | .plain s => s.bytes
  | .scalar s => s.bytes
  | .packed values => delimited (values.flatMap Scalar.bytes)
  | .message fields => delimited (Fields.encode fields)

/-- Whether a field is left out when a message is written. -/
def isOmitted : Value → Bool
  | .plain s => s.isDefault
  | _ => false

/-- The value that is read for a value. -/
def received : Value → Value
  | .plain s => .scalar s
  | .scalar s => .scalar s
  | .packed values => .packed values
  | .message fields => .message (Fields.received fields)

theorem encode_eq (number : Nat) (v : Value) :
    v.encode number = if v.isOmitted then [] else keyBytes number v.layout ++ v.body := by
  cases v <;> rfl

theorem receivedAt_eq (number : Nat) (v : Value) :
    v.receivedAt number = if v.isOmitted then [] else [(number, v.received)] := by
  cases v <;> rfl

theorem nesting_of_isOmitted {v : Value} (h : v.isOmitted = true) : v.nesting = 0 := by
  cases v with
  | plain s => simp [nesting]
  | _ => simp [isOmitted] at h

end Value

theorem length_delimited (bytes : List UInt8) : bytes.length < (delimited bytes).length := by
  have hpos := List.length_pos_iff.2 (Varint.encode_ne_nil bytes.length)
  rw [delimited, List.length_append]
  omega

/-- A run is not confused with a text: no text is repeated in a run. -/
theorem repeated?_delimited {type : ScalarType} {values : List Scalar} (htype : type ≠ .string)
    (hvalues : ∀ s ∈ values, s.type = type)
    (hsize : (delimited (values.flatMap Scalar.bytes)).length < UInt64.size) (rest : List UInt8) :
    type.repeated? .delimited (delimited (values.flatMap Scalar.bytes) ++ rest) =
      some (.packed values, rest) := by
  have hlt := length_delimited (values.flatMap Scalar.bytes)
  rw [ScalarType.repeated?, if_pos ⟨rfl, htype⟩, delimited?_delimited (Nat.lt_trans hlt hsize)]
  show (type.run? _ _ >>= _) = _
  rw [run?_flatMap_bytes type values _ hvalues (Nat.lt_trans hlt hsize) (Nat.le_refl _)]
  rfl

theorem repeated?_bytes (s : Scalar) (h : s.bytes.length < UInt64.size) (rest : List UInt8) :
    s.type.repeated? s.wireType (s.bytes ++ rest) = some (.scalar s, rest) := by
  have hrun : ¬(s.wireType = .delimited ∧ s.type ≠ .string) := by
    cases s <;> simp [Scalar.wireType, Scalar.type]
  rw [ScalarType.repeated?, if_neg hrun, field?_bytes s h]

/-! ## Reading one field more -/

theorem fields?_nil (schema : Schema τ) (fuel room : Nat) (type : τ) :
    fields? schema fuel room type [] = some [] := by
  unfold fields?
  rfl

theorem fields?_key {schema : Schema τ} (hschema : schema.Numbered) {fuel room : Nat} {type : τ}
    {number : Nat} {t : FieldType τ} (ht : schema.fieldType? type number = some t)
    (layout : WireType) (bytes : List UInt8) :
    fields? schema (fuel + 1) room type (keyBytes number layout ++ bytes) =
      match value? schema fuel room t layout bytes with
      | none => none
      | some (value, rest) => (fields? schema fuel room type rest).map ((number, value) :: ·) := by
  have hkey := hschema.key? ht layout bytes
  obtain ⟨b, tail, hb⟩ := List.exists_cons_of_ne_nil
    (List.append_ne_nil_of_left_ne_nil (Varint.encode_ne_nil (number * 8 + layout.code)) bytes)
  replace hb : keyBytes number layout ++ bytes = b :: tail := hb
  rw [hb, fields?, ← hb, hkey]
  · dsimp only
    rewrite [ht]
    rfl
  · intro h
    cases h

theorem embedded?_delimited (schema : Schema τ) (fuel room : Nat) (type : τ)
    {inner : List UInt8} (h : inner.length < UInt64.size) (rest : List UInt8) :
    embedded? schema (fuel + 1) room type (delimited inner ++ rest) =
      match room with
      | 0 => none
      | room + 1 =>
        (fields? schema fuel room type inner).map fun fields => (.message fields, rest) := by
  cases room with
  | zero => simp [embedded?]
  | succ room =>
    rw [embedded?, delimited?_delimited h]

/-! ## Whole messages -/

mutual
/-- The induction is on the fields that are written. The room matters where a message is embedded
and nowhere else, and there is fuel enough because each field takes a byte at least. -/
theorem fields?_encode {schema : Schema τ} (hschema : schema.Numbered) :
    ∀ (fields : List (Nat × Value)) (fuel room : Nat) (type : τ),
      Fields.Conforms schema type fields → (Fields.encode fields).length < UInt64.size →
      (Fields.encode fields).length ≤ fuel →
      fields? schema fuel room type (Fields.encode fields) =
        if Fields.nesting fields ≤ room then some (Fields.received fields) else none
  | [], fuel, room, type, _, _, _ => by
    rw [Fields.encode, fields?_nil, Fields.nesting, if_pos (Nat.zero_le _), Fields.received]
  | (number, value) :: rest, fuel, room, type, hconf, hsize, hfuel => by
    obtain ⟨⟨t, ht, hfits⟩, hrest⟩ := hconf
    rw [Fields.encode, List.length_append] at hsize hfuel
    rw [Fields.encode, Fields.nesting, Fields.received, Value.receivedAt_eq]
    rw [Value.encode_eq] at hsize hfuel ⊢
    by_cases homit : value.isOmitted = true
    · rw [if_pos homit, List.length_nil] at hsize hfuel
      rw [if_pos homit, if_pos homit, List.nil_append, List.nil_append,
        fields?_encode hschema rest fuel room type hrest (by omega) (by omega),
        Value.nesting_of_isOmitted homit, Nat.zero_max]
    · rw [if_neg homit, List.length_append] at hsize hfuel
      have hkey : 0 < (keyBytes number value.layout).length :=
        List.length_pos_iff.2 (Varint.encode_ne_nil _)
      obtain ⟨fuel, rfl⟩ := Nat.exists_eq_succ_of_ne_zero (show fuel ≠ 0 by omega)
      rw [if_neg homit, if_neg homit, List.append_assoc, fields?_key hschema ht,
        value?_body hschema value fuel room t _ hfits (by omega) (by omega)]
      by_cases hvalue : value.nesting ≤ room
      · rw [if_pos hvalue]
        show (fields? schema fuel room type (Fields.encode rest)).map _ = _
        rw [fields?_encode hschema rest fuel room type hrest (by omega) (by omega)]
        by_cases hnest : Fields.nesting rest ≤ room
        · rw [if_pos hnest, if_pos (by omega)]
          rfl
        · rw [if_neg hnest, if_neg (by omega)]
          rfl
      · rw [if_neg hvalue, if_neg (by omega)]

theorem value?_body {schema : Schema τ} (hschema : schema.Numbered) :
    ∀ (value : Value) (fuel room : Nat) (t : FieldType τ) (rest : List UInt8),
      Value.Fits schema t value → value.body.length < UInt64.size → value.body.length ≤ fuel →
      value? schema fuel room t value.layout (value.body ++ rest) =
        if value.nesting ≤ room then some (value.received, rest) else none
  | .plain s, fuel, room, t, rest, hfits, hsize, _ => by
    have hread := field?_bytes s hsize rest
    cases t with
    | plain type =>
      obtain rfl : s.type = type := hfits
      rw [value?, Value.nesting, if_pos (Nat.zero_le _)]
      exact hread
    | _ => exact absurd hfits id
  | .scalar s, fuel, room, t, rest, hfits, hsize, _ => by
    have hread := field?_bytes s hsize rest
    have hreads := repeated?_bytes s hsize rest
    rw [Value.nesting, if_pos (Nat.zero_le _)]
    cases t with
    | optional type =>
      obtain rfl : s.type = type := hfits
      rw [value?]
      exact hread
    | memberScalar choice type =>
      obtain rfl : s.type = type := hfits
      rw [value?]
      exact hread
    | repeated type =>
      obtain rfl : s.type = type := hfits
      rw [value?]
      exact hreads
    | _ => exact absurd hfits id
  | .packed values, fuel, room, t, rest, hfits, hsize, _ => by
    cases t with
    | repeated type =>
      obtain ⟨htype, hvalues⟩ := hfits
      rw [value?, Value.nesting, if_pos (Nat.zero_le _)]
      exact repeated?_delimited htype hvalues hsize rest
    | _ => exact absurd hfits id
  | .message fields, fuel, room, t, rest, hfits, hsize, hfuel => by
    have hlt := length_delimited (Fields.encode fields)
    replace hsize : (delimited (Fields.encode fields)).length < UInt64.size := hsize
    replace hfuel : (delimited (Fields.encode fields)).length ≤ fuel := hfuel
    obtain ⟨fuel, rfl⟩ := Nat.exists_eq_succ_of_ne_zero (show fuel ≠ 0 by omega)
    have hread : ∀ type, Fields.Conforms schema type fields →
        embedded? schema (fuel + 1) room type (delimited (Fields.encode fields) ++ rest) =
          if (Value.message fields).nesting ≤ room then
            some (.message (Fields.received fields), rest)
          else none := by
      intro type hconf
      rw [embedded?_delimited schema fuel room type (by omega), Value.nesting]
      cases room with
      | zero => rfl
      | succ room =>
        show (fields? schema fuel room type (Fields.encode fields)).map _ = _
        rw [fields?_encode hschema fields fuel room type hconf (by omega) (by omega)]
        by_cases hnest : Fields.nesting fields ≤ room
        · rw [if_pos hnest, if_pos (by omega)]
          rfl
        · rw [if_neg hnest, if_neg (by omega)]
          rfl
    cases t with
    | message type =>
      rw [value?]
      exact hread type hfits
    | messages type =>
      rw [value?]
      exact hread type hfits
    | memberMessage choice type =>
      rw [value?]
      exact hread type hfits
    | map entry =>
      rw [value?]
      exact hread entry hfits
    | _ => exact absurd hfits id
end

theorem conforms_nil {schema : Schema τ} {type : τ} : Fields.Conforms schema type [] := trivial

theorem conforms_cons {schema : Schema τ} {type : τ} {number : Nat} {value : Value}
    {rest : Fields} :
    Fields.Conforms schema type ((number, value) :: rest) ↔
      (∃ t, schema.fieldType? type number = some t ∧ Value.Fits schema t value) ∧
        Fields.Conforms schema type rest := by
  rw [Fields.Conforms]

-- A message is checked part by part; unfolding would run through all of its fields.
attribute [irreducible] Fields.Conforms

/-- A message is read back, or refused if it is nested deeper than the reader goes. -/
theorem decode?_encode {schema : Schema τ} (hschema : schema.Numbered) {type : τ}
    {fields : Fields} (hconf : Fields.Conforms schema type fields)
    (hsize : (Fields.encode fields).length < UInt64.size) :
    decode? schema type (Fields.encode fields) =
      if Fields.nesting fields ≤ deepest then some (Fields.received fields) else none :=
  fields?_encode hschema fields _ deepest type hconf hsize (Nat.le_succ _)

end VectorQuery.Wire
