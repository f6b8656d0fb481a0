import Mathlib.Data.List.Forall2
import VectorQuery.Proofs.Wire.Message

/-!
# Listing fields and reading them

A typed message lists its fields by joining a few kinds of parts: plain and optional scalars, texts,
runs and embedded messages. For each kind there is what makes it conform to a schema, what is
received for it, and what is found in it under a number. A message whose parts have numbers of their
own is then read back part by part.
-/

namespace VectorQuery.Wire

open Number

variable {τ : Type}

/-- The number as a plain field gives it back: zero is not written, and so loses its sign. -/
def unsignedZero (x : Single) : Single := if x.isZero then Binary.zero else x

/-- Values that are read back one by one are read back together. -/
theorem map_eq_of_forall₂ {α β : Type} {Written : α → β → Prop} {read : β → α} {as : List α}
    {bs : List β} (h : List.Forall₂ Written as bs) (hread : ∀ a b, Written a b → read b = a) :
    bs.map read = as := by
  induction h with
  | nil => rfl
  | cons hhead _ ih => rw [List.map_cons, hread _ _ hhead, ih]

/-! ## Conforming to a schema -/

theorem conforms_append {schema : Schema τ} {type : τ} {a b : Fields} :
    Fields.Conforms schema type (a ++ b) ↔
      Fields.Conforms schema type a ∧ Fields.Conforms schema type b := by
  induction a with
  | nil => rw [List.nil_append, and_iff_right conforms_nil]
  | cons field rest ih =>
    obtain ⟨number, value⟩ := field
    rw [List.cons_append, conforms_cons, conforms_cons, ih, and_assoc]

theorem conforms_singleton {schema : Schema τ} {type : τ} {number : Nat} {value : Value}
    {t : FieldType τ} (ht : schema.fieldType? type number = some t)
    (hvalue : Value.Fits schema t value) : Fields.Conforms schema type [(number, value)] :=
  conforms_cons.2 ⟨⟨t, ht, hvalue⟩, conforms_nil⟩

theorem conforms_map {schema : Schema τ} {type : τ} {number : Nat} {t : FieldType τ} {α : Type}
    {value : α → Value} {values : List α} (ht : schema.fieldType? type number = some t)
    (hvalues : ∀ a ∈ values, Value.Fits schema t (value a)) :
    Fields.Conforms schema type (values.map fun a => (number, value a)) := by
  induction values with
  | nil => exact conforms_nil
  | cons a rest ih =>
    obtain ⟨ha, hrest⟩ := List.forall_mem_cons.1 hvalues
    exact conforms_cons.2 ⟨⟨t, ht, ha⟩, ih hrest⟩

section
variable {schema : Schema τ} {type inner : τ} {number : Nat} {t : ScalarType} {α : Type}

theorem conforms_plain {s : Scalar} (ht : schema.fieldType? type number = some (.plain t))
    (hs : s.type = t) : Fields.Conforms schema type (Fields.plain number s) :=
  conforms_singleton ht hs

theorem conforms_optional {scalar : α → Scalar} {value : Option α}
    (ht : schema.fieldType? type number = some (.optional t)) (hs : ∀ a, (scalar a).type = t) :
    Fields.Conforms schema type (Fields.optional number (value.map scalar)) := by
  cases value with
  | none => exact conforms_nil
  | some a => exact conforms_singleton ht (hs a)

theorem conforms_strings {values : List String}
    (ht : schema.fieldType? type number = some (.repeated .string)) :
    Fields.Conforms schema type (Fields.strings number values) :=
  conforms_map ht fun _ _ => rfl

theorem conforms_packed {scalar : α → Scalar} {values : List α}
    (ht : schema.fieldType? type number = some (.repeated t)) (hs : ∀ a, (scalar a).type = t)
    (hstring : t ≠ .string) :
    Fields.Conforms schema type (Fields.packed number scalar values) := by
  cases values with
  | nil => exact conforms_nil
  | cons a rest =>
    refine conforms_singleton ht ⟨hstring, fun s hmem => ?_⟩
    obtain ⟨b, -, rfl⟩ := List.mem_map.1 hmem
    exact hs b

theorem conforms_message {fields : α → Fields} {value : Option α}
    (ht : schema.fieldType? type number = some (.message inner))
    (hs : ∀ a ∈ value, Fields.Conforms schema inner (fields a)) :
    Fields.Conforms schema type (Fields.message number (value.map fields)) := by
  cases value with
  | none => exact conforms_nil
  | some a => exact conforms_singleton ht (hs a rfl)

theorem conforms_messages {fields : α → Fields} {values : List α}
    (ht : schema.fieldType? type number = some (.messages inner))
    (hs : ∀ a ∈ values, Fields.Conforms schema inner (fields a)) :
    Fields.Conforms schema type (Fields.messages number (values.map fields)) := by
  rw [Fields.messages, List.map_map]
  exact conforms_map ht hs

theorem conforms_entries {fields : α → Fields} {values : List α}
    (ht : schema.fieldType? type number = some (.map inner))
    (hs : ∀ a ∈ values, Fields.Conforms schema inner (fields a)) :
    Fields.Conforms schema type (Fields.messages number (values.map fields)) := by
  rw [Fields.messages, List.map_map]
  exact conforms_map ht hs

end

/-! ## What is received -/

/-- The scalar, if it is written in a plain field. -/
def Scalar.written? (s : Scalar) : Option Scalar := if s.isDefault then none else some s

namespace Fields

@[simp] theorem received_nil : received [] = [] := by
  simp [received]

@[simp] theorem received_append (a b : Fields) : received (a ++ b) = received a ++ received b := by
  induction a with
  | nil => simp
  | cons field rest ih =>
    obtain ⟨number, value⟩ := field
    rw [List.cons_append, received, received, ih, List.append_assoc]

@[simp] theorem received_plain (number : Nat) (s : Scalar) :
    received (plain number s) = optional number s.written? := by
  rw [plain, received, received_nil, List.append_nil, Value.receivedAt, Scalar.written?]
  cases s.isDefault <;> rfl

@[simp] theorem received_optional (number : Nat) (s : Option Scalar) :
    received (optional number s) = optional number s := by
  cases s <;> simp [optional, received, Value.receivedAt]

@[simp] theorem received_strings (number : Nat) (values : List String) :
    received (strings number values) = strings number values := by
  induction values with
  | nil => exact received_nil
  | cons s rest ih =>
    show received ((number, .scalar (.string s)) :: strings number rest) = _
    rw [received, ih]
    rfl

@[simp] theorem received_packed {α : Type} (number : Nat) (scalar : α → Scalar)
    (values : List α) : received (packed number scalar values) = packed number scalar values := by
  cases values <;> simp [packed, received, Value.receivedAt]

@[simp] theorem received_message (number : Nat) (inner : Option Fields) :
    received (message number inner) = message number (inner.map received) := by
  cases inner <;> simp [message, received, Value.receivedAt]

@[simp] theorem received_messages (number : Nat) (inner : List Fields) :
    received (messages number inner) = messages number (inner.map received) := by
  induction inner with
  | nil => exact received_nil
  | cons m rest ih =>
    show received ((number, .message m) :: messages number rest) = _
    rw [received, ih]
    rfl

/-! ## What is found under a number -/

section Scalars
variable (k number : Nat)

@[simp] theorem scalarsAt_append (a b : Fields) :
    scalarsAt k (a ++ b) = scalarsAt k a ++ scalarsAt k b := by
  induction a with
  | nil => rfl
  | cons field rest ih =>
    obtain ⟨n, value⟩ := field
    by_cases hn : n = k
    · simp [scalarsAt, hn, ih]
    · simp [scalarsAt, hn, ih]

@[simp] theorem scalarsAt_optional (s : Option Scalar) :
    scalarsAt k (optional number s) = if number = k then s.toList else [] := by
  cases s <;> simp [optional, scalarsAt]

@[simp] theorem scalarsAt_strings (values : List String) :
    scalarsAt k (strings number values) = if number = k then values.map .string else [] := by
  induction values with
  | nil => simp [strings, scalarsAt]
  | cons s rest ih =>
    show scalarsAt k ((number, .scalar (.string s)) :: strings number rest) = _
    rw [scalarsAt, ih]
    by_cases hn : number = k <;> simp [hn]

@[simp] theorem scalarsAt_packed {α : Type} (scalar : α → Scalar) (values : List α) :
    scalarsAt k (packed number scalar values) = if number = k then values.map scalar else [] := by
  cases values <;> simp [packed, scalarsAt]

@[simp] theorem scalarsAt_message (inner : Option Fields) :
    scalarsAt k (message number inner) = [] := by
  cases inner <;> simp [message, scalarsAt]

@[simp] theorem scalarsAt_messages (inner : List Fields) :
    scalarsAt k (messages number inner) = [] := by
  induction inner with
  | nil => rfl
  | cons m rest ih =>
    show scalarsAt k ((number, .message m) :: messages number rest) = _
    rw [scalarsAt, ih]
    exact ite_self _

end Scalars

section Messages
variable (k number : Nat)

@[simp] theorem messagesAt_append (a b : Fields) :
    messagesAt k (a ++ b) = messagesAt k a ++ messagesAt k b := by
  induction a with
  | nil => rfl
  | cons field rest ih =>
    obtain ⟨n, value⟩ := field
    cases value with
    | message inner => by_cases hn : n = k <;> simp [messagesAt, hn, ih]
    | _ => exact ih

@[simp] theorem messagesAt_optional (s : Option Scalar) :
    messagesAt k (optional number s) = [] := by
  cases s <;> rfl

@[simp] theorem messagesAt_strings (values : List String) :
    messagesAt k (strings number values) = [] := by
  induction values with
  | nil => rfl
  | cons s rest ih => exact ih

@[simp] theorem messagesAt_packed {α : Type} (scalar : α → Scalar) (values : List α) :
    messagesAt k (packed number scalar values) = [] := by
  cases values <;> rfl

@[simp] theorem messagesAt_message (inner : Option Fields) :
    messagesAt k (message number inner) = if number = k then inner.toList else [] := by
  cases inner <;> simp [message, messagesAt]

@[simp] theorem messagesAt_messages (inner : List Fields) :
    messagesAt k (messages number inner) = if number = k then inner else [] := by
  induction inner with
  | nil => simp [messages, messagesAt]
  | cons m rest ih =>
    show messagesAt k ((number, .message m) :: messages number rest) = _
    rw [messagesAt, ih]
    by_cases hn : number = k <;> simp [hn]

end Messages

/-! ## Reading what is found -/

attribute [simp] bool int32 int64 float string all

@[simp] theorem last?_eq {α : Type} (ofScalar? : Scalar → Option α) (k : Nat) (fields : Fields) :
    last? ofScalar? k fields = (scalarsAt k fields).reverse.findSome? ofScalar? := by
  rw [last?, List.getLast?_filterMap]

/-- The message that is read for the occurrences of an embedded message. -/
def joined : List Fields → Option Fields
  | [] => none
  | messages => some messages.flatten

@[simp] theorem message?_eq (k : Nat) (fields : Fields) :
    message? k fields = joined (messagesAt k fields) := by
  unfold message?
  cases messagesAt k fields <;> rfl

@[simp] theorem joined_nil : joined [] = none := rfl

@[simp] theorem joined_singleton (m : Fields) : joined [m] = some m :=
  congrArg some List.flatten_singleton

@[simp] theorem joined_toList (inner : Option Fields) : joined inner.toList = inner := by
  cases inner with
  | none => exact joined_nil
  | some m => exact joined_singleton m

/-! ## The field that is set in a choice -/

theorem number_of_mem_optional {number : Nat} {s : Option Scalar} {field : Nat × Value}
    (h : field ∈ optional number s) : field.1 = number := by
  cases s with
  | none => cases h
  | some s => rw [List.mem_singleton.1 h]

theorem number_of_mem_strings {number : Nat} {values : List String} {field : Nat × Value}
    (h : field ∈ strings number values) : field.1 = number := by
  obtain ⟨s, -, rfl⟩ := List.mem_map.1 h
  rfl

theorem number_of_mem_messages {number : Nat} {inner : List Fields} {field : Nat × Value}
    (h : field ∈ messages number inner) : field.1 = number := by
  obtain ⟨m, -, rfl⟩ := List.mem_map.1 h
  rfl

/-- Fields of other numbers say nothing about a choice. -/
theorem chosen?_append_of_forall {numbers : List Nat} {a : Fields} (b : Fields)
    (h : ∀ field ∈ a, field.1 ∉ numbers) : chosen? numbers (a ++ b) = chosen? numbers b := by
  have hnil : (a.filter fun field => numbers.contains field.1) = [] := by
    rw [List.filter_eq_nil_iff]
    intro field hfield
    rw [List.contains_iff_mem]
    exact h field hfield
  rw [chosen?, chosen?, List.filter_append, hnil, List.nil_append]

end Fields

@[simp] theorem findSome?_reverse_toList {α β : Type} (ofScalar? : β → Option α) (s : Option β) :
    s.toList.reverse.findSome? ofScalar? = s.bind ofScalar? := by
  cases s with
  | none => rfl
  | some s => cases h : ofScalar? s <;> simp [h]

namespace Scalar

@[simp] theorem bool?_bool (b : Bool) : (bool b).bool? = some b := rfl

@[simp] theorem int32?_int32 (n : Int32) : (int32 n).int32? = some n := rfl

@[simp] theorem uint32?_uint32 (n : UInt32) : (uint32 n).uint32? = some n := rfl

@[simp] theorem int64?_int64 (n : Int64) : (int64 n).int64? = some n := rfl

@[simp] theorem float?_float (x : Single) : (float x).float? = some x := rfl

@[simp] theorem double?_double (x : Double) : (double x).double? = some x := rfl

@[simp] theorem string?_string (s : String) : (string s).string? = some s := rfl

/-! A plain field that is not written reads as the default, which is what was left out. -/

@[simp] theorem getD_written?_bool (b : Bool) :
    ((written? (bool b)).bind bool?).getD false = b := by
  cases b <;> rfl

@[simp] theorem getD_written?_int32 (n : Int32) :
    ((written? (int32 n)).bind int32?).getD 0 = n := by
  unfold written? isDefault
  by_cases h : n = 0 <;> simp [h, int32?]

@[simp] theorem getD_written?_int64 (n : Int64) :
    ((written? (int64 n)).bind int64?).getD 0 = n := by
  unfold written? isDefault
  by_cases h : n = 0 <;> simp [h, int64?]

@[simp] theorem getD_written?_string (s : String) :
    ((written? (string s)).bind string?).getD "" = s := by
  unfold written? isDefault
  by_cases h : s = "" <;> simp [h, string?]

@[simp] theorem getD_written?_float (x : Single) :
    ((written? (float x)).bind float?).getD Binary.zero = unsignedZero x := by
  unfold written? isDefault unsignedZero
  by_cases h : x.isZero = true <;> simp [h, float?]

end Scalar

end VectorQuery.Wire
