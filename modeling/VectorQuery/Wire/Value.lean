import VectorQuery.Number.Binary

/-!
# The fields of a message

A message is carried as a list of numbered fields. One list serves writing and reading: a typed
message lists its fields, from which its bytes are written, and bytes are split into such a list,
from which a typed message is read. When a list is read, the last scalar of a field counts, and the
occurrences of an embedded message are read as one message that has the fields of all of them.
-/

namespace VectorQuery.Wire

open Number

/-- A scalar value of a field. -/
inductive Scalar where
  /-- A truth value. -/
  | bool (b : Bool)
  /-- A signed 32-bit number, or the number of an enumeration's member. -/
  | int32 (n : Int32)
  /-- An unsigned 32-bit number. -/
  | uint32 (n : UInt32)
  /-- A signed 64-bit number. -/
  | int64 (n : Int64)
  /-- A 32-bit floating point number. -/
  | float (x : Single)
  /-- A 64-bit floating point number. -/
  | double (x : Double)
  /-- A text. -/
  | string (s : String)
  deriving DecidableEq

namespace Scalar

/-- Whether a value is the one that a plain field has when it is not written. -/
def isDefault : Scalar → Bool
  | bool b => !b
  | int32 n => n = 0
  | uint32 n => n = 0
  | int64 n => n = 0
  | float x => x.isZero
  | double x => x.isZero
  | string s => s.isEmpty

/-- The truth value that a scalar is. -/
def bool? : Scalar → Option Bool
  | bool b => some b
  | _ => none

/-- The signed 32-bit number that a scalar is. -/
def int32? : Scalar → Option Int32
  | int32 n => some n
  | _ => none

/-- The unsigned 32-bit number that a scalar is. -/
def uint32? : Scalar → Option UInt32
  | uint32 n => some n
  | _ => none

/-- The signed 64-bit number that a scalar is. -/
def int64? : Scalar → Option Int64
  | int64 n => some n
  | _ => none

/-- The 32-bit floating point number that a scalar is. -/
def float? : Scalar → Option Single
  | float x => some x
  | _ => none

/-- The 64-bit floating point number that a scalar is. -/
def double? : Scalar → Option Double
  | double x => some x
  | _ => none

/-- The text that a scalar is. -/
def string? : Scalar → Option String
  | string s => some s
  | _ => none

end Scalar

/-- What a field holds. -/
inductive Value where
  /-- A scalar that is not written when it is the default. -/
  | plain (s : Scalar)
  /-- A scalar that is always written. -/
  | scalar (s : Scalar)
  /-- Numbers that are written as one run. -/
  | packed (values : List Scalar)
  /-- An embedded message. -/
  | message (fields : List (Nat × Value))

/-- The fields of a message, each under its number. -/
abbrev Fields := List (Nat × Value)

mutual
/-- How many fields there are in a list of fields and in the messages that they hold. -/
def Fields.weight : List (Nat × Value) → Nat
  | [] => 0
  | (_, value) :: rest => value.weight + Fields.weight rest

/-- The part of a field in the weight of a list. -/
def Value.weight : Value → Nat
  | .message fields => Fields.weight fields + 1
  | .plain _ => 1
  | .scalar _ => 1
  | .packed _ => 1
end

namespace Fields

/-! ## Listing fields -/

/-- A scalar that is not written when it is the default. -/
def plain (number : Nat) (s : Scalar) : Fields := [(number, .plain s)]

/-- A scalar that is written whenever there is one. -/
def optional (number : Nat) (s : Option Scalar) : Fields :=
  match s with
  | none => []
  | some s => [(number, .scalar s)]

/-- Texts, a field for each. -/
def strings (number : Nat) (values : List String) : Fields :=
  values.map fun s => (number, .scalar (.string s))

/-- Numbers, in one field for all of them if there are any. -/
def packed {α : Type} (number : Nat) (scalar : α → Scalar) (values : List α) : Fields :=
  match values with
  | [] => []
  | values => [(number, .packed (values.map scalar))]

/-- An embedded message that may be absent. -/
def message (number : Nat) (fields : Option Fields) : Fields :=
  match fields with
  | none => []
  | some fields => [(number, .message fields)]

/-- Embedded messages, a field for each. -/
def messages (number : Nat) (messages : List Fields) : Fields :=
  messages.map fun fields => (number, .message fields)

/-! ## Reading fields -/

/-- The scalars of a field, in their order. -/
def scalarsAt (number : Nat) : Fields → List Scalar
  | [] => []
  | (n, value) :: rest =>
    let here := match value with
      | .plain s => [s]
      | .scalar s => [s]
      | .packed values => values
      | .message _ => []
    if n = number then here ++ scalarsAt number rest else scalarsAt number rest

/-- The embedded messages of a field, in their order. -/
def messagesAt (number : Nat) : Fields → List Fields
  | [] => []
  | (n, .message fields) :: rest =>
    if n = number then fields :: messagesAt number rest else messagesAt number rest
  | _ :: rest => messagesAt number rest

/-- The last scalar of a field that is of a type, if the field is written. -/
def last? {α : Type} (ofScalar? : Scalar → Option α) (number : Nat) (fields : Fields) : Option α :=
  ((fields.scalarsAt number).filterMap ofScalar?).getLast?

/-- The scalars of a field that are of a type. -/
def all {α : Type} (ofScalar? : Scalar → Option α) (number : Nat) (fields : Fields) : List α :=
  (fields.scalarsAt number).filterMap ofScalar?

/-- The embedded message of a field, if the field is written. -/
def message? (number : Nat) (fields : Fields) : Option Fields :=
  match fields.messagesAt number with
  | [] => none
  | messages => some messages.flatten

/-- The truth value of a plain field. -/
def bool (number : Nat) (fields : Fields) : Bool := (fields.last? Scalar.bool? number).getD false

/-- The signed 32-bit number of a plain field. -/
def int32 (number : Nat) (fields : Fields) : Int32 := (fields.last? Scalar.int32? number).getD 0

/-- The signed 64-bit number of a plain field. -/
def int64 (number : Nat) (fields : Fields) : Int64 := (fields.last? Scalar.int64? number).getD 0

/-- The 32-bit floating point number of a plain field. -/
def float (number : Nat) (fields : Fields) : Single :=
  (fields.last? Scalar.float? number).getD Binary.zero

/-- The text of a plain field. -/
def string (number : Nat) (fields : Fields) : String :=
  (fields.last? Scalar.string? number).getD ""

/-- The field that a choice between fields has come to after one more field of a message: of
occurrences of one embedded message all fields count, else the last field does. -/
def choose (chosen : Option (Nat × Value)) (field : Nat × Value) : Option (Nat × Value) :=
  match chosen, field with
  | some (m, .message before), (n, .message fields) =>
    if m = n then some (n, .message (before ++ fields)) else some field
  | _, _ => some field

/-- The one field that is set among the numbers of a choice, if any is. -/
def chosen? (numbers : List Nat) (fields : Fields) : Option (Nat × Value) :=
  (fields.filter fun field => numbers.contains field.1).foldl choose none

/-! ## The weight of fields -/

@[simp] theorem weight_nil : weight [] = 0 := by simp [weight]

@[simp] theorem weight_cons (n : Nat) (value : Value) (rest : Fields) :
    weight ((n, value) :: rest) = value.weight + weight rest := by simp [weight]

theorem weight_append (a b : Fields) : weight (a ++ b) = weight a + weight b := by
  induction a with
  | nil => simp
  | cons field rest ih =>
    obtain ⟨n, value⟩ := field
    simp [ih, Nat.add_assoc]

theorem weight_lt_of_mem_messagesAt {number : Nat} {fields m : Fields}
    (h : m ∈ fields.messagesAt number) : weight m < weight fields := by
  induction fields with
  | nil => simp [messagesAt] at h
  | cons field rest ih =>
    obtain ⟨n, value⟩ := field
    cases value with
    | message inner =>
      simp only [messagesAt] at h
      split at h
      · rcases List.mem_cons.mp h with rfl | h
        · simp [Value.weight]; omega
        · have := ih h; simp; omega
      · have := ih h; simp; omega
    | plain s => have := ih (by simpa [messagesAt] using h); simp; omega
    | scalar s => have := ih (by simpa [messagesAt] using h); simp; omega
    | packed values => have := ih (by simpa [messagesAt] using h); simp; omega

theorem weight_flatten_add_length_le (number : Nat) (fields : Fields) :
    weight (fields.messagesAt number).flatten + (fields.messagesAt number).length
      ≤ weight fields := by
  induction fields with
  | nil => simp [messagesAt]
  | cons field rest ih =>
    obtain ⟨n, value⟩ := field
    cases value with
    | message inner =>
      simp only [messagesAt]
      split
      · simp only [List.flatten_cons, weight_append, List.length_cons, weight_cons, Value.weight]
        omega
      · simp only [weight_cons]; omega
    | plain s => simp only [messagesAt, weight_cons]; omega
    | scalar s => simp only [messagesAt, weight_cons]; omega
    | packed values => simp only [messagesAt, weight_cons]; omega

theorem weight_lt_of_message? {number : Nat} {fields m : Fields}
    (h : fields.message? number = some m) : weight m < weight fields := by
  have hle := weight_flatten_add_length_le number fields
  unfold message? at h
  split at h
  · simp at h
  · next hne =>
    have hpos : 0 < (fields.messagesAt number).length :=
      List.length_pos_iff.mpr hne
    simp only [Option.some.injEq] at h
    subst h
    omega

end Fields

end VectorQuery.Wire
