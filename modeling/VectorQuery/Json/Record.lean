import VectorQuery.Json.Reader

/-!
# Reading records

A record is written as an object, whose members may come in any order and among members that the
record does not know, or as an array of its fields in their order. A field that is written twice
makes the record unreadable. `Slots` is what is left to read after the fields have been told apart.
-/

namespace VectorQuery.Json

/-- The fields of a record that are still to be read, in their order. -/
structure Slots where
  /-- What is written for each field, if anything is. -/
  trees : List (Option Tree)
  /-- How many further levels the fields may open. -/
  room : Nat

namespace Slots

/-- The place of a name among names. -/
def place? (names : List String) (name : String) : Option Nat := names.findIdx? (· = name)

/-- The slots with a member put into its place; a member that has no place is skipped, and one whose
place is taken is refused. -/
def put? (names : List String) (trees : List (Option Tree)) (name : String) (tree : Tree) :
    Option (List (Option Tree)) :=
  match place? names name with
  | none => some trees
  | some i =>
    match trees[i]? with
    | some none => some (trees.set i (some tree))
    | _ => none

/-- The slots of a record with the given field names. -/
def ofTree? (names : List String) (room : Nat) (tree : Tree) : Option Slots :=
  match room, tree with
  | room + 1, .object members => do
    let trees ← members.foldlM (fun trees (units, tree) => do
      put? names trees (← stringOf? units) tree) (names.map fun _ => none)
    return ⟨trees, room⟩
  | room + 1, .array items =>
    if items.length ≤ names.length then
      some ⟨items.map some ++ List.replicate (names.length - items.length) none, room⟩
    else none
  | _, _ => none

end Slots

/-- How the fields of a record are read, one after another. -/
abbrev FieldReader (α : Type) := StateT Slots Option α

namespace FieldReader

/-- What is written for the next field. -/
def next : FieldReader (Option Tree × Nat) := fun slots =>
  match slots.trees with
  | [] => none
  | tree :: trees => some ((tree, slots.room), { slots with trees })

/-- Reads a field that must be written. -/
def required {α : Type} (item : Reader α) : FieldReader α := do
  match ← next with
  | (some tree, room) => StateT.lift (item room tree)
  | (none, _) => failure

/-- Reads a field that has a value when it is not written. -/
def withDefault {α : Type} (value : α) (item : Reader α) : FieldReader α := do
  match ← next with
  | (some tree, room) => StateT.lift (item room tree)
  | (none, _) => return value

/-- Reads a field that may be left out or null. -/
def optional {α : Type} (item : Reader α) : FieldReader (Option α) :=
  withDefault none item.optional

end FieldReader

/-- Reads a record with the given field names. -/
def Reader.record {α : Type} (names : List String) (fields : FieldReader α) : Reader α :=
  fun room tree => do
    let slots ← Slots.ofTree? names room tree
    let (value, _) ← fields.run slots
    return value

end VectorQuery.Json
