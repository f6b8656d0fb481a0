import VectorQuery.Batch.Object
import VectorQuery.Consistency

/-!
# Inserting objects

Objects are inserted together. A batch that is too large for one request is cut into consecutive
slices, which are full but for the last.
-/

namespace VectorQuery

/-- Consecutive slices of at most `size` items; one slice when `size` is zero. -/
def slices {α : Type} (size : Nat) (items : List α) : List (List α) :=
  if size = 0 ∨ items.length ≤ size then [items]
  else items.take size :: slices size (items.drop size)
termination_by items.length
decreasing_by simp only [List.length_drop]; omega

theorem flatten_slices {α : Type} (size : Nat) (items : List α) :
    (slices size items).flatten = items := by
  fun_induction slices size items with
  | case1 items h => simp
  | case2 items h ih => rw [List.flatten_cons, ih, List.take_append_drop]

/-- Objects to insert together. -/
structure Insertion where
  objects : List DataObject := []
  /-- How many replicas must take part. -/
  consistencyLevel : Option ConsistencyLevel := none

namespace Insertion

/-- A setting of an insertion. -/
inductive Setting where
  /-- One more object. -/
  | object (object : DataObject)
  /-- More objects. -/
  | objects (objects : List DataObject)
  | consistencyLevel (level : ConsistencyLevel)

/-- The insertion with one more setting. -/
def set (b : Insertion) : Setting → Insertion
  | .object object => { b with objects := b.objects ++ [object] }
  | .objects objects => { b with objects := b.objects ++ objects }
  | .consistencyLevel level => { b with consistencyLevel := some level }

/-- The insertion with the given settings, one after another. -/
def ofSettings (settings : List Setting) : Insertion := settings.foldl set {}

/-- The insertions of at most `size` objects that together insert the same objects. -/
def split (size : Nat) (b : Insertion) : List Insertion :=
  (slices size b.objects).map fun objects => { b with objects }

/-- The insertion as a JSON body. -/
def json (b : Insertion) : Json :=
  .ofMembers [("objects", .array (b.objects.map DataObject.json))]

/-- The insertion as a message. -/
def message (b : Insertion) : Rpc.BatchObjectsRequest where
  objects := b.objects.map DataObject.message
  consistencyLevel := b.consistencyLevel.map ConsistencyLevel.code

end Insertion

end VectorQuery
