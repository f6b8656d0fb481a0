import VectorQuery.Batch.Insertion
import VectorQuery.Client.Session

/-!
# Sending insertions

An insertion is sent in slices of at most `largestSlice` objects, over the RPC interface if it is
used and else over the REST interface. Both say of each object what is wrong with it: the RPC
interface lists errors under the places of the objects in the slice, and the REST interface gives
one result for each object in order. The outcomes are numbered through all slices, and the first
slice that fails as a whole ends the insertion.
-/

namespace VectorQuery.Client

/-- What became of one object. -/
structure InsertOutcome where
  /-- The place of the object in the insertion. -/
  index : Nat
  /-- The id of the object. -/
  id : Uuid
  /-- What is wrong with it. -/
  errors : List String
  deriving DecidableEq

namespace InsertOutcome

/-- Whether the object was inserted. -/
def isSuccess (o : InsertOutcome) : Bool := o.errors.isEmpty

/-- The outcomes of objects from a place on, with the errors of each. -/
def number (place : Nat) (objects : List DataObject) (errors : List (List String)) :
    List InsertOutcome :=
  (objects.zip errors).zipIdx place |>.map fun ((object, errors), index) =>
    { index, id := object.id, errors }

end InsertOutcome

/-- The path under which objects are inserted and deleted. -/
def objectsPath : String := "/batch/objects"

/-- The parameters of a request that writes objects. -/
def writeParameters (level : Option ConsistencyLevel) (tenant : Option String) :
    List (String × String) :=
  (level.toList.map fun level => ("consistency_level", level.name)) ++
    (tenant.toList.map fun tenant => ("tenant", tenant))

namespace Insertion

open Json Json.Reader Json.FieldReader

/-- The most objects in one request. -/
def largestSlice : Nat := 1000

/-- The request that inserts objects over the REST interface. -/
def request (b : VectorQuery.Insertion) : HttpRequest where
  method := .post
  path := objectsPath
  parameters := writeParameters b.consistencyLevel none
  body := some b.json

/-- Reads the errors in the result of one object. -/
def resultReader : Json.Reader (List String) :=
  let message := record ["message"] (required string)
  let errors := record ["error"] (withDefault [] (list message))
  let result := record ["errors"] (FieldReader.optional errors)
  record ["result"] do
    let result ← FieldReader.optional result
    return (result.join).getD []

/-- The errors of each of so many objects by the results that are given; an object without a result
has failed. -/
def errorsByResult : Nat → List (List String) → List (List String)
  | 0, _ => []
  | count + 1, [] => ["no result returned for object"] :: errorsByResult count []
  | count + 1, errors :: results => errors :: errorsByResult count results

/-- The errors that are given for a place. -/
def errorsAt (errors : List Rpc.BatchError) (place : Nat) : List String :=
  (errors.filter fun e => e.index.toInt = (place : Int)).map Rpc.BatchError.error

/-- The errors of each of so many objects by the places that are given; an error without an object
says nothing. -/
def errorsByPlace (count : Nat) (errors : List Rpc.BatchError) : List (List String) :=
  (List.range count).map (errorsAt errors)

/-- Sends one slice and returns the errors of each of its objects. -/
def sendSlice (b : VectorQuery.Insertion) : Action (List (List String)) := do
  if (← get).hasRpc then
    let reply : Rpc.BatchObjectsReply ← Action.exchange .insert b.message
    return errorsByPlace b.objects.length reply.errors
  else
    let results ← Action.fetch (list resultReader) (request b)
    return errorsByResult b.objects.length results

/-- Sends slices, of which the first begins at a place. -/
def sendSlices (place : Nat) : List VectorQuery.Insertion → Action (List InsertOutcome)
  | [] => return []
  | slice :: rest => do
    let errors ← sendSlice slice
    let outcomes ← sendSlices (place + slice.objects.length) rest
    return InsertOutcome.number place slice.objects errors ++ outcomes

/-- Inserts objects. Nothing is sent when there are none. -/
def run (b : VectorQuery.Insertion) : Action (List InsertOutcome) :=
  if b.objects.isEmpty then return [] else sendSlices 0 (b.split largestSlice)

end Insertion

end VectorQuery.Client
