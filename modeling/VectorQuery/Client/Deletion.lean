import VectorQuery.Batch.Deletion
import VectorQuery.Client.Insertion

/-!
# Sending deletions

A deletion is sent over the RPC interface if it is used and else over the REST interface.
-/

namespace VectorQuery.Client

/-- What became of the objects to delete. -/
structure DeleteSummary where
  /-- How many objects the filter selects. -/
  matched : Int64 := 0
  /-- How many objects could not be deleted. -/
  failed : Int64 := 0
  /-- How many objects were deleted. -/
  successful : Int64 := 0
  deriving DecidableEq

open Json Json.Reader Json.FieldReader in
/-- Reads a summary. -/
def DeleteSummary.reader : Json.Reader DeleteSummary :=
  record ["matches", "failed", "successful"] do
    let matched ← withDefault 0 int64
    let failed ← withDefault 0 int64
    let successful ← withDefault 0 int64
    return { matched, failed, successful }

namespace Deletion

open Json Json.Reader Json.FieldReader

/-- The request that deletes objects over the REST interface. -/
def request (d : VectorQuery.Deletion) : HttpRequest where
  method := .delete
  path := objectsPath
  parameters := writeParameters d.consistencyLevel d.tenant
  body := some d.json

/-- Deletes objects. -/
def run (d : VectorQuery.Deletion) : Action DeleteSummary := do
  if (← get).hasRpc then
    let reply : Rpc.BatchDeleteReply ← Action.exchange .delete d.message
    return { matched := reply.matched, failed := reply.failed, successful := reply.successful }
  else
    Action.fetch (record ["results"] (required DeleteSummary.reader)) (request d)

end Deletion

end VectorQuery.Client
