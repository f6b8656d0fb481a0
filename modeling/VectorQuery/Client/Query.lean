import VectorQuery.Client.Session
import VectorQuery.Json.Record

/-!
# Sending query documents

A query document is posted as text. The reply may hold data, errors, or both; `Query.run` takes any
error as a failure of the whole query.
-/

namespace VectorQuery.Client

open Json Json.Reader Json.FieldReader

/-- Reads a place in a query document. -/
def Location.reader : Json.Reader Location :=
  record ["line", "column"] do
    let line ← required uint32
    let column ← required uint32
    return { line, column }

/-- Reads an error that the server found in a query. -/
def QueryError.reader : Json.Reader QueryError :=
  record ["message", "path", "locations"] do
    let message ← required string
    let path ← withDefault [] (list Reader.json)
    let locations ← withDefault [] (list Location.reader)
    return { message, path, locations }

/-- The reply to a query. -/
structure QueryReply where
  data : Option Json := none
  errors : List QueryError := []

namespace QueryReply

/-- Reads the reply to a query. -/
def reader : Json.Reader QueryReply :=
  record ["data", "errors"] do
    let data ← FieldReader.optional Reader.json
    let errors ← withDefault [] (list QueryError.reader)
    return { data, errors }

/-- The data, unless there are errors. -/
def result (r : QueryReply) : Except Error Json :=
  if r.errors.isEmpty then .ok (r.data.getD .null) else .error (.query r.errors)

end QueryReply

namespace Query

/-- The request that posts a document. -/
def request (document : String) : HttpRequest where
  method := .post
  path := "/graphql"
  body := some (.ofMembers [("query", .string document)])

/-- Posts a document and returns the reply with its errors. -/
def execute (document : String) : Action QueryReply :=
  Action.fetch QueryReply.reader (request document)

/-- Posts a document and returns the data, failing on any error. -/
def run (document : String) : Action Json := do
  let reply ← execute document
  Action.ofResult reply.result

end Query

end VectorQuery.Client
