import VectorQuery.Client.Session
import VectorQuery.Property
import VectorQuery.Query.Get

/-!
# Searching over the RPC interface
-/

namespace VectorQuery.Client.Search

/-- Searches, which needs the RPC interface. -/
def run (query : Get) : Action Rpc.SearchReply := Action.exchange .search query.message

/-- Searches and returns the properties of each object found. -/
def runProperties (query : Get) : Action (List (List (String × Json))) := do
  let reply ← run query
  return reply.results.map fun hit => Property.members hit.properties

end VectorQuery.Client.Search
