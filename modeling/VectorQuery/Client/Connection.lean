import VectorQuery.Client.Error

/-!
# Connections

What a configuration connects to. Nothing is sent; only the addresses are made and judged.
-/

namespace VectorQuery.Client

/-- The addresses of the two interfaces. -/
structure Connection where
  /-- The URL that all paths of the REST interface are under. -/
  baseUrl : String
  /-- The URI of the RPC interface, if it is used. -/
  rpcUri : Option String
  deriving DecidableEq

namespace Connection

/-- The URI of an endpoint that can be used. -/
def uriOf (e : Endpoint) : Except Error String :=
  match e.uri? with
  | none => .error (.configuration (.badEndpoint e.address))
  | some uri =>
    if e.secure && !e.hasServerName then .error (.transport "transport error") else .ok uri

/-- The connection of a configuration. -/
def ofConfiguration (c : Configuration) : Except Error Connection := do
  return { baseUrl := c.baseUrl, rpcUri := ← c.rpc.mapM uriOf }

end Connection

end VectorQuery.Client
