import VectorQuery.Client.Endpoint

/-!
# Configuration of a client

A configuration is written down, read from JSON, or taken from environment variables on top of the
defaults. Times are kept in the units in which they are configured.
-/

namespace VectorQuery.Client

/-- What is wrong with a configuration, or with an operation that lacks a part of it. -/
inductive ConfigurationError where
  /-- The time limit is not a number of seconds. -/
  | timeLimitNotNumber (text : String)
  /-- The choice of TLS is neither true nor false. -/
  | secureNotBool (text : String)
  /-- The address of the RPC interface is no URI. -/
  | badEndpoint (address : String)
  /-- A backup names no backend. -/
  | backendMissing
  /-- A backup has no id. -/
  | backupIdMissing
  deriving DecidableEq

namespace ConfigurationError

/-- What is said about a wrong configuration. -/
def message : ConfigurationError → String
  | timeLimitNotNumber text => "NEARQL_TIMEOUT_SECS is not a number: " ++ text
  | secureNotBool text => "NEARQL_GRPC_SECURE must be true or false, got " ++ text
  | badEndpoint address => "bad rpc endpoint " ++ address
  | backendMissing => "backup backend is required"
  | backupIdMissing => "backup id is required"

end ConfigurationError

/-- The configuration of a client. -/
structure Configuration where
  /-- The URL scheme of the REST interface. -/
  scheme : String := "http"
  /-- The host of the REST interface. -/
  host : String := "localhost:8080"
  /-- The headers of every REST request. -/
  headers : List (String × String) := []
  /-- How many seconds a request may take. -/
  timeLimitSeconds : Nat := 60
  /-- How many milliseconds a wait pauses between two looks. -/
  pauseMilliseconds : Nat := 1000
  /-- Where the RPC interface is, if it is used. -/
  rpc : Option Endpoint := none
  deriving DecidableEq

namespace Configuration

/-- The configuration with one more header, in place of one of the same name. -/
def withHeader (c : Configuration) (name value : String) : Configuration :=
  { c with headers := Keyed.insert name value c.headers }

/-- The URL that all paths of the REST interface are under. -/
def baseUrl (c : Configuration) : String := c.scheme ++ "://" ++ c.host ++ "/v1"

open Json Json.Reader Json.FieldReader in
/-- Reads a configuration; what is not written has its default. -/
def reader : Json.Reader Configuration :=
  let names := ["scheme", "host", "headers", "timeout_secs", "poll_interval_ms", "grpc"]
  let defaults : Configuration := {}
  record names do
    let scheme ← withDefault defaults.scheme string
    let host ← withDefault defaults.host string
    let headers ← withDefault defaults.headers (keyed string)
    let timeLimitSeconds ← withDefault defaults.timeLimitSeconds nat64
    let pauseMilliseconds ← withDefault defaults.pauseMilliseconds nat64
    let rpc ← FieldReader.optional Endpoint.reader
    return { scheme, host, headers, timeLimitSeconds, pauseMilliseconds, rpc }

/-- The number of seconds that is written: decimal digits, perhaps after a plus sign, below
`2 ^ 64`. -/
def seconds? (text : String) : Option Nat :=
  let digits := match text.toList with
    | '+' :: rest => rest
    | rest => rest
  if !digits.isEmpty && digits.all Char.isDigit then
    let n := digits.foldl (fun n c => n * 10 + (c.toNat - '0'.toNat)) 0
    if n < UInt64.size then some n else none
  else none

/-- The truth value that is written; nothing is false. -/
def truth? : Option String → Option Bool
  | none | some "" | some "0" | some "false" => some false
  | some "1" | some "true" => some true
  | some _ => none

/-- The configuration that environment variables make. The choice of TLS is looked at only when
there is a host for RPC. -/
def ofVariables (value : String → Option String) : Except ConfigurationError Configuration := do
  let defaults : Configuration := {}
  let headers := match value "NEARQL_API_KEY" with
    | some key => [("Authorization", "Bearer " ++ key)]
    | none => []
  let timeLimitSeconds ← match value "NEARQL_TIMEOUT_SECS" with
    | some text => ((seconds? text).map .ok).getD (.error (.timeLimitNotNumber text))
    | none => .ok defaults.timeLimitSeconds
  let rpc ← match value "NEARQL_GRPC_HOST" with
    | some host =>
      match truth? (value "NEARQL_GRPC_SECURE") with
      | some secure => .ok (some { host, secure })
      | none => .error (.secureNotBool ((value "NEARQL_GRPC_SECURE").getD ""))
    | none => .ok none
  return {
    scheme := (value "NEARQL_SCHEME").getD defaults.scheme
    host := (value "NEARQL_HOST").getD defaults.host
    headers, timeLimitSeconds, rpc }

end Configuration

end VectorQuery.Client
