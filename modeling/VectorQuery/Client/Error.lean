import VectorQuery.Client.Configuration
import VectorQuery.Error

/-!
# Errors of a client

Why an operation of a client fails, and what is said about it.
-/

namespace VectorQuery.Client

/-- A place in a query document. -/
structure Location where
  line : UInt32
  column : UInt32
  deriving DecidableEq

/-- An error that the server found in a query. -/
structure QueryError where
  /-- What is wrong. -/
  message : String
  /-- The path in the result at which it arose. -/
  path : List Json := []
  /-- The places in the query that it is about. -/
  locations : List Location := []

/-- Why an operation fails. -/
inductive Error where
  /-- A setting is refused. -/
  | setting (error : SettingError)
  /-- The configuration is wrong or lacks a part. -/
  | configuration (error : ConfigurationError)
  /-- The server answers with a status that does not mean success. -/
  | unexpectedStatus (status : Nat) (body : List UInt8)
  /-- The server found errors in a query. -/
  | query (errors : List QueryError)
  /-- The body of a reply is not the JSON that is expected. -/
  | unreadableBody
  /-- A reply of the RPC interface is not the message that is expected. -/
  | unreadableMessage
  /-- The operation needs the RPC interface, which is not used. -/
  | rpcNotConfigured
  /-- A wait was cancelled. -/
  | cancelled
  /-- A request could not be sent or brought no reply. -/
  | transport (reason : String)

namespace Error

/-- What is said about an error. -/
def message : Error → String
  | setting error => "configuration error: " ++ error.message
  | configuration error => "invalid client configuration: " ++ error.message
  | unexpectedStatus status body =>
    "unexpected status " ++ String.ofList (Number.digitChars status) ++ ": " ++
      Text.Utf8.lossy body
  | query errors => "graphql errors: " ++ "; ".intercalate (errors.map QueryError.message)
  | unreadableBody => "serialization error"
  | unreadableMessage => "failed to decode rpc reply"
  | rpcNotConfigured => "no rpc transport configured"
  | cancelled => "wait cancelled"
  | transport reason => "transport error: " ++ reason

/-- The status of a reply that does not mean success. -/
def status? : Error → Option Nat
  | unexpectedStatus status _ => some status
  | _ => none

end Error

end VectorQuery.Client
