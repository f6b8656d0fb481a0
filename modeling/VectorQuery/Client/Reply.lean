import VectorQuery.Client.Error
import VectorQuery.Json.Reader

/-!
# Replies of the REST interface
-/

namespace VectorQuery.Client

/-- A reply of the REST interface. -/
structure HttpReply where
  status : Nat
  body : List UInt8
  deriving DecidableEq

namespace HttpReply

/-- Whether the status means success of any sort. -/
def isSuccess (r : HttpReply) : Bool := 200 ≤ r.status && r.status < 300

/-- The error that a reply of an unexpected status is. -/
def unexpected (r : HttpReply) : Error := .unexpectedStatus r.status r.body

/-- What a reply of one of the expected statuses holds. -/
def read {α : Type} (expected : List Nat) (reader : Json.Reader α) (r : HttpReply) :
    Except Error α :=
  if r.status ∈ expected then
    match reader.ofBytes? r.body with
    | some value => .ok value
    | none => .error .unreadableBody
  else .error r.unexpected

end HttpReply

end VectorQuery.Client
