import VectorQuery.Client.Reply
import VectorQuery.Json.Printer
import VectorQuery.Rpc.Message

/-!
# Sessions

A session is what passes between a client and a server: the requests that the client has sent, the
answers that are still to come, one for each request, and the time that has passed. An operation of
the client is an `Action` on a session. Nothing else reaches the server, so what an operation does
is what it leaves in the session, also when it fails.

Time passes only in the pauses of a wait. A session has one cancellation, which takes effect at a
request or at a time, and which a wait may heed or not.
-/

namespace VectorQuery.Client

/-- A method of the REST interface. -/
inductive Method where
  | get | post | delete
  deriving DecidableEq, Repr

namespace Method

/-- The name of a method. -/
def name : Method → String
  | get => "GET"
  | post => "POST"
  | delete => "DELETE"

end Method

/-- A method of the RPC interface. -/
inductive RpcMethod where
  | search | insert | delete
  deriving DecidableEq, Repr

namespace RpcMethod

/-- The path of a method. -/
def path : RpcMethod → String
  | search => "/nearql.v1.Search/Search"
  | insert => "/nearql.v1.Batch/BatchObjects"
  | delete => "/nearql.v1.Batch/BatchDelete"

end RpcMethod

/-- A request of the REST interface. -/
structure HttpRequest where
  method : Method
  /-- The path under the base URL. -/
  path : String
  /-- The parameters of the query string. -/
  parameters : List (String × String) := []
  body : Option Json := none

/-- A request. -/
inductive Request where
  /-- A request of the REST interface. -/
  | http (request : HttpRequest)
  /-- A call of the RPC interface with an encoded message. -/
  | rpc (method : RpcMethod) (message : List UInt8)

/-- What comes of a request. -/
inductive Answer (α : Type) where
  | reply (reply : α)
  /-- No reply, for some reason. -/
  | failure (reason : String)

/-- When the cancellation of a session takes effect. -/
inductive Cancellation where
  /-- It does not. -/
  | never
  /-- It cannot any more, as its handle is dropped. -/
  | dropped
  /-- When so many requests have been sent. -/
  | atRequest (count : Nat)
  /-- When so many milliseconds have passed. -/
  | atTime (time : Nat)
  deriving DecidableEq

/-- What passes between a client and a server. -/
structure Session where
  /-- The answers of the REST interface that are still to come. -/
  answers : List (Answer HttpReply) := []
  /-- The answers of the RPC interface that are still to come, if that interface is used. -/
  rpcAnswers : Option (List (Answer (List UInt8))) := none
  /-- When the cancellation takes effect. -/
  cancellation : Cancellation := .never
  /-- The requests that have been sent, in their order. -/
  sent : List Request := []
  /-- How many milliseconds have passed. -/
  time : Nat := 0
  /-- Whether a pause counts as passed when it ends just as the cancellation takes effect. -/
  pausePrevails : Bool := false

/-- An operation of a client. -/
abbrev Action (α : Type) := ExceptT Error (StateM Session) α

namespace Session

/-- Whether the cancellation has taken effect. -/
def isCancelled (s : Session) : Bool :=
  match s.cancellation with
  | .never | .dropped => false
  | .atRequest count => count ≤ s.sent.length
  | .atTime time => time ≤ s.time

/-- Whether the RPC interface is used. -/
def hasRpc (s : Session) : Bool := s.rpcAnswers.isSome

/-- The result of an answer; after the last answer every request fails. -/
def result {α : Type} : Option (Answer α) → Except Error α
  | some (.reply reply) => .ok reply
  | some (.failure reason) => .error (.transport reason)
  | none => .error (.transport "script exhausted")

/-- The longest pause in milliseconds, thirty years of 365 days. -/
def longestPause : Nat := 30 * 365 * 24 * 60 * 60 * 1000

/-- The session at the moment at which a pause begins or, if the cancellation comes later, at which
the cancellation takes effect. -/
def woken (s : Session) : Session :=
  match s.cancellation with
  | .atTime time => { s with time := max s.time time }
  | _ => s

/-- The session after a pause of so many milliseconds, or of the longest pause if that is shorter,
and whether the pause was ended by the cancellation. A cancellation in time ends the pause early;
when it takes effect just as the pause ends, either may have ended it. -/
def pause (interval : Nat) (heeding : Bool) (s : Session) : Bool × Session :=
  let full := { s with time := s.time + min interval longestPause }
  if heeding && full.isCancelled && !(s.pausePrevails && s.woken.time = full.time) then
    (true, s.woken)
  else (false, full)

end Session

namespace Action

/-- Fails or goes on as a result says. -/
def ofResult {α : Type} (result : Except Error α) : Action α := ExceptT.mk (pure result)

/-- Sends a request of the REST interface. -/
def send (request : HttpRequest) : Action HttpReply := ExceptT.mk fun s =>
  (Session.result s.answers.head?,
    { s with answers := s.answers.tail, sent := s.sent ++ [.http request] })

/-- Sends a call of the RPC interface, which must be used. -/
def call (method : RpcMethod) (message : List UInt8) : Action (List UInt8) := ExceptT.mk fun s =>
  match s.rpcAnswers with
  | none => (.error .rpcNotConfigured, s)
  | some answers =>
    (Session.result answers.head?,
      { s with rpcAnswers := some answers.tail, sent := s.sent ++ [.rpc method message] })

/-- Sends a message to the RPC interface and reads the message of the reply. -/
def exchange {α β : Type} [Rpc.Message α] [Rpc.Message β] (method : RpcMethod) (message : α) :
    Action β := do
  match Rpc.Message.decode? (← call method (Rpc.Message.encode message)) with
  | some reply => return reply
  | none => throw .unreadableMessage

/-- Sends a request of the REST interface and reads the reply, whose status must be 200. -/
def fetch {α : Type} (reader : Json.Reader α) (request : HttpRequest) : Action α := do
  let reply ← send request
  ofResult (reply.read [200] reader)

end Action

end VectorQuery.Client
