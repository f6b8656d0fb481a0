import VectorQuery.Client.Session

/-!
# What operations do to a session

One lemma for every way in which an operation sends a request or goes on after another: what it
returns, and what it leaves in the session.
-/

namespace VectorQuery.Client

variable {α β : Type}

namespace Action

theorem run_bind_ok {a : Action α} {s s' : Session} {x : α} (h : a.run.run s = (.ok x, s'))
    (f : α → Action β) : (a >>= f).run.run s = (f x).run.run s' := by
  rw [ExceptT.run_bind, StateT.run_bind, h]
  rfl

/-- What fails ends the operation. -/
theorem run_bind_error {a : Action α} {s s' : Session} {e : Error}
    (h : a.run.run s = (.error e, s')) (f : α → Action β) :
    (a >>= f).run.run s = (.error e, s') := by
  rw [ExceptT.run_bind, StateT.run_bind, h]
  rfl

theorem run_bind_pure {a : Action α} {s s' : Session} {result : Except Error α}
    (h : a.run.run s = (result, s')) (f : α → β) :
    (a >>= fun x => pure (f x)).run.run s = (result.map f, s') := by
  cases result with
  | error e => exact run_bind_error h _
  | ok x => exact run_bind_ok h _

theorem run_get_bind (f : Session → Action α) (s : Session) :
    (get >>= f).run.run s = (f s).run.run s := run_bind_ok rfl f

theorem run_send (r : HttpRequest) (s : Session) :
    (send r).run.run s = (Session.result s.answers.head?,
      { s with answers := s.answers.tail, sent := s.sent ++ [.http r] }) := rfl

theorem run_call {s : Session} {answers : List (Answer (List UInt8))}
    (h : s.rpcAnswers = some answers) (method : RpcMethod) (message : List UInt8) :
    (call method message).run.run s = (Session.result answers.head?,
      { s with rpcAnswers := some answers.tail, sent := s.sent ++ [.rpc method message] }) := by
  simp only [call, ExceptT.run_mk, StateT.run, h]

/-- What a request of the REST interface comes to by its answer. -/
def fetched (reader : Json.Reader α) (answer : Option (Answer HttpReply)) : Except Error α :=
  (Session.result answer).bind (HttpReply.read [200] reader)

theorem run_fetch (reader : Json.Reader α) (r : HttpRequest) (s : Session) :
    (fetch reader r).run.run s = (fetched reader s.answers.head?,
      { s with answers := s.answers.tail, sent := s.sent ++ [.http r] }) := by
  unfold fetch fetched
  cases h : Session.result s.answers.head? with
  | error e => exact run_bind_error (by rw [run_send, h]) _
  | ok reply => exact run_bind_ok (by rw [run_send, h]) _

/-- The message that the bytes of a reply hold. -/
def readMessage [Rpc.Message α] (bytes : List UInt8) : Except Error α :=
  match Rpc.Message.decode? bytes with
  | some reply => .ok reply
  | none => .error .unreadableMessage

/-- What a call of the RPC interface comes to by its answer. -/
def received [Rpc.Message α] (answer : Option (Answer (List UInt8))) : Except Error α :=
  (Session.result answer).bind readMessage

theorem run_exchange [Rpc.Message α] [Rpc.Message β] {s : Session}
    {answers : List (Answer (List UInt8))} (h : s.rpcAnswers = some answers) (method : RpcMethod)
    (message : α) : (exchange method message : Action β).run.run s = (received answers.head?,
      { s with
        rpcAnswers := some answers.tail
        sent := s.sent ++ [.rpc method (Rpc.Message.encode message)] }) := by
  unfold exchange received
  cases hanswer : Session.result answers.head? with
  | error e => exact run_bind_error (by rw [run_call h, hanswer]) _
  | ok bytes =>
    refine (run_bind_ok (by rw [run_call h, hanswer]) _).trans ?_
    rw [Except.bind, readMessage]
    cases (Rpc.Message.decode? bytes : Option β) <;> rfl

end Action

end VectorQuery.Client
