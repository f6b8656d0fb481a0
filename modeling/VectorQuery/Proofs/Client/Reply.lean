import VectorQuery.Proofs.Client.Session
import VectorQuery.Proofs.Json.Record
import VectorQuery.Proofs.Text.Utf8

/-!
# What answers bring

A request either brings something or fails, and which of the two it is can be seen in its answer. A
reply of the REST interface brings what its body holds if its status is 200; a reply of the RPC
interface brings the message that its bytes hold. Without a reply, with another status and with
something that cannot be read a request fails, each time with an error of its own.
-/

namespace VectorQuery.Client

variable {α : Type}

namespace Answer

/-- An answer of the REST interface brings a value: a reply of status 200 whose body holds it. -/
def Brings (reader : Json.Reader α) (answer : Option (Answer HttpReply)) (x : α) : Prop :=
  ∃ body, answer = some (.reply ⟨200, body⟩) ∧ reader.ofBytes? body = some x

/-- An answer of the REST interface brings nothing, and why: no reply comes, the status is another
than 200, whatever the body holds, or the body does not hold a value. -/
inductive Fails (reader : Json.Reader α) : Option (Answer HttpReply) → Error → Prop
  | exhausted : Fails reader none (.transport "script exhausted")
  | transport (reason : String) : Fails reader (some (.failure reason)) (.transport reason)
  | status {reply : HttpReply} (h : reply.status ≠ 200) :
    Fails reader (some (.reply reply)) (.unexpectedStatus reply.status reply.body)
  | body {body : List UInt8} (h : reader.ofBytes? body = none) :
    Fails reader (some (.reply ⟨200, body⟩)) .unreadableBody

/-- An answer of the RPC interface brings a message: a reply whose bytes hold it. -/
def BringsMessage [Rpc.Message α] (answer : Option (Answer (List UInt8))) (x : α) : Prop :=
  ∃ bytes, answer = some (.reply bytes) ∧ Rpc.Message.decode? bytes = some x

/-- An answer of the RPC interface brings no message of a type, and why: no reply comes, or its
bytes hold no such message. -/
inductive FailsMessage (α : Type) [Rpc.Message α] : Option (Answer (List UInt8)) → Error → Prop
  | exhausted : FailsMessage α none (.transport "script exhausted")
  | transport (reason : String) : FailsMessage α (some (.failure reason)) (.transport reason)
  | message {bytes : List UInt8} (h : (Rpc.Message.decode? bytes : Option α) = none) :
    FailsMessage α (some (.reply bytes)) .unreadableMessage

end Answer

/-- If one of two properties always tells what a result is, each tells it exactly. -/
theorem outcome_iff {ε : Type} {result : Except ε α} {P : α → Prop} {Q : ε → Prop}
    (hP : ∀ x, P x → result = .ok x) (hQ : ∀ e, Q e → result = .error e)
    (h : (∃ x, P x) ∨ ∃ e, Q e) :
    (∀ x, result = .ok x ↔ P x) ∧ ∀ e, result = .error e ↔ Q e := by
  rcases h with ⟨y, hy⟩ | ⟨e', he⟩
  · have hresult := hP y hy
    refine ⟨fun x => ⟨fun hx => ?_, hP x⟩, fun e => ⟨fun he => ?_, hQ e⟩⟩
    · rw [hresult] at hx
      obtain rfl : y = x := Except.ok.inj hx
      exact hy
    · rw [hresult] at he
      cases he
  · have hresult := hQ e' he
    refine ⟨fun x => ⟨fun hx => ?_, hP x⟩, fun e => ⟨fun he' => ?_, hQ e⟩⟩
    · rw [hresult] at hx
      cases hx
    · rw [hresult] at he'
      obtain rfl : e' = e := Except.error.inj he'
      exact he

namespace HttpReply

variable {expected : List Nat} {reader : Json.Reader α} {reply : HttpReply} {x : α}

theorem read_of_status_notMem (h : reply.status ∉ expected) :
    reply.read expected reader = .error (.unexpectedStatus reply.status reply.body) := by
  rw [read, if_neg h]
  rfl

theorem read_of_ofBytes?_eq_some (hstatus : reply.status ∈ expected)
    (hbody : reader.ofBytes? reply.body = some x) : reply.read expected reader = .ok x := by
  rw [read, if_pos hstatus, hbody]

theorem read_of_ofBytes?_eq_none (hstatus : reply.status ∈ expected)
    (hbody : reader.ofBytes? reply.body = none) :
    reply.read expected reader = .error .unreadableBody := by
  rw [read, if_pos hstatus, hbody]

end HttpReply

namespace Answer

/-! ## Answers of the REST interface -/

section Rest
variable {reader : Json.Reader α} {answer : Option (Answer HttpReply)} {x : α} {e : Error}

theorem Brings.fetched_eq (h : Brings reader answer x) : Action.fetched reader answer = .ok x := by
  obtain ⟨body, rfl, hbody⟩ := h
  have hread : (HttpReply.mk 200 body).read [200] reader = .ok x :=
    HttpReply.read_of_ofBytes?_eq_some (List.mem_singleton_self 200) hbody
  exact hread

theorem Fails.fetched_eq (h : Fails reader answer e) :
    Action.fetched reader answer = .error e := by
  cases h with
  | exhausted => rfl
  | transport reason => rfl
  | @status reply hstatus =>
    have hread : reply.read [200] reader = .error (.unexpectedStatus reply.status reply.body) :=
      HttpReply.read_of_status_notMem fun hmem => hstatus (List.mem_singleton.1 hmem)
    exact hread
  | @body body hbody =>
    have hread : (HttpReply.mk 200 body).read [200] reader = .error .unreadableBody :=
      HttpReply.read_of_ofBytes?_eq_none (List.mem_singleton_self 200) hbody
    exact hread

/-- Every answer brings a value or fails. -/
theorem brings_or_fails (reader : Json.Reader α) (answer : Option (Answer HttpReply)) :
    (∃ x, Brings reader answer x) ∨ ∃ e, Fails reader answer e := by
  rcases answer with _ | ⟨status, body⟩ | reason
  · exact .inr ⟨_, .exhausted⟩
  · by_cases hstatus : status = 200
    · subst hstatus
      cases hbody : reader.ofBytes? body with
      | none => exact .inr ⟨_, .body hbody⟩
      | some x => exact .inl ⟨x, body, rfl, hbody⟩
    · exact .inr ⟨_, .status hstatus⟩
  · exact .inr ⟨_, .transport reason⟩

theorem fetched_eq_ok_iff : Action.fetched reader answer = .ok x ↔ Brings reader answer x :=
  (outcome_iff (fun _ => Brings.fetched_eq) (fun _ => Fails.fetched_eq)
    (brings_or_fails reader answer)).1 x

theorem fetched_eq_error_iff :
    Action.fetched reader answer = .error e ↔ Fails reader answer e :=
  (outcome_iff (fun _ => Brings.fetched_eq) (fun _ => Fails.fetched_eq)
    (brings_or_fails reader answer)).2 e

/-- A reply of status 200 brings the value that its text is read as. -/
theorem brings_of_readAs {cs : List Char} {levels : Nat} (h : Json.ReadAs reader levels cs x)
    (hlevels : levels ≤ Json.deepest) :
    Brings reader (some (.reply ⟨200, Text.Utf8.encode (String.ofList cs)⟩)) x := by
  have hread := h.ofString?_eq hlevels
  refine ⟨_, rfl, ?_⟩
  rw [Json.Reader.ofBytes?, Json.Tree.ofBytes?, Text.Utf8.decode_encode]
  exact hread

end Rest

/-! ## Answers of the RPC interface -/

section Rpc
variable [Rpc.Message α] {answer : Option (Answer (List UInt8))} {x : α} {e : Error}

theorem BringsMessage.received_eq (h : BringsMessage answer x) :
    Action.received answer = .ok x := by
  obtain ⟨bytes, rfl, hdecode⟩ := h
  have hread : (Action.readMessage bytes : Except Error α) = .ok x := by
    rw [Action.readMessage, hdecode]
  exact hread

theorem FailsMessage.received_eq (h : FailsMessage α answer e) :
    (Action.received answer : Except Error α) = .error e := by
  cases h with
  | exhausted => rfl
  | transport reason => rfl
  | @message bytes hdecode =>
    have hread : (Action.readMessage bytes : Except Error α) = .error .unreadableMessage := by
      rw [Action.readMessage, hdecode]
    exact hread

theorem brings_or_fails_message (α : Type) [Rpc.Message α] (answer : Option (Answer (List UInt8))) :
    (∃ x : α, BringsMessage answer x) ∨ ∃ e, FailsMessage α answer e := by
  rcases answer with _ | bytes | reason
  · exact .inr ⟨_, .exhausted⟩
  · cases hdecode : (Rpc.Message.decode? bytes : Option α) with
    | none => exact .inr ⟨_, .message hdecode⟩
    | some x => exact .inl ⟨x, bytes, rfl, hdecode⟩
  · exact .inr ⟨_, .transport reason⟩

theorem received_eq_ok_iff : Action.received answer = .ok x ↔ BringsMessage answer x :=
  (outcome_iff (fun _ => BringsMessage.received_eq) (fun _ => FailsMessage.received_eq)
    (brings_or_fails_message α answer)).1 x

theorem received_eq_error_iff :
    (Action.received answer : Except Error α) = .error e ↔ FailsMessage α answer e :=
  (outcome_iff (fun _ => BringsMessage.received_eq) (fun _ => FailsMessage.received_eq)
    (brings_or_fails_message α answer)).2 e

end Rpc

end Answer

end VectorQuery.Client
