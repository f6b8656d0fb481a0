import VectorQuery.Client.Insertion
import VectorQuery.Proofs.Client.Reply

/-!
# The results of inserted objects

A reply of the REST interface to an insertion is an array of results. A result is an object; the
errors stand three levels deep in it, each with its message, and on every level nothing may stand
there. Members under other names are skipped. From the text of such an array the messages are read,
result by result.
-/

namespace VectorQuery.Client.Insertion

open Json Json.Reader Json.FieldReader

/-! ## What a result gives -/

/-- An error is an object that gives its message. -/
inductive GivesMessage : Json → String → Prop
  | message {members : List (String × Json)} {text : String} (hkeys : (members.map Prod.fst).Nodup)
    (h : Keyed.get? "message" members = some (.string text)) : GivesMessage (.object members) text

/-- Errors are an object that gives the messages of the listed errors in order, and none if there is
no list. -/
inductive GivesMessages : Json → List String → Prop
  | missing {members : List (String × Json)} (hkeys : (members.map Prod.fst).Nodup)
    (h : Keyed.get? "error" members = none) : GivesMessages (.object members) []
  | listed {members : List (String × Json)} {items : List Json} {texts : List String}
    (hkeys : (members.map Prod.fst).Nodup) (h : Keyed.get? "error" members = some (.array items))
    (hitems : List.Forall₂ GivesMessage items texts) : GivesMessages (.object members) texts

/-- An object gives the messages that stand under a key, and none if nothing or null does. -/
inductive GivesUnder (key : String) (gives : Json → List String → Prop) :
    Json → List String → Prop
  | missing {members : List (String × Json)} (hkeys : (members.map Prod.fst).Nodup)
    (h : Keyed.get? key members = none ∨ Keyed.get? key members = some .null) :
    GivesUnder key gives (.object members) []
  | present {members : List (String × Json)} {value : Json} {texts : List String}
    (hkeys : (members.map Prod.fst).Nodup) (h : Keyed.get? key members = some value)
    (hvalue : gives value texts) : GivesUnder key gives (.object members) texts

/-- The result of an object gives the messages of its errors. -/
def GivesErrors : Json → List String → Prop :=
  GivesUnder "result" (GivesUnder "errors" GivesMessages)

/-! ## Reading results -/

/-- Reads one error. -/
def messageReader : Json.Reader String := record ["message"] (required string)

/-- Reads the errors of an object. -/
def messagesReader : Json.Reader (List String) :=
  record ["error"] (withDefault [] (list messageReader))

/-- Reads what an object has of errors. -/
def errorsReader : Json.Reader (Option (List String)) :=
  record ["errors"] (FieldReader.optional messagesReader)

theorem resultReader_eq : resultReader = record ["result"] (FieldReader.optional errorsReader >>=
    fun result => pure ((result.join).getD [])) := rfl

theorem readAs_message {v : Json} {text : String} (h : GivesMessage v text) :
    ReadAs messageReader 1 v.chars text := by
  obtain @⟨members, _, hkeys, hmessage⟩ := h
  refine readAs_field hkeys fun room hroom => ?_
  exact gives_required (get?_writtenMembers hmessage) (readAs_string text) hroom

theorem readAs_messages {v : Json} {texts : List String} (h : GivesMessages v texts) :
    ReadAs messagesReader 3 v.chars texts := by
  cases h with
  | missing hkeys h =>
    exact readAs_field hkeys fun room _ => gives_default (get?_writtenMembers_eq_none h)
  | @listed members items texts hkeys h hitems =>
    refine readAs_field hkeys fun room hroom => ?_
    have hlist : ReadAs (list messageReader) 2 (chars (.array items)) texts := by
      rw [chars_array]
      exact readAs_items (List.forall₂_map_left_iff.2 (hitems.imp fun _ _ => readAs_message))
    exact gives_withDefault (get?_writtenMembers h) hlist hroom

/-- What an object gives under a key is read as far as it is there. -/
theorem exists_gives_under {β : Type} {key : String} {gives : Json → List String → Prop}
    {item : Json.Reader β} {messages : β → List String} {n : Nat} {v : Json} {texts : List String}
    (hnull : ∀ room, item room .null = none) (hitem : ∀ value texts, gives value texts →
      ∃ x, ReadAs item n value.chars x ∧ messages x = texts) (h : GivesUnder key gives v texts) :
    ∃ members o, v = .object members ∧ (members.map Prod.fst).Nodup ∧
      (o.map messages).getD [] = texts ∧ ∀ room, n ≤ room →
        (FieldReader.optional item).Gives (treeUnder? (writtenMembers members) key) room o := by
  cases h with
  | @missing members hkeys h =>
    exact ⟨members, none, rfl, hkeys, rfl, fun room _ => gives_optional_none h⟩
  | @present members value texts hkeys h hvalue =>
    obtain ⟨x, hread, htexts⟩ := hitem value texts hvalue
    refine ⟨members, some x, rfl, hkeys, htexts, fun room hroom => ?_⟩
    exact gives_optional (get?_writtenMembers h) hnull hread hroom

theorem exists_readAs_errors {v : Json} {texts : List String}
    (h : GivesUnder "errors" GivesMessages v texts) :
    ∃ o, ReadAs errorsReader 4 v.chars o ∧ o.getD [] = texts := by
  have hnull : ∀ room, messagesReader room .null = none := record_null _ _
  obtain ⟨members, o, rfl, hkeys, htexts, hgives⟩ := exists_gives_under hnull
    (fun _ texts hvalue => ⟨texts, readAs_messages hvalue, rfl⟩) h
  rw [Option.map_id'] at htexts
  exact ⟨o, readAs_field hkeys hgives, htexts⟩

/-- From its text a result is read as the messages that it gives. -/
theorem readAs_result {v : Json} {texts : List String} (h : GivesErrors v texts) :
    ReadAs resultReader 5 v.chars texts := by
  have hnull : ∀ room, errorsReader room .null = none := record_null _ _
  obtain ⟨members, o, rfl, hkeys, htexts, hgives⟩ := exists_gives_under hnull
    (fun _ _ hvalue => exists_readAs_errors hvalue) h
  -- a result that is not there and one without errors say the same
  have hjoin : (o.join).getD [] = texts := by
    rw [← htexts]
    rcases o with _ | _ | _ <;> rfl
  rw [resultReader_eq]
  refine readAs_field hkeys fun room hroom trees => ?_
  rw [run_bind (hgives room hroom), hjoin]
  rfl

/-- A reply of status 200 with an array of results brings the messages, result by result. -/
theorem brings_results {items : List Json} {results : List (List String)}
    (h : List.Forall₂ GivesErrors items results) :
    Answer.Brings (list resultReader)
      (some (.reply ⟨200, Text.Utf8.encode (Json.text (.array items))⟩)) results := by
  refine Answer.brings_of_readAs ?_ (show 6 ≤ Json.deepest by decide)
  rw [chars_array]
  exact readAs_items (List.forall₂_map_left_iff.2 (h.imp fun _ _ => readAs_result))

/-! ## Results with nothing but messages -/

/-- A result that gives messages and has nothing else. -/
def resultJson (texts : List String) : Json :=
  .object [("result", .object [("errors", .object
    [("error", .array (texts.map fun text => .object [("message", .string text)]))])])]

theorem givesErrors_resultJson (texts : List String) : GivesErrors (resultJson texts) texts := by
  have hkeys : ∀ (key : String) (v : Json), ([(key, v)].map Prod.fst).Nodup :=
    fun key _ => List.nodup_singleton key
  refine .present (hkeys _ _) rfl (.present (hkeys _ _) rfl (.listed (hkeys _ _) rfl ?_))
  exact List.forall₂_map_left_iff.2 (List.forall₂_same.2 fun text _ => .message (hkeys _ _) rfl)

end VectorQuery.Client.Insertion
