import VectorQuery.Batch.Object
import VectorQuery.Client.Search
import VectorQuery.Proofs.Client.Session
import VectorQuery.Proofs.Property.Fidelity
import VectorQuery.Proofs.Rpc.RoundTrip

/-!
# The properties that a search returns

A search returns the properties of each object found as they come back from the reply, so an object
that was stored is found with the properties it was stored with, but for the values that a message
does not keep.
-/

namespace VectorQuery.Client.Search

open Property

/-- Members that come back under the same names, value by value. -/
def AllRestored (members found : List (String × Json)) : Prop :=
  List.Forall₂ (fun m n => n.1 = m.1 ∧ Restored m.2 n.2) members found

theorem allRestored {members : List (String × Json)} (hformed : (Json.object members).WellFormed)
    (hreals : (Json.object members).RealsReadBack) :
    AllRestored members (Property.members (values members)) := by
  rw [Property.members, values, List.map_map, AllRestored, List.forall₂_map_right_iff,
    List.forall₂_same]
  intro m hm
  exact ⟨rfl, restored ((Json.wellFormed_object.1 hformed).2 m hm)
    (Json.realsReadBack_object.1 hreals m hm)⟩

/-- Every property comes back from a message as it was, except a whole number above the signed
range, an array of numbers with a whole one that are not all whole and in that range, and what nests
too deep, which comes back as its text. So a search that finds an object returns the properties that
it was stored with but for these. -/
theorem properties_come_back :
    (∀ v : Json, v.WellFormed → v.RealsReadBack → Restored v (json (value v))) ∧
    ∀ (query : Get) (s s' : Session) (reply : Rpc.SearchReply),
      (run query).run.run s = (.ok reply, s') →
      ∃ found, (runProperties query).run.run s = (.ok found, s') ∧
        List.Forall₂ (fun hit members => ∀ o : DataObject,
          hit.properties = o.message.properties → (Json.object o.properties).WellFormed →
          (Json.object o.properties).RealsReadBack → AllRestored o.properties members)
          reply.results found := by
  constructor
  · intro v hformed hreals
    exact restored hformed hreals
  · intro query s s' reply hrun
    refine ⟨_, Action.run_bind_ok hrun _, ?_⟩
    rw [List.forall₂_map_right_iff, List.forall₂_same]
    intro hit _ o hhit hformed hreals
    rw [hhit]
    exact allRestored hformed hreals

/-! ## An object that is found -/

/-- One, as a whole number. -/
def one : Json.Whole := ⟨1, by decide, by decide⟩

/-- One and a half. -/
def oneAndHalf : Json.Real := ⟨Number.Binary.ofRatio false 3 2, by decide +kernel⟩

theorem parse?_oneAndHalf :
    Json.parse? (Json.text (.real oneAndHalf)) = some (.real oneAndHalf) := by
  have hchars : Json.chars (.real oneAndHalf) = ['1', '.', '5'] := by
    rw [Json.chars]
    decide +kernel
  have htree : Json.Tree.ofString? (Json.text (.real oneAndHalf)) =
      some (.number ⟨false, [1], some [5], none⟩) := by
    rw [Json.Tree.ofString?, Json.text, hchars, String.toList_ofList]
    rfl
  have hscale : Json.Numeral.scaleDown (Number.Binary.ofInt 15) 1 = oneAndHalf.value := by
    rw [Json.Numeral.scaleDown, if_pos (by decide)]
    decide +kernel
  rw [Json.parse?, Json.Reader.ofString?, htree]
  show some (Json.ofDouble { Json.Numeral.scaleDown (Number.Binary.ofInt 15) 1 with
    negative := false }) = _
  rw [hscale]
  exact congrArg some (dif_pos oneAndHalf.finite)

/-- An object with numbers of both kinds in an array, and with one in an object. -/
def stored : DataObject where
  className := "Pizza"
  properties := [("m", .array [.whole one, .real oneAndHalf]),
    ("o", .object [("x", .real oneAndHalf)])]

theorem wellFormed_stored : (Json.object stored.properties).WellFormed := by
  have hwhole : (Json.whole one).WellFormed := fun _ h => nomatch h
  have hreal : (Json.real oneAndHalf).WellFormed := fun _ h => nomatch h
  refine Json.wellFormed_object.2 ⟨List.pairwise_pair.2 (by decide), ?_⟩
  simp [stored, Json.wellFormed_object, Json.wellFormed_array, hwhole, hreal, Keyed.Ordered]

theorem realsReadBack_stored : (Json.object stored.properties).RealsReadBack := by
  have hwhole : (Json.whole one).RealsReadBack := fun _ h => nomatch h
  have hreal : (Json.real oneAndHalf).RealsReadBack := by
    rintro x ⟨⟩
    exact parse?_oneAndHalf
  simp [stored, Json.realsReadBack_object, Json.realsReadBack_array, hwhole, hreal]

/-- A reply in which the object is found. -/
def foundReply : Rpc.SearchReply := { results := [{ properties := stored.message.properties }] }

/-- A session whose one answer is that reply. -/
def finding : Session := { rpcAnswers := some [.reply (Rpc.Message.encode foundReply)] }

theorem decode?_foundReply :
    Rpc.Message.decode? (Rpc.Message.encode foundReply) = some foundReply := by
  have hordered : Keyed.Ordered stored.message.properties := List.pairwise_pair.2 (by decide)
  have hsize : (Rpc.Message.encode foundReply).length < UInt64.size := by decide +kernel
  have hnest : Wire.Fields.nesting (Rpc.Message.fields foundReply) ≤ 100 := by decide +kernel
  have hwritten : foundReply.WrittenAs foundReply :=
    ⟨rfl, .cons ⟨hordered, .refl _, rfl⟩ .nil, rfl⟩
  have hreply : Rpc.RoundTrips Rpc.SearchReply Rpc.SearchReply.WrittenAs Rpc.SearchReply.readBack :=
    Rpc.roundTrips_of_received Rpc.SearchReply.conforms_fields
      fun _ _ => Rpc.SearchReply.ofFields_received
  exact (hreply _ _ hwritten hsize).1 hnest

theorem run_finding : (run {}).run.run finding = (.ok foundReply, { finding with
    rpcAnswers := some []
    sent := [.rpc .search (Rpc.Message.encode (Get.message {}))] }) := by
  have hread : (Action.readMessage (Rpc.Message.encode foundReply) : Except Error Rpc.SearchReply) =
      .ok foundReply := by
    rw [Action.readMessage, decode?_foundReply]
  refine (Action.run_exchange rfl .search _).trans ?_
  show (Action.readMessage (Rpc.Message.encode foundReply), _) = _
  rw [hread]
  rfl

/-- The object in the object comes back and the array does not; the search that finds both returns
them so. -/
theorem properties_come_back_stored :
    json (value (.object [("x", .real oneAndHalf)])) = .object [("x", .real oneAndHalf)] ∧
      json (value (.array [.whole one, .real oneAndHalf])) ≠ .array [.whole one, .real oneAndHalf] ∧
      ∃ found s', (runProperties {}).run.run finding = (.ok [found], s') ∧
        AllRestored stored.properties found := by
  have hformed := (Json.wellFormed_object.1 wellFormed_stored).2
  have hreals := Json.realsReadBack_object.1 realsReadBack_stored
  refine ⟨?_, ?_, ?_⟩
  · have hmem : ("o", Json.object [("x", .real oneAndHalf)]) ∈ stored.properties :=
      .tail _ (.head _)
    refine (properties_come_back.1 _ (hformed _ hmem) (hreals _ hmem)).eq_iff.2 ?_
    intro haltered
    cases haltered with
    | deepObject h => exact absurd h (by decide)
  · have hmem : ("m", Json.array [.whole one, .real oneAndHalf]) ∈ stored.properties := .head _
    intro heq
    refine (properties_come_back.1 _ (hformed _ hmem) (hreals _ hmem)).eq_iff.1 heq ?_
    exact .mixed (by simp) ⟨one, .head _⟩ (by simp)
  · obtain ⟨found, hrun, hfound⟩ := properties_come_back.2 {} finding _ foundReply run_finding
    cases hfound with
    | cons hmembers hnil =>
      cases hnil
      exact ⟨_, _, hrun, hmembers stored rfl wellFormed_stored realsReadBack_stored⟩

end VectorQuery.Client.Search
