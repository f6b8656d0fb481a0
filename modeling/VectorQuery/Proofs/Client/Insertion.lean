import VectorQuery.Proofs.Batch.Slices
import VectorQuery.Proofs.Client.Results
import VectorQuery.Proofs.Rpc.RoundTrip

/-!
# What an insertion sends and returns

Every slice of an insertion is sent as one request, and its answer says of every place of the slice
what is wrong with the object there. Sending one slice takes one answer and leaves one request;
sending all of them, by induction, takes the answers one by one up to the first that fails.
-/

namespace VectorQuery.Client

open Json.Reader

namespace Session

/-- The session after requests of the interface that is used, whose answers have come. -/
def advance (s : Session) (requests : List Request) : Session :=
  match s.rpcAnswers with
  | some answers =>
    { s with
      rpcAnswers := some (answers.drop requests.length)
      sent := s.sent ++ requests }
  | none =>
    { s with
      answers := s.answers.drop requests.length
      sent := s.sent ++ requests }

@[simp] theorem advance_nil (s : Session) : s.advance [] = s := by
  rcases s with ⟨answers, _ | rpcAnswers, cancellation, sent, time⟩ <;> simp [advance]

@[simp] theorem advance_advance (s : Session) (first second : List Request) :
    (s.advance first).advance second = s.advance (first ++ second) := by
  rcases s with ⟨answers, _ | rpcAnswers, cancellation, sent, time⟩ <;> simp [advance]

@[simp] theorem advance_sent (s : Session) (requests : List Request) :
    (s.advance requests).sent = s.sent ++ requests := by
  rcases s with ⟨answers, _ | rpcAnswers, cancellation, sent, time⟩ <;> rfl

@[simp] theorem hasRpc_advance (s : Session) (requests : List Request) :
    (s.advance requests).hasRpc = s.hasRpc := by
  rcases s with ⟨answers, _ | rpcAnswers, cancellation, sent, time⟩ <;> rfl

end Session

namespace Insertion

/-! ## What the answers say -/

/-- The answer to a request of a session says what is wrong with the object at each place of its
slice. Over the REST interface that is the result at the place, and an object without a result is
not inserted; over the RPC interface it is the errors under the place, in their order. -/
inductive Tells (s : Session) (number : Nat) : (Nat → List String) → Prop
  | results {results : List (List String)} (hrest : s.rpcAnswers = none)
    (hreply : Answer.Brings (list resultReader) s.answers[number]? results) :
    Tells s number fun place => (results[place]?).getD ["no result returned for object"]
  | errors {answers : List (Answer (List UInt8))} {reply : Rpc.BatchObjectsReply}
    (hrpc : s.rpcAnswers = some answers) (hreply : Answer.BringsMessage answers[number]? reply) :
    Tells s number fun place =>
      (reply.errors.filter fun e => e.index.toInt = (place : Int)).map Rpc.BatchError.error

/-- The answer to a request of a session says nothing, and with which error the request fails. -/
inductive FailsWith (s : Session) (number : Nat) : Error → Prop
  | rest {e : Error} (hrest : s.rpcAnswers = none)
    (h : Answer.Fails (list resultReader) s.answers[number]? e) : FailsWith s number e
  | rpc {answers : List (Answer (List UInt8))} {e : Error} (hrpc : s.rpcAnswers = some answers)
    (h : Answer.FailsMessage Rpc.BatchObjectsReply answers[number]? e) : FailsWith s number e

/-- What sending a slice comes to by the answer to its request. -/
def answerErrors (s : Session) (number : Nat) : Except Error (Nat → List String) :=
  match s.rpcAnswers with
  | some answers => (Action.received answers[number]?).map fun reply : Rpc.BatchObjectsReply =>
      errorsAt reply.errors
  | none => (Action.fetched (list resultReader) s.answers[number]?).map fun results place =>
      (results[place]?).getD ["no result returned for object"]

theorem answerErrors_of_rest {s : Session} (h : s.rpcAnswers = none) (number : Nat) :
    answerErrors s number = (Action.fetched (list resultReader) s.answers[number]?).map
      fun results place => (results[place]?).getD ["no result returned for object"] := by
  rw [answerErrors, h]

theorem answerErrors_of_rpc {s : Session} {answers : List (Answer (List UInt8))}
    (h : s.rpcAnswers = some answers) (number : Nat) :
    answerErrors s number = (Action.received answers[number]?).map
      fun reply : Rpc.BatchObjectsReply => errorsAt reply.errors := by
  rw [answerErrors, h]

section
variable {s : Session} {number : Nat} {errors : Nat → List String} {e : Error}

theorem Tells.answerErrors_eq (h : Tells s number errors) : answerErrors s number = .ok errors := by
  cases h with
  | results hrest hreply =>
    rw [answerErrors_of_rest hrest, Answer.fetched_eq_ok_iff.2 hreply]
    rfl
  | errors hrpc hreply =>
    rw [answerErrors_of_rpc hrpc, Answer.received_eq_ok_iff.2 hreply]
    rfl

theorem FailsWith.answerErrors_eq (h : FailsWith s number e) :
    answerErrors s number = .error e := by
  cases h with
  | rest hrest h =>
    rw [answerErrors_of_rest hrest, Answer.fetched_eq_error_iff.2 h]
    rfl
  | rpc hrpc h =>
    rw [answerErrors_of_rpc hrpc, Answer.received_eq_error_iff.2 h]
    rfl

/-- Every answer says what is wrong, or the request fails. -/
theorem tells_or_failsWith (s : Session) (number : Nat) :
    (∃ errors, Tells s number errors) ∨ ∃ e, FailsWith s number e := by
  cases hrpc : s.rpcAnswers with
  | none =>
    rcases Answer.brings_or_fails (list resultReader) s.answers[number]? with ⟨_, h⟩ | ⟨_, h⟩
    · exact .inl ⟨_, .results hrpc h⟩
    · exact .inr ⟨_, .rest hrpc h⟩
  | some answers =>
    rcases Answer.brings_or_fails_message Rpc.BatchObjectsReply answers[number]? with
      ⟨_, h⟩ | ⟨_, h⟩
    · exact .inl ⟨_, .errors hrpc h⟩
    · exact .inr ⟨_, .rpc hrpc h⟩

end

theorem answerErrors_advance (s : Session) (request : Request) (number : Nat) :
    answerErrors (s.advance [request]) number = answerErrors s (number + 1) := by
  rcases s with ⟨answers, _ | rpcAnswers, cancellation, sent, time⟩ <;>
    simp [answerErrors, Session.advance]

/-! ## One slice -/

/-- The name and the number that stand for a consistency level in requests. -/
def levelSigns : ConsistencyLevel → String × Int32
  | .one => ("ONE", 1)
  | .quorum => ("QUORUM", 2)
  | .all => ("ALL", 3)

theorem levelSigns_eq (level : ConsistencyLevel) : levelSigns level = (level.name, level.code) := by
  cases level <;> rfl

/-- A request carries a slice over the interface that is used. Over the REST interface the objects
of the slice stand in the body of a POST request, in their order, and the consistency level in a
parameter; over the RPC interface both stand in the message. -/
def Carries (hasRpc : Bool) (slice : VectorQuery.Insertion) : Request → Prop
  | .http r => hasRpc = false ∧ r.method = .post ∧ r.path = "/batch/objects" ∧
      r.parameters = (slice.consistencyLevel.toList.map fun level =>
        ("consistency_level", (levelSigns level).1)) ∧
      r.body = some (.object [("objects", .array (slice.objects.map DataObject.json))])
  | .rpc method bytes => hasRpc = true ∧ method = .insert ∧ bytes = Rpc.Message.encode
      ({ objects := slice.objects.map DataObject.message
         consistencyLevel := slice.consistencyLevel.map fun level => (levelSigns level).2 } :
        Rpc.BatchObjectsRequest)

/-- The request that a slice is sent as, over the interface that is used. -/
def sliceRequest (s : Session) (slice : VectorQuery.Insertion) : Request :=
  if s.hasRpc then .rpc .insert (Rpc.Message.encode slice.message) else .http (request slice)

theorem carries_sliceRequest (s : Session) (slice : VectorQuery.Insertion) :
    Carries s.hasRpc slice (sliceRequest s slice) := by
  unfold sliceRequest Carries
  simp only [levelSigns_eq]
  cases s.hasRpc with
  | true =>
    rw [if_pos rfl]
    exact ⟨rfl, rfl, rfl⟩
  | false =>
    rw [if_neg Bool.false_ne_true]
    exact ⟨rfl, rfl, rfl, List.append_nil _, rfl⟩

theorem errorsByResult_eq (count : Nat) (results : List (List String)) :
    errorsByResult count results = (List.range count).map fun place =>
      (results[place]?).getD ["no result returned for object"] := by
  induction count generalizing results with
  | zero => rfl
  | succ count ih =>
    cases results with
    | nil =>
      rw [errorsByResult, ih, List.range_succ_eq_map, List.map_cons, List.map_map]
      rfl
    | cons errors results =>
      rw [errorsByResult, ih, List.range_succ_eq_map, List.map_cons, List.map_map]
      rfl

/-- Sending a slice takes one answer and leaves one request, and it returns what the answer says of
the places of the slice. -/
theorem run_sendSlice (slice : VectorQuery.Insertion) (s : Session) :
    (sendSlice slice).run.run s =
      ((answerErrors s 0).map fun errors => (List.range slice.objects.length).map errors,
        s.advance [sliceRequest s slice]) := by
  unfold sendSlice
  rw [Action.run_get_bind]
  cases hrpc : s.rpcAnswers with
  | some answers =>
    have hexchange := Action.run_exchange (β := Rpc.BatchObjectsReply) hrpc .insert slice.message
    rw [if_pos (by simp [Session.hasRpc, hrpc]), Action.run_bind_pure hexchange]
    refine Prod.ext ?_ ?_
    · rw [answerErrors_of_rpc hrpc, List.head?_eq_getElem?]
      cases (Action.received answers[0]? : Except Error Rpc.BatchObjectsReply) <;> rfl
    · simp [Session.advance, sliceRequest, Session.hasRpc, hrpc]
  | none =>
    have hfetch := Action.run_fetch (list resultReader) (request slice) s
    rw [if_neg (by simp [Session.hasRpc, hrpc]), Action.run_bind_pure hfetch]
    refine Prod.ext ?_ ?_
    · rw [answerErrors_of_rest hrpc, List.head?_eq_getElem?]
      cases Action.fetched (list resultReader) s.answers[0]? <;>
        simp [Except.map, errorsByResult_eq]
    · simp [Session.advance, sliceRequest, Session.hasRpc, hrpc]

/-! ## All slices -/

/-- The outcomes of slices from a place on, by what the answers say. -/
def outcomesOf (place : Nat) : List VectorQuery.Insertion → (Nat → Nat → List String) →
    List InsertOutcome
  | [], _ => []
  | slice :: rest, errors =>
    (slice.objects.mapIdx fun i object =>
      { index := place + i, id := object.id, errors := errors 0 i }) ++
      outcomesOf (place + slice.objects.length) rest fun k => errors (k + 1)

theorem number_range (place : Nat) (objects : List DataObject) (errors : Nat → List String) :
    InsertOutcome.number place objects ((List.range objects.length).map errors) =
      objects.mapIdx fun i object =>
        { index := place + i, id := object.id, errors := errors i } := by
  refine List.ext_getElem (by simp [InsertOutcome.number]) fun i hi hi' => ?_
  simp [InsertOutcome.number]

theorem sliceRequest_advance (s : Session) (requests : List Request) :
    sliceRequest (s.advance requests) = sliceRequest s := by
  funext slice
  rw [sliceRequest, sliceRequest, Session.hasRpc_advance]

/-- When all answers say what is wrong, all slices are sent and all outcomes are returned. -/
theorem run_sendSlices_ok (slices : List VectorQuery.Insertion) : ∀ (place : Nat) (s : Session)
    (errors : Nat → Nat → List String),
    (∀ k < slices.length, answerErrors s k = .ok (errors k)) →
    (sendSlices place slices).run.run s =
      (.ok (outcomesOf place slices errors), s.advance (slices.map (sliceRequest s))) := by
  induction slices with
  | nil =>
    intro place s errors _
    rw [List.map_nil, Session.advance_nil]
    rfl
  | cons slice rest ih =>
    intro place s errors h
    have hslice := run_sendSlice slice s
    rw [h 0 (Nat.zero_lt_succ _)] at hslice
    -- the answers to the rest are those that follow in the session after the first request
    have hrest := ih (place + slice.objects.length) (s.advance [sliceRequest s slice])
      (fun k => errors (k + 1)) fun k hk => by
        rw [answerErrors_advance]
        exact h (k + 1) (Nat.succ_lt_succ hk)
    rw [sliceRequest_advance, Session.advance_advance] at hrest
    rw [sendSlices, Action.run_bind_ok hslice, Action.run_bind_ok hrest, number_range]
    rfl

/-- The first answer that says nothing ends the insertion, and nothing more is sent. -/
theorem run_sendSlices_error (slices : List VectorQuery.Insertion) : ∀ (place : Nat) (s : Session)
    (k : Nat) (e : Error), k < slices.length → (∀ j < k, ∃ errors, answerErrors s j = .ok errors) →
    answerErrors s k = .error e →
    (sendSlices place slices).run.run s =
      (.error e, s.advance ((slices.take (k + 1)).map (sliceRequest s))) := by
  induction slices with
  | nil =>
    intro place s k e hk
    exact absurd hk (Nat.not_lt_zero k)
  | cons slice rest ih =>
    intro place s k e hk hbefore he
    have hslice := run_sendSlice slice s
    cases k with
    | zero =>
      rw [he] at hslice
      rw [sendSlices, Action.run_bind_error hslice]
      rfl
    | succ k =>
      obtain ⟨errors, herrors⟩ := hbefore 0 (Nat.zero_lt_succ k)
      rw [herrors] at hslice
      have hrest := ih (place + slice.objects.length) (s.advance [sliceRequest s slice]) k e
        (Nat.lt_of_succ_lt_succ hk)
        (fun j hj => by
          rw [answerErrors_advance]
          exact hbefore (j + 1) (Nat.succ_lt_succ hj))
        (by rw [answerErrors_advance, he])
      rw [sliceRequest_advance, Session.advance_advance] at hrest
      rw [sendSlices, Action.run_bind_ok hslice, Action.run_bind_error hrest]
      rfl

/-- The places of one slice that starts the batch. -/
theorem mapIdx_first_slice {size : Nat} {objects : List DataObject} (h : objects.length ≤ size)
    (place : Nat) (errors : Nat → Nat → List String) :
    (objects.mapIdx fun i object =>
      ({ index := place + i, id := object.id, errors := errors 0 i } : InsertOutcome)) =
      objects.mapIdx fun i object =>
        { index := place + i, id := object.id, errors := errors (i / size) (i % size) } := by
  refine List.ext_getElem (by simp) fun i hi _ => ?_
  rw [List.length_mapIdx] at hi
  have hi : i < size := Nat.lt_of_lt_of_le hi h
  simp [Nat.div_eq_of_lt hi, Nat.mod_eq_of_lt hi]

/-- An object's outcome has the place of the object in the insertion, and what the answer to its
slice says of the object's place in the slice. -/
theorem outcomesOf_slices {size : Nat} (hsize : 0 < size) (b : VectorQuery.Insertion)
    (objects : List DataObject) : ∀ (place : Nat) (errors : Nat → Nat → List String),
    outcomesOf place ((slices size objects).map fun objects => { b with objects }) errors =
      objects.mapIdx fun i object =>
        { index := place + i, id := object.id, errors := errors (i / size) (i % size) } := by
  fun_induction slices size objects with
  | case1 objects h =>
    intro place errors
    have hlength : objects.length ≤ size := h.resolve_left (by omega)
    rw [List.map_singleton, outcomesOf, outcomesOf, List.append_nil,
      mapIdx_first_slice hlength]
  | case2 objects h ih =>
    intro place errors
    rw [not_or, Nat.not_le] at h
    have htake : (objects.take size).length = size := by
      rw [List.length_take]
      omega
    have hsplit : ∀ f : Nat → DataObject → InsertOutcome, objects.mapIdx f =
        (objects.take size).mapIdx f ++ (objects.drop size).mapIdx fun i => f (i + size) := by
      intro f
      have happend : (objects.take size ++ objects.drop size).mapIdx f = _ := List.mapIdx_append
      rwa [List.take_append_drop, htake] at happend
    rw [List.map_cons, outcomesOf, ih, hsplit, mapIdx_first_slice (Nat.le_of_eq htake)]
    simp [htake, Nat.add_div_left _ hsize, Nat.add_comm, Nat.add_left_comm]

theorem run_of_objects {b : VectorQuery.Insertion} (h : b.objects ≠ []) :
    run b = sendSlices 0 (b.split 1000) := by
  rw [run, if_neg (by simpa using h)]
  rfl

/-- The outcomes of an insertion, by what the answers say of the places of its slices. -/
theorem run_of_answers {b : VectorQuery.Insertion} {s : Session} (hobjects : b.objects ≠ [])
    {errors : Nat → Nat → List String}
    (h : ∀ k < (b.split 1000).length, answerErrors s k = .ok (errors k)) :
    (run b).run.run s = (.ok (b.objects.mapIdx fun i object =>
      { index := i, id := object.id, errors := errors (i / 1000) (i % 1000) }),
      s.advance ((b.split 1000).map (sliceRequest s))) := by
  have houtcomes := outcomesOf_slices (by decide : 0 < 1000) b b.objects 0 errors
  simp only [Nat.zero_add] at houtcomes
  rw [run_of_objects hobjects, run_sendSlices_ok _ 0 s errors h, VectorQuery.Insertion.split,
    houtcomes]

/-- Over the REST interface the answer to a request is a reply of status 200 with a result in JSON
for object after object. -/
def AnswersResults (s : Session) (number : Nat) (results : List (List String)) : Prop :=
  s.rpcAnswers = none ∧ ∃ items,
    s.answers[number]? = some (.reply ⟨200, Text.Utf8.encode (Json.text (.array items))⟩) ∧
    List.Forall₂ GivesErrors items results

theorem AnswersResults.brings {s : Session} {number : Nat} {results : List (List String)}
    (h : AnswersResults s number results) :
    s.rpcAnswers = none ∧ Answer.Brings (list resultReader) s.answers[number]? results := by
  obtain ⟨hrest, items, hreply, hitems⟩ := h
  rw [hreply]
  exact ⟨hrest, brings_results hitems⟩

/-- An insertion loses, repeats and misnumbers nothing. Without objects nothing is sent. Else one
request is sent for each slice in order, which carries the objects and the consistency level of the
slice, where the slices are full but for the last and together are the objects; if all answers say
what is wrong, there is one outcome for each object in order, with its place and id and with what
the answer to its slice says of it; and the first answer that says nothing is what the insertion
fails with, after which nothing is sent. Every answer says what is wrong or nothing, and over the
REST interface a reply with results in JSON says what is wrong. -/
theorem insertion_run_spec (b : VectorQuery.Insertion) (s : Session) :
    (b.objects = [] → (run b).run.run s = (.ok [], s)) ∧
    (b.objects ≠ [] →
      ((b.split 1000).flatMap VectorQuery.Insertion.objects = b.objects ∧
        (∀ slice ∈ b.split 1000, slice.objects ≠ [] ∧ slice.objects.length ≤ 1000 ∧
          slice.consistencyLevel = b.consistencyLevel) ∧
        ∀ slice ∈ (b.split 1000).dropLast, slice.objects.length = 1000) ∧
      ∃ requests, List.Forall₂ (Carries s.hasRpc) (b.split 1000) requests ∧
        (∀ errors : Nat → Nat → List String,
          (∀ k < (b.split 1000).length, Tells s k (errors k)) →
          (run b).run.run s =
            (.ok (b.objects.mapIdx fun i object =>
              { index := i, id := object.id, errors := errors (i / 1000) (i % 1000) }),
              s.advance requests)) ∧
        ∀ k < (b.split 1000).length, (∀ j < k, ∃ errors, Tells s j errors) →
          ∀ e, FailsWith s k e →
          (run b).run.run s = (.error e, s.advance (requests.take (k + 1)))) ∧
    (∀ k, (∃ errors, Tells s k errors) ∨ ∃ e, FailsWith s k e) ∧
    ∀ k results, AnswersResults s k results →
      Tells s k fun place => (results[place]?).getD ["no result returned for object"] := by
  refine ⟨fun hempty => ?_, fun hobjects => ⟨⟨b.flatMap_objects_split 1000,
    VectorQuery.Insertion.of_mem_split (by decide) hobjects, b.length_of_mem_dropLast_split 1000⟩,
    (b.split 1000).map (sliceRequest s), ?_, fun errors h => ?_, fun k hk hbefore e he => ?_⟩,
    tells_or_failsWith s, fun k results h => .results h.brings.1 h.brings.2⟩
  · rw [run, hempty]
    rfl
  · exact List.forall₂_map_right_iff.2 (List.forall₂_same.2 fun slice _ =>
      carries_sliceRequest s slice)
  · exact run_of_answers hobjects fun k hk => (h k hk).answerErrors_eq
  · rw [run_of_objects hobjects, run_sendSlices_error _ 0 s k e hk ?_ he.answerErrors_eq,
      List.map_take]
    intro j hj
    obtain ⟨errors, herrors⟩ := hbefore j hj
    exact ⟨errors, herrors.answerErrors_eq⟩

/-! ## An insertion of two slices -/

/-- One object more than one request may hold. -/
def overfull : VectorQuery.Insertion where
  objects := (List.range 1001).map fun i => { id := .ofNat i, className := "Pizza" }
  consistencyLevel := some .quorum

theorem length_overfull : overfull.objects.length = 1001 := by
  rw [overfull, List.length_map, List.length_range]

theorem split_overfull : overfull.split 1000 =
    [{ overfull with objects := overfull.objects.take 1000 },
      { overfull with objects := overfull.objects.drop 1000 }] := by
  have hdrop : (overfull.objects.drop 1000).length = 1 := by
    rw [List.length_drop, length_overfull]
  rw [VectorQuery.Insertion.split, slices, if_neg (by rw [length_overfull]; decide), slices,
    if_pos (by rw [hdrop]; decide)]
  rfl

/-- A reply of the RPC interface that lists errors. -/
def listing (errors : List Rpc.BatchError) : Answer (List UInt8) :=
  .reply (Rpc.Message.encode ({ errors } : Rpc.BatchObjectsReply))

theorem bringsMessage_listing (errors : List Rpc.BatchError)
    (hsize : (Rpc.Message.encode ({ errors } : Rpc.BatchObjectsReply)).length < UInt64.size)
    (hnest : Wire.Fields.nesting (Rpc.Message.fields ({ errors } : Rpc.BatchObjectsReply)) ≤ 100) :
    Answer.BringsMessage (some (listing errors)) ({ errors } : Rpc.BatchObjectsReply) := by
  have hreply : Rpc.RoundTrips Rpc.BatchObjectsReply Eq Rpc.BatchObjectsReply.readBack :=
    Rpc.roundTrips_of_received_self Rpc.BatchObjectsReply.conforms_fields
      Rpc.BatchObjectsReply.ofFields_received
  exact ⟨_, rfl, (hreply _ _ rfl hsize).1 hnest⟩

/-- A reply of the REST interface with results that have nothing but messages. -/
def resulting (results : List (List String)) : Answer HttpReply :=
  .reply ⟨200, Text.Utf8.encode (Json.text (.array (results.map resultJson)))⟩

theorem forall₂_resultJson (results : List (List String)) :
    List.Forall₂ GivesErrors (results.map resultJson) results :=
  List.forall₂_map_left_iff.2 (List.forall₂_same.2 fun texts _ => givesErrors_resultJson texts)

/-- A session over the RPC interface in which the first object of the second slice is refused. -/
def refusing : Session where
  rpcAnswers := some [listing [], listing [{ index := 0, error := "x" }]]

/-- A session over the REST interface in which the second request fails. -/
def breaking : Session where
  answers := [resulting [], .reply ⟨500, []⟩]

theorem tells_refusing : ∀ k < 2,
    Tells refusing k fun place => if k = 1 ∧ place = 0 then ["x"] else [] := by
  intro k hk
  obtain rfl | rfl : k = 0 ∨ k = 1 := by omega
  · have hfirst := bringsMessage_listing [] (by decide +kernel) (by decide +kernel)
    have htells : Tells refusing 0 _ := .errors rfl hfirst
    exact htells
  · have hsecond := bringsMessage_listing [{ index := 0, error := "x" }]
      (by decide +kernel) (by decide +kernel)
    have htells : Tells refusing 1 _ := .errors rfl hsecond
    refine (congrArg (Tells refusing 1) ?_).mp htells
    funext place
    by_cases hplace : place = 0
    · rw [hplace]
      rfl
    · have hindex : ¬(0 : Int) = (place : Int) := by omega
      simp [hplace, hindex]

/-- A thousand objects and one more go in two requests. The second reply says of its first object
what is wrong with the last of all; where it has another status the insertion fails. -/
theorem insertion_run_spec_overfull : (run {}).run.run breaking = (.ok [], breaking) ∧
    (∃ requests, List.Forall₂ (Carries true) (overfull.split 1000) requests ∧
      (run overfull).run.run refusing =
        (.ok (overfull.objects.mapIdx fun i object =>
          { index := i, id := object.id, errors := if i = 1000 then ["x"] else [] }),
          refusing.advance requests)) ∧
    ∃ requests, List.Forall₂ (Carries false) (overfull.split 1000) requests ∧
      (run overfull).run.run breaking =
        (.error (.unexpectedStatus 500 []), breaking.advance requests) := by
  have hobjects : overfull.objects ≠ [] := by
    rw [← List.length_pos_iff, length_overfull]
    decide
  have hslices : (overfull.split 1000).length = 2 := by
    rw [split_overfull]
    rfl
  obtain ⟨-, requests, hcarries, hok, -⟩ := (insertion_run_spec overfull refusing).2.1 hobjects
  obtain ⟨-, requests', hcarries', -, herror⟩ :=
    (insertion_run_spec overfull breaking).2.1 hobjects
  refine ⟨(insertion_run_spec {} breaking).1 rfl, ⟨requests, hcarries, ?_⟩,
    requests', hcarries', ?_⟩
  · rw [hok (fun k place => if k = 1 ∧ place = 0 then ["x"] else [])
      fun k hk => tells_refusing k (hslices ▸ hk)]
    have hlast : ∀ i, (i / 1000 = 1 ∧ i % 1000 = 0) ↔ i = 1000 := by omega
    simp only [hlast]
  · have hfirst : Tells breaking 0 _ :=
      (insertion_run_spec overfull breaking).2.2.2 0 [] ⟨rfl, _, rfl, forall₂_resultJson []⟩
    have hsecond : FailsWith breaking 1 (.unexpectedStatus 500 []) :=
      .rest rfl (.status (by decide))
    have hlength := hcarries'.length_eq
    rw [hslices] at hlength
    have hbefore : ∀ j < 1, ∃ errors, Tells breaking j errors := by
      intro j hj
      obtain rfl := Nat.lt_one_iff.1 hj
      exact ⟨_, hfirst⟩
    rw [herror 1 (by rw [hslices]; decide) hbefore _ hsecond,
      List.take_of_length_le (Nat.le_of_eq hlength.symm)]

end Insertion

end VectorQuery.Client
