import VectorQuery.Proofs.Client.Insertion

/-!
# Inserting over either interface

The interfaces differ in how they say what is wrong with the objects of a request: the REST
interface gives a result for each object in order, the RPC interface lists errors in any order under
the places of the objects. What an insertion returns depends only on what the answers say of the
places of its slices. So both interfaces lead to the same outcomes when they say the same, and what
an answer says beyond the places of its slice has no effect.
-/

namespace VectorQuery.Client.Insertion

open Json.Reader

variable {b : VectorQuery.Insertion} {s s' : Session}

/-- What an answer says of the first places. -/
def firstErrors (count : Nat) (answer : Except Error (Nat → List String)) :
    Except Error (List (List String)) :=
  answer.map fun errors => (List.range count).map errors

theorem firstErrors_congr {count : Nat} {errors errors' : Nat → List String}
    (h : ∀ place < count, errors place = errors' place) :
    firstErrors count (.ok errors) = firstErrors count (.ok errors') :=
  congrArg Except.ok (List.map_congr_left fun place hplace => h place (List.mem_range.1 hplace))

/-- What slices lead to depends on what the answers say of their places and on nothing else. -/
theorem run_sendSlices_congr (slices : List VectorQuery.Insertion) :
    ∀ (place : Nat) (s s' : Session),
    (∀ k slice, slices[k]? = some slice → firstErrors slice.objects.length (answerErrors s k) =
      firstErrors slice.objects.length (answerErrors s' k)) →
    ((sendSlices place slices).run.run s).1 = ((sendSlices place slices).run.run s').1 := by
  induction slices with
  | nil =>
    intro place s s' _
    rfl
  | cons slice rest ih =>
    intro place s s' h
    have hfirst := h 0 slice rfl
    have hslice := run_sendSlice slice s
    have hslice' := run_sendSlice slice s'
    change _ = (firstErrors slice.objects.length (answerErrors s 0), _) at hslice
    change _ = (firstErrors slice.objects.length (answerErrors s' 0), _) at hslice'
    rw [← hfirst] at hslice'
    rw [sendSlices]
    cases herrors : firstErrors slice.objects.length (answerErrors s 0) with
    | error e =>
      rw [herrors] at hslice hslice'
      rw [Action.run_bind_error hslice, Action.run_bind_error hslice']
    | ok errors =>
      rw [herrors] at hslice hslice'
      rw [Action.run_bind_ok hslice, Action.run_bind_ok hslice']
      have hrest := ih (place + slice.objects.length) (s.advance [sliceRequest s slice])
        (s'.advance [sliceRequest s' slice]) fun k slice' hslice' => by
          rw [answerErrors_advance, answerErrors_advance]
          exact h (k + 1) slice' hslice'
      rcases hrun : (sendSlices (place + slice.objects.length) rest).run.run
        (s.advance [sliceRequest s slice]) with ⟨result, after⟩
      rcases hrun' : (sendSlices (place + slice.objects.length) rest).run.run
        (s'.advance [sliceRequest s' slice]) with ⟨result', after'⟩
      rw [hrun, hrun'] at hrest
      obtain rfl : result = result' := hrest
      rw [Action.run_bind_pure hrun, Action.run_bind_pure hrun']

theorem run_congr (h : ∀ k slice, (b.split 1000)[k]? = some slice →
      firstErrors slice.objects.length (answerErrors s k) =
        firstErrors slice.objects.length (answerErrors s' k)) :
    ((run b).run.run s).1 = ((run b).run.run s').1 := by
  by_cases hobjects : b.objects = []
  · rw [run, hobjects]
    rfl
  · rw [run_of_objects hobjects]
    exact run_sendSlices_congr _ 0 s s' h

/-- What an insertion returns, by what is wrong with the object at each place of each slice. -/
theorem result_of_answers (errors : Nat → Nat → List String)
    (h : ∀ k < (b.split 1000).length, answerErrors s k = .ok (errors k)) :
    ((run b).run.run s).1 = .ok (b.objects.mapIdx fun i object =>
      { index := i, id := object.id, errors := errors (i / 1000) (i % 1000) }) := by
  by_cases hobjects : b.objects = []
  · rw [run, hobjects]
    rfl
  · rw [run_of_answers hobjects h]

/-! ## Answers of the REST interface -/

/-- Over the REST interface the answer to a request brings results, in whatever form. -/
def BringsResults (s : Session) (k : Nat) (results : List (List String)) : Prop :=
  s.rpcAnswers = none ∧ Answer.Brings (list resultReader) s.answers[k]? results

theorem answerErrors_of_results {k : Nat} {results : List (List String)}
    (h : BringsResults s k results) : answerErrors s k =
      .ok fun place => (results[place]?).getD ["no result returned for object"] :=
  (Tells.results h.1 h.2).answerErrors_eq

/-! ## Answers of the RPC interface -/

/-- Over the RPC interface the answer to a request is a message with errors. -/
def AnswersErrors (s : Session) (k : Nat) (errors : List Rpc.BatchError) : Prop :=
  ∃ answers took, s.rpcAnswers = some answers ∧
    Answer.BringsMessage answers[k]? ({ took, errors } : Rpc.BatchObjectsReply)

theorem answerErrors_of_errors {k : Nat} {errors : List Rpc.BatchError}
    (h : AnswersErrors s k errors) : answerErrors s k = .ok (errorsAt errors) := by
  obtain ⟨answers, took, hrpc, hreply⟩ := h
  have htells : Tells s k _ := .errors hrpc hreply
  exact htells.answerErrors_eq

/-- The errors of so many objects, object by object. -/
def listed (count : Nat) (messages : Nat → List String) : List Rpc.BatchError :=
  (List.range count).flatMap fun place =>
    (messages place).map fun error => { index := Int32.ofNat place, error }

/-- Whether errors are the given ones in an order that keeps the errors of one place in order. -/
def Reorders (errors given : List Rpc.BatchError) : Prop :=
  ∀ index, errors.filter (fun e => e.index = index) = given.filter fun e => e.index = index

/-- Whether an error is one of so many objects. -/
def isPlaced (count : Nat) (e : Rpc.BatchError) : Bool :=
  0 ≤ e.index.toInt && e.index.toInt < count

theorem toInt_ofNat {place : Nat} (h : place < 1000) : (Int32.ofNat place).toInt = place := by
  rw [Int32.toInt_ofNat_of_lt (by omega)]

theorem errorsAt_eq {errors : List Rpc.BatchError} {place : Nat} (h : place < 1000) :
    errorsAt errors place =
      (errors.filter fun e => e.index = Int32.ofNat place).map Rpc.BatchError.error := by
  unfold errorsAt
  congr 2
  funext e
  rw [decide_eq_decide, ← toInt_ofNat h, Int32.toInt_inj]

theorem listed_succ (count : Nat) (messages : Nat → List String) :
    listed (count + 1) messages = listed count messages ++
      (messages count).map fun error => { index := Int32.ofNat count, error } := by
  unfold listed
  rw [List.range_succ, List.flatMap_append, List.flatMap_singleton]

/-- Of listed errors those with the number of a place are the errors of that place. -/
theorem filter_listed (messages : Nat → List String) {place : Nat} (hplace : place < 1000) :
    ∀ count ≤ 1000, (listed count messages).filter (fun e => e.index = Int32.ofNat place) =
      if place < count then (messages place).map fun error => { index := Int32.ofNat place, error }
      else [] := by
  intro count
  induction count with
  | zero =>
    intro _
    rw [if_neg (Nat.not_lt_zero place)]
    rfl
  | succ count ih =>
    intro hcount
    rw [listed_succ, List.filter_append, ih (by omega)]
    by_cases heq : count = place
    · rw [heq, if_neg (Nat.lt_irrefl place), if_pos (Nat.lt_succ_self place), List.nil_append,
        List.filter_eq_self]
      intro e he
      obtain ⟨error, -, rfl⟩ := List.mem_map.1 he
      exact decide_eq_true rfl
    · have hlast : ((messages count).map fun error =>
          ({ index := Int32.ofNat count, error } : Rpc.BatchError)).filter
            (fun e => e.index = Int32.ofNat place) = [] := by
        rw [List.filter_eq_nil_iff]
        intro e he
        obtain ⟨error, -, rfl⟩ := List.mem_map.1 he
        rw [decide_eq_true_eq, ← Int32.toInt_inj, toInt_ofNat (by omega), toInt_ofNat hplace]
        omega
      rw [hlast, List.append_nil]
      by_cases hlt : place < count
      · rw [if_pos hlt, if_pos (by omega)]
      · rw [if_neg hlt, if_neg (by omega)]

theorem errorsAt_of_reorders {errors : List Rpc.BatchError} {count : Nat}
    {messages : Nat → List String} (h : Reorders errors (listed count messages))
    (hcount : count ≤ 1000) {place : Nat} (hplace : place < count) :
    errorsAt errors place = messages place := by
  rw [errorsAt_eq (by omega), h, filter_listed messages (by omega) count hcount, if_pos hplace,
    List.map_map]
  exact List.map_id _

/-- Errors of no object of a request say nothing of its objects. -/
theorem firstErrors_of_isPlaced {errors errors' : List Rpc.BatchError} {count : Nat}
    (h : errors.filter (isPlaced count) = errors'.filter (isPlaced count)) :
    firstErrors count (.ok (errorsAt errors)) = firstErrors count (.ok (errorsAt errors')) := by
  have hplaced : ∀ (errors : List Rpc.BatchError) (place : Nat), place < count →
      errorsAt errors place = errorsAt (errors.filter (isPlaced count)) place := by
    intro errors place hplace
    unfold errorsAt
    rw [List.filter_filter]
    congr 1
    refine List.filter_congr fun e _ => ?_
    by_cases he : e.index.toInt = (place : Int)
    · simp only [he, decide_true, isPlaced, Bool.true_and]
      simp [hplace]
    · simp [he]
  refine firstErrors_congr fun place hplace => ?_
  rw [hplaced errors place hplace, hplaced errors' place hplace, h]

/-! ## Both interfaces -/

/-- The results of a slice whose objects have the given messages, in order. -/
def inOrder (slice : VectorQuery.Insertion) (messages : Nat → List String) : List (List String) :=
  (List.range slice.objects.length).map messages

theorem firstErrors_inOrder (slice : VectorQuery.Insertion) (messages : Nat → List String) :
    firstErrors slice.objects.length (.ok fun place =>
      ((inOrder slice messages)[place]?).getD ["no result returned for object"]) =
      .ok (inOrder slice messages) := by
  refine firstErrors_congr fun place hplace => ?_
  simp [inOrder, hplace]

theorem firstErrors_of_reorders {errors : List Rpc.BatchError} {slice : VectorQuery.Insertion}
    {messages : Nat → List String}
    (h : Reorders errors (listed slice.objects.length messages))
    (hlength : slice.objects.length ≤ 1000) :
    firstErrors slice.objects.length (.ok (errorsAt errors)) = .ok (inOrder slice messages) :=
  firstErrors_congr fun _ hplace => errorsAt_of_reorders h hlength hplace

/-- The outcomes of an insertion whose slices have a result for each object. -/
theorem run_of_results {messages : Nat → List String}
    (h : ∀ k slice, (b.split 1000)[k]? = some slice →
      BringsResults s k (inOrder slice fun place => messages (1000 * k + place))) :
    ((run b).run.run s).1 = .ok (b.objects.mapIdx fun i object =>
      { index := i, id := object.id, errors := messages i }) := by
  rw [result_of_answers (fun k place => ((((b.split 1000)[k]?).map fun slice =>
    inOrder slice fun place => messages (1000 * k + place)).bind fun results =>
      results[place]?).getD ["no result returned for object"])]
  · congr 1
    refine List.ext_getElem (by simp) fun i hi _ => ?_
    rw [List.length_mapIdx] at hi
    obtain ⟨slice, hslice, hplace⟩ := b.exists_split_of_lt (by decide : 0 < 1000) hi
    simp [hslice, inOrder, hplace, Nat.div_add_mod]
  · intro k hk
    have hslice : (b.split 1000)[k]? = some (b.split 1000)[k] := List.getElem?_eq_getElem hk
    rw [answerErrors_of_results (h k _ hslice), hslice]
    rfl

/-- The answers to a request say the same in two sessions. -/
def SayTheSame (s s' : Session) (k : Nat) : Prop :=
  (∀ errors, Tells s k errors ↔ Tells s' k errors) ∧ ∀ e, FailsWith s k e ↔ FailsWith s' k e

theorem SayTheSame.answerErrors_eq {k : Nat} (h : SayTheSame s s' k) :
    answerErrors s k = answerErrors s' k := by
  rcases tells_or_failsWith s k with ⟨errors, htells⟩ | ⟨e, hfails⟩
  · rw [htells.answerErrors_eq, ((h.1 errors).1 htells).answerErrors_eq]
  · rw [hfails.answerErrors_eq, ((h.2 e).1 hfails).answerErrors_eq]

/-- Two replies of the REST interface differ for a request at most in surplus results. -/
def SameButSurplus (s s' : Session) (k count : Nat) : Prop :=
  SayTheSame s s' k ∨ ∃ results results', BringsResults s k results ∧
    BringsResults s' k results' ∧ results.take count = results'.take count

/-- Two replies of the RPC interface differ for a request at most in errors of no object of it. -/
def SameButMisplaced (s s' : Session) (k count : Nat) : Prop :=
  SayTheSame s s' k ∨ ∃ errors errors', AnswersErrors s k errors ∧
    AnswersErrors s' k errors' ∧ errors.filter (isPlaced count) = errors'.filter (isPlaced count)

theorem firstErrors_of_surplus {k count : Nat} (h : SameButSurplus s s' k count) :
    firstErrors count (answerErrors s k) = firstErrors count (answerErrors s' k) := by
  rcases h with h | ⟨results, results', hresults, hresults', htake⟩
  · rw [h.answerErrors_eq]
  · rw [answerErrors_of_results hresults, answerErrors_of_results hresults']
    refine firstErrors_congr fun place hplace => ?_
    rw [← List.getElem?_take_of_lt hplace, htake, List.getElem?_take_of_lt hplace]

theorem firstErrors_of_misplaced {k count : Nat} (h : SameButMisplaced s s' k count) :
    firstErrors count (answerErrors s k) = firstErrors count (answerErrors s' k) := by
  rcases h with h | ⟨errors, errors', herrors, herrors', hfilter⟩
  · rw [h.answerErrors_eq]
  · rw [answerErrors_of_errors herrors, answerErrors_of_errors herrors']
    exact firstErrors_of_isPlaced hfilter

/-- Whatever messages the objects of an insertion have, both interfaces lead to the outcomes with
these messages: the REST interface by a result for each object of a request in order, the RPC
interface by errors under the places in the request, in any order that keeps the errors of one place
in order. An error under no place of the request has no effect, and neither has a result beyond the
objects; and an object without a result does not succeed. -/
theorem interfaces_agree (b : VectorQuery.Insertion) :
    (∀ (messages : Nat → List String) (rest rpc : Session),
      (∀ k slice, (b.split 1000)[k]? = some slice →
        AnswersResults rest k (inOrder slice fun place => messages (1000 * k + place))) →
      (∀ k slice, (b.split 1000)[k]? = some slice → ∃ errors, AnswersErrors rpc k errors ∧
        Reorders errors (listed slice.objects.length fun place => messages (1000 * k + place))) →
      ((run b).run.run rest).1 = .ok (b.objects.mapIdx fun i object =>
        { index := i, id := object.id, errors := messages i }) ∧
      ((run b).run.run rpc).1 = ((run b).run.run rest).1) ∧
    (∀ s s' : Session, (∀ k slice, (b.split 1000)[k]? = some slice →
        SameButMisplaced s s' k slice.objects.length) →
      ((run b).run.run s).1 = ((run b).run.run s').1) ∧
    (∀ s s' : Session, (∀ k slice, (b.split 1000)[k]? = some slice →
        SameButSurplus s s' k slice.objects.length) →
      ((run b).run.run s).1 = ((run b).run.run s').1) ∧
    ∀ (s : Session) (results : Nat → List (List String)),
      (∀ k < (b.split 1000).length, BringsResults s k (results k)) →
      ∃ outcomes, ((run b).run.run s).1 = .ok outcomes ∧ outcomes.length = b.objects.length ∧
        ∀ (i : Nat) (outcome : InsertOutcome), outcomes[i]? = some outcome →
          (results (i / 1000)).length ≤ i % 1000 →
          outcome.errors = ["no result returned for object"] ∧ outcome.isSuccess = false := by
  refine ⟨?_, ?_, ?_, ?_⟩
  · intro messages rest rpc hrest hrpc
    constructor
    · exact run_of_results fun k slice hslice => (hrest k slice hslice).brings
    · refine run_congr fun k slice hslice => ?_
      obtain ⟨errors, herrors, hreorders⟩ := hrpc k slice hslice
      have hlength : slice.objects.length ≤ 1000 := by
        obtain ⟨objects, hobjects, rfl⟩ := List.mem_map.1 (List.mem_of_getElem? hslice)
        exact length_le_of_mem_slices (by decide) b.objects objects hobjects
      rw [answerErrors_of_errors herrors, answerErrors_of_results (hrest k slice hslice).brings,
        firstErrors_inOrder, firstErrors_of_reorders hreorders hlength]
  · intro s s' h
    exact run_congr fun k slice hslice => firstErrors_of_misplaced (h k slice hslice)
  · intro s s' h
    exact run_congr fun k slice hslice => firstErrors_of_surplus (h k slice hslice)
  · intro s results hresults
    refine ⟨_, result_of_answers _ fun k hk => answerErrors_of_results (hresults k hk), ?_, ?_⟩
    · rw [List.length_mapIdx]
    · intro i outcome houtcome hmissing
      rw [List.getElem?_mapIdx, Option.map_eq_some_iff] at houtcome
      obtain ⟨object, -, rfl⟩ := houtcome
      simp only [InsertOutcome.isSuccess, List.getElem?_eq_none hmissing]
      exact ⟨rfl, rfl⟩

/-! ## Errors in two slices -/

/-- What is wrong with some of the first thousand objects and with the one behind them. -/
def faults (i : Nat) : List String :=
  if i = 0 then ["x"] else if i = 1 then ["u", "v"] else if i = 1000 then ["y"] else []

/-- A session over the REST interface with the results of two slices. -/
def overRest (first second : List (List String)) : Session where
  answers := [resulting first, resulting second]

/-- A session over the RPC interface with the errors of two slices. -/
def overRpc (first second : List Rpc.BatchError) : Session where
  rpcAnswers := some [listing first, listing second]

/-- The errors of the first slice, out of order. -/
def shuffled : List Rpc.BatchError :=
  [{ index := 1, error := "u" }, { index := 0, error := "x" }, { index := 1, error := "v" }]

/-- Errors of no object of the second slice. -/
def stray : List Rpc.BatchError := [{ index := -1, error := "u" }, { index := 1, error := "v" }]

theorem forall_slice_overfull {P : Nat → VectorQuery.Insertion → Prop}
    (hfirst : P 0 { overfull with objects := overfull.objects.take 1000 })
    (hsecond : P 1 { overfull with objects := overfull.objects.drop 1000 }) :
    ∀ k slice, (overfull.split 1000)[k]? = some slice → P k slice := by
  intro k slice hslice
  rw [split_overfull] at hslice
  obtain ⟨hk, rfl⟩ := List.getElem?_eq_some_iff.1 hslice
  obtain rfl | rfl : k = 0 ∨ k = 1 := by
    simp only [List.length_cons, List.length_nil] at hk
    omega
  · exact hfirst
  · exact hsecond

theorem length_first : (overfull.objects.take 1000).length = 1000 := by
  rw [List.length_take, length_overfull]
  rfl

theorem length_second : (overfull.objects.drop 1000).length = 1 := by
  rw [List.length_drop, length_overfull]

theorem inOrder_first : inOrder { overfull with objects := overfull.objects.take 1000 }
    (fun place => faults (1000 * 0 + place)) = (List.range 1000).map faults := by
  simp only [inOrder, length_first, Nat.mul_zero, Nat.zero_add]

theorem inOrder_second : inOrder { overfull with objects := overfull.objects.drop 1000 }
    (fun place => faults (1000 * 1 + place)) = [["y"]] := by
  simp only [inOrder, length_second]
  decide

/-- Where no object has errors any more, there is nothing to list. -/
theorem listed_eq_of_nil {messages : Nat → List String} {n count : Nat} (hn : n ≤ count)
    (h : ∀ i, n ≤ i → i < count → messages i = []) : listed count messages = listed n messages := by
  induction count with
  | zero => rw [Nat.le_zero.1 hn]
  | succ count ih =>
    rcases Nat.lt_or_ge count n with hlt | hge
    · rw [Nat.le_antisymm hn hlt]
    · rw [listed_succ, ih hge fun i hi hlt => h i hi (Nat.lt_succ_of_lt hlt),
        h count hge (Nat.lt_succ_self count), List.map_nil, List.append_nil]

theorem reorders_shuffled :
    Reorders shuffled (listed 1000 fun place => faults (1000 * 0 + place)) := by
  have hlisted : listed 1000 (fun place => faults (1000 * 0 + place)) = listed 2 faults := by
    rw [listed_eq_of_nil (n := 2) (by decide)]
    · simp only [Nat.mul_zero, Nat.zero_add]
    · intro i hi hlt
      simp only [faults]
      rw [if_neg (by omega), if_neg (by omega), if_neg (by omega)]
  rw [hlisted]
  intro index
  by_cases hzero : index = 0
  · rw [hzero]
    decide
  · by_cases hone : index = 1
    · rw [hone]
      decide
    · simp [shuffled, listed, faults, List.range_succ, Ne.symm hzero, Ne.symm hone]

theorem answersResults_overRest (first second : List (List String)) :
    AnswersResults (overRest first second) 0 first ∧
      AnswersResults (overRest first second) 1 second :=
  ⟨⟨rfl, _, rfl, forall₂_resultJson first⟩, ⟨rfl, _, rfl, forall₂_resultJson second⟩⟩

/-- Three of a thousand and one objects have errors, the last of them in a slice of its own; with
errors of others and a result too many in its slice, and with no result for it. -/
theorem interfaces_agree_overfull :
    ((run overfull).run.run (overRest ((List.range 1000).map faults) [["y"]])).1 =
        .ok (overfull.objects.mapIdx fun i object =>
          { index := i, id := object.id, errors := faults i }) ∧
      ((run overfull).run.run (overRpc shuffled [{ index := 0, error := "y" }])).1 =
        ((run overfull).run.run (overRest ((List.range 1000).map faults) [["y"]])).1 ∧
      ((run overfull).run.run (overRpc shuffled ({ index := 0, error := "y" } :: stray))).1 =
        ((run overfull).run.run (overRpc shuffled [{ index := 0, error := "y" }])).1 ∧
      ((run overfull).run.run (overRest ((List.range 1000).map faults) [["y"], []])).1 =
        ((run overfull).run.run (overRest ((List.range 1000).map faults) [["y"]])).1 ∧
      ∃ outcomes, ((run overfull).run.run (overRest ((List.range 1000).map faults) [])).1 =
        .ok outcomes ∧ ∀ outcome, outcomes[1000]? = some outcome → outcome.isSuccess = false := by
  have hrest := fun second => answersResults_overRest ((List.range 1000).map faults) second
  have hshuffled := bringsMessage_listing shuffled (by decide +kernel) (by decide +kernel)
  have hlast := bringsMessage_listing [{ index := 0, error := "y" }]
    (by decide +kernel) (by decide +kernel)
  have hstray := bringsMessage_listing ({ index := 0, error := "y" } :: stray)
    (by decide +kernel) (by decide +kernel)
  obtain ⟨hagree, hmisplaced, hsurplus, hfailed⟩ := interfaces_agree overfull
  obtain ⟨hoverRest, hoverRpc⟩ := hagree faults (overRest ((List.range 1000).map faults) [["y"]])
    (overRpc shuffled [{ index := 0, error := "y" }])
    (forall_slice_overfull (by rw [inOrder_first]; exact (hrest _).1)
      (by rw [inOrder_second]; exact (hrest _).2))
    (forall_slice_overfull ⟨shuffled, ⟨_, _, rfl, hshuffled⟩, by
        rw [length_first]
        exact reorders_shuffled⟩
      ⟨_, ⟨_, _, rfl, hlast⟩, by
        rw [length_second]
        exact fun _ => rfl⟩)
  refine ⟨hoverRest, hoverRpc, ?_, ?_, ?_⟩
  · exact hmisplaced _ _ (forall_slice_overfull
      (.inr ⟨_, _, ⟨_, _, rfl, hshuffled⟩, ⟨_, _, rfl, hshuffled⟩, rfl⟩)
      (.inr ⟨_, _, ⟨_, _, rfl, hstray⟩, ⟨_, _, rfl, hlast⟩, by rw [length_second]; decide⟩))
  · exact hsurplus _ _ (forall_slice_overfull
      (.inr ⟨_, _, (hrest _).1.brings, (hrest _).1.brings, rfl⟩)
      (.inr ⟨_, _, (hrest _).2.brings, (hrest _).2.brings, by rw [length_second]; rfl⟩))
  · have hbrings : ∀ k < (overfull.split 1000).length,
        BringsResults (overRest ((List.range 1000).map faults) []) k
          (if k = 0 then (List.range 1000).map faults else []) := by
      intro k hk
      rw [split_overfull] at hk
      obtain rfl | rfl : k = 0 ∨ k = 1 := by
        simp only [List.length_cons, List.length_nil] at hk
        omega
      · exact (hrest []).1.brings
      · exact (hrest []).2.brings
    obtain ⟨outcomes, hrun, -, houtcomes⟩ := hfailed _ _ hbrings
    exact ⟨outcomes, hrun, fun outcome h => (houtcomes 1000 outcome h (Nat.zero_le _)).2⟩

end VectorQuery.Client.Insertion
