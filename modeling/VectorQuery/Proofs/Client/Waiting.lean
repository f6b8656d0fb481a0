import VectorQuery.Proofs.Client.Reports

/-!
# How a wait for a backup ends

A wait goes round in turns: a check of the cancellation, a look, and a pause unless the look was the
last. The cancellation may come at any moment of a turn, and a pause that ends just as it comes may
go on or not; in every case the next check is as far as the wait gets. So what a wait returns and
what it has sent depend only on the first check that finds the cancellation and on the first look
that is the last, whichever comes first.

The replies to the looks are an endless script. What is said of a script holds for every session
that has enough of its replies.
-/

namespace VectorQuery.Client

namespace Session

/-- The session with an answer to a first request and so many of the replies of a script. -/
def scripted (s : Session) (start : Answer HttpReply) (replies : Nat → Answer HttpReply)
    (count : Nat) : Session :=
  { s with answers := start :: (List.range count).map replies }

end Session

namespace Backup

variable {b : Backup} {interval : Nat} {s : Session}

/-- Whether a check finds the wait cancelled. -/
def isStopped (b : Backup) (s : Session) : Bool := b.heedsCancellation && s.isCancelled

/-- The session after one look. -/
def afterLook (b : Backup) (s : Session) : Session :=
  { s with answers := s.answers.tail, sent := s.sent ++ [.http b.statusRequest] }

/-- The session of a wait at its check after so many full turns, each with a pause that long. -/
def atCheck (b : Backup) (pause : Nat) (s : Session) (turns : Nat) : Session :=
  { s with
    answers := s.answers.drop turns
    sent := s.sent ++ List.replicate turns (.http b.statusRequest)
    time := s.time + turns * pause }

/-- The result of a run and the requests that have been sent after it. -/
def observed {α : Type} (run : Except Error α × Session) : Except Error α × List Request :=
  (run.1, run.2.sent)

theorem atCheck_zero (b : Backup) (pause : Nat) (s : Session) : b.atCheck pause s 0 = s := by
  simp [atCheck]

theorem atCheck_one_atCheck (b : Backup) (pause : Nat) (s : Session) (turns : Nat) :
    b.atCheck pause (b.atCheck pause s 1) turns = b.atCheck pause s (turns + 1) := by
  have hreplicate : List.replicate (turns + 1) (Request.http b.statusRequest) =
      .http b.statusRequest :: List.replicate turns (.http b.statusRequest) := rfl
  simp only [atCheck, List.drop_drop, List.append_assoc, hreplicate]
  congr 1
  · rw [Nat.add_comm]
  · rw [Nat.add_mul, Nat.add_assoc, Nat.add_comm (1 * pause)]

/-! ## One turn -/

theorem run_checkCancelled (b : Backup) (s : Session) : b.checkCancelled.run.run s =
    (if b.isStopped s then .error .cancelled else .ok (), s) := by
  unfold checkCancelled isStopped
  rw [Action.run_get_bind]
  by_cases h : (b.heedsCancellation && s.isCancelled) = true
  · rw [if_pos h, if_pos h]
    rfl
  · rw [if_neg h, if_neg h]
    rfl

theorem run_look (b : Backup) (s : Session) :
    b.look.run.run s = (reportOf s.answers.head?, b.afterLook s) :=
  Action.run_fetch _ _ s

theorem run_lookUntilFinal_of_isStopped (h : b.isStopped s = true) (count : Nat) :
    (b.lookUntilFinal interval count).run.run s = (.error .cancelled, s) := by
  have hcheck := run_checkCancelled b s
  rw [if_pos h] at hcheck
  cases count with
  | zero => exact Action.run_bind_error hcheck _
  | succ count => exact Action.run_bind_error hcheck _

theorem run_lookUntilFinal_zero (h : b.isStopped s = false) :
    (b.lookUntilFinal interval 0).run.run s = (reportOf s.answers.head?, b.afterLook s) := by
  have hcheck := run_checkCancelled b s
  rw [if_neg (by rw [h]; exact Bool.false_ne_true)] at hcheck
  exact (Action.run_bind_ok hcheck _).trans (run_look b s)

/-- A look that is the last ends the wait with what it brings. -/
theorem run_lookUntilFinal_of_isLast (h : b.isStopped s = false)
    (hlast : IsLast (reportOf s.answers.head?)) (count : Nat) :
    (b.lookUntilFinal interval count).run.run s = (reportOf s.answers.head?, b.afterLook s) := by
  cases count with
  | zero => exact run_lookUntilFinal_zero h
  | succ count =>
    have hcheck := run_checkCancelled b s
    rw [if_neg (by rw [h]; exact Bool.false_ne_true)] at hcheck
    have hlook := run_look b s
    refine (Action.run_bind_ok hcheck _).trans ?_
    cases hreport : reportOf s.answers.head? with
    | error e =>
      rw [hreport] at hlook
      exact Action.run_bind_error hlook _
    | ok report =>
      rw [hreport] at hlook hlast
      refine (Action.run_bind_ok hlook _).trans ?_
      have hfinal : report.status.isFinal = true := hlast
      rw [if_pos hfinal]
      rfl

theorem run_pause_of_pause {woken : Bool} {s' : Session}
    (h : s.pause interval b.heedsCancellation = (woken, s')) :
    (b.pause interval).run.run s = (if woken then .error .cancelled else .ok (), s') := by
  cases woken <;> simp only [pause, ExceptT.run_mk, StateT.run, h] <;> rfl

/-- A pause ends as if the check after it came right away: it fails if that check finds the wait
cancelled, or leaves this to the check when the two come at once. -/
theorem run_pause (b : Backup) (interval : Nat) (s : Session) :
    let full := { s with time := s.time + min interval Session.longestPause }
    (b.pause interval).run.run s = (.ok (), full) ∨
      b.isStopped full = true ∧ ∃ s' : Session, s'.sent = s.sent ∧
        (b.pause interval).run.run s = (.error .cancelled, s') := by
  intro full
  by_cases hstopped : (b.heedsCancellation && full.isCancelled &&
      !(s.pausePrevails && s.woken.time = full.time)) = true
  · right
    have hpause : s.pause interval b.heedsCancellation = (true, s.woken) := if_pos hstopped
    refine ⟨?_, s.woken, ?_, run_pause_of_pause hpause⟩
    · rw [Bool.and_eq_true] at hstopped
      exact hstopped.1
    · unfold Session.woken
      split <;> rfl
  · left
    have hpause : s.pause interval b.heedsCancellation = (false, full) := if_neg hstopped
    exact run_pause_of_pause hpause

/-- After a look that is not the last the wait goes on from the next check, however the pause in
between ends. -/
theorem observed_lookUntilFinal_succ (h : b.isStopped s = false)
    (hlast : ¬IsLast (reportOf s.answers.head?)) (count : Nat) :
    observed ((b.lookUntilFinal interval (count + 1)).run.run s) =
      observed ((b.lookUntilFinal interval count).run.run
        (b.atCheck (min interval Session.longestPause) s 1)) := by
  have hcheck := run_checkCancelled b s
  rw [if_neg (by rw [h]; exact Bool.false_ne_true)] at hcheck
  have hlook := run_look b s
  cases hreport : reportOf s.answers.head? with
  | error e =>
    rw [hreport] at hlast
    exact absurd trivial hlast
  | ok report =>
    rw [hreport] at hlook hlast
    have hfinal : ¬report.status.isFinal = true := hlast
    have hturn : (b.lookUntilFinal interval (count + 1)).run.run s =
        (b.pause interval >>= fun _ => b.lookUntilFinal interval count).run.run
          (b.afterLook s) := by
      refine (Action.run_bind_ok hcheck _).trans ((Action.run_bind_ok hlook _).trans ?_)
      rw [if_neg hfinal]
    have hnext : b.atCheck (min interval Session.longestPause) s 1 =
        { b.afterLook s with
          time := (b.afterLook s).time + min interval Session.longestPause } := by
      simp [atCheck, afterLook]
    rw [hturn, hnext]
    rcases run_pause b interval (b.afterLook s) with hpause | ⟨hstopped, s', hsent, hpause⟩
    · rw [Action.run_bind_ok hpause]
    · rw [Action.run_bind_error hpause, run_lookUntilFinal_of_isStopped hstopped]
      show (_, s'.sent) = (_, (b.afterLook s).sent)
      rw [hsent]

/-! ## All turns -/

/-- As long as no check finds the wait cancelled and no look is the last, the wait goes round. -/
theorem observed_lookUntilFinal_add (count : Nat) : ∀ (turns : Nat) (s : Session),
    (∀ i < turns, b.isStopped (b.atCheck (min interval Session.longestPause) s i) = false) →
    (∀ i < turns, ¬IsLast (reportOf s.answers[i]?)) →
    observed ((b.lookUntilFinal interval (count + turns)).run.run s) =
      observed ((b.lookUntilFinal interval count).run.run
        (b.atCheck (min interval Session.longestPause) s turns)) := by
  intro turns
  induction turns with
  | zero =>
    intro s _ _
    rw [atCheck_zero, Nat.add_zero]
  | succ turns ih =>
    intro s hchecks hlooks
    have hcheck := hchecks 0 (Nat.zero_lt_succ turns)
    rw [atCheck_zero] at hcheck
    have hlook := hlooks 0 (Nat.zero_lt_succ turns)
    rw [← List.head?_eq_getElem?] at hlook
    rw [← Nat.add_assoc, observed_lookUntilFinal_succ hcheck hlook, ih, atCheck_one_atCheck]
    · intro i hi
      rw [atCheck_one_atCheck]
      exact hchecks (i + 1) (Nat.succ_lt_succ hi)
    · intro i hi
      have hlook := hlooks (i + 1) (Nat.succ_lt_succ hi)
      rwa [show (b.atCheck (min interval Session.longestPause) s 1).answers[i]? =
        s.answers[i + 1]? by simp [atCheck]]

theorem run_awaitEnd (b : Backup) (interval : Nat) (s : Session) :
    (b.awaitEnd interval).run.run s =
      (b.lookUntilFinal interval s.answers.length).run.run s := Action.run_get_bind _ s

/-- The first check that finds the wait cancelled ends it, if no look before was the last. -/
theorem observed_awaitEnd_of_isStopped {k : Nat} (hk : k ≤ s.answers.length)
    (hchecks : ∀ i < k, b.isStopped (b.atCheck (min interval Session.longestPause) s i) = false)
    (hlooks : ∀ i < k, ¬IsLast (reportOf s.answers[i]?))
    (hstopped : b.isStopped (b.atCheck (min interval Session.longestPause) s k) = true) :
    observed ((b.awaitEnd interval).run.run s) =
      (.error .cancelled, s.sent ++ List.replicate k (.http b.statusRequest)) := by
  obtain ⟨count, hcount⟩ := Nat.exists_eq_add_of_le' hk
  rw [run_awaitEnd, hcount, observed_lookUntilFinal_add count k s hchecks hlooks,
    run_lookUntilFinal_of_isStopped hstopped]
  rfl

/-- The first look that is the last ends the wait, if no check up to it finds the wait cancelled. -/
theorem observed_awaitEnd_of_isLast {j : Nat} (hj : j ≤ s.answers.length)
    (hchecks : ∀ i ≤ j, b.isStopped (b.atCheck (min interval Session.longestPause) s i) = false)
    (hlooks : ∀ i < j, ¬IsLast (reportOf s.answers[i]?)) (hlast : IsLast (reportOf s.answers[j]?)) :
    observed ((b.awaitEnd interval).run.run s) =
      (reportOf s.answers[j]?, s.sent ++ List.replicate (j + 1) (.http b.statusRequest)) := by
  obtain ⟨count, hcount⟩ := Nat.exists_eq_add_of_le' hj
  have hanswer : (b.atCheck (min interval Session.longestPause) s j).answers.head? =
      s.answers[j]? := by
    simp [atCheck]
  rw [run_awaitEnd, hcount,
    observed_lookUntilFinal_add count j s (fun i hi => hchecks i (Nat.le_of_lt hi)) hlooks,
    run_lookUntilFinal_of_isLast (hchecks j (Nat.le_refl j)) (by rwa [hanswer]), hanswer]
  show (_, _ ++ [_]) = _
  rw [List.replicate_succ', ← List.append_assoc]
  rfl

/-! ## Moments of a wait -/

/-- The moments at which the cancellation of a wait may take effect, by turns. -/
inductive Moment where
  /-- At no moment of the wait. -/
  | never
  /-- After the turn before, or before the wait in the first turn, and before the check. -/
  | beforeCheck (turn : Nat)
  /-- While the reply to the look is awaited. -/
  | duringLook (turn : Nat)
  /-- In the pause after the look. -/
  | duringPause (turn : Nat)

/-- The turn whose check is the first to find the cancellation. -/
def Moment.foundIn : Moment → Option Nat
  | never => none
  | beforeCheck turn => some turn
  | duringLook turn | duringPause turn => some (turn + 1)

/-- Whether the cancellation of a session in which a wait begins takes effect for that wait at a
moment. Pauses of no length take no time, so that a time to come does not come with them. -/
def CancelledAt (b : Backup) (pause : Nat) (s : Session) : Moment → Prop
  | .never => b.heedsCancellation = false ∨ s.cancellation = .never ∨ s.cancellation = .dropped ∨
      pause = 0 ∧ ∃ time, s.cancellation = .atTime time ∧ s.time < time
  | .beforeCheck 0 => b.heedsCancellation = true ∧
      ((∃ count, s.cancellation = .atRequest count ∧ count ≤ s.sent.length) ∨
        ∃ time, s.cancellation = .atTime time ∧ time ≤ s.time)
  | .beforeCheck (turn + 1) => b.heedsCancellation = true ∧ 0 < pause ∧
      s.cancellation = .atTime (s.time + (turn + 1) * pause)
  | .duringLook turn => b.heedsCancellation = true ∧
      s.cancellation = .atRequest (s.sent.length + turn + 1)
  | .duringPause turn => b.heedsCancellation = true ∧
      ∃ time, s.cancellation = .atTime time ∧ s.time + turn * pause < time ∧
        time < s.time + (turn + 1) * pause

/-- Every cancellation takes effect at some moment, or at none. -/
theorem exists_cancelledAt (b : Backup) (pause : Nat) (s : Session) :
    ∃ moment, b.CancelledAt pause s moment := by
  by_cases hheeds : b.heedsCancellation = true
  · cases hcancellation : s.cancellation with
    | never => exact ⟨.never, Or.inr (Or.inl hcancellation)⟩
    | dropped => exact ⟨.never, Or.inr (Or.inr (Or.inl hcancellation))⟩
    | atRequest count =>
      by_cases hcount : count ≤ s.sent.length
      · exact ⟨.beforeCheck 0, hheeds, Or.inl ⟨count, hcancellation, hcount⟩⟩
      · refine ⟨.duringLook (count - s.sent.length - 1), hheeds, ?_⟩
        rw [hcancellation]
        congr 1
        omega
    | atTime time =>
      by_cases htime : time ≤ s.time
      · exact ⟨.beforeCheck 0, hheeds, Or.inr ⟨time, hcancellation, htime⟩⟩
      by_cases hpause : pause = 0
      · exact ⟨.never, Or.inr (Or.inr (Or.inr ⟨hpause, time, hcancellation, by omega⟩))⟩
      -- the turn in whose pause, or at whose end, the time comes
      have hdiv := Nat.div_add_mod (time - s.time - 1) pause
      have hmod := Nat.mod_lt (time - s.time - 1) (Nat.pos_of_ne_zero hpause)
      rw [Nat.mul_comm] at hdiv
      generalize (time - s.time - 1) / pause = turn at hdiv
      by_cases hend : time = s.time + (turn + 1) * pause
      · exact ⟨.beforeCheck (turn + 1), hheeds, Nat.pos_of_ne_zero hpause,
          by rw [hcancellation, hend]⟩
      · rw [Nat.add_mul] at hend
        refine ⟨.duringPause turn, hheeds, time, hcancellation, by omega, ?_⟩
        rw [Nat.add_mul]
        omega
  · exact ⟨.never, Or.inl (Bool.eq_false_iff.2 hheeds)⟩

/-- A check finds the wait cancelled from the moment of the cancellation on. -/
theorem isStopped_atCheck_iff {pause : Nat} {moment : Moment} (h : b.CancelledAt pause s moment)
    (turns : Nat) :
    b.isStopped (b.atCheck pause s turns) = true ↔ ∃ k, moment.foundIn = some k ∧ k ≤ turns := by
  have hlength : (b.atCheck pause s turns).sent.length = s.sent.length + turns := by
    simp [atCheck]
  have hcancelled : b.isStopped (b.atCheck pause s turns) = true ↔ b.heedsCancellation = true ∧
      (b.atCheck pause s turns).isCancelled = true := by
    rw [isStopped, Bool.and_eq_true]
  rw [hcancelled]
  have hcancellation : (b.atCheck pause s turns).cancellation = s.cancellation := rfl
  have htime : (b.atCheck pause s turns).time = s.time + turns * pause := rfl
  unfold Session.isCancelled
  rw [hcancellation, htime, hlength]
  cases moment with
  | never =>
    simp only [Moment.foundIn, reduceCtorEq, false_and, exists_false, iff_false, not_and]
    intro hheeds
    rcases h with h | h | h | ⟨hpause, time, h, hlt⟩
    · rw [h] at hheeds
      exact absurd hheeds Bool.false_ne_true
    · simp [h]
    · simp [h]
    · simp only [h, hpause, decide_eq_true_eq]
      omega
  | beforeCheck turn =>
    cases turn with
    | zero =>
      obtain ⟨hheeds, ⟨count, h, hcount⟩ | ⟨time, h, htime⟩⟩ := h
      · simp only [Moment.foundIn, h, hheeds, decide_eq_true_eq, Option.some.injEq]
        exact ⟨fun _ => ⟨0, rfl, Nat.zero_le turns⟩, fun _ => ⟨trivial, by omega⟩⟩
      · simp only [Moment.foundIn, h, hheeds, decide_eq_true_eq, Option.some.injEq]
        exact ⟨fun _ => ⟨0, rfl, Nat.zero_le turns⟩, fun _ => ⟨trivial, by omega⟩⟩
    | succ turn =>
      obtain ⟨hheeds, hpause, h⟩ := h
      simp only [Moment.foundIn, h, hheeds, decide_eq_true_eq, true_and, Option.some.injEq,
        exists_eq_left', Nat.add_le_add_iff_left]
      exact Nat.mul_le_mul_right_iff hpause
  | duringLook turn =>
    obtain ⟨hheeds, h⟩ := h
    simp only [Moment.foundIn, h, hheeds, decide_eq_true_eq, true_and, Option.some.injEq,
      exists_eq_left']
    omega
  | duringPause turn =>
    obtain ⟨hheeds, time, h, hafter, hbefore⟩ := h
    simp only [Moment.foundIn, h, hheeds, decide_eq_true_eq, true_and, Option.some.injEq,
      exists_eq_left']
    constructor
    · intro hle
      have hmul : turn * pause < turns * pause := by omega
      exact Nat.lt_of_mul_lt_mul_right hmul
    · intro hle
      have hmul : (turn + 1) * pause ≤ turns * pause := Nat.mul_le_mul_right pause hle
      omega

/-! ## The whole operation -/

/-- The requests of an operation that makes so many looks. One request starts it, under the backend
when a backup is made and under the backup when it is restored, and every look asks for the state
under the backup and, for a restoring, what follows it there. -/
def requests (b : Backup) (looks : Nat) : List Request :=
  match b.kind with
  | .create =>
    let start : HttpRequest :=
      { method := .post
        path := "/backups/" ++ b.backend
        body := some (.object [("exclude", .strings b.excluded), ("id", .string b.id),
          ("include", .strings b.included)]) }
    let look : HttpRequest := { method := .get, path := "/backups/" ++ b.backend ++ "/" ++ b.id }
    .http start :: List.replicate looks (.http look)
  | .restore =>
    let path := "/backups/" ++ b.backend ++ "/" ++ b.id ++ "/restore"
    let start : HttpRequest :=
      { method := .post
        path
        body := some (.object
          [("exclude", .strings b.excluded), ("include", .strings b.included)]) }
    let look : HttpRequest := { method := .get, path }
    .http start :: List.replicate looks (.http look)

theorem requests_eq (b : Backup) (looks : Nat) : b.requests looks =
    .http b.startRequest :: List.replicate looks (.http b.statusRequest) := by
  rcases b with ⟨_ | _, backend, id, included, excluded, waits, pause, heeds⟩ <;> rfl

/-- In a session the operation ends with a result and has sent the given requests. -/
def Yields (b : Backup) (configuration : Configuration) (s : Session)
    (result : Except Error BackupReport) (sent : List Request) : Prop :=
  observed ((b.run configuration).run.run s) = (result, s.sent ++ sent)

/-- The session of an operation once the answer to its first request has come. -/
def afterStart (b : Backup) (s : Session) : Session :=
  { s with answers := s.answers.tail, sent := s.sent ++ [.http b.startRequest] }

/-- How long the pauses of an operation are. -/
def pauseLength (b : Backup) (configuration : Configuration) : Nat :=
  min (b.pauseMilliseconds.getD configuration.pauseMilliseconds) Session.longestPause

section Operation

variable {configuration : Configuration}

theorem yields_of_problem {problem : ConfigurationError} (h : b.problem? = some problem) :
    b.Yields configuration s (.error (.configuration problem)) [] := by
  have hcheck : b.check.run.run s = (.error (.configuration problem), s) := by
    unfold check
    rw [h]
    rfl
  unfold Yields run
  rw [Action.run_bind_error hcheck, List.append_nil]
  rfl

theorem problem?_of_backend (h : b.backend = "") : b.problem? = some .backendMissing := by
  unfold problem?
  rw [if_pos (by simp [h])]

theorem problem?_of_id (hbackend : b.backend ≠ "") (h : b.id = "") :
    b.problem? = some .backupIdMissing := by
  unfold problem?
  rw [if_neg (by simpa using hbackend), if_pos (by simp [h])]

theorem problem?_of_named (hbackend : b.backend ≠ "") (hid : b.id ≠ "") : b.problem? = none := by
  unfold problem?
  rw [if_neg (by simpa using hbackend), if_neg (by simpa using hid)]

/-- An operation that lacks nothing starts with its first request. -/
theorem run_of_named (h : b.problem? = none) (s : Session) :
    (b.run configuration).run.run s =
      match reportOf s.answers.head? with
      | .error e => (.error e, b.afterStart s)
      | .ok started =>
        if !b.waits || started.status.isFinal then (.ok started, b.afterStart s)
        else (b.awaitEnd (b.pauseMilliseconds.getD configuration.pauseMilliseconds)).run.run
          (b.afterStart s) := by
  have hcheck : b.check.run.run s = (.ok (), s) := by
    unfold check
    rw [h]
    rfl
  have hstart : (Action.fetch BackupReport.reader b.startRequest).run.run s =
      (reportOf s.answers.head?, b.afterStart s) := Action.run_fetch _ _ s
  unfold run
  rw [Action.run_bind_ok hcheck]
  cases hreport : reportOf s.answers.head? with
  | error e =>
    rw [hreport] at hstart
    exact Action.run_bind_error hstart _
  | ok started =>
    rw [hreport] at hstart
    rw [Action.run_bind_ok hstart]
    by_cases hdone : (!b.waits || started.status.isFinal) = true
    · simp only [if_pos hdone]
      rfl
    · simp only [if_neg hdone]

variable {start : Answer HttpReply} {replies : Nat → Answer HttpReply} {count : Nat}

theorem reportOf_scripted {i : Nat} (h : i < count) :
    reportOf (b.afterStart (s.scripted start replies count)).answers[i]? =
      reportOf (some (replies i)) := by
  have hanswer : (b.afterStart (s.scripted start replies count)).answers[i]? =
      some (replies i) := by
    simp [afterStart, Session.scripted, h]
  rw [hanswer]

theorem length_scripted :
    (b.afterStart (s.scripted start replies count)).answers.length = count := by
  simp [afterStart, Session.scripted]

theorem yields_of_start_error (hproblem : b.problem? = none) {e : Error}
    (hstart : reportOf (some start) = .error e) :
    b.Yields configuration (s.scripted start replies count) (.error e) (b.requests 0) := by
  unfold Yields
  rw [run_of_named hproblem, requests_eq]
  show observed (match reportOf (some start) with
    | .error e => _
    | .ok started => _) = _
  rw [hstart]
  rfl

/-- There is no wait if none is asked for or if the operation is done when it has started. -/
theorem yields_of_done (hproblem : b.problem? = none) {started : BackupReport}
    (hstart : reportOf (some start) = .ok started)
    (hdone : b.waits = false ∨ started.status.isFinal = true) :
    b.Yields configuration (s.scripted start replies count) (.ok started) (b.requests 0) := by
  have hdone : (!b.waits || started.status.isFinal) = true := by
    rcases hdone with h | h <;> simp [h]
  unfold Yields
  rw [run_of_named hproblem, requests_eq]
  show observed (match reportOf (some start) with
    | .error e => _
    | .ok started => _) = _
  rw [hstart]
  show observed (if !b.waits || started.status.isFinal then _ else _) = _
  rw [if_pos hdone]
  rfl

/-- At which moment a wait is cancelled does not depend on the replies that are still to come. -/
theorem cancelledAt_scripted {moment : Moment}
    (h : b.CancelledAt (b.pauseLength configuration) (b.afterStart (s.scripted start replies 0))
      moment) :
    b.CancelledAt (b.pauseLength configuration) (b.afterStart (s.scripted start replies count))
      moment := by
  cases moment with
  | never => exact h
  | beforeCheck turn => cases turn <;> exact h
  | duringLook turn => exact h
  | duringPause turn => exact h

/-- Waiting for an operation that has started without being done already. -/
theorem run_scripted {started : BackupReport} (hproblem : b.problem? = none)
    (hstart : reportOf (some start) = .ok started) (hwaits : b.waits = true)
    (hstarted : started.status.isFinal = false) :
    (b.run configuration).run.run (s.scripted start replies count) =
      (b.awaitEnd (b.pauseMilliseconds.getD configuration.pauseMilliseconds)).run.run
        (b.afterStart (s.scripted start replies count)) := by
  rw [run_of_named hproblem]
  show (match reportOf (some start) with
    | .error e => _
    | .ok started => _) = _
  rw [hstart]
  show (if !b.waits || started.status.isFinal then _ else _) = _
  rw [hwaits, hstarted]
  rfl

/-- The cancellation ends a wait in the turn whose check finds it, if no look before was the
last. -/
theorem yields_cancelled {started : BackupReport} {moment : Moment} {k : Nat}
    (hproblem : b.problem? = none) (hstart : reportOf (some start) = .ok started)
    (hwaits : b.waits = true) (hstarted : started.status.isFinal = false)
    (hmoment : b.CancelledAt (b.pauseLength configuration)
      (b.afterStart (s.scripted start replies count)) moment)
    (hfound : moment.foundIn = some k) (hlooks : ∀ i < k, ¬IsLast (reportOf (some (replies i))))
    (hcount : k ≤ count) :
    b.Yields configuration (s.scripted start replies count) (.error .cancelled) (b.requests k) := by
  unfold Yields
  rw [requests_eq, run_scripted hproblem hstart hwaits hstarted,
    observed_awaitEnd_of_isStopped (k := k)]
  · show (_, (s.sent ++ [_]) ++ _) = _
    rw [List.append_assoc]
    rfl
  · rwa [length_scripted]
  · intro i hi
    rw [← Bool.not_eq_true]
    intro hstopped
    obtain ⟨k', hk', hle⟩ := (isStopped_atCheck_iff hmoment i).1 hstopped
    rw [hfound, Option.some.injEq] at hk'
    omega
  · intro i hi
    rw [reportOf_scripted (by omega)]
    exact hlooks i hi
  · exact (isStopped_atCheck_iff hmoment k).2 ⟨k, hfound, Nat.le_refl k⟩

/-- A look that is the last ends a wait, if the cancellation is not found up to it. -/
theorem yields_last {started : BackupReport} {moment : Moment} {j : Nat}
    (hproblem : b.problem? = none) (hstart : reportOf (some start) = .ok started)
    (hwaits : b.waits = true) (hstarted : started.status.isFinal = false)
    (hmoment : b.CancelledAt (b.pauseLength configuration)
      (b.afterStart (s.scripted start replies count)) moment)
    (hfound : ∀ k, moment.foundIn = some k → j < k)
    (hlooks : ∀ i < j, ¬IsLast (reportOf (some (replies i)))) (hcount : j ≤ count)
    (hlast : IsLast (reportOf (b.afterStart (s.scripted start replies count)).answers[j]?)) :
    b.Yields configuration (s.scripted start replies count)
      (reportOf (b.afterStart (s.scripted start replies count)).answers[j]?)
      (b.requests (j + 1)) := by
  unfold Yields
  rw [requests_eq, run_scripted hproblem hstart hwaits hstarted,
    observed_awaitEnd_of_isLast (j := j)]
  · show (_, (s.sent ++ [_]) ++ _) = _
    rw [List.append_assoc]
    rfl
  · rwa [length_scripted]
  · intro i hi
    rw [← Bool.not_eq_true]
    intro hstopped
    obtain ⟨k, hk, hle⟩ := (isStopped_atCheck_iff hmoment i).1 hstopped
    have hlt := hfound k hk
    omega
  · intro i hi
    rw [reportOf_scripted (by omega)]
    exact hlooks i hi
  · exact hlast

/-- A wait that nothing ends goes on to the end of the script. -/
theorem yields_exhausted {started : BackupReport} {moment : Moment} (hproblem : b.problem? = none)
    (hstart : reportOf (some start) = .ok started) (hwaits : b.waits = true)
    (hstarted : started.status.isFinal = false)
    (hmoment : b.CancelledAt (b.pauseLength configuration)
      (b.afterStart (s.scripted start replies count)) moment)
    (hfound : moment.foundIn = none) (hlooks : ∀ i, ¬IsLast (reportOf (some (replies i)))) :
    b.Yields configuration (s.scripted start replies count)
      (.error (.transport "script exhausted")) (b.requests (count + 1)) := by
  have hexhausted : reportOf (b.afterStart (s.scripted start replies count)).answers[count]? =
      .error (.transport "script exhausted") := by
    rw [List.getElem?_eq_none (Nat.le_of_eq length_scripted)]
    rfl
  have hnever : ∀ k, moment.foundIn = some k → count < k := by
    intro k hk
    rw [hfound] at hk
    cases hk
  have h := yields_last hproblem hstart hwaits hstarted hmoment hnever (fun i _ => hlooks i)
    (Nat.le_refl count)
  rw [hexhausted] at h
  exact h trivial

end Operation

/-- An operation on a backup follows the script of the replies. Without a backend or an id it fails
and sends nothing. Else it sends one request that starts it; it returns what the answer to that
request brings when it fails, when the state is final already or when there is no waiting. A wait
looks for the state under the path of the operation: it is cancelled in the turn whose check is the
first to find the cancellation, when it goes on after all looks before; it returns what the first
reply brings that ends it, when no check up to it has found a cancellation; and it looks once more
after every reply when there is neither. Every reply ends a wait or lets it go on, and one with a
report in JSON brings that report. -/
theorem run_follows_script (b : Backup) (configuration : Configuration) (s : Session)
    (start : Answer HttpReply) (replies : Nat → Answer HttpReply) :
    (b.backend = "" → ∀ count, b.Yields configuration (s.scripted start replies count)
      (.error (.configuration .backendMissing)) []) ∧
    (b.backend ≠ "" → b.id = "" → ∀ count, b.Yields configuration (s.scripted start replies count)
      (.error (.configuration .backupIdMissing)) []) ∧
    (b.backend ≠ "" → b.id ≠ "" →
      (∀ result, Ends start result → ∀ count,
        b.Yields configuration (s.scripted start replies count) result (b.requests 0)) ∧
      (b.waits = false → ∀ started, Answer.Brings BackupReport.reader (some start) started →
        ∀ count, b.Yields configuration (s.scripted start replies count) (.ok started)
          (b.requests 0)) ∧
      (b.waits = true → GoesOn start →
        let begun := b.afterStart (s.scripted start replies 0)
        (∃ moment, b.CancelledAt (b.pauseLength configuration) begun moment) ∧
        ∀ moment, b.CancelledAt (b.pauseLength configuration) begun moment →
          (∀ k, moment.foundIn = some k → (∀ i < k, GoesOn (replies i)) → ∀ count, k ≤ count →
            b.Yields configuration (s.scripted start replies count) (.error .cancelled)
              (b.requests k)) ∧
          (∀ j, (∀ k, moment.foundIn = some k → j < k) → (∀ i < j, GoesOn (replies i)) →
            ∀ result, Ends (replies j) result → ∀ count, j < count →
            b.Yields configuration (s.scripted start replies count) result (b.requests (j + 1))) ∧
          (moment.foundIn = none → (∀ i, GoesOn (replies i)) → ∀ count,
            b.Yields configuration (s.scripted start replies count)
              (.error (.transport "script exhausted")) (b.requests (count + 1))))) ∧
    (∀ answer, GoesOn answer ∨ ∃ result, Ends answer result) ∧
    ∀ members report, Reports members report → Answer.Brings BackupReport.reader
      (some (.reply ⟨200, Text.Utf8.encode (Json.text (.object members))⟩)) report := by
  refine ⟨?_, ?_, ?_, goesOn_or_ends, fun _ _ => brings_report⟩
  · intro hbackend count
    exact yields_of_problem (problem?_of_backend hbackend)
  · intro hbackend hid count
    exact yields_of_problem (problem?_of_id hbackend hid)
  intro hbackend hid
  have hproblem := problem?_of_named hbackend hid
  refine ⟨?_, ?_, ?_⟩
  · intro result hends count
    cases hends with
    | failed h => exact yields_of_start_error hproblem (Answer.fetched_eq_error_iff.2 h)
    | final h hfinal =>
      exact yields_of_done hproblem (Answer.fetched_eq_ok_iff.2 h) (.inr (isFinal_iff.2 hfinal))
  · intro hwaits started h count
    exact yields_of_done hproblem (Answer.fetched_eq_ok_iff.2 h) (.inl hwaits)
  intro hwaits hgoes
  obtain ⟨started, hstart, hstarted⟩ := hgoes.exists_reportOf
  refine ⟨exists_cancelledAt _ _ _, ?_⟩
  intro moment hmoment
  refine ⟨?_, ?_, ?_⟩
  · intro k hfound hlooks count hcount
    exact yields_cancelled hproblem hstart hwaits hstarted (cancelledAt_scripted hmoment) hfound
      (fun i hi => (hlooks i hi).not_isLast) hcount
  · intro j hfound hlooks result hends count hcount
    have h := yields_last hproblem hstart hwaits hstarted (cancelledAt_scripted hmoment) hfound
      (fun i hi => (hlooks i hi).not_isLast) (Nat.le_of_lt hcount)
    rw [reportOf_scripted hcount, hends.reportOf_eq] at h
    exact h (hends.reportOf_eq ▸ hends.isLast)
  · intro hfound hlooks count
    exact yields_exhausted hproblem hstart hwaits hstarted (cancelledAt_scripted hmoment) hfound
      fun i => (hlooks i).not_isLast

/-- A backup that is made and waited for. -/
def nightly : Backup where
  kind := .create
  backend := "s3"
  id := "b"
  waits := true
  pauseMilliseconds := some 10
  heedsCancellation := true

/-- A report on that backup. -/
def reported (status : BackupStatus) : BackupReport := { id := "b", backend := "s3", status }

/-- A reply that reports a state. -/
def told (status : BackupStatus) : Answer HttpReply :=
  .reply ⟨200, Text.Utf8.encode (Json.text (.object [("status", .string status.name),
    ("path", .null), ("id", .string "b"), ("backend", .string "s3"), ("took", .bool true)]))⟩

theorem brings_told (status : BackupStatus) :
    Answer.Brings BackupReport.reader (some (told status)) (reported status) := by
  refine brings_report ?_
  exact ⟨by simp, rfl, .inl rfl, .inr rfl, rfl, .inl rfl, .inr ⟨rfl, rfl⟩⟩

/-- Two looks at a backup that is under way, and then it is done. -/
def progress (look : Nat) : Answer HttpReply := told (if look < 2 then .transferring else .success)

theorem goesOn_progress {look : Nat} (h : look < 2) : GoesOn (progress look) := by
  rw [progress, if_pos h]
  exact ⟨_, brings_told .transferring, by decide, by decide⟩

/-- The backup is done after three looks; it is cancelled in the second pause, or during the second
look; a restoring is not waited for; and without a backend nothing is sent. -/
theorem run_follows_script_nightly :
    nightly.Yields {} (({} : Session).scripted (told .started) progress 3)
      (.ok (reported .success)) (nightly.requests 3) ∧
    nightly.Yields {}
      (({ cancellation := .atTime 15 } : Session).scripted (told .started) progress 3)
      (.error .cancelled) (nightly.requests 2) ∧
    nightly.Yields {}
      (({ cancellation := .atRequest 3, pausePrevails := true } : Session).scripted (told .started)
        progress 3) (.error .cancelled) (nightly.requests 2) ∧
    Yields { nightly with kind := .restore, waits := false } {}
      (({} : Session).scripted (told .started) progress 3) (.ok (reported .started))
      (requests { nightly with kind := .restore, waits := false } 0) ∧
    Yields { kind := .restore } {} (({} : Session).scripted (told .started) progress 3)
      (.error (.configuration .backendMissing)) [] := by
  have hstart : GoesOn (told .started) := ⟨_, brings_told .started, by decide, by decide⟩
  have hwait := fun s => ((run_follows_script nightly {} s (told .started) progress).2.2.1
    (by decide) (by decide)).2.2 rfl hstart
  have hlooks : ∀ i < 2, GoesOn (progress i) := fun _ hi => goesOn_progress hi
  have hdone : Ends (progress 2) (.ok (reported .success)) :=
    .final (brings_told .success) (.inl rfl)
  refine ⟨?_, ?_, ?_, ?_, ?_⟩
  · obtain ⟨-, hlast, -⟩ := (hwait {}).2 .never (Or.inr (Or.inl rfl))
    exact hlast 2 (fun k hk => nomatch hk) hlooks _ hdone 3 (by decide)
  · obtain ⟨hcancelled, -⟩ := (hwait { cancellation := .atTime 15 }).2 (.duringPause 1)
      ⟨rfl, 15, rfl, by decide, by decide⟩
    exact hcancelled 2 rfl hlooks 3 (by decide)
  · obtain ⟨hcancelled, -⟩ := (hwait { cancellation := .atRequest 3, pausePrevails := true }).2
      (.duringLook 1) ⟨rfl, rfl⟩
    exact hcancelled 2 rfl hlooks 3 (by decide)
  · obtain ⟨-, hreturned, -⟩ := (run_follows_script
      { nightly with kind := .restore, waits := false } {} {} (told .started) progress).2.2.1
      (by decide) (by decide)
    exact hreturned rfl _ (brings_told .started) 3
  · exact (run_follows_script { kind := .restore } {} {} (told .started) progress).1 rfl 3

end Backup

end VectorQuery.Client
