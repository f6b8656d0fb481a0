import VectorQuery.Proofs.Client.Waiting

/-!
# Which backup a path names

The paths of an operation on a backup hold the names of its backend and of the backup as they are.
So a question mark or a number sign in a name begins a query string or a fragment, and a slash in a
name moves the border between the two names: two operations share the path of their state exactly
when their names run together to the same text. Names without these characters are told apart.
-/

namespace VectorQuery.Client

variable {α β : Type}

/-- Whether a path ends early, at a query string or at a fragment. -/
def CarriesQuery (path : String) : Prop := '?' ∈ path.toList ∨ '#' ∈ path.toList

instance (path : String) : Decidable (CarriesQuery path) := inferInstanceAs (Decidable (_ ∨ _))

theorem carriesQuery_append (p q : String) :
    CarriesQuery (p ++ q) ↔ CarriesQuery p ∨ CarriesQuery q := by
  simp only [CarriesQuery, String.toList_append, List.mem_append]
  exact or_or_or_comm

namespace Action

/-- In every session the operation sends nothing but requests of a kind. -/
def Sends (P : Request → Prop) (a : Action α) : Prop :=
  ∀ s, ∃ new, (a.run.run s).2.sent = s.sent ++ new ∧ ∀ r ∈ new, P r

variable {P : Request → Prop} {a : Action α}

theorem Sends.nothing (h : ∀ s, (a.run.run s).2.sent = s.sent) : Sends P a := by
  intro s
  exact ⟨[], by rw [h, List.append_nil], nofun⟩

/-- What fails sends no more, and what succeeds sends what comes after it behind its own
requests. -/
theorem Sends.bind {f : α → Action β} (ha : Sends P a) (hf : ∀ x, Sends P (f x)) :
    Sends P (a >>= f) := by
  intro s
  obtain ⟨new, hsent, hnew⟩ := ha s
  cases hrun : a.run.run s with
  | mk result s' =>
    rw [hrun] at hsent
    cases result with
    | error e =>
      rw [run_bind_error hrun]
      exact ⟨new, hsent, hnew⟩
    | ok x =>
      obtain ⟨more, hmore, hall⟩ := hf x s'
      rw [run_bind_ok hrun]
      refine ⟨new ++ more, ?_, fun r hr => ?_⟩
      · rw [hmore, hsent, List.append_assoc]
      · exact (List.mem_append.1 hr).elim (hnew r) (hall r)

theorem Sends.fetch (reader : Json.Reader α) {r : HttpRequest} (h : P (.http r)) :
    Sends P (fetch reader r) := by
  intro s
  rw [run_fetch]
  refine ⟨[.http r], rfl, fun request hrequest => ?_⟩
  rwa [List.mem_singleton.1 hrequest]

theorem Sends.mono {Q : Request → Prop} (ha : Sends P a) (h : ∀ r, P r → Q r) : Sends Q a := by
  intro s
  obtain ⟨new, hsent, hnew⟩ := ha s
  exact ⟨new, hsent, fun r hr => h r (hnew r hr)⟩

end Action

namespace Backup

variable {b c : Backup}

/-! ## What an operation asks for -/

/-- The request that asks for the state of an operation. -/
def Asks (b : Backup) (r : Request) : Prop := r = .http b.statusRequest

theorem sends_check : Action.Sends b.Asks b.check := by
  refine .nothing fun s => ?_
  unfold check
  split <;> rfl

theorem sends_look : Action.Sends b.Asks b.look := .fetch _ rfl

theorem sends_checkCancelled : Action.Sends b.Asks b.checkCancelled :=
  .nothing fun s => by rw [run_checkCancelled]

theorem sends_pause (interval : Nat) : Action.Sends b.Asks (b.pause interval) := by
  refine .nothing fun s => ?_
  rcases run_pause b interval s with hpause | ⟨-, s', hsent, hpause⟩
  · rw [hpause]
  · rw [hpause, hsent]

/-- A wait asks for nothing but the state, however often it goes round. -/
theorem sends_lookUntilFinal (interval count : Nat) :
    Action.Sends b.Asks (b.lookUntilFinal interval count) := by
  induction count with
  | zero => exact sends_checkCancelled.bind fun _ => sends_look
  | succ count ih =>
    refine sends_checkCancelled.bind fun _ => sends_look.bind fun report => ?_
    split
    · exact .nothing fun s => rfl
    · exact (sends_pause interval).bind fun _ => ih

theorem sends_awaitEnd (interval : Nat) : Action.Sends b.Asks (b.awaitEnd interval) := by
  intro s
  rw [run_awaitEnd]
  exact sends_lookUntilFinal interval s.answers.length s

theorem sends_status : Action.Sends b.Asks b.status := sends_check.bind fun _ => sends_look

theorem sends_run (configuration : Configuration) :
    Action.Sends (fun r => r = .http b.startRequest ∨ b.Asks r) (b.run configuration) := by
  refine (sends_check.mono fun _ => .inr).bind fun _ => ?_
  refine (Action.Sends.fetch _ (.inl rfl)).bind fun started => ?_
  split
  · exact .nothing fun s => rfl
  · exact (sends_awaitEnd _).mono fun _ => .inr

/-! ## Names in paths -/

/-- What stands behind the backend in the path of the state. -/
def place (b : Backup) : String :=
  match b.kind with
  | .create => b.id
  | .restore => b.id ++ "/restore"

/-- Two operations of one kind with the same names. -/
def SameNames (b c : Backup) : Prop := b.kind = c.kind ∧ b.backend = c.backend ∧ b.id = c.id

/-- One operation makes a backup under an id that is the id which the other restores and the end of
the path of that restoring. -/
def Shadows (b c : Backup) : Prop :=
  b.kind = .create ∧ c.kind = .restore ∧ b.backend = c.backend ∧ b.id = c.id ++ "/restore"

/-- The backend of the one goes on, behind a slash, with the beginning of the place of the other. -/
def Shifts (b c : Backup) : Prop :=
  ∃ m, c.backend.toList = b.backend.toList ++ '/' :: m ∧
    b.place.toList = m ++ '/' :: c.place.toList

/-- Whether a name of the operation holds a slash. -/
def HoldsSlash (b : Backup) : Prop := '/' ∈ b.backend.toList ∨ '/' ∈ b.id.toList

theorem statusPath_eq (b : Backup) :
    b.statusPath = "/backups/" ++ b.backend ++ ("/" ++ b.place) := by
  unfold statusPath place backupPath backendPath
  cases b.kind with
  | create => exact String.append_assoc ..
  | restore => simp only [String.append_assoc]

theorem carriesQuery_place : CarriesQuery b.place ↔ CarriesQuery b.id := by
  unfold place
  cases b.kind with
  | create => exact Iff.rfl
  | restore =>
    show CarriesQuery (b.id ++ "/restore") ↔ _
    rw [carriesQuery_append, or_iff_left (by decide)]

theorem carriesQuery_backendPath : CarriesQuery b.backendPath ↔ CarriesQuery b.backend := by
  rw [backendPath, carriesQuery_append, or_iff_right (by decide)]

theorem carriesQuery_statusPath :
    CarriesQuery b.statusPath ↔ CarriesQuery b.backend ∨ CarriesQuery b.id := by
  have hbackups : ¬CarriesQuery "/backups/" := by decide
  have hslash : ¬CarriesQuery "/" := by decide
  rw [statusPath_eq, carriesQuery_append, carriesQuery_append, carriesQuery_append,
    or_iff_right hbackups, or_iff_right hslash, carriesQuery_place]

theorem carriesQuery_startPath : CarriesQuery b.startPath ↔
    CarriesQuery b.backend ∨ b.kind = .restore ∧ CarriesQuery b.id := by
  unfold startPath
  cases h : b.kind with
  | create => simp [carriesQuery_backendPath]
  | restore => simp [carriesQuery_statusPath]

/-- Two texts with a slash inside are the same when they have the same parts, or when the first part
of one goes on into the second part of the other. -/
theorem append_slash_eq_iff {xs ys ps qs : List Char} : xs ++ '/' :: ps = ys ++ '/' :: qs ↔
    (xs = ys ∧ ps = qs) ∨ (∃ m, ys = xs ++ '/' :: m ∧ ps = m ++ '/' :: qs) ∨
      ∃ m, xs = ys ++ '/' :: m ∧ qs = m ++ '/' :: ps := by
  constructor
  · intro h
    rcases List.append_eq_append_iff.1 h with ⟨m, hys, hps⟩ | ⟨m, hxs, hqs⟩
    · cases m with
      | nil => exact .inl ⟨by simpa using hys.symm, by simpa using hps⟩
      | cons d m =>
        obtain ⟨rfl, htail⟩ := List.cons.inj hps
        exact .inr (.inl ⟨m, hys, htail⟩)
    · cases m with
      | nil => exact .inl ⟨by simpa using hxs, by simpa using hqs.symm⟩
      | cons d m =>
        obtain ⟨rfl, htail⟩ := List.cons.inj hqs
        exact .inr (.inr ⟨m, hxs, htail⟩)
  · rintro (⟨rfl, rfl⟩ | ⟨m, rfl, rfl⟩ | ⟨m, rfl, rfl⟩) <;> simp

theorem place_eq_iff (h : b.backend = c.backend) :
    b.place = c.place ↔ b.SameNames c ∨ b.Shadows c ∨ c.Shadows b := by
  unfold place SameNames Shadows
  cases hb : b.kind <;> cases hc : c.kind <;> simp [h, eq_comm]

/-- Two operations share the path of their state exactly when they have the same names or their
names run together to the same text. -/
theorem statusPath_eq_iff : b.statusPath = c.statusPath ↔
    b.SameNames c ∨ b.Shadows c ∨ c.Shadows b ∨ b.Shifts c ∨ c.Shifts b := by
  have hlists : b.statusPath = c.statusPath ↔
      b.backend.toList ++ '/' :: b.place.toList = c.backend.toList ++ '/' :: c.place.toList := by
    rw [statusPath_eq, statusPath_eq, ← String.toList_inj]
    simp
  have hsame : b.backend.toList = c.backend.toList ∧ b.place.toList = c.place.toList ↔
      b.SameNames c ∨ b.Shadows c ∨ c.Shadows b := by
    rw [String.toList_inj, String.toList_inj]
    constructor
    · rintro ⟨hbackend, hplace⟩
      exact (place_eq_iff hbackend).1 hplace
    · intro h
      have hbackend : b.backend = c.backend := by
        rcases h with ⟨-, h, -⟩ | ⟨-, -, h, -⟩ | ⟨-, -, h, -⟩
        · exact h
        · exact h
        · exact h.symm
      exact ⟨hbackend, (place_eq_iff hbackend).2 h⟩
  rw [hlists, append_slash_eq_iff, hsame, or_assoc, or_assoc]
  rfl

theorem Shadows.holdsSlash (h : b.Shadows c) : b.HoldsSlash := by
  obtain ⟨-, -, -, hid⟩ := h
  refine .inr ?_
  rw [hid, String.toList_append]
  exact List.mem_append_right _ (by decide)

theorem Shifts.holdsSlash (h : b.Shifts c) : c.HoldsSlash := by
  obtain ⟨m, hbackend, -⟩ := h
  refine .inl ?_
  rw [hbackend]
  simp

/-- How the paths of an operation name its backup. -/
structure Names (b : Backup) : Prop where
  /-- Nothing is sent but the request that starts it and requests for its state. -/
  run_sends : ∀ configuration,
    Action.Sends (fun r => r = .http b.startRequest ∨ b.Asks r) (b.run configuration)
  /-- Asking for the state sends nothing else. -/
  status_sends : Action.Sends b.Asks b.status
  /-- The path that starts it carries a query string exactly when a name in it does. -/
  start_carriesQuery : CarriesQuery b.startRequest.path ↔
    CarriesQuery b.backend ∨ b.kind = .restore ∧ CarriesQuery b.id
  /-- So does the path of its state. -/
  status_carriesQuery : CarriesQuery b.statusRequest.path ↔
    CarriesQuery b.backend ∨ CarriesQuery b.id
  /-- The path of its state is shared with the operations whose names run together to the same
  text. -/
  shared_iff : ∀ c : Backup, b.statusRequest.path = c.statusRequest.path ↔
    b.SameNames c ∨ b.Shadows c ∨ c.Shadows b ∨ b.Shifts c ∨ c.Shifts b
  /-- Operations whose names hold no slash are told apart. -/
  separate : ∀ c : Backup, ¬b.HoldsSlash → ¬c.HoldsSlash →
    (b.statusRequest.path = c.statusRequest.path ↔ b.SameNames c)

/-- The paths of an operation name its backup as far as the names in them hold no character that
means something in a path. -/
theorem paths_name_backup (b : Backup) : b.Names := by
  refine ⟨sends_run, sends_status, carriesQuery_startPath, carriesQuery_statusPath,
    fun c => statusPath_eq_iff, ?_⟩
  intro c hb hc
  show b.statusPath = c.statusPath ↔ _
  rw [statusPath_eq_iff]
  constructor
  · rintro (h | h | h | h | h)
    · exact h
    · exact absurd h.holdsSlash hb
    · exact absurd h.holdsSlash hc
    · exact absurd h.holdsSlash hc
    · exact absurd h.holdsSlash hb
  · exact .inl

/-- A backup in a backend whose name goes on with a query string. -/
def queried : Backup := { kind := .create, backend := "s3?region=eu", id := "b" }

/-- Restoring a backup, and making one whose id ends like the path of that. -/
def restored : Backup := { kind := .restore, backend := "s3", id := "b" }

/-- Making a backup whose id ends like the path of restoring another. -/
def disguised : Backup := { kind := .create, backend := "s3", id := "b/restore" }

/-- None of the three operations lacks anything; the first sends a path with a query string, and the
other two ask for their state under one path. -/
theorem paths_run_together :
    (queried.problem? = none ∧
      ((queried.run {}).run.run {}).2.sent = [.http queried.startRequest] ∧
      CarriesQuery queried.startRequest.path) ∧
    (restored.problem? = none ∧ disguised.problem? = none ∧ restored.kind ≠ disguised.kind ∧
      restored.id ≠ disguised.id ∧ restored.statusRequest.path = disguised.statusRequest.path) := by
  refine ⟨⟨by decide, ?_, by decide⟩, by decide, by decide, by decide, by decide, by decide⟩
  rw [run_of_named (by decide)]
  rfl

end Backup

end VectorQuery.Client
