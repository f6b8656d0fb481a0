import VectorQuery.Client.Session
import VectorQuery.Json.Record

/-!
# Backups

Making or restoring a backup is started by one request. If the client is to wait for its end, it
asks for the state time and again, with a pause after each answer, until the state is final, a
request fails, or the wait is cancelled.
-/

namespace VectorQuery.Client

/-- The state of a backup. -/
inductive BackupStatus where
  | started | transferring | transferred | success | failed
  deriving DecidableEq, Repr

namespace BackupStatus

/-- All states. -/
def all : List BackupStatus := [started, transferring, transferred, success, failed]

/-- The name of a state. -/
def name : BackupStatus → String
  | started => "STARTED"
  | transferring => "TRANSFERRING"
  | transferred => "TRANSFERRED"
  | success => "SUCCESS"
  | failed => "FAILED"

/-- The state with a name. -/
def ofName? (name : String) : Option BackupStatus := all.find? fun status => status.name = name

/-- Whether a state is final. -/
def isFinal : BackupStatus → Bool
  | success | failed => true
  | _ => false

end BackupStatus

/-- What the server says of a backup. -/
structure BackupReport where
  id : String
  /-- The backend that holds it. -/
  backend : String := ""
  /-- Where the backend holds it. -/
  path : Option String := none
  /-- The state. -/
  status : BackupStatus
  /-- Why it failed. -/
  error : Option String := none
  /-- The classes in it. -/
  classes : List String := []
  deriving DecidableEq

open Json Json.Reader Json.FieldReader in
/-- Reads what the server says of a backup. -/
def BackupReport.reader : Json.Reader BackupReport :=
  record ["id", "backend", "path", "status", "error", "classes"] do
    let id ← required string
    let backend ← withDefault "" string
    let path ← FieldReader.optional string
    let status ← required (named BackupStatus.ofName?)
    let error ← FieldReader.optional string
    let classes ← withDefault [] (list string)
    return { id, backend, path, status, error, classes }

/-- Whether a backup is made or restored. -/
inductive BackupKind where
  | create | restore
  deriving DecidableEq, Repr

/-- Making or restoring a backup. -/
structure Backup where
  /-- Whether it is made or restored. -/
  kind : BackupKind
  /-- The backend that holds it. -/
  backend : String := ""
  /-- Its id. -/
  id : String := ""
  /-- The classes to take; all when there are none. -/
  included : List String := []
  /-- The classes to leave out. -/
  excluded : List String := []
  /-- Whether to wait for the end. -/
  waits : Bool := false
  /-- How many milliseconds to pause between two looks, if not as the client is configured. -/
  pauseMilliseconds : Option Nat := none
  /-- Whether the wait heeds the cancellation of the session. -/
  heedsCancellation : Bool := false
  deriving DecidableEq

namespace Backup

/-- The path of the backend. -/
def backendPath (b : Backup) : String := "/backups/" ++ b.backend

/-- The path of the backup. -/
def backupPath (b : Backup) : String := b.backendPath ++ "/" ++ b.id

/-- The path under which the state is told. -/
def statusPath (b : Backup) : String :=
  match b.kind with
  | .create => b.backupPath
  | .restore => b.backupPath ++ "/restore"

/-- The path under which the operation is started. -/
def startPath (b : Backup) : String :=
  match b.kind with
  | .create => b.backendPath
  | .restore => b.statusPath

/-- The body that starts the operation. -/
def json (b : Backup) : Json :=
  let classes := [("include", Json.strings b.included), ("exclude", Json.strings b.excluded)]
  match b.kind with
  | .create => .ofMembers (("id", .string b.id) :: classes)
  | .restore => .ofMembers classes

/-- The request that starts the operation. -/
def startRequest (b : Backup) : HttpRequest where
  method := .post
  path := b.startPath
  body := some b.json

/-- The request that asks for the state. -/
def statusRequest (b : Backup) : HttpRequest where
  method := .get
  path := b.statusPath

/-- What the operation lacks, if it lacks anything. -/
def problem? (b : Backup) : Option ConfigurationError :=
  if b.backend.isEmpty then some .backendMissing
  else if b.id.isEmpty then some .backupIdMissing
  else none

/-- Fails if the operation lacks anything. -/
def check (b : Backup) : Action Unit :=
  match b.problem? with
  | some problem => throw (.configuration problem)
  | none => return ()

/-- Asks for the state. -/
def look (b : Backup) : Action BackupReport :=
  Action.fetch BackupReport.reader b.statusRequest

/-- Fails if the wait is cancelled. -/
def checkCancelled (b : Backup) : Action Unit := do
  if b.heedsCancellation && (← get).isCancelled then throw .cancelled

/-- Pauses; fails if the wait is cancelled by the end of the pause. -/
def pause (b : Backup) (interval : Nat) : Action Unit := ExceptT.mk fun s =>
  match s.pause interval b.heedsCancellation with
  | (true, s) => (.error .cancelled, s)
  | (false, s) => (.ok (), s)

/-- Asks for the state until it is final, so many times and once more. -/
def lookUntilFinal (b : Backup) (interval : Nat) : Nat → Action BackupReport
  | 0 => do
    b.checkCancelled
    b.look
  | count + 1 => do
    b.checkCancelled
    let report ← b.look
    if report.status.isFinal then return report
    b.pause interval
    b.lookUntilFinal interval count

/-- Waits for the end. Every look takes an answer, and a look without one fails, so there are at
most as many looks as answers and one more. -/
def awaitEnd (b : Backup) (interval : Nat) : Action BackupReport := do
  b.lookUntilFinal interval (← get).answers.length

/-- Starts the operation and waits for its end if that is asked for. -/
def run (b : Backup) (configuration : Configuration) : Action BackupReport := do
  b.check
  let started ← Action.fetch BackupReport.reader b.startRequest
  if !b.waits || started.status.isFinal then return started
  b.awaitEnd (b.pauseMilliseconds.getD configuration.pauseMilliseconds)

/-- Asks for the state once. -/
def status (b : Backup) : Action BackupReport := do
  b.check
  b.look

end Backup

end VectorQuery.Client
