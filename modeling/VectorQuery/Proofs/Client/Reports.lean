import VectorQuery.Client.Backup
import VectorQuery.Proofs.Client.Reply

/-!
# Reports on backups

What the server says of a backup is an object with some strings, of which all but the id and the
state may be left out. From the text of such an object the report is read. A wait goes on after a
report of a state that is not final, and everything else ends it.
-/

namespace VectorQuery.Client.Backup

/-- A string stands under a key of an object, or nothing or null if there is none. -/
def HasString (members : List (String × Json)) (key : String) : Option String → Prop
  | some s => Keyed.get? key members = some (.string s)
  | none => Keyed.get? key members = none ∨ Keyed.get? key members = some .null

/-- The members of an object tell a report; members of other names do not matter. -/
structure Reports (members : List (String × Json)) (report : BackupReport) : Prop where
  keys : (members.map Prod.fst).Nodup
  id : Keyed.get? "id" members = some (.string report.id)
  backend : Keyed.get? "backend" members = some (.string report.backend) ∨
    Keyed.get? "backend" members = none ∧ report.backend = ""
  path : HasString members "path" report.path
  status : Keyed.get? "status" members = some (.string report.status.name)
  error : HasString members "error" report.error
  classes : Keyed.get? "classes" members = some (.strings report.classes) ∨
    Keyed.get? "classes" members = none ∧ report.classes = []

section Reading

open Json Json.Reader Json.FieldReader

variable {members : List (String × Json)} {report : BackupReport} {key : String}

theorem readAs_status (status : BackupStatus) :
    ReadAs (named BackupStatus.ofName?) 0 (chars (.string status.name)) status := by
  have hname : ReadAs Reader.name 0 (chars (.string status.name)) status.name := by
    rw [chars]
    exact ⟨_, spelled_string _, fun room _ => by cases room <;> exact stringOf?_units _⟩
  exact hname.bind (by cases status <;> rfl)

theorem gives_string {value : Option String} (h : HasString members key value) (room : Nat) :
    (FieldReader.optional string).Gives (treeUnder? (writtenMembers members) key) room value := by
  cases value with
  | none => exact gives_optional_none h
  | some s =>
    exact gives_optional (get?_writtenMembers h) (fun _ => rfl) (readAs_string s) (Nat.zero_le room)

/-- A report is read from its members, in whatever order they stand. -/
theorem readAs_report (h : Reports members report) :
    ReadAs BackupReport.reader 2 (chars (.object members)) report := by
  refine readAs_object (by decide) h.keys fun room hroom => ⟨⟨[], room⟩, ?_⟩
  have hid := gives_required (get?_writtenMembers h.id) (readAs_string report.id)
    (Nat.zero_le room)
  have hstatus := gives_required (get?_writtenMembers h.status) (readAs_status report.status)
    (Nat.zero_le room)
  have hbackend : (withDefault "" string).Gives
      (treeUnder? (writtenMembers members) "backend") room report.backend := by
    rcases h.backend with hbackend | ⟨hbackend, hempty⟩
    · exact gives_withDefault (get?_writtenMembers hbackend) (readAs_string _) (Nat.zero_le room)
    · rw [hempty]
      exact gives_default (get?_writtenMembers_eq_none hbackend)
  have hclasses : (withDefault [] (list string)).Gives
      (treeUnder? (writtenMembers members) "classes") room report.classes := by
    rcases h.classes with hclasses | ⟨hclasses, hempty⟩
    · have hlist : ReadAs (list string) 1 (chars (.strings report.classes)) report.classes := by
        rw [Json.strings, chars_array, List.map_map]
        exact readAs_list fun s _ => readAs_string s
      exact gives_withDefault (get?_writtenMembers hclasses) hlist hroom
    · rw [hempty]
      exact gives_default (get?_writtenMembers_eq_none hclasses)
  simp only [List.map_cons, List.map_nil]
  rw [run_bind hid, run_bind hbackend, run_bind (gives_string h.path room), run_bind hstatus,
    run_bind (gives_string h.error room), run_bind hclasses]
  rfl

end Reading

/-- A reply of status 200 that tells a report in JSON brings the report. -/
theorem brings_report {members : List (String × Json)} {report : BackupReport}
    (h : Reports members report) : Answer.Brings BackupReport.reader
      (some (.reply ⟨200, Text.Utf8.encode (Json.text (.object members))⟩)) report :=
  Answer.brings_of_readAs (readAs_report h) (by decide)

/-! ## How a wait goes on -/

/-- An answer brings a report of a state that is not final. -/
def GoesOn (answer : Answer HttpReply) : Prop :=
  ∃ report, Answer.Brings BackupReport.reader (some answer) report ∧
    report.status ≠ .success ∧ report.status ≠ .failed

/-- An answer ends a wait with a result: it fails, or it brings a report of a final state. -/
inductive Ends (answer : Answer HttpReply) : Except Error BackupReport → Prop
  | failed {e : Error} (h : Answer.Fails BackupReport.reader (some answer) e) :
    Ends answer (.error e)
  | final {report : BackupReport} (h : Answer.Brings BackupReport.reader (some answer) report)
    (hfinal : report.status = .success ∨ report.status = .failed) : Ends answer (.ok report)

/-- What an answer says of the backup. -/
def reportOf (answer : Option (Answer HttpReply)) : Except Error BackupReport :=
  Action.fetched BackupReport.reader answer

/-- Whether a look is the last by what it brings: an error or a final state. -/
def IsLast : Except Error BackupReport → Prop
  | .ok report => report.status.isFinal = true
  | .error _ => True

theorem isFinal_iff {status : BackupStatus} :
    status.isFinal = true ↔ status = .success ∨ status = .failed := by
  cases status <;> decide

section Answers
variable {answer : Answer HttpReply} {result : Except Error BackupReport}

theorem Ends.reportOf_eq (h : Ends answer result) : reportOf (some answer) = result := by
  cases h with
  | failed h => exact Answer.fetched_eq_error_iff.2 h
  | final h _ => exact Answer.fetched_eq_ok_iff.2 h

theorem Ends.isLast (h : Ends answer result) : IsLast (reportOf (some answer)) := by
  rw [h.reportOf_eq]
  cases h with
  | failed h => exact trivial
  | final _ hfinal => exact isFinal_iff.2 hfinal

theorem GoesOn.exists_reportOf (h : GoesOn answer) :
    ∃ report, reportOf (some answer) = .ok report ∧ report.status.isFinal = false := by
  obtain ⟨report, hbrings, hsuccess, hfailed⟩ := h
  refine ⟨report, Answer.fetched_eq_ok_iff.2 hbrings, Bool.eq_false_iff.2 fun hfinal => ?_⟩
  exact (isFinal_iff.1 hfinal).elim hsuccess hfailed

theorem GoesOn.not_isLast (h : GoesOn answer) : ¬IsLast (reportOf (some answer)) := by
  obtain ⟨report, hreport, hfinal⟩ := h.exists_reportOf
  rw [hreport]
  intro hlast
  rw [IsLast, hfinal] at hlast
  exact Bool.false_ne_true hlast

/-- Every answer ends a wait or lets it go on. -/
theorem goesOn_or_ends (answer : Answer HttpReply) :
    GoesOn answer ∨ ∃ result, Ends answer result := by
  rcases Answer.brings_or_fails BackupReport.reader (some answer) with ⟨report, h⟩ | ⟨e, h⟩
  · by_cases hfinal : report.status.isFinal = true
    · exact .inr ⟨_, .final h (isFinal_iff.1 hfinal)⟩
    · rw [isFinal_iff, not_or] at hfinal
      exact .inl ⟨report, h, hfinal⟩
  · exact .inr ⟨_, .failed h⟩

end Answers

end VectorQuery.Client.Backup
