import VectorQuery.Error
import VectorQuery.Media.Source
import VectorQuery.Similarity.Options

/-!
# Search near a medium

All kinds of media have the same clause under names of their own. A clause of one kind is a clause
that never changes its kind.
-/

namespace VectorQuery

open Document

/-- A search near a medium. -/
structure NearMedia where
  /-- The kind of medium. -/
  kind : MediaKind
  /-- The content. -/
  source : Option MediaSource := none
  options : SimilarityOptions := {}
  deriving DecidableEq

namespace NearMedia

/-- A setting of the clause. -/
inductive Setting where
  /-- The content. -/
  | source (source : MediaSource)
  /-- A stream with the content, which is read at once. -/
  | stream (reads : List Read)
  | option (setting : SimilarityOptions.Setting)

/-- The clause with one more setting. A stream that fails is refused. -/
def set (c : NearMedia) : Setting → Except SettingError NearMedia
  | .source source => .ok { c with source := some source }
  | .stream reads =>
    match drain reads with
    | .ok bytes => .ok { c with source := some (.bytes bytes) }
    | .error reason => .error (.mediaRead reason)
  | .option setting => .ok { c with options := c.options.set setting }

/-- The clause of a kind with the given settings, one after another. -/
def ofSettings (kind : MediaKind) (settings : List Setting) : Except SettingError NearMedia :=
  settings.foldlM set { kind }

/-- The content as base64; empty when none is set. -/
def encoded (c : NearMedia) : String := (c.source.map MediaSource.base64).getD ""

/-- The clause in a document. -/
def document (c : NearMedia) : Document :=
  entry c.kind.clauseName (braces (spaced (given
    [some (field c.kind.fieldName [.quoted c.encoded]),
      c.options.thresholdDocument,
      c.options.targetsDocument])))

/-- The clause as a message. -/
def message (c : NearMedia) : Rpc.NearMediaSearch where
  mediaType := c.kind.code
  media := c.encoded
  certainty := c.options.certainty
  distance := c.options.distance
  targetVectors := c.options.messageTargetVectors
  targets := c.options.messageTargets

theorem kind_of_set {c d : NearMedia} {s : Setting} (h : c.set s = .ok d) : d.kind = c.kind := by
  cases s with
  | source source =>
    cases h
    rfl
  | stream reads =>
    rw [set] at h
    cases hreads : drain reads with
    | ok bytes =>
      rw [hreads] at h
      cases h
      rfl
    | error reason =>
      rw [hreads] at h
      cases h
  | option setting =>
    cases h
    rfl

end NearMedia

/-- A search near a medium of one kind. -/
structure NearMediaOf (kind : MediaKind) where
  clause : NearMedia
  /-- The clause is of the kind. -/
  kind_clause : clause.kind = kind
  deriving DecidableEq

namespace NearMediaOf

variable {kind : MediaKind}

/-- The clause with one more setting. -/
def set (c : NearMediaOf kind) (s : NearMedia.Setting) : Except SettingError (NearMediaOf kind) :=
  match h : c.clause.set s with
  | .ok clause => .ok ⟨clause, (NearMedia.kind_of_set h).trans c.kind_clause⟩
  | .error e => .error e

/-- The clause with the given settings, one after another. -/
def ofSettings (kind : MediaKind) (settings : List NearMedia.Setting) :
    Except SettingError (NearMediaOf kind) :=
  settings.foldlM set ⟨{ kind }, rfl⟩

/-- The clause in a document. -/
def document (c : NearMediaOf kind) : Document := c.clause.document

/-- The clause as a message. -/
def message (c : NearMediaOf kind) : Rpc.NearMediaSearch := c.clause.message

end NearMediaOf

end VectorQuery
