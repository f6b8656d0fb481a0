import VectorQuery.Similarity.Options

/-!
# Search near concepts

The clause gives concepts in words. The search may be moved towards other concepts and objects, or
away from them.
-/

namespace VectorQuery

open Number Document

/-- An object to move by, under its id or its beacon; what is empty is not given. -/
structure MoveObject where
  id : String := ""
  beacon : String := ""
  deriving DecidableEq

namespace MoveObject

/-- The object in a document. -/
def document (o : MoveObject) : Document :=
  braces (spaced (given
    [unlessEmpty o.id.toList (field "id" [.quoted o.id]),
      unlessEmpty o.beacon.toList (field "beacon" [.quoted o.beacon])]))

end MoveObject

/-- A move of the search. -/
structure Move where
  /-- The concepts to move by. -/
  concepts : List String := []
  /-- The objects to move by. -/
  objects : List MoveObject := []
  /-- How far to move. -/
  force : Single := Binary.zero
  deriving DecidableEq

namespace Move

/-- The move in a document. -/
def document (m : Move) : Document :=
  braces (spaced (given
    [unlessEmpty m.concepts (field "concepts" (strings m.concepts)),
      unlessEmpty m.objects (field "objects" (brackets (listed (m.objects.map
        MoveObject.document)))),
      some (field "force" [.single m.force])]))

/-- The move as a message. -/
def message (m : Move) : Rpc.Move where
  force := m.force
  concepts := m.concepts
  uuids := (m.objects.map MoveObject.id).filter fun id => !id.isEmpty
  beacons := (m.objects.map MoveObject.beacon).filter fun beacon => !beacon.isEmpty

end Move

/-- A search near concepts. -/
structure NearText where
  concepts : List String := []
  /-- What to move towards. -/
  moveTo : Option Move := none
  /-- What to move away from. -/
  moveAwayFrom : Option Move := none
  /-- Whether spelling is corrected. -/
  autocorrect : Option Bool := none
  options : SimilarityOptions := {}
  deriving DecidableEq

namespace NearText

/-- A setting of the clause. -/
inductive Setting where
  | concepts (concepts : List String)
  /-- What to move towards. -/
  | moveTo (move : Move)
  /-- What to move away from. -/
  | moveAwayFrom (move : Move)
  /-- Whether spelling is corrected. -/
  | autocorrect (b : Bool)
  | option (setting : SimilarityOptions.Setting)

/-- The clause with one more setting. -/
def set (c : NearText) : Setting → NearText
  | .concepts concepts => { c with concepts }
  | .moveTo move => { c with moveTo := some move }
  | .moveAwayFrom move => { c with moveAwayFrom := some move }
  | .autocorrect b => { c with autocorrect := some b }
  | .option setting => { c with options := c.options.set setting }

/-- The clause with the given settings, one after another. -/
def ofSettings (settings : List Setting) : NearText := settings.foldl set {}

/-- What stands behind the key of the clause. -/
def body (c : NearText) : Document :=
  braces (spaced (given
    [some (field "concepts" (strings c.concepts)),
      c.options.thresholdDocument,
      c.moveTo.map fun m => field "moveTo" m.document,
      c.moveAwayFrom.map fun m => field "moveAwayFrom" m.document,
      c.autocorrect.map fun b => field "autocorrect" [.bool b],
      c.options.targetsDocument]))

/-- The clause in a document. -/
def document (c : NearText) : Document := entry "nearText" c.body

/-- The clause as a message. -/
def message (c : NearText) : Rpc.NearTextSearch where
  query := c.concepts
  certainty := c.options.certainty
  distance := c.options.distance
  moveTo := c.moveTo.map Move.message
  moveAway := c.moveAwayFrom.map Move.message
  autocorrect := c.autocorrect
  targetVectors := c.options.messageTargetVectors
  targets := c.options.messageTargets

end NearText

end VectorQuery
