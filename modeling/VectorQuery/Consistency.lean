/-!
# Consistency levels

How many replicas must take part in reading or writing.
-/

namespace VectorQuery

/-- How many replicas must take part. -/
inductive ConsistencyLevel where
  | one | quorum | all
  deriving DecidableEq, Repr

namespace ConsistencyLevel

/-- The name of a level in documents, in JSON and in requests. -/
def name : ConsistencyLevel → String
  | one => "ONE"
  | quorum => "QUORUM"
  | all => "ALL"

/-- The level with a name. -/
def ofName? (name : String) : Option ConsistencyLevel :=
  [one, quorum, all].find? fun level => level.name = name

/-- The number of a level in messages. -/
def code : ConsistencyLevel → Int32
  | one => 1
  | quorum => 2
  | all => 3

end ConsistencyLevel

end VectorQuery
