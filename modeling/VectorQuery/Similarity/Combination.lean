import VectorQuery.Document
import VectorQuery.Rpc.Search

/-!
# Combinations of target vectors

A search of a class with several named vectors may search more than one of them and combine the
scores. A combination is chosen as a whole: each choice replaces the one before it, and a choice
without targets changes nothing. Targets are distinct and stand in the order of their first mention;
a target that is given several weights has all of them, in their order.
-/

namespace VectorQuery

open Number Document

/-- How the scores of targets are combined. -/
inductive CombinationMethod where
  | sum | average | minimum | manualWeights | relativeScore
  deriving DecidableEq, Repr

namespace CombinationMethod

/-- The name of a method in documents. -/
def name : CombinationMethod → String
  | sum => "sum"
  | average => "average"
  | minimum => "minimum"
  | manualWeights => "manualWeights"
  | relativeScore => "relativeScore"

/-- The number of a method in messages. -/
def code : CombinationMethod → Int32
  | sum => 1
  | average => 2
  | minimum => 3
  | manualWeights => 4
  | relativeScore => 5

end CombinationMethod

/-- The weight of a target. -/
inductive TargetWeight where
  /-- One weight. -/
  | single (w : Single)
  /-- Several weights, of a target that counts several times. -/
  | multi (ws : List Single)
  deriving DecidableEq

namespace TargetWeight

/-- The weights, in their order. -/
def values : TargetWeight → List Single
  | single w => [w]
  | multi ws => ws

/-- The weights of both, those of the first in front. -/
def merge (a b : TargetWeight) : TargetWeight := multi (a.values ++ b.values)

/-- A weight in a document. -/
def document : TargetWeight → Document
  | single w => [.single w]
  | multi ws => singles ws

end TargetWeight

/-- A combination of target vectors. -/
structure Combination where
  /-- The method, once a choice has been made. -/
  method : Option CombinationMethod := none
  /-- The names of the targets. -/
  targetVectors : List String := []
  /-- The weights of the targets, in the order of the names; none for methods without weights. -/
  weights : List TargetWeight := []
  deriving DecidableEq

namespace Combination

/-- Whether a choice has been made. -/
def isSet (c : Combination) : Bool := c.method.isSome

/-- A name behind the names before it, unless it is one of them. -/
def addName (names : List String) (name : String) : List String :=
  if names.contains name then names else names ++ [name]

/-- The names without repetitions. -/
def distinct (names : List String) : List String := names.foldl addName []

/-- A weighted target among those before it: merged into the target of its name, or behind them. -/
def addWeighted (pairs : List (String × TargetWeight)) (pair : String × TargetWeight) :
    List (String × TargetWeight) :=
  if pairs.any fun p => p.1 = pair.1 then
    pairs.map fun p => if p.1 = pair.1 then (p.1, p.2.merge pair.2) else p
  else pairs ++ [pair]

/-- The weighted targets with one entry for each name. -/
def regroup (pairs : List (String × TargetWeight)) : List (String × TargetWeight) :=
  pairs.foldl addWeighted []

/-- A choice of a combination. -/
inductive Setting where
  /-- A method without weights, which is the sum, the average or the minimum. -/
  | unweighted (method : CombinationMethod) (names : List String)
  /-- A method with weights, given by hand or after normalization. -/
  | weighted (method : CombinationMethod) (pairs : List (String × TargetWeight))

/-- The combination after one more choice. -/
def set (c : Combination) : Setting → Combination
  | .unweighted method names =>
    if names.isEmpty then c else ⟨some method, distinct names, []⟩
  | .weighted method pairs =>
    if pairs.isEmpty then c
    else ⟨some method, (regroup pairs).map Prod.fst, (regroup pairs).map Prod.snd⟩

/-- The combination after the given choices, one after another. -/
def ofSettings (settings : List Setting) : Combination := settings.foldl set {}

/-- The combination in a document. -/
def document (c : Combination) : Document :=
  entry "targets" (braces (spaced (given
    [c.method.map fun method => field "combinationMethod" [.word method.name],
      some (field "targetVectors" (strings c.targetVectors)),
      unlessEmpty c.weights (field "weights" (braces (spaced
        ((c.targetVectors.zip c.weights).map fun (name, w) => field name w.document))))])))

/-- The weights of all targets one by one, each with the name of its target. -/
def expanded (c : Combination) : List (String × Single) :=
  (c.targetVectors.zip c.weights).flatMap fun (name, w) => w.values.map fun v => (name, v)

/-- The combination as a message, in which a target is listed once for each of its weights. -/
def message (c : Combination) : Rpc.Targets :=
  let combination := (c.method.map CombinationMethod.code).getD 0
  if c.weights.isEmpty then { targetVectors := c.targetVectors, combination }
  else
    { targetVectors := c.expanded.map Prod.fst
      combination
      weightsForTargets := c.expanded.map fun (target, weight) => { target, weight } }

end Combination

end VectorQuery
