import VectorQuery.Number.Layout

/-!
# Refused settings

Nearly every setting is taken as it is, and the server judges it. Two are checked at once.
-/

namespace VectorQuery

/-- Why a setting is refused. -/
inductive SettingError where
  /-- The weight of a concept is not within zero and one. -/
  | weightOutOfRange (weight : Number.Single)
  /-- The stream of a medium cannot be read to its end. -/
  | mediaRead (reason : String)
  deriving DecidableEq

namespace SettingError

/-- What is said about a refused setting. -/
def message : SettingError → String
  | weightOutOfRange weight =>
    "weight must be within [0, 1], got " ++ Number.Layout.plain.text weight
  | mediaRead reason => "failed to read media source: " ++ reason

end SettingError

end VectorQuery
