import VectorQuery.Client.Session
import VectorQuery.Concept

/-!
# Extending the vocabulary
-/

namespace VectorQuery.Client.Vocabulary

/-- The request that teaches a concept. -/
def request (c : Concept) : HttpRequest where
  method := .post
  path := "/modules/text2vec-contextionary/extensions"
  body := some c.json

/-- Teaches a concept; any status of success will do. -/
def extend (c : Concept) : Action Unit := do
  let reply ← Action.send (request c)
  if reply.isSuccess then return () else throw reply.unexpected

end VectorQuery.Client.Vocabulary
