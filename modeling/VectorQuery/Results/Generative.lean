import VectorQuery.Document
import VectorQuery.Rpc.Search

/-!
# Generating from results

A prompt is answered for each object found, and a task is answered once for all of them. Both are
written as block strings, so that they may hold quotes and several lines.
-/

namespace VectorQuery

open Document

/-- What is generated from the objects found. -/
structure GenerativeSearch where
  /-- The prompt for each object. -/
  singlePrompt : Option String := none
  /-- The task for all objects together. -/
  groupedTask : Option String := none
  /-- The properties that the task may use. -/
  groupedProperties : List String := []
  deriving DecidableEq

namespace GenerativeSearch

/-- A setting of the clause. -/
inductive Setting where
  /-- The prompt. -/
  | singlePrompt (prompt : String)
  /-- The task. -/
  | groupedTask (task : String)
  /-- The properties. -/
  | groupedProperties (properties : List String)

/-- The clause with one more setting. -/
def set (c : GenerativeSearch) : Setting → GenerativeSearch
  | .singlePrompt prompt => { c with singlePrompt := some prompt }
  | .groupedTask task => { c with groupedTask := some task }
  | .groupedProperties properties => { c with groupedProperties := properties }

/-- The clause with the given settings, one after another. -/
def ofSettings (settings : List Setting) : GenerativeSearch := settings.foldl set {}

/-- What stands between the braces of the task. -/
def taskBody (c : GenerativeSearch) (task : String) : Document :=
  spaced (given
    [some (entry "task" [.block task]),
      unlessEmpty c.groupedProperties (entry "properties" (strings c.groupedProperties))])

/-- The clause, which stands among the selected fields of a document. -/
def document (c : GenerativeSearch) : Document :=
  let arguments := spaced (given
    [c.singlePrompt.map fun prompt =>
        entry "singleResult" (braces (entry "prompt" [.block prompt])),
      c.groupedTask.map fun task => entry "groupedResult" (braces (c.taskBody task))])
  let results := spaced (given
    [c.singlePrompt.map fun _ => [.word "singleResult"],
      c.groupedTask.map fun _ => [.word "groupedResult"],
      some [.word "error"]])
  .word "_additional" :: braces (.word "generate" :: parens arguments ++ braces results)

/-- The clause as a message. -/
def message (c : GenerativeSearch) : Rpc.GenerativeSearch where
  singleResponsePrompt := c.singlePrompt.getD ""
  groupedResponseTask := c.groupedTask.getD ""
  groupedProperties := c.groupedProperties

end GenerativeSearch

end VectorQuery
