import VectorQuery.Proofs.Query.ClauseText
import VectorQuery.Proofs.Text.LastMark
import VectorQuery.Results.Generative

/-!
# What the text of a generative search determines

The prompt and the task stand in block strings, between which clauses follow that a prompt may look
like. Still the text determines both of them, whatever they hold, and with a task it determines the
properties too. Without a task the properties are not written, and the message has them all the
same.
-/

namespace VectorQuery

namespace Document

open Piece Text Grammar

theorem strings_eq_of_chars_eq {xs ys : List String}
    (h : chars (strings xs) = chars (strings ys)) : xs = ys := by
  have htext : text (strings xs) = text (strings ys) := congrArg String.ofList h
  have htokens : tokens (strings xs) = tokens (strings ys) := by
    rw [← Shaped.tokensOf_text FloatProperty.finite_excludesNaN (by simp) (by simp),
      ← Shaped.tokensOf_text FloatProperty.finite_excludesNaN (by simp) (by simp), htext]
  refine strings_inj ?_
  rw [tree, tree, trees, trees, htokens]

theorem fewQuotes_strings (ss : List String) : FewQuotes 0 (chars (strings ss)) := by
  have hlist : FewQuotes 0 (chars (packed (ss.map fun s => [quoted s])) ++ [']']) := by
    induction ss with
    | nil => simp [packed, fewQuotes_cons]
    | cons s ss ih =>
      cases ss with
      | nil =>
        have hlast : FewQuotes 0 (quotedChars s.toList ++ [']']) :=
          fewQuotes_quotedChars s.toList ((fewQuotes_cons (by decide)).2 trivial)
        simpa [packed, Piece.chars] using hlast
      | cons t ss =>
        have hrest := fewQuotes_quotedChars s.toList
          ((fewQuotes_cons (show ',' ≠ '"' by decide)).2 ih)
        simpa [packed, Piece.chars, List.intercalate_cons_cons] using hrest
  show FewQuotes 0 ('[' :: chars (packed (ss.map fun s => [quoted s]) ++ [mark ']']))
  rw [chars_append]
  exact (fewQuotes_cons (by decide)).2 hlist

end Document

namespace GenerativeSearch

open Document Piece Text

/-- The prompt among the arguments. -/
def promptPart (prompt : String) : Document :=
  entry "singleResult" (braces (entry "prompt" [.block prompt]))

/-- The properties behind the task. -/
def propertiesPart (properties : List String) : Document :=
  if properties.isEmpty then [] else mark ' ' :: entry "properties" (strings properties)

/-- The task among the arguments. -/
def taskPart (task : String) (properties : List String) : Document :=
  entry "groupedResult" (braces (entry "task" [.block task] ++ propertiesPart properties))

/-- The arguments. -/
def argumentsPart : Option String → Option String → List String → Document
  | none, none, _ => []
  | some prompt, none, _ => promptPart prompt
  | none, some task, properties => taskPart task properties
  | some prompt, some task, properties => promptPart prompt ++ mark ' ' :: taskPart task properties

/-- What stands behind the arguments, which are a prompt and a task or one of them or none. -/
def resultsPart (prompt task : Bool) : Document :=
  mark ')' :: braces (spaced (given
    [if prompt then some [.word "singleResult"] else none,
      if task then some [.word "groupedResult"] else none, some [.word "error"]])) ++ [mark '}']

/-- The clause without the properties that it has for no task. -/
def shown (c : GenerativeSearch) : GenerativeSearch :=
  { c with groupedProperties := if c.groupedTask.isSome then c.groupedProperties else [] }

theorem taskBody_eq (c : GenerativeSearch) (task : String) :
    c.taskBody task = entry "task" [.block task] ++ propertiesPart c.groupedProperties := by
  unfold taskBody propertiesPart unlessEmpty
  by_cases hempty : c.groupedProperties.isEmpty = true
  · rw [if_pos hempty, if_pos hempty]
    simp [given, spaced]
  · rw [if_neg hempty, if_neg hempty]
    simp [given, spaced, List.intercalate_cons_cons]

theorem document_eq (c : GenerativeSearch) :
    c.document = [word "_additional", mark '{', word "generate", mark '('] ++
      argumentsPart c.singlePrompt c.groupedTask c.groupedProperties ++
      resultsPart c.singlePrompt.isSome c.groupedTask.isSome := by
  obtain ⟨prompt, task, properties⟩ := c
  cases prompt <;> cases task <;>
    simp [document, taskBody_eq, argumentsPart, promptPart, taskPart, resultsPart, given, spaced,
      parens, braces, List.intercalate_cons_cons]

theorem document_shown (c : GenerativeSearch) : c.shown.document = c.document := by
  obtain ⟨prompt, task, properties⟩ := c
  cases task with
  | none => rw [document_eq, document_eq]; cases prompt <;> rfl
  | some task => rfl

/-- Of two different ends none is the end of the other. -/
theorem resultsPart_inj {prompt task prompt' task' : Bool} {xs ys : List Char}
    (h : xs ++ (resultsPart prompt task).chars = ys ++ (resultsPart prompt' task').chars) :
    prompt = prompt' ∧ task = task' ∧ xs = ys := by
  have hends : ∀ p t p' t' : Bool, (resultsPart p t).chars <:+ (resultsPart p' t').chars →
      p = p' ∧ t = t' := by decide +kernel
  have hboth : prompt = prompt' ∧ task = task' := by
    rcases List.suffix_or_suffix_of_suffix (List.suffix_append xs _)
      (h ▸ List.suffix_append ys _) with hsuffix | hsuffix
    · exact hends _ _ _ _ hsuffix
    · exact (hends _ _ _ _ hsuffix).imp Eq.symm Eq.symm
  obtain ⟨rfl, rfl⟩ := hboth
  exact ⟨rfl, rfl, List.append_cancel_right h⟩

theorem promptPart_inj {prompt prompt' : String}
    (h : (promptPart prompt).chars = (promptPart prompt').chars) : prompt = prompt' := by
  have hprompt : ∀ prompt, (promptPart prompt).chars =
      "singleResult:\x7bprompt:\"\"\"".toList ++
        (escapeTripleQuotes prompt.toList ++ "\"\"\"\x7d".toList) := by
    intro prompt
    simp [promptPart, entry, braces, Piece.chars, blockChars]
  rw [hprompt, hprompt] at h
  exact String.toList_inj.1 (escapeTripleQuotes_injective
    (List.append_cancel_right (List.append_cancel_left h)))

theorem append_chars_taskPart (xs : List Char) (task : String) (properties : List String) :
    xs ++ (taskPart task properties).chars = ((xs ++ "groupedResult:\x7btask".toList) ++
      ([':', '"', '"', '"'] ++ escapeTripleQuotes task.toList)) ++
        (['"', '"', '"'] ++ (propertiesPart properties).chars) ++ ['\x7d'] := by
  simp [taskPart, entry, braces, Piece.chars, blockChars]

theorem fewQuotes_propertiesPart (properties : List String) :
    FewQuotes 2 (propertiesPart properties).chars := by
  unfold propertiesPart
  split
  · trivial
  · have hstrings := fewQuotes_strings properties
    simpa [entry, Piece.chars, fewQuotes_cons] using hstrings

theorem propertiesPart_inj {properties properties' : List String}
    (h : (propertiesPart properties).chars = (propertiesPart properties').chars) :
    properties = properties' := by
  cases properties with
  | nil =>
    cases properties' with
    | nil => rfl
    | cons q properties' => cases h
  | cons p properties =>
    cases properties' with
    | nil => cases h
    | cons q properties' =>
      have hname : (' ' :: "properties".toList ++ [':']) ++ chars (strings (p :: properties)) =
          (' ' :: "properties".toList ++ [':']) ++ chars (strings (q :: properties')) := h
      exact strings_eq_of_chars_eq (List.append_cancel_left hname)

/-- Whatever stands in front of the task, its text can be told from it. Behind the task no three
quotes come, and in the task none behind a colon. -/
theorem taskPart_inj {task task' : String} {properties properties' : List String}
    {xs ys : List Char}
    (h : xs ++ (taskPart task properties).chars = ys ++ (taskPart task' properties').chars) :
    xs = ys ∧ task = task' ∧ properties = properties' := by
  rw [append_chars_taskPart, append_chars_taskPart] at h
  obtain ⟨hfront, hproperties⟩ := (onlyInFront_tripleQuote (fewQuotes_propertiesPart _)).split
    (onlyInFront_tripleQuote (fewQuotes_propertiesPart _)) (List.append_cancel_right h)
  have honly : ∀ task : String, OnlyInFront [':', '"', '"', '"'] (escapeTripleQuotes task.toList) :=
    fun _ => onlyInFront_of_absent (by decide) (absent_escapeTripleQuotes _)
  obtain ⟨hbefore, htask⟩ := (honly task).split (honly task') hfront
  exact ⟨List.append_cancel_right hbefore,
    String.toList_inj.1 (escapeTripleQuotes_injective htask), propertiesPart_inj hproperties⟩

/-- The arguments of a clause, of which it is known whether there are a prompt and a task. -/
theorem argumentsPart_inj {prompt prompt' task task' : Option String}
    {properties properties' : List String} (hprompt : prompt.isSome = prompt'.isSome)
    (htask : task.isSome = task'.isSome)
    (h : (argumentsPart prompt task properties).chars =
      (argumentsPart prompt' task' properties').chars) :
    prompt = prompt' ∧ task = task' ∧ (task.isSome = true → properties = properties') := by
  match prompt, prompt', hprompt, task, task', htask, h with
  | none, none, _, none, none, _, _ => simp
  | some p, some p', _, none, none, _, h => simpa using promptPart_inj h
  | none, none, _, some t, some t', _, h =>
    have hfront : [] ++ (taskPart t properties).chars = [] ++ (taskPart t' properties').chars := h
    obtain ⟨-, rfl, rfl⟩ := taskPart_inj hfront
    simp
  | some p, some p', _, some t, some t', _, h =>
    have hchars : ∀ p t properties, (argumentsPart (some p) (some t) properties).chars =
        ((promptPart p).chars ++ [' ']) ++ (taskPart t properties).chars := by
      intro p t properties
      simp [argumentsPart, Piece.chars]
    rw [hchars, hchars] at h
    obtain ⟨hfront, rfl, rfl⟩ := taskPart_inj h
    obtain rfl := promptPart_inj (List.append_cancel_right hfront)
    simp

theorem shown_eq_of_text_eq {a b : GenerativeSearch} (h : a.document.text = b.document.text) :
    a.shown = b.shown := by
  have hchars : a.document.chars = b.document.chars := String.ofList_injective h
  rw [document_eq, document_eq] at hchars
  simp only [chars_append] at hchars
  obtain ⟨hprompt, htask, harguments⟩ := resultsPart_inj hchars
  obtain ⟨hprompt, htask', hproperties⟩ :=
    argumentsPart_inj hprompt htask (List.append_cancel_left harguments)
  unfold shown
  rw [hprompt, htask']
  by_cases hsome : b.groupedTask.isSome = true
  · rw [if_pos hsome, if_pos hsome, hproperties (htask.trans hsome)]
  · rw [if_neg hsome, if_neg hsome]

/-- The text tells apart all that is shown, whatever a prompt and a task look like. The message is
determined by it but for the properties without a task, which are sent and not written. -/
theorem text_determines (a b : GenerativeSearch) :
    (a.document.text = b.document.text ↔ a.shown = b.shown) ∧
      (a.document.text = b.document.text → (a.message = b.message ↔
        (a.groupedTask = none → a.groupedProperties = b.groupedProperties))) := by
  refine ⟨⟨shown_eq_of_text_eq, fun h => ?_⟩, fun h => ?_⟩
  · rw [← document_shown a, ← document_shown b, h]
  · have hshown := shown_eq_of_text_eq h
    simp only [shown, mk.injEq] at hshown
    obtain ⟨hprompt, htask, hproperties⟩ := hshown
    constructor
    · intro hmessage _
      exact congrArg Rpc.GenerativeSearch.groupedProperties hmessage
    · intro hnone
      have hall : a.groupedProperties = b.groupedProperties := by
        cases htask' : a.groupedTask with
        | none => exact hnone htask'
        | some task =>
          rw [← htask, htask'] at hproperties
          exact hproperties
      rw [message, message, hprompt, htask, hall]

/-- A clause with properties for a task that is not set. -/
def withoutTask : GenerativeSearch := ofSettings [.groupedProperties ["name"]]

/-- Nothing of the properties is written, and they are sent. -/
theorem properties_without_task :
    withoutTask.document.text = ({} : GenerativeSearch).document.text ∧
      withoutTask.message ≠ ({} : GenerativeSearch).message :=
  ⟨rfl, by decide⟩

end GenerativeSearch

end VectorQuery
