import Mathlib.Data.List.Forall2
import VectorQuery.Proofs.Json.Numeral
import VectorQuery.Proofs.Text.Quoted

/-!
# Texts that are split into a shape

A text of one value is split into the shape of that value whatever stands behind it. So the texts of
items and members can be told apart in the text of an array or an object that is put together from
them, and it is split into the shape that has theirs.
-/

namespace VectorQuery.Json

open Text Json.Tree

/-- How a text is split, wherever it stands in a text. -/
structure Spelled (cs : List Char) (tree : Tree) : Prop where
  /-- The text begins with neither a blank nor the end of an array. -/
  head : ∃ c rest, cs = c :: rest ∧ isSpace c = false ∧ c ≠ ']'
  /-- The text is split into the shape. -/
  takes : ∀ fuel, 2 * cs.length ≤ fuel → Takes (value? fuel) continues (symbols cs) tree

theorem exists_fuel {cs : List Char} (hne : cs ≠ []) {fuel : Nat} (h : 2 * cs.length ≤ fuel) :
    ∃ n, fuel = n + 1 := by
  have := List.length_pos_of_ne_nil hne
  exact Nat.exists_eq_succ_of_ne_zero (by omega)

/-- A text that is split into a shape anywhere is split into it on its own. -/
theorem Spelled.ofString?_ofList {cs : List Char} {tree : Tree} (h : Spelled cs tree) :
    Tree.ofString? (String.ofList cs) = some tree := by
  have hread := h.takes (2 * (symbols cs).length + 2)
    (by rw [symbols, List.length_map]; omega) [] Avoids.nil
  rw [List.append_nil] at hread
  have hparse : Tree.parse? (symbols cs) = some tree := by
    rw [Tree.parse?, hread]
    rfl
  rw [Tree.ofString?, String.toList_ofList]
  exact hparse

/-! ## Strings -/

namespace Tree

theorem symbols_append (cs ds : List Char) : symbols (cs ++ ds) = symbols cs ++ symbols ds :=
  List.map_append ..

theorem stringRest?_escape (c : Char) (rest : List Symbol) :
    stringRest? (symbols (escape c) ++ rest) = consUnit (unitOf c) (stringRest? rest) := by
  rcases escape_cases c with ⟨e, hescape, hne, hshort⟩ | ⟨hescape, hcontrol⟩ |
    ⟨hescape, hquote, hbackslash, hcontrol⟩
  · simp only [unitOf, hescape]
    show stringRest? (.char '\\' :: .char e :: rest) = _
    rw [stringRest?, hshort]
    · rfl
    · exact fun _ _ _ _ _ _ heq => hne heq
  · simp only [unitOf, hescape]
    show stringRest? (.char '\\' :: .char 'u' :: .char '0' :: .char '0' :: .char _ :: .char _ ::
      rest) = _
    rw [stringRest?, codeUnit?_hexDigit hcontrol]
    rfl
  · simp only [unitOf, hescape]
    show stringRest? (.char c :: rest) = _
    rw [stringRest?, if_neg (by simp [hbackslash, hcontrol])]
    · rfl
    · exact hquote
    · exact fun _ _ _ _ _ _ heq => hbackslash heq
    · exact fun _ _ _ heq => hbackslash heq

theorem stringRest?_quoted (s : List Char) (rest : List Symbol) :
    stringRest? (symbols (s.flatMap escape) ++ .char '"' :: rest) =
      some (s.map unitOf, rest) := by
  induction s with
  | nil => rfl
  | cons c s ih =>
    rw [List.flatMap_cons, symbols_append, List.append_assoc, stringRest?_escape, ih]
    rfl

end Tree

/-- A string in quotes is split into the units of the string. -/
theorem spelled_string (s : String) :
    Spelled (quotedChars s.toList) (.string (s.toList.map unitOf)) where
  head := ⟨'"', s.toList.flatMap escape ++ ['"'], rfl, rfl, by decide⟩
  takes := by
    intro fuel hfuel rest _
    obtain ⟨fuel, rfl⟩ := exists_fuel (List.cons_ne_nil _ _) hfuel
    have htext : symbols (quotedChars s.toList) ++ rest =
        .char '"' :: (symbols (s.toList.flatMap escape) ++ .char '"' :: rest) := by
      simp [quotedChars, symbols]
    rw [htext, value?, skipBlanks_of_isSpace rfl]
    simp only [stringRest?_quoted]
    rfl

theorem stringOf?_units (s : String) : stringOf? (s.toList.map unitOf) = some s := by
  rw [stringOf?, stringChars?_units, Option.map_some, String.ofList_toList]

/-- A text of nothing but one number is split into it. -/
theorem spelled_number {cs : List Char} {n : Numeral} (hne : cs ≠ [])
    (hchars : ∀ c ∈ cs, isNumberChar c = true)
    (htakes : Takes numeral? continues (symbols cs) n) : Spelled cs (.number n) := by
  obtain ⟨c, cs, rfl⟩ := List.exists_cons_of_ne_nil hne
  have hc : isNumberChar c = true := hchars c (List.mem_cons_self ..)
  refine ⟨⟨c, cs, rfl, isSpace_of_isNumberChar hc, ?_⟩, ?_⟩
  · rintro rfl
    exact absurd hc (by decide)
  · intro fuel hfuel rest hrest
    obtain ⟨fuel, rfl⟩ := exists_fuel hne hfuel
    have hnumeral := htakes rest hrest
    refine (value?_number hc fuel (symbols cs ++ rest)).trans ?_
    replace hnumeral : numeral? (.char c :: (symbols cs ++ rest)) = some (n, rest) := hnumeral
    rw [hnumeral]
    rfl

/-! ## Brackets and commas -/

namespace Tree

theorem value?_array {fuel : Nat} {c : Char} (hspace : isSpace c = false) (hne : c ≠ ']')
    (rest : List Symbol) :
    value? (fuel + 1) (.char '[' :: .char c :: rest) =
      (items? fuel (.char c :: rest)).map fun (items, rest) => (.array items, rest) := by
  rw [value?, skipBlanks_of_isSpace rfl]
  simp only [skipBlanks_of_isSpace hspace]
  split
  · rename_i heq
    exact absurd (Symbol.char.inj (List.cons.inj heq).1) hne
  · rfl

theorem value?_object (fuel : Nat) (rest : List Symbol) :
    value? (fuel + 1) (.char '{' :: .char '"' :: rest) =
      (members? fuel (.char '"' :: rest)).map fun (members, rest) => (.object members, rest) := rfl

end Tree

/-- The text of the items of an array, with the bracket that ends it. -/
def itemsChars (texts : List (List Char)) : List Char := [','].intercalate texts ++ [']']

/-- The text of a member of an object. -/
def memberChars (m : String × List Char) : List Char := quotedChars m.1.toList ++ ':' :: m.2

/-- The text of the members of an object, with the brace that ends it. -/
def membersChars (members : List (String × List Char)) : List Char :=
  [','].intercalate (members.map memberChars) ++ ['}']

theorem arrayChars_eq (texts : List (List Char)) : arrayChars texts = '[' :: itemsChars texts := rfl

theorem objectChars_eq (members : List (String × List Char)) :
    objectChars members = '{' :: membersChars members := rfl

theorem itemsChars_singleton (cs : List Char) : itemsChars [cs] = cs ++ [']'] := by
  simp [itemsChars, List.intercalate]

theorem itemsChars_cons_cons (cs ds : List Char) (texts : List (List Char)) :
    itemsChars (cs :: ds :: texts) = cs ++ ',' :: itemsChars (ds :: texts) := by
  rw [itemsChars, List.intercalate_cons_cons, itemsChars]
  simp

theorem membersChars_singleton (m : String × List Char) :
    membersChars [m] = memberChars m ++ ['}'] := by
  simp [membersChars, List.intercalate]

theorem membersChars_cons_cons (m n : String × List Char) (members : List (String × List Char)) :
    membersChars (m :: n :: members) = memberChars m ++ ',' :: membersChars (n :: members) := by
  rw [membersChars, List.map_cons, List.map_cons, List.intercalate_cons_cons, membersChars]
  simp

/-- The items of an array begin with its first one. -/
theorem head_itemsChars {cs : List Char} {tree : Tree} (h : Spelled cs tree)
    (texts : List (List Char)) :
    ∃ c rest, itemsChars (cs :: texts) = c :: rest ∧ isSpace c = false ∧ c ≠ ']' := by
  obtain ⟨c, rest, rfl, hspace, hne⟩ := h.head
  cases texts with
  | nil => exact ⟨c, rest ++ [']'], by rw [itemsChars_singleton]; rfl, hspace, hne⟩
  | cons ds texts =>
    exact ⟨c, rest ++ ',' :: itemsChars (ds :: texts), by rw [itemsChars_cons_cons]; rfl,
      hspace, hne⟩

/-- The members of an object begin with the quotation mark of the first name. -/
theorem head_membersChars (m : String × List Char) (members : List (String × List Char)) :
    ∃ cs, membersChars (m :: members) = '"' :: cs := by
  cases members with
  | nil => exact ⟨_, by rw [membersChars_singleton]; rfl⟩
  | cons n members => exact ⟨_, by rw [membersChars_cons_cons]; rfl⟩

/-! ## Items and members -/

theorem items?_item {cs : List Char} {tree : Tree} (h : Spelled cs tree) {fuel : Nat}
    (hfuel : 2 * cs.length ≤ fuel) {after : List Symbol} (hafter : Avoids continues after) :
    items? (fuel + 1) (symbols cs ++ after) =
      match skipBlanks after with
      | .char ',' :: rest => (items? fuel rest).map fun (items, rest) => (tree :: items, rest)
      | .char ']' :: rest => some ([tree], rest)
      | _ => none := by
  rewrite [items?, h.takes fuel hfuel after hafter]
  rfl

/-- The items of an array up to its end are split into their shapes. -/
theorem items?_spelled {texts : List (List Char)} {trees : List Tree}
    (h : List.Forall₂ Spelled texts trees) (hne : texts ≠ []) :
    ∀ fuel, 2 * (itemsChars texts).length ≤ fuel → ∀ rest,
      items? fuel (symbols (itemsChars texts) ++ rest) = some (trees, rest) := by
  induction h with
  | nil => exact absurd rfl hne
  | @cons cs tree texts trees hcs htail ih =>
    intro fuel hfuel rest
    cases texts with
    | nil =>
      cases htail
      rw [itemsChars_singleton, List.length_append, List.length_singleton] at hfuel
      obtain ⟨fuel, rfl⟩ := Nat.exists_eq_succ_of_ne_zero (show fuel ≠ 0 by omega)
      rw [itemsChars_singleton, symbols_append, List.append_assoc]
      exact items?_item hcs (by omega) (Avoids.cons rfl rest)
    | cons ds texts =>
      have hrest := ih (List.cons_ne_nil _ _)
      rw [itemsChars_cons_cons, List.length_append, List.length_cons] at hfuel
      obtain ⟨fuel, rfl⟩ := Nat.exists_eq_succ_of_ne_zero (show fuel ≠ 0 by omega)
      rw [itemsChars_cons_cons, symbols_append, List.append_assoc]
      refine (items?_item hcs (by omega) (Avoids.cons rfl _)).trans ?_
      show (items? fuel (symbols (itemsChars (ds :: texts)) ++ rest)).map _ = _
      rw [hrest fuel (by omega) rest]
      rfl

/-- How the text of a member is split: the name in units, and the shape of the value. -/
def MemberSpelled (m : String × List Char) (t : List StringUnit × Tree) : Prop :=
  t.1 = m.1.toList.map unitOf ∧ Spelled m.2 t.2

theorem symbols_memberChars (m : String × List Char) (after : List Symbol) :
    symbols (memberChars m) ++ after = .char '"' :: (symbols (m.1.toList.flatMap escape) ++
      .char '"' :: .char ':' :: (symbols m.2 ++ after)) := by
  simp [memberChars, quotedChars, symbols]

theorem length_le_memberChars (m : String × List Char) : m.2.length ≤ (memberChars m).length := by
  rw [memberChars, List.length_append, List.length_cons]
  omega

section Member
variable {m : String × List Char} {t : List StringUnit × Tree} {fuel : Nat}

theorem members?_comma (h : MemberSpelled m t) (hfuel : 2 * (memberChars m).length ≤ fuel)
    (rest : List Symbol) : members? (fuel + 1) (symbols (memberChars m) ++ .char ',' :: rest) =
      (members? fuel rest).map fun result => (t :: result.1, result.2) := by
  obtain ⟨units, tree⟩ := t
  obtain ⟨hunits, hvalue⟩ := h
  have hlength := length_le_memberChars m
  have hafter : Avoids continues (.char ',' :: rest) := Avoids.cons rfl rest
  have hread := hvalue.takes fuel (by omega) _ hafter
  rw [symbols_memberChars, members?, skipBlanks_of_isSpace rfl]
  simp only [stringRest?_quoted, skipBlanks_of_isSpace (show isSpace ':' = false from rfl),
    skipBlanks_of_isSpace (show isSpace ',' = false from rfl), hread, ← hunits]

theorem members?_close (h : MemberSpelled m t) (hfuel : 2 * (memberChars m).length ≤ fuel)
    (rest : List Symbol) :
    members? (fuel + 1) (symbols (memberChars m) ++ .char '}' :: rest) = some ([t], rest) := by
  obtain ⟨units, tree⟩ := t
  obtain ⟨hunits, hvalue⟩ := h
  have hlength := length_le_memberChars m
  have hafter : Avoids continues (.char '}' :: rest) := Avoids.cons rfl rest
  have hread := hvalue.takes fuel (by omega) _ hafter
  rw [symbols_memberChars, members?, skipBlanks_of_isSpace rfl]
  simp only [stringRest?_quoted, skipBlanks_of_isSpace (show isSpace ':' = false from rfl),
    skipBlanks_of_isSpace (show isSpace '}' = false from rfl), hread, ← hunits]

end Member

/-- The members of an object up to its end are split into their names and shapes. -/
theorem members?_spelled {members : List (String × List Char)}
    {trees : List (List StringUnit × Tree)} (h : List.Forall₂ MemberSpelled members trees)
    (hne : members ≠ []) :
    ∀ fuel, 2 * (membersChars members).length ≤ fuel → ∀ rest,
      members? fuel (symbols (membersChars members) ++ rest) = some (trees, rest) := by
  induction h with
  | nil => exact absurd rfl hne
  | @cons m t members trees hm htail ih =>
    intro fuel hfuel rest
    cases members with
    | nil =>
      cases htail
      rw [membersChars_singleton, List.length_append, List.length_singleton] at hfuel
      obtain ⟨fuel, rfl⟩ := Nat.exists_eq_succ_of_ne_zero (show fuel ≠ 0 by omega)
      rw [membersChars_singleton, symbols_append, List.append_assoc]
      exact members?_close hm (by omega) rest
    | cons n members =>
      have hrest := ih (List.cons_ne_nil _ _)
      rw [membersChars_cons_cons, List.length_append, List.length_cons] at hfuel
      obtain ⟨fuel, rfl⟩ := Nat.exists_eq_succ_of_ne_zero (show fuel ≠ 0 by omega)
      rw [membersChars_cons_cons, symbols_append, List.append_assoc]
      refine (members?_comma hm (by omega) _).trans ?_
      show (members? fuel (symbols (membersChars (n :: members)) ++ rest)).map _ = _
      rw [hrest fuel (by omega) rest]
      rfl

/-! ## Arrays and objects -/

theorem spelled_array {texts : List (List Char)} {trees : List Tree}
    (h : List.Forall₂ Spelled texts trees) : Spelled (arrayChars texts) (.array trees) := by
  refine ⟨⟨'[', itemsChars texts, arrayChars_eq texts, rfl, by decide⟩, ?_⟩
  intro fuel hfuel rest _
  rw [arrayChars_eq, List.length_cons] at hfuel
  obtain ⟨fuel, rfl⟩ := Nat.exists_eq_succ_of_ne_zero (show fuel ≠ 0 by omega)
  rw [arrayChars_eq]
  cases h with
  | nil => rfl
  | @cons cs tree texts trees hcs htail =>
    have hread := items?_spelled (.cons hcs htail) (List.cons_ne_nil _ _) fuel (by omega) rest
    obtain ⟨c, ds, hsplit, hspace, hne⟩ := head_itemsChars hcs texts
    rw [hsplit] at hread ⊢
    refine (value?_array hspace hne (symbols ds ++ rest)).trans ?_
    replace hread : items? fuel (.char c :: (symbols ds ++ rest)) = _ := hread
    rw [hread]
    rfl

theorem spelled_object {members : List (String × List Char)}
    {trees : List (List StringUnit × Tree)} (h : List.Forall₂ MemberSpelled members trees) :
    Spelled (objectChars members) (.object trees) := by
  refine ⟨⟨'{', membersChars members, objectChars_eq members, rfl, by decide⟩, ?_⟩
  intro fuel hfuel rest _
  rw [objectChars_eq, List.length_cons] at hfuel
  obtain ⟨fuel, rfl⟩ := Nat.exists_eq_succ_of_ne_zero (show fuel ≠ 0 by omega)
  rw [objectChars_eq]
  cases h with
  | nil => rfl
  | @cons m t members trees hm htail =>
    have hread := members?_spelled (.cons hm htail) (List.cons_ne_nil _ _) fuel (by omega) rest
    obtain ⟨cs, hsplit⟩ := head_membersChars m members
    rw [hsplit] at hread ⊢
    refine (value?_object fuel (symbols cs ++ rest)).trans ?_
    replace hread : members? fuel (.char '"' :: (symbols cs ++ rest)) = _ := hread
    rw [hread]
    rfl

end VectorQuery.Json
