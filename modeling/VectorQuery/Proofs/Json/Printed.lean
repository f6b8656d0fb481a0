import VectorQuery.Proofs.Json.Spelled

/-!
# Printed JSON is read back

The text of a value is split by the grammar into the shape of that value, whatever stands behind it,
and the shape is read as the value itself unless its arrays and objects nest too deep. Two things
are asked of a value: its objects have every key once, in order, and its floating point numbers are
read back from their own texts.
-/

namespace VectorQuery.Json

open Number Text Json.Tree

/-- A value stands in a value: it is the value itself or stands in an item or a member of it. -/
inductive Within (w : Json) : Json → Prop
  /-- It is the value itself. -/
  | self : Within w w
  /-- It stands in an item. -/
  | item {item : Json} {items : List Json} (hmem : item ∈ items) (h : Within w item) :
    Within w (.array items)
  /-- It stands in the value of a member. -/
  | member {m : String × Json} {members : List (String × Json)} (hmem : m ∈ members)
    (h : Within w m.2) : Within w (.object members)

/-- Every object in a value has each key once, and its members in the order of their keys. -/
def WellFormed (v : Json) : Prop :=
  ∀ members, Within (.object members) v → Keyed.Ordered members

/-- Every floating point number in a value is read back from the text that is printed for it. -/
def RealsReadBack (v : Json) : Prop :=
  ∀ x, Within (.real x) v → parse? (text (.real x)) = some (.real x)

theorem wellFormed_array {items : List Json} :
    WellFormed (array items) ↔ ∀ v ∈ items, WellFormed v := by
  constructor
  · intro h v hv members hwithin
    exact h members (.item hv hwithin)
  · intro h members hwithin
    cases hwithin with
    | item hmem hwithin => exact h _ hmem members hwithin

theorem wellFormed_object {members : List (String × Json)} :
    WellFormed (object members) ↔ Keyed.Ordered members ∧ ∀ m ∈ members, WellFormed m.2 := by
  constructor
  · intro h
    exact ⟨h members .self, fun m hm inner hwithin => h inner (.member hm hwithin)⟩
  · rintro ⟨hordered, h⟩ inner hwithin
    cases hwithin with
    | self => exact hordered
    | member hmem hwithin => exact h _ hmem inner hwithin

theorem realsReadBack_array {items : List Json} :
    RealsReadBack (array items) ↔ ∀ v ∈ items, RealsReadBack v := by
  constructor
  · intro h v hv x hwithin
    exact h x (.item hv hwithin)
  · intro h x hwithin
    cases hwithin with
    | item hmem hwithin => exact h _ hmem x hwithin

theorem realsReadBack_object {members : List (String × Json)} :
    RealsReadBack (object members) ↔ ∀ m ∈ members, RealsReadBack m.2 := by
  constructor
  · intro h m hm x hwithin
    exact h x (.member hm hwithin)
  · intro h x hwithin
    cases hwithin with
    | member hmem hwithin => exact h _ hmem x hwithin

mutual
/-- How many levels of arrays and objects are nested in a value. -/
def depth : Json → Nat
  | array items => itemsDepth items + 1
  | object members => membersDepth members + 1
  | _ => 0

/-- The levels of the deepest of items. -/
def itemsDepth : List Json → Nat
  | [] => 0
  | item :: items => max (depth item) (itemsDepth items)

/-- The levels of the deepest of the values of members. -/
def membersDepth : List (String × Json) → Nat
  | [] => 0
  | (_, value) :: members => max (depth value) (membersDepth members)
end

theorem depth_le_itemsDepth {v : Json} {items : List Json} (h : v ∈ items) :
    v.depth ≤ itemsDepth items := by
  induction items with
  | nil => cases h
  | cons w items ih =>
    rw [itemsDepth]
    rcases List.mem_cons.1 h with rfl | h
    · exact Nat.le_max_left ..
    · exact Nat.le_trans (ih h) (Nat.le_max_right ..)

theorem depth_le_membersDepth {m : String × Json} {members : List (String × Json)}
    (h : m ∈ members) : m.2.depth ≤ membersDepth members := by
  induction members with
  | nil => cases h
  | cons n members ih =>
    rw [membersDepth]
    rcases List.mem_cons.1 h with rfl | h
    · exact Nat.le_max_left ..
    · exact Nat.le_trans (ih h) (Nat.le_max_right ..)

/-- How the text of a value is split and what the shape is read as. -/
structure Printed (v : Json) (tree : Tree) : Prop extends Spelled v.chars tree where
  /-- The shape is read as the value where there is room for its levels. -/
  read : ∀ room, Reader.json room tree = if v.depth ≤ room then some v else none

/-- How a member of an object is split and what the shape of its value is read as. -/
def MemberPrinted (m : String × Json) (t : List StringUnit × Tree) : Prop :=
  t.1 = m.1.toList.map unitOf ∧ Printed m.2 t.2

theorem chars_array (items : List Json) : (array items).chars = arrayChars (items.map chars) := by
  rw [chars, itemTexts_eq_map]

theorem chars_object (members : List (String × Json)) :
    (object members).chars = objectChars (members.map fun m => (m.1, chars m.2)) := by
  rw [chars, memberTexts_eq_map]

/-! ## Reading the shapes -/

theorem jsonItems_printed {items : List Json} {trees : List Tree}
    (h : List.Forall₂ Printed items trees) (room : Nat) :
    Reader.jsonItems room trees = if itemsDepth items ≤ room then some items else none := by
  induction h with
  | nil => rw [Reader.jsonItems, itemsDepth, if_pos (Nat.zero_le _)]
  | @cons v tree items trees hv _ ih =>
    rw [Reader.jsonItems, itemsDepth, hv.read room, ih]
    by_cases hdepth : v.depth ≤ room
    · by_cases hrest : itemsDepth items ≤ room
      · rw [if_pos hdepth, if_pos hrest, if_pos (by omega)]
        rfl
      · rw [if_pos hdepth, if_neg hrest, if_neg (by omega)]
        rfl
    · rw [if_neg hdepth, if_neg (show ¬max v.depth (itemsDepth items) ≤ room by omega)]
      rfl

theorem jsonMembers_printed {members : List (String × Json)}
    {trees : List (List StringUnit × Tree)} (h : List.Forall₂ MemberPrinted members trees)
    (room : Nat) :
    Reader.jsonMembers room trees = if membersDepth members ≤ room then some members else none := by
  induction h with
  | nil => rw [Reader.jsonMembers, membersDepth, if_pos (Nat.zero_le _)]
  | @cons m t members trees hm _ ih =>
    obtain ⟨name, value⟩ := m
    obtain ⟨units, tree⟩ := t
    obtain ⟨hunits, hvalue⟩ := hm
    have hname : stringOf? units = some name := by
      obtain rfl : units = name.toList.map unitOf := hunits
      exact stringOf?_units name
    rw [Reader.jsonMembers, membersDepth, hname, ih]
    simp only [hvalue.read room]
    by_cases hdepth : value.depth ≤ room
    · by_cases hrest : membersDepth members ≤ room
      · rw [if_pos hdepth, if_pos hrest, if_pos (by omega)]
        rfl
      · rw [if_pos hdepth, if_neg hrest, if_neg (by omega)]
        rfl
    · rw [if_neg hdepth, if_neg (show ¬max value.depth (membersDepth members) ≤ room by omega)]
      rfl

/-! ## Every value is read back -/

theorem printed_null : Printed null .null where
  head := ⟨'n', ['u', 'l', 'l'], rfl, rfl, by decide⟩
  takes := by
    intro fuel hfuel rest _
    obtain ⟨fuel, rfl⟩ := exists_fuel (List.cons_ne_nil _ _) hfuel
    rfl
  read := fun _ => rfl

theorem printed_bool (b : Bool) : Printed (bool b) (.bool b) where
  head := by
    cases b with
    | false => exact ⟨'f', ['a', 'l', 's', 'e'], rfl, rfl, by decide⟩
    | true => exact ⟨'t', ['r', 'u', 'e'], rfl, rfl, by decide⟩
  takes := by
    intro fuel hfuel rest _
    cases b <;>
    · obtain ⟨fuel, rfl⟩ := exists_fuel (List.cons_ne_nil _ _) hfuel
      rfl
  read := fun _ => rfl

theorem printed_string (s : String) : Printed (string s) (.string (s.toList.map unitOf)) where
  toSpelled := spelled_string s
  read := by
    intro room
    rw [Reader.json, stringOf?_units]
    rfl

/-- A value whose text is one number, and which that number stands for, is read back. -/
theorem printed_number {v : Json} {n : Numeral} (hvalue : n.value? = some v) (hdepth : depth v = 0)
    (hspelled : Spelled v.chars (.number n)) : Printed v (.number n) where
  toSpelled := hspelled
  read := by
    intro room
    rw [Reader.json, hvalue, hdepth, if_pos (Nat.zero_le _)]

theorem intChars_ne_nil (n : Int) : intChars n ≠ [] := by
  unfold intChars
  split
  · exact List.cons_ne_nil _ _
  · exact (isWholePart_digitChars n.natAbs).ne_nil

theorem printed_whole (n : Whole) : Printed (whole n) (.number (wholeNumeral n.value)) :=
  printed_number (value?_wholeNumeral n) rfl (spelled_number (intChars_ne_nil n.value)
    (fun _ => isNumberChar_of_mem_intChars) (numeral?_intChars n.value))

theorem exists_printed_real {x : Real} (h : parse? (text (real x)) = some (real x)) :
    ∃ tree, Printed (real x) tree := by
  obtain ⟨n, hvalue, htakes⟩ := exists_numeral_of_real h
  have hne : chars (real x) ≠ [] := by
    intro hempty
    rw [text, hempty] at h
    cases h
  exact ⟨_, printed_number hvalue rfl
    (spelled_number hne (fun _ => isNumberChar_of_mem_chars x.finite) htakes)⟩

theorem printed_array {items : List Json} {trees : List Tree}
    (h : List.Forall₂ Printed items trees) : Printed (array items) (.array trees) where
  toSpelled := by
    rw [chars_array]
    exact spelled_array (List.forall₂_map_left_iff.2 (h.imp fun _ _ hv => hv.toSpelled))
  read := by
    intro room
    rw [depth]
    cases room with
    | zero =>
      rw [if_neg (Nat.not_succ_le_zero _)]
      rfl
    | succ room =>
      rw [Reader.json, jsonItems_printed h]
      by_cases hdepth : itemsDepth items ≤ room
      · rw [if_pos hdepth, if_pos (Nat.succ_le_succ hdepth)]
        rfl
      · rw [if_neg hdepth, if_neg (fun h => hdepth (Nat.le_of_succ_le_succ h))]
        rfl

theorem printed_object {members : List (String × Json)} {trees : List (List StringUnit × Tree)}
    (hordered : Keyed.Ordered members) (h : List.Forall₂ MemberPrinted members trees) :
    Printed (object members) (.object trees) where
  toSpelled := by
    rw [chars_object]
    exact spelled_object (List.forall₂_map_left_iff.2 (h.imp fun _ _ hm =>
      ⟨hm.1, hm.2.toSpelled⟩))
  read := by
    intro room
    rw [depth]
    cases room with
    | zero =>
      rw [if_neg (Nat.not_succ_le_zero _)]
      rfl
    | succ room =>
      rw [Reader.json, jsonMembers_printed h]
      by_cases hdepth : membersDepth members ≤ room
      · rw [if_pos hdepth, if_pos (Nat.succ_le_succ hdepth), Option.map_some, ofMembers,
          Keyed.ofList_of_ordered hordered]
      · rw [if_neg hdepth, if_neg (fun h => hdepth (Nat.le_of_succ_le_succ h))]
        rfl

mutual
theorem exists_printed : ∀ v : Json, WellFormed v → RealsReadBack v → ∃ tree, Printed v tree
  | null, _, _ => ⟨_, printed_null⟩
  | bool b, _, _ => ⟨_, printed_bool b⟩
  | whole n, _, _ => ⟨_, printed_whole n⟩
  | real x, _, hreals => exists_printed_real (hreals x .self)
  | string s, _, _ => ⟨_, printed_string s⟩
  | array items, hformed, hreals => by
    obtain ⟨trees, htrees⟩ := exists_printed_items items (wellFormed_array.1 hformed)
      (realsReadBack_array.1 hreals)
    exact ⟨_, printed_array htrees⟩
  | object members, hformed, hreals => by
    obtain ⟨hordered, hformed⟩ := wellFormed_object.1 hformed
    obtain ⟨trees, htrees⟩ := exists_printed_members members hformed (realsReadBack_object.1 hreals)
    exact ⟨_, printed_object hordered htrees⟩

theorem exists_printed_items : ∀ items : List Json, (∀ v ∈ items, WellFormed v) →
    (∀ v ∈ items, RealsReadBack v) → ∃ trees, List.Forall₂ Printed items trees
  | [], _, _ => ⟨[], .nil⟩
  | v :: items, hformed, hreals => by
    obtain ⟨hv, hformed⟩ := List.forall_mem_cons.1 hformed
    obtain ⟨hreal, hreals⟩ := List.forall_mem_cons.1 hreals
    obtain ⟨tree, htree⟩ := exists_printed v hv hreal
    obtain ⟨trees, htrees⟩ := exists_printed_items items hformed hreals
    exact ⟨tree :: trees, .cons htree htrees⟩

theorem exists_printed_members : ∀ members : List (String × Json),
    (∀ m ∈ members, WellFormed m.2) → (∀ m ∈ members, RealsReadBack m.2) →
    ∃ trees, List.Forall₂ MemberPrinted members trees
  | [], _, _ => ⟨[], .nil⟩
  | (name, v) :: members, hformed, hreals => by
    obtain ⟨hv, hformed⟩ := List.forall_mem_cons.1 hformed
    obtain ⟨hreal, hreals⟩ := List.forall_mem_cons.1 hreals
    obtain ⟨tree, htree⟩ := exists_printed v hv hreal
    obtain ⟨trees, htrees⟩ := exists_printed_members members hformed hreals
    exact ⟨(name.toList.map unitOf, tree) :: trees, .cons ⟨rfl, htree⟩ htrees⟩
end

mutual
/-- The text of every value is split into some shape, also where it is not read back. -/
theorem exists_spelled : ∀ v : Json, ∃ tree, Spelled v.chars tree
  | null => ⟨_, printed_null.toSpelled⟩
  | bool b => ⟨_, (printed_bool b).toSpelled⟩
  | whole n => ⟨_, (printed_whole n).toSpelled⟩
  | real x => by
    obtain ⟨hne, n, htakes⟩ := exists_numeral_chars Layout.jsonDouble x.finite
    exact ⟨_, spelled_number hne (fun _ => isNumberChar_of_mem_chars x.finite) htakes⟩
  | string s => ⟨_, (printed_string s).toSpelled⟩
  | array items => by
    obtain ⟨trees, htrees⟩ := exists_spelled_items items
    rw [chars_array]
    exact ⟨_, spelled_array htrees⟩
  | object members => by
    obtain ⟨trees, htrees⟩ := exists_spelled_members members
    rw [chars_object]
    exact ⟨_, spelled_object htrees⟩

theorem exists_spelled_items : ∀ items : List Json,
    ∃ trees, List.Forall₂ Spelled (items.map chars) trees
  | [] => ⟨[], .nil⟩
  | v :: items => by
    obtain ⟨tree, htree⟩ := exists_spelled v
    obtain ⟨trees, htrees⟩ := exists_spelled_items items
    exact ⟨tree :: trees, .cons htree htrees⟩

theorem exists_spelled_members : ∀ members : List (String × Json),
    ∃ trees, List.Forall₂ MemberSpelled (members.map fun m => (m.1, chars m.2)) trees
  | [] => ⟨[], .nil⟩
  | (name, v) :: members => by
    obtain ⟨tree, htree⟩ := exists_spelled v
    obtain ⟨trees, htrees⟩ := exists_spelled_members members
    exact ⟨(name.toList.map unitOf, tree) :: trees, .cons ⟨rfl, htree⟩ htrees⟩
end

/-- A value is read back from its text unless its arrays and objects nest too deep. -/
theorem parse?_text {v : Json} (hformed : WellFormed v) (hreals : RealsReadBack v) :
    parse? (text v) = if depth v ≤ deepest then some v else none := by
  obtain ⟨tree, htree⟩ := exists_printed v hformed hreals
  have hstring : Tree.ofString? (text v) = some tree := htree.toSpelled.ofString?_ofList
  rw [parse?, Reader.ofString?, hstring, Option.bind_some, htree.read]

end VectorQuery.Json
