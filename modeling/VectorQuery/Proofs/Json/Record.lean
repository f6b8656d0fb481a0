import Mathlib.Data.List.Nodup
import VectorQuery.Json.Record
import VectorQuery.Proofs.Json.Printed
import VectorQuery.Proofs.Keyed

/-!
# Reading values of types back

A text that one reader reads as a value is read so wherever it stands. From the texts of its parts
it follows how a list, a keyed list and a record are read. The members of a record are put into
their places whatever order they come in, and a field that is not written has its default.
-/

namespace VectorQuery.Json

open Number Text Json.Tree Json.Reader

variable {α : Type}

/-- A text is read as a value wherever it stands, as long as so many levels may be opened. -/
def ReadAs (reader : Reader α) (levels : Nat) (cs : List Char) (x : α) : Prop :=
  ∃ tree, Spelled cs tree ∧ ∀ room, levels ≤ room → reader room tree = some x

section ReadAs

variable {reader item : Reader α} {m n : Nat} {cs : List Char} {x : α}

theorem ReadAs.mono (h : ReadAs reader m cs x) (hmn : m ≤ n) : ReadAs reader n cs x := by
  obtain ⟨tree, hspelled, hread⟩ := h
  exact ⟨tree, hspelled, fun room hroom => hread room (Nat.le_trans hmn hroom)⟩

theorem ReadAs.ofString?_eq (h : ReadAs reader n cs x) (hn : n ≤ deepest) :
    reader.ofString? (String.ofList cs) = some x := by
  obtain ⟨tree, hspelled, hread⟩ := h
  rw [Reader.ofString?, hspelled.ofString?_ofList, Option.bind_some, hread deepest hn]

/-! ## Strings, numbers and free values -/

theorem readAs_string (s : String) : ReadAs Reader.string 0 (chars (.string s)) s := by
  rw [chars]
  exact ⟨_, spelled_string s, fun _ _ => stringOf?_units s⟩

theorem ReadAs.bind {β : Type} (h : ReadAs reader n cs x) {f : α → Option β} {y : β}
    (hf : f x = some y) : ReadAs (fun room tree => (reader room tree).bind f) n cs y := by
  obtain ⟨tree, hspelled, hread⟩ := h
  refine ⟨tree, hspelled, fun room hroom => ?_⟩
  show (reader room tree).bind f = some y
  rw [hread room hroom, Option.bind_some, hf]

theorem readAs_json {v : Json} (hformed : WellFormed v) (hreals : RealsReadBack v) :
    ReadAs Reader.json v.depth v.chars v := by
  obtain ⟨tree, hprinted⟩ := exists_printed v hformed hreals
  refine ⟨tree, hprinted.toSpelled, fun room hroom => ?_⟩
  rw [hprinted.read, if_pos hroom]

/-- A 32-bit number that is read back from its text on its own is read back in any text. -/
theorem readAs_single {x : Single} (hx : x.isFinite = true)
    (h : Reader.single.ofString? (Layout.jsonSingle.text x) = some x) :
    ReadAs Reader.single 0 (Layout.jsonSingle.chars x) x := by
  obtain ⟨tree, htree, hread⟩ := Option.bind_eq_some_iff.1 h
  rw [Tree.ofString?, Layout.text, String.toList_ofList] at htree
  have hchars : ∀ c ∈ Layout.jsonSingle.chars x, isNumberChar c = true :=
    fun _ => isNumberChar_of_mem_chars hx
  obtain ⟨n, rfl, htakes⟩ := exists_numeral_of_parse? hchars htree
  have hne : Layout.jsonSingle.chars x ≠ [] := by
    intro hempty
    rw [hempty] at htree
    cases htree
  exact ⟨_, spelled_number hne hchars htakes, fun _ _ => hread⟩

theorem ofSingle_of_isFinite {x : Single} (hx : x.isFinite = true) :
    ofSingle x = .real ⟨x.toDouble, (Binary.toDouble_spec hx).1⟩ :=
  dif_pos (Binary.toDouble_spec hx).1

/-- A 32-bit number is read back from the text of the 64-bit number that it is widened to. -/
theorem readAs_ofSingle {x : Single} (hx : x.isFinite = true) (h : RealsReadBack (ofSingle x)) :
    ReadAs Reader.single 0 (chars (ofSingle x)) x := by
  rw [ofSingle_of_isFinite hx] at h ⊢
  obtain ⟨n, hvalue, htakes⟩ := exists_numeral_of_real (h _ .self)
  obtain ⟨tree, hprinted⟩ := exists_printed_real (h _ .self)
  obtain ⟨c, rest, hsplit, -⟩ := hprinted.head
  refine ⟨.number n, spelled_number (hsplit ▸ List.cons_ne_nil _ _)
    (fun _ => isNumberChar_of_mem_chars (Binary.toDouble_spec hx).1) htakes, fun room _ => ?_⟩
  rw [Reader.single, Reader.number, hvalue]
  exact congrArg some (Binary.toSingle_toDouble hx)

/-! ## Lists -/

theorem list_null (room : Nat) : list item room .null = none := by
  cases room <;> rfl

/-- A list is read from the texts of its items, one by one. -/
theorem readAs_items {texts : List (List Char)} {xs : List α}
    (h : List.Forall₂ (ReadAs item n) texts xs) :
    ReadAs (list item) (n + 1) (arrayChars texts) xs := by
  have htrees : ∃ trees, List.Forall₂ Spelled texts trees ∧
      ∀ room, n ≤ room → trees.mapM (item room) = some xs := by
    induction h with
    | nil => exact ⟨[], .nil, fun _ _ => rfl⟩
    | @cons text x texts xs hx hxs ih =>
      obtain ⟨tree, hspelled, hread⟩ := hx
      obtain ⟨trees, hall, hreads⟩ := ih
      refine ⟨tree :: trees, .cons hspelled hall, fun room hroom => ?_⟩
      rw [List.mapM_cons, hread room hroom, hreads room hroom]
      rfl
  obtain ⟨trees, hall, hreads⟩ := htrees
  refine ⟨_, spelled_array hall, fun room hroom => ?_⟩
  obtain ⟨room, rfl⟩ := Nat.exists_eq_succ_of_ne_zero (show room ≠ 0 by omega)
  exact hreads room (Nat.le_of_succ_le_succ hroom)

theorem readAs_list {xs : List α} {text : α → List Char}
    (h : ∀ x ∈ xs, ReadAs item n (text x) x) :
    ReadAs (list item) (n + 1) (arrayChars (xs.map text)) xs :=
  readAs_items (List.forall₂_map_left_iff.2 (List.forall₂_same.2 h))

theorem readAs_keyed {entries : List (String × α)} {text : α → List Char}
    (hordered : Keyed.Ordered entries) (h : ∀ e ∈ entries, ReadAs item n (text e.2) e.2) :
    ReadAs (keyed item) (n + 1) (objectChars (entries.map fun e => (e.1, text e.2))) entries := by
  have htrees : ∃ trees, List.Forall₂ MemberSpelled (entries.map fun e => (e.1, text e.2)) trees ∧
      ∀ room, n ≤ room → (trees.mapM fun t : List StringUnit × Tree => do
        return (← stringOf? t.1, ← item room t.2)) = some entries := by
    clear hordered
    induction entries with
    | nil => exact ⟨[], .nil, fun _ _ => rfl⟩
    | cons e entries ih =>
      obtain ⟨he, hentries⟩ := List.forall_mem_cons.1 h
      obtain ⟨tree, hspelled, hread⟩ := he
      obtain ⟨trees, hall, hreads⟩ := ih hentries
      refine ⟨(e.1.toList.map unitOf, tree) :: trees, .cons ⟨rfl, hspelled⟩ hall,
        fun room hroom => ?_⟩
      rw [List.mapM_cons, hreads room hroom]
      simp [stringOf?_units, hread room hroom]
  obtain ⟨trees, hall, hreads⟩ := htrees
  refine ⟨_, spelled_object hall, fun room hroom => ?_⟩
  obtain ⟨room, rfl⟩ := Nat.exists_eq_succ_of_ne_zero (show room ≠ 0 by omega)
  have hread := hreads room (Nat.le_of_succ_le_succ hroom)
  refine (congrArg (Option.map Keyed.ofList) hread).trans ?_
  rw [Option.map_some, Keyed.ofList_of_ordered hordered]

/-- The members of a free value are read back as the value is. -/
theorem readAs_members {members : List (String × Json)} (hformed : WellFormed (object members))
    (hreals : RealsReadBack (object members)) :
    ReadAs (keyed Reader.json) (depth (object members)) (chars (object members)) members := by
  obtain ⟨hordered, hformed⟩ := wellFormed_object.1 hformed
  have hreals := realsReadBack_object.1 hreals
  rw [chars_object]
  exact readAs_keyed hordered fun m hm =>
    (readAs_json (hformed m hm) (hreals m hm)).mono (depth_le_membersDepth hm)

end ReadAs

/-! ## The members of a record -/

/-- The shape of what is written under a name. -/
def treeUnder? (members : List (String × List Char)) (name : String) : Option Tree :=
  (Keyed.get? name members).bind fun cs => Tree.ofString? (String.ofList cs)

section Members

variable {names : List String} {members : List (String × List Char)} {name : String}
  {cs : List Char} {tree : Tree}

theorem treeUnder?_append (other : String) (hnew : name ∉ members.map Prod.fst)
    (hspelled : Spelled cs tree) : treeUnder? (members ++ [(name, cs)]) other =
      if other = name then some tree else treeUnder? members other := by
  rw [treeUnder?, Keyed.get?_append_singleton other hnew]
  by_cases hother : other = name
  · rw [if_pos hother, if_pos hother, Option.bind_some, hspelled.ofString?_ofList]
  · rw [if_neg hother, if_neg hother, treeUnder?]

/-- A member under a new name is put into the place of its name, if the record has one. -/
theorem put?_new (hnames : names.Nodup) (hnew : name ∉ members.map Prod.fst)
    (hspelled : Spelled cs tree) :
    Slots.put? names (names.map (treeUnder? members)) name tree =
      some (names.map (treeUnder? (members ++ [(name, cs)]))) := by
  have hunder := fun other => treeUnder?_append other hnew hspelled
  unfold Slots.put? Slots.place?
  cases hplace : names.findIdx? (· = name) with
  | none =>
    have hmissing : ∀ other ∈ names, other ≠ name := by
      simpa [List.findIdx?_eq_none_iff] using hplace
    refine congrArg some (List.map_congr_left fun other hother => ?_)
    rw [hunder, if_neg (hmissing other hother)]
  | some i =>
    obtain ⟨hi, hname, -⟩ := List.findIdx?_eq_some_iff_getElem.1 hplace
    replace hname : names[i] = name := of_decide_eq_true hname
    have hfree : (names.map (treeUnder? members))[i]? = some none := by
      rw [List.getElem?_map, List.getElem?_eq_getElem hi, hname, Option.map_some, treeUnder?,
        Keyed.get?_of_notMem hnew]
      rfl
    simp only [hfree]
    refine congrArg some (List.ext_getElem (by simp) fun j hj hj' => ?_)
    have hjn : j < names.length := by simpa using hj'
    rw [List.getElem_set, List.getElem_map, List.getElem_map, hunder]
    by_cases hij : i = j
    · subst hij
      rw [if_pos rfl, if_pos hname]
    · rw [if_neg hij, if_neg]
      intro hsame
      exact hij ((List.Nodup.getElem_inj_iff hnames).1 (hname.trans hsame.symm))

/-- What is left to read of a record after its members have been put into their places. -/
theorem ofTree?_object (hnames : names.Nodup) (hmembers : (members.map Prod.fst).Nodup)
    {trees : List (List StringUnit × Tree)} (h : List.Forall₂ MemberSpelled members trees)
    (room : Nat) : Slots.ofTree? names (room + 1) (.object trees) =
      some ⟨names.map (treeUnder? members), room⟩ := by
  -- The slots hold what the members before have put into them.
  have hfold : ∀ before : List (String × List Char), ((before ++ members).map Prod.fst).Nodup →
      (trees.foldlM (fun slots (t : List StringUnit × Tree) => do
        Slots.put? names slots (← stringOf? t.1) t.2) (names.map (treeUnder? before))) =
          some (names.map (treeUnder? (before ++ members))) := by
    clear hmembers
    induction h with
    | nil =>
      intro before _
      rw [List.append_nil]
      rfl
    | @cons m t members trees hm htail ih =>
      intro before hnodup
      obtain ⟨name, cs⟩ := m
      obtain ⟨units, tree⟩ := t
      obtain ⟨hunits, hspelled⟩ := hm
      have hname : stringOf? units = some name := by
        obtain rfl : units = name.toList.map unitOf := hunits
        exact stringOf?_units name
      rw [List.append_cons] at hnodup ⊢
      have hnew : name ∉ before.map Prod.fst := by
        rw [List.map_append, List.map_append] at hnodup
        have hdisjoint := (List.nodup_append.1 (List.nodup_append.1 hnodup).1).2.2
        exact fun hmem => hdisjoint name hmem name (List.mem_singleton_self _) rfl
      have hrest := ih _ hnodup
      rw [List.foldlM_cons]
      simp only [hname]
      refine Eq.trans ?_ hrest
      show (Slots.put? names _ name tree).bind _ = _
      rw [put?_new hnames hnew hspelled, Option.bind_some]
  exact congrArg (fun slots => slots.bind fun trees => some (⟨trees, room⟩ : Slots))
    (hfold [] hmembers)

end Members

/-! ## Fields -/

namespace FieldReader

variable {β : Type} {names : List String} {members : List (String × List Char)} {name : String}
  {cs : List Char} {item : Reader α} {n room : Nat} {x default : α} {slot : Option Tree}

/-- From what is written in its place, a field is read as a value. -/
def Gives (field : FieldReader α) (slot : Option Tree) (room : Nat) (x : α) : Prop :=
  ∀ trees, field.run ⟨slot :: trees, room⟩ = some (x, ⟨trees, room⟩)

theorem run_bind {field : FieldReader α} {rest : α → FieldReader β} (h : field.Gives slot room x)
    (trees : List (Option Tree)) :
    (field >>= rest).run ⟨slot :: trees, room⟩ = (rest x).run ⟨trees, room⟩ := by
  rw [StateT.run_bind, h trees]
  rfl

theorem gives_required (hwritten : Keyed.get? name members = some cs) (h : ReadAs item n cs x)
    (hroom : n ≤ room) : (required item).Gives (treeUnder? members name) room x := by
  obtain ⟨tree, hspelled, hread⟩ := h
  intro trees
  rw [treeUnder?, hwritten, Option.bind_some, hspelled.ofString?_ofList]
  show ((item room tree).bind fun x => some (x, (⟨trees, room⟩ : Slots))) = _
  rw [hread room hroom]
  rfl

theorem gives_withDefault (hwritten : Keyed.get? name members = some cs) (h : ReadAs item n cs x)
    (hroom : n ≤ room) : (withDefault default item).Gives (treeUnder? members name) room x := by
  obtain ⟨tree, hspelled, hread⟩ := h
  intro trees
  rw [treeUnder?, hwritten, Option.bind_some, hspelled.ofString?_ofList]
  show ((item room tree).bind fun x => some (x, (⟨trees, room⟩ : Slots))) = _
  rw [hread room hroom]
  rfl

/-- A field that is not written has its default. -/
theorem gives_default (hmissing : Keyed.get? name members = none) :
    (withDefault default item).Gives (treeUnder? members name) room default := by
  intro trees
  rw [treeUnder?, hmissing]
  rfl

/-- A value that is written is not mistaken for one that is left out, for null is no such value. -/
theorem readAs_optional (hnull : ∀ room, item room .null = none) (h : ReadAs item n cs x) :
    ReadAs item.optional n cs (some x) := by
  obtain ⟨tree, hspelled, hread⟩ := h
  refine ⟨tree, hspelled, fun room hroom => ?_⟩
  have htree := hread room hroom
  cases tree with
  | null => rw [hnull] at htree; cases htree
  | _ => exact congrArg (Option.map some) htree

theorem gives_optional (hwritten : Keyed.get? name members = some cs)
    (hnull : ∀ room, item room .null = none) (h : ReadAs item n cs x) (hroom : n ≤ room) :
    (FieldReader.optional item).Gives (treeUnder? members name) room (some x) :=
  gives_withDefault hwritten (readAs_optional hnull h) hroom

end FieldReader

theorem record_null (names : List String) (fields : FieldReader α) (room : Nat) :
    record names fields room .null = none := by
  cases room <;> rfl

/-- A record is read from members that come in any order, each name once. -/
theorem readAs_record {names : List String} {fields : FieldReader α}
    {members : List (String × List Char)} {n : Nat} {x : α} (hnames : names.Nodup)
    (hmembers : (members.map Prod.fst).Nodup) (hspelled : ∀ m ∈ members, ∃ tree, Spelled m.2 tree)
    (h : ∀ room, n ≤ room →
      ∃ rest, fields.run ⟨names.map (treeUnder? members), room⟩ = some (x, rest)) :
    ReadAs (record names fields) (n + 1) (objectChars members) x := by
  have htrees : ∃ trees, List.Forall₂ MemberSpelled members trees := by
    clear hmembers h
    induction members with
    | nil => exact ⟨[], .nil⟩
    | cons m members ih =>
      obtain ⟨⟨tree, hm⟩, hrest⟩ := List.forall_mem_cons.1 hspelled
      obtain ⟨trees, htrees⟩ := ih hrest
      exact ⟨(m.1.toList.map unitOf, tree) :: trees, .cons ⟨rfl, hm⟩ htrees⟩
  obtain ⟨trees, htrees⟩ := htrees
  refine ⟨_, spelled_object htrees, fun room hroom => ?_⟩
  obtain ⟨room, rfl⟩ := Nat.exists_eq_succ_of_ne_zero (show room ≠ 0 by omega)
  obtain ⟨rest, hread⟩ := h room (Nat.le_of_succ_le_succ hroom)
  show (Slots.ofTree? names (room + 1) (.object trees)).bind (fun slots =>
    (fields.run slots).bind fun result => some result.1) = some x
  rw [ofTree?_object hnames hmembers htrees, Option.bind_some, hread, Option.bind_some]

/-! ## Records as values -/

/-- The members of an object as they are written. -/
def writtenMembers (members : List (String × Json)) : List (String × List Char) :=
  members.map fun m => (m.1, m.2.chars)

section Written
variable {members : List (String × Json)} {name : String} {v : Json}

theorem get?_writtenMembers (h : Keyed.get? name members = some v) :
    Keyed.get? name (writtenMembers members) = some v.chars := by
  rw [writtenMembers, Keyed.get?_map, h, Option.map_some]

theorem get?_writtenMembers_eq_none (h : Keyed.get? name members = none) :
    Keyed.get? name (writtenMembers members) = none := by
  rw [writtenMembers, Keyed.get?_map, h, Option.map_none]

/-- Null is read like a field that is not written. -/
theorem gives_optional_none {item : Reader α} {room : Nat}
    (h : Keyed.get? name members = none ∨ Keyed.get? name members = some null) :
    (FieldReader.optional item).Gives (treeUnder? (writtenMembers members) name) room none := by
  rcases h with hmissing | hnull
  · exact FieldReader.gives_default (get?_writtenMembers_eq_none hmissing)
  · have hread : ReadAs item.optional 0 (chars null) none :=
      ⟨_, printed_null.toSpelled, fun _ _ => rfl⟩
    exact FieldReader.gives_withDefault (get?_writtenMembers hnull) hread (Nat.zero_le room)

end Written

/-- A record is read from the text of an object that has each key once. -/
theorem readAs_object {names : List String} {fields : FieldReader α}
    {members : List (String × Json)} {n : Nat} {x : α} (hnames : names.Nodup)
    (hkeys : (members.map Prod.fst).Nodup) (h : ∀ room, n ≤ room → ∃ rest,
      fields.run ⟨names.map (treeUnder? (writtenMembers members)), room⟩ = some (x, rest)) :
    ReadAs (record names fields) (n + 1) (chars (object members)) x := by
  rw [chars_object]
  refine readAs_record hnames ?_ ?_ h
  · rwa [List.map_map]
  · intro m hm
    obtain ⟨m, -, rfl⟩ := List.mem_map.1 hm
    exact exists_spelled m.2

/-- A record of one field is read from an object that gives the field a value. -/
theorem readAs_field {name : String} {field : FieldReader α} {members : List (String × Json)}
    {n : Nat} {x : α} (hkeys : (members.map Prod.fst).Nodup) (h : ∀ room, n ≤ room →
      field.Gives (treeUnder? (writtenMembers members) name) room x) :
    ReadAs (record [name] field) (n + 1) (chars (object members)) x :=
  readAs_object (List.nodup_singleton name) hkeys fun room hroom => ⟨_, h room hroom []⟩

end VectorQuery.Json
