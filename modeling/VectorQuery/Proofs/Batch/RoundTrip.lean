import VectorQuery.Proofs.Batch.Object

/-!
# Objects in bodies

A body is printed and read as JSON, and then every element of it is read as an object. The numbers
of vectors, which have been widened for the body, are narrowed again.
-/

namespace VectorQuery

open Number

/-! ## Reading from JSON values -/

namespace Json

variable {α : Type}

/-- The items that a value has as an array. -/
def items? : Json → Option (List Json)
  | array items => some items
  | _ => none

/-- The members that a value has as an object. -/
def members? : Json → Option (List (String × Json))
  | object members => some members
  | _ => none

/-- The 32-bit number that a value is. A whole number is rounded once. -/
def single? : Json → Option Single
  | whole n => some (Binary.ofInt n.value)
  | real x => some x.value.toSingle
  | _ => none

/-- The vector that a value is. -/
def singles? (json : Json) : Option (List Single) :=
  json.items?.bind fun items => items.mapM single?

/-- Null as nothing and everything else as a value. -/
def orNull? (item? : Json → Option α) : Json → Option (Option α)
  | null => some none
  | json => (item? json).map some

/-- What the member under a key is read as, or the default if there is no such member. -/
def memberOr? (key : String) (default : α) (item? : Json → Option α) (json : Json) : Option α :=
  match json.member? key with
  | none => some default
  | some value => item? value

end Json

namespace DataObject

/-- The object that a JSON value is. -/
def ofJson? (json : Json) : Option DataObject := do
  let id ← ((json.member? "id").bind Json.string?).bind Uuid.ofString?
  let className ← (json.member? "class").bind Json.string?
  let properties ← json.memberOr? "properties" [] Json.members?
  let vector ← json.memberOr? "vector" none (Json.orNull? Json.singles?)
  let vectors ← json.memberOr? "vectors" [] fun value => value.members?.bind fun members =>
    members.mapM fun m => (Json.singles? m.2).map fun values => (m.1, values)
  let tenant ← json.memberOr? "tenant" none (Json.orNull? Json.string?)
  return { id, className, properties, vector, vectors, tenant }

section OfJson
variable {o : DataObject}

/-- What is written item by item is read back item by item. -/
theorem mapM_map_self {α β : Type} {f : α → β} {g : β → Option α} {xs : List α}
    (h : ∀ x ∈ xs, g (f x) = some x) : (xs.map f).mapM g = some xs := by
  have hread : (xs.map f).mapM g = some (xs.map fun x => x) := mapM_map_eq_some h
  rwa [List.map_id'] at hread

theorem single?_ofSingle {x : Single} (hx : x.isFinite = true) :
    (Json.ofSingle x).single? = some x := by
  rw [Json.ofSingle_of_isFinite hx, Json.single?, Binary.toSingle_toDouble hx]

theorem singles?_vectorJson {values : List Single} (h : ∀ x ∈ values, x.isFinite = true) :
    (vectorJson values).singles? = some values :=
  mapM_map_self fun x hx => single?_ofSingle (h x hx)

theorem member?_json (o : DataObject) (name : String) :
    o.json.member? name = Keyed.get? name o.jsonMembers := by
  rw [json_eq, Json.member?]

theorem nodup_jsonMembers (o : DataObject) : (o.jsonMembers.map Prod.fst).Nodup := by
  have hordered := List.pairwise_map.2 o.ordered_jsonMembers
  exact hordered.imp fun {a b} (hlt : a < b) (heq : a = b) => String.lt_irrefl b (heq ▸ hlt)

theorem member?_of_mem {name : String} {value : Json} (h : (name, value) ∈ o.jsonMembers) :
    o.json.member? name = some value := by
  rw [member?_json, Keyed.get?_of_mem o.nodup_jsonMembers h]

/-- A member is missing exactly when its field is left out. -/
theorem isSome_member?_iff (o : DataObject) (name : String) :
    (o.json.member? name).isSome = true ↔ name ∈ fieldNames ∧ ¬o.LeavesOut name := by
  have hnames : (o.jsonMembers.map Prod.fst).Perm
      ((o.members fun values => (vectorJson values).chars).map Prod.fst) := by
    have hperm := o.perm_members.map Prod.fst
    rwa [List.map_map] at hperm
  rw [← mem_members_iff, ← hnames.mem_iff]
  by_cases hmem : name ∈ o.jsonMembers.map Prod.fst
  · obtain ⟨m, hm, rfl⟩ := List.mem_map.1 hmem
    rw [member?_of_mem hm]
    exact iff_of_true rfl hmem
  · rw [member?_json, Keyed.get?_of_notMem hmem]
    exact iff_of_false Bool.false_ne_true hmem

theorem member?_eq_none {name : String} (h : o.LeavesOut name) : o.json.member? name = none := by
  rw [← Option.not_isSome_iff_eq_none, isSome_member?_iff]
  exact fun hwritten => hwritten.2 h

/-- An object is read back from its JSON value. -/
theorem ofJson?_json (hfinite : ∀ x ∈ o.singles, x.isFinite = true) : ofJson? o.json = some o := by
  have hid : o.json.member? "id" = some (.string o.id.text) :=
    member?_of_mem (by simp [jsonMembers])
  have hclass : o.json.member? "class" = some (.string o.className) :=
    member?_of_mem (by simp [jsonMembers])
  have hproperties : o.json.memberOr? "properties" [] Json.members? = some o.properties := by
    unfold Json.memberOr?
    by_cases hnone : o.properties = []
    · rw [member?_eq_none (.properties hnone), hnone]
    · rw [member?_of_mem (show ("properties", Json.object o.properties) ∈ o.jsonMembers by
        simp [jsonMembers, hnone])]
      rfl
  have hvector : o.json.memberOr? "vector" none (Json.orNull? Json.singles?) = some o.vector := by
    unfold Json.memberOr?
    cases hvalues : o.vector with
    | none => rw [member?_eq_none (.vector hvalues)]
    | some values =>
      have hread := singles?_vectorJson fun x hx =>
        hfinite x (mem_singles_of_vector hvalues hx)
      rw [member?_of_mem (show ("vector", vectorJson values) ∈ o.jsonMembers by
        simp [jsonMembers, hvalues])]
      exact congrArg (Option.map some) hread
  have hvectors : o.json.memberOr? "vectors" [] (fun value => value.members?.bind fun members =>
      members.mapM fun m => (Json.singles? m.2).map fun values => (m.1, values)) =
        some o.vectors := by
    unfold Json.memberOr?
    by_cases hnone : o.vectors = []
    · rw [member?_eq_none (.vectors hnone), hnone]
    · rw [member?_of_mem (show ("vectors", Json.object (o.vectors.map fun e =>
        (e.1, vectorJson e.2))) ∈ o.jsonMembers by simp [jsonMembers, hnone])]
      refine mapM_map_self fun e he => ?_
      have hread := singles?_vectorJson fun x hx => hfinite x (mem_singles_of_vectors he hx)
      exact congrArg (Option.map fun values => (e.1, values)) hread
  have htenant : o.json.memberOr? "tenant" none (Json.orNull? Json.string?) = some o.tenant := by
    unfold Json.memberOr?
    cases htenant : o.tenant with
    | none => rw [member?_eq_none (.tenant htenant)]
    | some tenant =>
      rw [member?_of_mem (show ("tenant", Json.string tenant) ∈ o.jsonMembers by
        simp [jsonMembers, htenant])]
      rfl
  rw [ofJson?, hid, hclass, hproperties, hvector, hvectors, htenant]
  simp [Json.string?, Uuid.ofString?_text]

end OfJson

/-! ## Bodies -/

theorem wellFormed_ofSingle (x : Single) : (Json.ofSingle x).WellFormed := by
  rw [Json.ofSingle, Json.ofDouble]
  split
  all_goals
    intro _ h
    cases h

theorem wellFormed_vectorJson (values : List Single) : (vectorJson values).WellFormed := by
  refine Json.wellFormed_array.2 fun v hv => ?_
  obtain ⟨x, -, rfl⟩ := List.mem_map.1 hv
  exact wellFormed_ofSingle x

theorem wellFormed_json {o : DataObject} (h : o.WellFormed) : o.json.WellFormed := by
  have hstring : ∀ s, (Json.string s).WellFormed := fun _ _ h => nomatch h
  have hvectors : (Json.object (o.vectors.map fun e => (e.1, vectorJson e.2))).WellFormed := by
    refine Json.wellFormed_object.2 ⟨List.pairwise_map.2 h.vectors, fun m hm => ?_⟩
    obtain ⟨e, -, rfl⟩ := List.mem_map.1 hm
    exact wellFormed_vectorJson e.2
  rw [json_eq]
  refine Json.wellFormed_object.2 ⟨o.ordered_jsonMembers, fun m hm => ?_⟩
  simp only [jsonMembers, List.mem_append, List.mem_cons, List.not_mem_nil, or_false] at hm
  rcases hm with ((((rfl | rfl) | hm) | hm) | hm) | hm
  · exact hstring _
  · exact hstring _
  · split at hm
    · cases hm
    · rw [List.mem_singleton.1 hm]
      exact h.properties
  · obtain ⟨tenant, -, rfl⟩ := List.mem_map.1 hm
    exact hstring tenant
  · obtain ⟨values, -, rfl⟩ := List.mem_map.1 hm
    exact wellFormed_vectorJson values
  · split at hm
    · cases hm
    · rw [List.mem_singleton.1 hm]
      exact hvectors

end DataObject

namespace Insertion

open Json

variable {b : Insertion}

theorem json_eq (b : Insertion) :
    b.json = .object [("objects", .array (b.objects.map DataObject.json))] := rfl

theorem parse?_text_json (hformed : ∀ o ∈ b.objects, o.WellFormed) (hreals : b.json.RealsReadBack)
    (hdepth : b.json.depth ≤ deepest) : parse? b.json.text = some b.json := by
  have hbody : b.json.WellFormed := by
    rw [json_eq]
    refine wellFormed_object.2 ⟨List.pairwise_singleton _ _, fun m hm => ?_⟩
    rw [List.mem_singleton.1 hm]
    refine wellFormed_array.2 fun v hv => ?_
    obtain ⟨o, ho, rfl⟩ := List.mem_map.1 hv
    exact DataObject.wellFormed_json (hformed o ho)
  rw [parse?_text hbody hreals, if_pos hdepth]

/-- What is asked of a body holds of every element of it. -/
theorem element_of_body {o : DataObject} (ho : o ∈ b.objects) (hreals : b.json.RealsReadBack)
    (hdepth : b.json.depth ≤ deepest) : o.json.RealsReadBack ∧ o.json.depth ≤ deepest := by
  have hmem : o.json ∈ b.objects.map DataObject.json := List.mem_map_of_mem ho
  rw [json_eq] at hreals hdepth
  have helements := realsReadBack_object.1 hreals _ (List.mem_singleton_self _)
  refine ⟨realsReadBack_array.1 helements _ hmem, ?_⟩
  have hitem := depth_le_itemsDepth hmem
  simp only [depth, membersDepth] at hdepth
  omega

end Insertion

namespace DataObject

/-- Objects are read back from their own texts, and from the elements of a body that has been
printed and read, as long as the text does not nest deeper than a reader allows and each number is
read back from its own text. No field is left out but those of `LeavesOut`, in either form. -/
theorem read_back :
    (∀ o : DataObject, o.WellFormed → (∀ x ∈ o.singles, x.isFinite = true) → o.NumbersReadBack →
      o.json.depth ≤ Json.deepest → reader.ofString? o.text = some o) ∧
    (∀ b : Insertion, (∀ o ∈ b.objects, o.WellFormed ∧ ∀ x ∈ o.singles, x.isFinite = true) →
      b.json.RealsReadBack → b.json.depth ≤ Json.deepest →
        ∃ elements, (Json.parse? b.json.text).bind (Json.member? "objects") =
            some (.array elements) ∧
          List.Forall₂ (fun o element => ofJson? element = some o ∧
            reader.ofString? element.text = some o) b.objects elements) ∧
    (∀ (o : DataObject) (name : String),
      (name ∈ o.fieldTexts.map Prod.fst ↔ name ∈ fieldNames ∧ ¬o.LeavesOut name) ∧
        ((o.json.member? name).isSome = true ↔ name ∈ fieldNames ∧ ¬o.LeavesOut name)) := by
  refine ⟨?_, ?_, fun o name => ⟨mem_members_iff name, isSome_member?_iff o name⟩⟩
  · intro o hformed hfinite hback hdepth
    exact (readAs_text hformed hfinite hback).ofString?_eq hdepth
  · intro b hobjects hreals hdepth
    have hparse := Insertion.parse?_text_json (fun o ho => (hobjects o ho).1) hreals hdepth
    refine ⟨b.objects.map json, ?_, ?_⟩
    · rw [hparse, Option.bind_some, Insertion.json_eq]
      rfl
    · refine List.forall₂_map_right_iff.2 (List.forall₂_same.2 fun o ho => ?_)
      obtain ⟨hformed, hfinite⟩ := hobjects o ho
      obtain ⟨hreal, hdeep⟩ := Insertion.element_of_body ho hreals hdepth
      exact ⟨ofJson?_json hfinite,
        (readAs_text_json hformed hfinite hreal).ofString?_eq hdeep⟩

/-- An object with an empty vector and an empty tenant, and with a number in both widths. -/
def partlyEmpty (x : Single) : DataObject where
  className := "Pizza"
  properties := [("weight", .ofSingle x)]
  vector := some []
  vectors := [("title", [x])]
  tenant := some ""

theorem wellFormed_partlyEmpty (x : Single) : (partlyEmpty x).WellFormed := by
  have hvalues : ∀ m ∈ [("weight", Json.ofSingle x)], m.2.WellFormed := by
    simp [wellFormed_ofSingle]
  exact ⟨Json.wellFormed_object.2 ⟨List.pairwise_singleton _ _, hvalues⟩,
    List.pairwise_singleton _ _⟩

theorem jsonMembers_partlyEmpty (x : Single) : (partlyEmpty x).jsonMembers =
    [("class", .string "Pizza"), ("id", .string (default : Uuid).text),
      ("properties", .object [("weight", .ofSingle x)]), ("tenant", .string ""),
      ("vector", .array []), ("vectors", .object [("title", .array [.ofSingle x])])] := rfl

theorem realsReadBack_partlyEmpty {x : Single} (h : (Json.ofSingle x).RealsReadBack) :
    (partlyEmpty x).json.RealsReadBack := by
  have hstring : ∀ s, (Json.string s).RealsReadBack := fun _ _ h => nomatch h
  rw [json_eq, jsonMembers_partlyEmpty]
  simp [Json.realsReadBack_object, Json.realsReadBack_array, hstring, h]

/-- One half. -/
def half : Single := Binary.ofRatio false 1 2

/-- The numeral that one half is written as. -/
def halfNumeral : Json.Numeral := ⟨false, [0], some [5], none⟩

theorem isFinite_half : half.isFinite = true := by decide +kernel

theorem value?_halfNumeral : halfNumeral.value? = some (.ofSingle half) := by
  have hscale : Json.Numeral.scaleDown (Binary.ofInt 5) 1 = half.toDouble := by
    rw [Json.Numeral.scaleDown, if_pos (by decide)]
    decide +kernel
  show some (Json.ofDouble { Json.Numeral.scaleDown (Binary.ofInt 5) 1 with negative := false }) = _
  rw [hscale]
  rfl

theorem readBack_half :
    Json.Reader.single.ofString? (Layout.jsonSingle.text half) = some half := by
  have hchars : Layout.jsonSingle.chars half = ['0', '.', '5'] := by decide +kernel
  have htree : Json.Tree.ofString? (Layout.jsonSingle.text half) = some (.number halfNumeral) := by
    rw [Json.Tree.ofString?, Layout.text, hchars, String.toList_ofList]
    rfl
  rw [Json.Reader.ofString?, htree, Option.bind_some, Json.Reader.single, Json.Reader.number,
    value?_halfNumeral, Json.ofSingle_of_isFinite isFinite_half]
  exact congrArg some (Binary.toSingle_toDouble isFinite_half)

theorem realsReadBack_half : (Json.ofSingle half).RealsReadBack := by
  have hchars : (Json.ofSingle half).chars = ['0', '.', '5'] := by
    rw [Json.ofSingle_of_isFinite isFinite_half, Json.chars]
    decide +kernel
  have htree : Json.Tree.ofString? (Json.ofSingle half).text = some (.number halfNumeral) := by
    rw [Json.Tree.ofString?, Json.text, hchars, String.toList_ofList]
    rfl
  have hparse : Json.parse? (Json.ofSingle half).text = some (.ofSingle half) := by
    rw [Json.parse?, Json.Reader.ofString?, htree]
    exact value?_halfNumeral
  rw [Json.ofSingle_of_isFinite isFinite_half] at hparse ⊢
  rintro x ⟨⟩
  exact hparse

theorem finite_partlyEmpty : ∀ x ∈ (partlyEmpty half).singles, x.isFinite = true := by
  intro x hx
  rw [List.mem_singleton.1 (show x ∈ [half] from hx)]
  exact isFinite_half

/-- Of this object nothing is left out, and it comes back from its text and from a body. -/
theorem read_back_partlyEmpty :
    reader.ofString? (partlyEmpty half).text = some (partlyEmpty half) ∧
      (∃ elements, (Json.parse? (Insertion.json { objects := [partlyEmpty half] }).text).bind
          (Json.member? "objects") = some (.array elements) ∧
        List.Forall₂ (fun o element => ofJson? element = some o ∧
          reader.ofString? element.text = some o) [partlyEmpty half] elements) ∧
      "vector" ∈ (partlyEmpty half).fieldTexts.map Prod.fst ∧
      ((partlyEmpty half).json.member? "tenant").isSome = true := by
  have hdepth : (partlyEmpty half).json.depth = 3 := by
    rw [json_eq, jsonMembers_partlyEmpty, Json.ofSingle_of_isFinite isFinite_half]
    rfl
  have hreals := realsReadBack_partlyEmpty realsReadBack_half
  have hbody : (Insertion.json { objects := [partlyEmpty half] }).RealsReadBack := by
    rw [Insertion.json_eq]
    simp [Json.realsReadBack_object, Json.realsReadBack_array, hreals]
  have hwritten : ∀ name ∈ fieldNames, ¬(partlyEmpty half).LeavesOut name := by
    rintro _ - (h | h | h | h) <;> cases h
  obtain ⟨hown, helements, hfields⟩ := read_back
  refine ⟨hown _ (wellFormed_partlyEmpty half) finite_partlyEmpty
    ⟨realsReadBack_properties hreals, ?_⟩ (by rw [hdepth]; decide), ?_, ?_, ?_⟩
  · intro x hx
    rw [List.mem_singleton.1 (show x ∈ [half] from hx)]
    exact readBack_half
  · refine helements { objects := [partlyEmpty half] } ?_ hbody ?_
    · intro o ho
      rw [List.mem_singleton.1 ho]
      exact ⟨wellFormed_partlyEmpty half, finite_partlyEmpty⟩
    · rw [Insertion.json_eq]
      simp only [Json.depth, Json.membersDepth, List.map_cons, List.map_nil, Json.itemsDepth,
        hdepth]
      decide
  · exact (hfields (partlyEmpty half) "vector").1.2 ⟨by decide, hwritten _ (by decide)⟩
  · exact (hfields (partlyEmpty half) "tenant").2.2 ⟨by decide, hwritten _ (by decide)⟩

end DataObject

end VectorQuery
