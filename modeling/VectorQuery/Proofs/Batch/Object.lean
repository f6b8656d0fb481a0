import VectorQuery.Batch.Insertion
import VectorQuery.Proofs.Filter.Reading
import VectorQuery.Proofs.Json.Record
import VectorQuery.Proofs.Uuid

/-!
# Reading objects back

An object is read back from its own text, in which vectors have 32-bit numbers, and from its place
in a printed body, where their numbers have 64 bits. The two differ in the order of the fields and
in the texts of the vectors only, so one lemma (`readAs_reader`) reads both. What is left out has the
value that the reader takes for it, and an empty vector or tenant is not left out.
-/

namespace VectorQuery

open Number

namespace DataObject

/-- The numbers of all vectors. -/
def singles (o : DataObject) : List Single := o.vector.getD [] ++ o.vectors.flatMap Prod.snd

/-- Properties and named vectors are in the order of their names, each name once, and so are the
members of objects in the properties. -/
structure WellFormed (o : DataObject) : Prop where
  properties : (Json.object o.properties).WellFormed
  /-- The named vectors. -/
  vectors : Keyed.Ordered o.vectors

/-- Every number is read back from the text printed for it. -/
structure NumbersReadBack (o : DataObject) : Prop where
  /-- The 64-bit numbers of the properties. -/
  properties : (Json.object o.properties).RealsReadBack
  /-- The 32-bit numbers of the vectors. -/
  vectors : ∀ x ∈ o.singles, Json.Reader.single.ofString? (Layout.jsonSingle.text x) = some x

/-! ## Objects are well formed -/

/-- The values that a setting gives have objects with every key once. -/
def Setting.WellFormed : Setting → Prop
  | .property _ value => value.WellFormed
  | .properties members => ∀ m ∈ members, m.2.WellFormed
  | _ => True

theorem wellFormed_set {o : DataObject} (h : o.WellFormed) {s : Setting} (hs : s.WellFormed) :
    (o.set s).WellFormed := by
  obtain ⟨hproperties, hvectors⟩ := h
  obtain ⟨hordered, hvalues⟩ := Json.wellFormed_object.1 hproperties
  cases s with
  | property name value =>
    refine ⟨Json.wellFormed_object.2 ⟨Keyed.ordered_insert _ _ hordered, fun m hm => ?_⟩, hvectors⟩
    rcases Keyed.mem_insert hm with rfl | hm
    · exact hs
    · exact hvalues m hm
  | properties properties =>
    obtain ⟨hordered, hmem⟩ := Keyed.ordered_ofList properties
    exact ⟨Json.wellFormed_object.2 ⟨hordered, fun m hm => hs m (hmem m hm)⟩, hvectors⟩
  | namedVector name values => exact ⟨hproperties, Keyed.ordered_insert _ _ hvectors⟩
  | id _ => exact ⟨hproperties, hvectors⟩
  | vector _ => exact ⟨hproperties, hvectors⟩
  | tenant _ => exact ⟨hproperties, hvectors⟩

/-- Every object that is set up from such values is well formed. -/
theorem wellFormed_ofSettings (id : Uuid) (className : String) {settings : List Setting}
    (h : ∀ s ∈ settings, s.WellFormed) : (ofSettings id className settings).WellFormed := by
  have hfold : ∀ o : DataObject, o.WellFormed → (settings.foldl set o).WellFormed := by
    induction settings with
    | nil => exact fun _ ho => ho
    | cons s settings ih =>
      obtain ⟨hs, hsettings⟩ := List.forall_mem_cons.1 h
      exact fun o ho => ih hsettings _ (wellFormed_set ho hs)
  refine hfold _ ⟨Json.wellFormed_object.2 ⟨List.Pairwise.nil, ?_⟩, List.Pairwise.nil⟩
  exact fun m hm => absurd hm List.not_mem_nil

/-! ## The fields that are written -/

/-- The names of the fields, in the order of the record. -/
def fieldNames : List String := ["id", "class", "properties", "vector", "vectors", "tenant"]

/-- The fields of an object that nothing is written for. -/
inductive LeavesOut (o : DataObject) : String → Prop
  /-- There are no properties. -/
  | properties (h : o.properties = []) : LeavesOut o "properties"
  /-- No unnamed vector is set. -/
  | vector (h : o.vector = none) : LeavesOut o "vector"
  /-- There are no named vectors. -/
  | vectors (h : o.vectors = []) : LeavesOut o "vectors"
  /-- No tenant is set. -/
  | tenant (h : o.tenant = none) : LeavesOut o "tenant"

/-- The fields as texts, when the text of a vector is given. -/
def members (vectorText : List Single → List Char) (o : DataObject) : List (String × List Char) :=
  [("id", Json.chars (.string o.id.text)), ("class", Json.chars (.string o.className))] ++
    (if o.properties.isEmpty then []
      else [("properties", Json.chars (.object o.properties))]) ++
    (o.vector.toList.map fun values => ("vector", vectorText values)) ++
    (if o.vectors.isEmpty then []
      else [("vectors", Json.objectChars (o.vectors.map fun e => (e.1, vectorText e.2)))]) ++
    (o.tenant.toList.map fun tenant => ("tenant", Json.chars (.string tenant)))

theorem fieldTexts_eq (o : DataObject) : o.fieldTexts = o.members vectorChars := rfl

section Members
variable {o : DataObject} {vectorText : List Single → List Char}

theorem sublist_members :
    List.Sublist ((o.members vectorText).map Prod.fst) fieldNames := by
  obtain ⟨id, className, properties, vector, vectors, tenant⟩ := o
  cases properties <;> cases vector <;> cases vectors <;> cases tenant <;>
    simp [members, fieldNames]

theorem nodup_members : ((o.members vectorText).map Prod.fst).Nodup :=
  (by decide : fieldNames.Nodup).sublist sublist_members

theorem leavesOut_iff (name : String) : o.LeavesOut name ↔
    name = "properties" ∧ o.properties = [] ∨ name = "vector" ∧ o.vector = none ∨
      name = "vectors" ∧ o.vectors = [] ∨ name = "tenant" ∧ o.tenant = none := by
  constructor
  · rintro (h | h | h | h) <;> simp [h]
  · rintro (⟨rfl, h⟩ | ⟨rfl, h⟩ | ⟨rfl, h⟩ | ⟨rfl, h⟩)
    · exact .properties h
    · exact .vector h
    · exact .vectors h
    · exact .tenant h

/-- A field is written unless it is left out. -/
theorem mem_members_iff (name : String) : name ∈ (o.members vectorText).map Prod.fst ↔
    name ∈ fieldNames ∧ ¬o.LeavesOut name := by
  by_cases hname : name ∈ fieldNames
  · obtain ⟨id, className, properties, vector, vectors, tenant⟩ := o
    simp only [fieldNames, List.mem_cons, List.not_mem_nil, or_false] at hname
    rw [leavesOut_iff]
    obtain rfl | rfl | rfl | rfl | rfl | rfl := hname
    · simp [members, fieldNames]
    · simp [members, fieldNames]
    · cases properties <;> simp [members, fieldNames]
    · cases vector <;> simp [members, fieldNames]
    · cases vectors <;> simp [members, fieldNames]
    · cases tenant <;> simp [members, fieldNames]
  · exact iff_of_false (fun h => hname (sublist_members.subset h)) fun h => hname h.1

end Members

/-! ## The object as a JSON value -/

/-- The members of the object as a JSON value, in the order of their names. -/
def jsonMembers (o : DataObject) : List (String × Json) :=
  [("class", .string o.className), ("id", .string o.id.text)] ++
    (if o.properties.isEmpty then [] else [("properties", .object o.properties)]) ++
    (o.tenant.toList.map fun tenant => ("tenant", .string tenant)) ++
    (o.vector.toList.map fun values => ("vector", vectorJson values)) ++
    (if o.vectors.isEmpty then []
      else [("vectors", .object (o.vectors.map fun e => (e.1, vectorJson e.2)))])

theorem ordered_jsonMembers (o : DataObject) : Keyed.Ordered o.jsonMembers := by
  have hsublist : List.Sublist (o.jsonMembers.map Prod.fst)
      ["class", "id", "properties", "tenant", "vector", "vectors"] := by
    obtain ⟨id, className, properties, vector, vectors, tenant⟩ := o
    cases properties <;> cases vector <;> cases vectors <;> cases tenant <;> simp [jsonMembers]
  have hordered : ["class", "id", "properties", "tenant", "vector", "vectors"].Pairwise
      (fun a b : String => a < b) := by decide
  exact List.pairwise_map.1 (hordered.sublist hsublist)

/-- Fields in the order of their names are fields in the order of the record. -/
theorem perm_fields {γ : Type} (i c : γ) (ps vs ws ts : List γ) :
    ([i, c] ++ ps ++ vs ++ ws ++ ts).Perm ([c, i] ++ ps ++ ts ++ vs ++ ws) := by
  have hfront : ([i, c] ++ ps).Perm ([c, i] ++ ps) := (List.Perm.swap c i []).append_right ps
  have hback : (vs ++ ws ++ ts).Perm (ts ++ vs ++ ws) := by
    rw [List.append_assoc ts]
    exact List.perm_append_comm
  simpa only [List.append_assoc] using hfront.append hback

theorem json_eq (o : DataObject) : o.json = .object o.jsonMembers :=
  congrArg Json.object (Keyed.ofList_of_perm o.ordered_jsonMembers (perm_fields ..))

theorem perm_members (o : DataObject) :
    (o.jsonMembers.map fun m => (m.1, m.2.chars)).Perm
      (o.members fun values => (vectorJson values).chars) := by
  have hperm := ((perm_fields ..).symm : o.jsonMembers.Perm _).map fun m => (m.1, m.2.chars)
  refine hperm.trans (List.Perm.of_eq ?_)
  obtain ⟨id, className, properties, vector, vectors, tenant⟩ := o
  cases properties <;> cases vectors <;>
    simp [members, Json.chars_object, Function.comp_def]

/-! ## Reading the fields -/

open Json Json.Reader Json.FieldReader

section Reading
variable {o : DataObject} {vectorText : List Single → List Char} {n : Nat}

/-- The texts of the fields are read as their values, within so many levels. -/
structure FieldsReadAs (vectorText : List Single → List Char) (n : Nat) (o : DataObject) :
    Prop where
  /-- The properties, if there are any. -/
  properties : o.properties ≠ [] →
    ReadAs (keyed Reader.json) n (Json.chars (.object o.properties)) o.properties
  /-- The unnamed vector, if one is set. -/
  vector : ∀ values ∈ o.vector, ReadAs (list single) n (vectorText values) values
  /-- The named vectors, if there are any. -/
  vectors : o.vectors ≠ [] → ReadAs (keyed (list single)) n
    (objectChars (o.vectors.map fun e => (e.1, vectorText e.2))) o.vectors

theorem readAs_id (id : Uuid) :
    ReadAs (fun room tree => (Reader.string room tree).bind Uuid.ofString?) 0
      (Json.chars (.string id.text)) id :=
  (readAs_string id.text).bind (Uuid.ofString?_text id)

/-- Each text of a field is one value. -/
theorem FieldsReadAs.spelled (h : o.FieldsReadAs vectorText n) :
    ∀ m ∈ o.members vectorText, ∃ tree, Spelled m.2 tree := by
  have hof : ∀ {α : Type} {reader : Reader α} {cs : List Char} {x : α},
      ReadAs reader n cs x → ∃ tree, Spelled cs tree := fun ⟨tree, hspelled, _⟩ => ⟨tree, hspelled⟩
  intro m hm
  simp only [members, List.mem_append] at hm
  rcases hm with (((hm | hm) | hm) | hm) | hm
  · rcases List.mem_cons.1 hm with rfl | hm
    · exact ⟨_, spelled_string _⟩
    · rw [List.mem_singleton.1 hm]
      exact ⟨_, spelled_string _⟩
  · split at hm
    · cases hm
    · rename_i hne
      rw [List.mem_singleton.1 hm]
      exact hof (h.properties fun heq => hne (by rw [heq]; rfl))
  · obtain ⟨values, hvalues, rfl⟩ := List.mem_map.1 hm
    exact hof (h.vector values (Option.mem_toList.1 hvalues))
  · split at hm
    · cases hm
    · rename_i hne
      rw [List.mem_singleton.1 hm]
      exact hof (h.vectors fun heq => hne (by rw [heq]; rfl))
  · obtain ⟨tenant, -, rfl⟩ := List.mem_map.1 hm
    exact ⟨_, spelled_string _⟩

/-- An object is read from the texts of its fields, whatever order they come in. -/
theorem readAs_reader {texts : List (String × List Char)}
    (hperm : texts.Perm (o.members vectorText)) (h : o.FieldsReadAs vectorText n) :
    ReadAs reader (n + 1) (objectChars texts) o := by
  have hkeys : (texts.map Prod.fst).Nodup :=
    (hperm.map Prod.fst).nodup_iff.2 nodup_members
  have hwritten : ∀ {name cs}, (name, cs) ∈ o.members vectorText →
      Keyed.get? name texts = some cs := fun hmem =>
    Keyed.get?_of_mem hkeys (hperm.mem_iff.2 hmem)
  have hmissing : ∀ {name}, o.LeavesOut name → Keyed.get? name texts = none := by
    intro name hname
    refine Keyed.get?_of_notMem fun hmem => ?_
    exact ((mem_members_iff name).1 ((hperm.map Prod.fst).mem_iff.1 hmem)).2 hname
  refine readAs_record (by decide) hkeys
    (fun m hm => h.spelled m (hperm.mem_iff.1 hm)) fun room hroom => ⟨⟨[], room⟩, ?_⟩
  have hid : (required fun room tree => (Reader.string room tree).bind Uuid.ofString?).Gives
      (treeUnder? texts "id") room o.id :=
    gives_required (hwritten (by simp [members])) (readAs_id o.id) (Nat.zero_le _)
  have hclass : (required Reader.string).Gives (treeUnder? texts "class") room o.className :=
    gives_required (hwritten (by simp [members])) (readAs_string o.className) (Nat.zero_le _)
  have hproperties : (withDefault [] (keyed Reader.json)).Gives (treeUnder? texts "properties")
      room o.properties := by
    by_cases hnone : o.properties = []
    · rw [hnone]
      exact gives_default (hmissing (.properties hnone))
    · exact gives_withDefault (hwritten (by simp [members, hnone])) (h.properties hnone) hroom
  have hvector : (FieldReader.optional (list single)).Gives (treeUnder? texts "vector") room
      o.vector := by
    cases hvalues : o.vector with
    | none => exact gives_default (hmissing (.vector hvalues))
    | some values =>
      exact gives_withDefault (hwritten (by simp [members, hvalues]))
        (readAs_optional list_null (h.vector values hvalues)) hroom
  have hvectors : (withDefault [] (keyed (list single))).Gives (treeUnder? texts "vectors") room
      o.vectors := by
    by_cases hnone : o.vectors = []
    · rw [hnone]
      exact gives_default (hmissing (.vectors hnone))
    · exact gives_withDefault (hwritten (by simp [members, hnone])) (h.vectors hnone) hroom
  have htenant : (FieldReader.optional Reader.string).Gives (treeUnder? texts "tenant") room
      o.tenant := by
    cases htenant : o.tenant with
    | none => exact gives_default (hmissing (.tenant htenant))
    | some tenant =>
      exact gives_withDefault (hwritten (by simp [members, htenant]))
        (readAs_optional (fun _ => rfl) (readAs_string tenant)) (Nat.zero_le _)
  simp only [List.map_cons, List.map_nil]
  rw [run_bind hid, run_bind hclass, run_bind hproperties, run_bind hvector, run_bind hvectors,
    run_bind htenant]
  rfl

end Reading

/-! ## The two texts -/

section Texts
variable {o : DataObject}

theorem depth_json (o : DataObject) : o.json.depth = membersDepth o.jsonMembers + 1 := by
  rw [json_eq, depth]

theorem mem_singles_of_vector {values : List Single} (h : o.vector = some values) {x : Single}
    (hx : x ∈ values) : x ∈ o.singles := by
  rw [singles, h]
  exact List.mem_append_left _ hx

theorem mem_singles_of_vectors {e : String × List Single} (he : e ∈ o.vectors) {x : Single}
    (hx : x ∈ e.2) : x ∈ o.singles :=
  List.mem_append_right _ (List.mem_flatMap.2 ⟨e, he, hx⟩)

/-- From texts that the numbers of the vectors are read from, all fields are read. -/
theorem fieldsReadAs {numberText : Single → List Char} {vectorText : List Single → List Char}
    (hformed : o.WellFormed) (hreals : (Json.object o.properties).RealsReadBack)
    (hnumbers : ∀ x ∈ o.singles, ReadAs single 0 (numberText x) x)
    (htext : ∀ values, (∀ x ∈ values, x ∈ o.singles) →
      vectorText values = arrayChars (values.map numberText)) :
    o.FieldsReadAs vectorText (membersDepth o.jsonMembers) := by
  have hvalues : ∀ values, (∀ x ∈ values, x ∈ o.singles) →
      ReadAs (list single) 1 (vectorText values) values := by
    intro values hmem
    rw [htext values hmem]
    exact readAs_list fun x hx => hnumbers x (hmem x hx)
  constructor
  · intro hne
    have hmem : ("properties", Json.object o.properties) ∈ o.jsonMembers := by
      simp [jsonMembers, hne]
    exact (readAs_members hformed.properties hreals).mono (depth_le_membersDepth hmem)
  · intro values hvector
    have hmem : ("vector", vectorJson values) ∈ o.jsonMembers := by
      simp [jsonMembers, Option.mem_def.1 hvector]
    have hdepth : 1 ≤ (vectorJson values).depth := by
      rw [vectorJson, depth]
      omega
    exact (hvalues values fun x => mem_singles_of_vector hvector).mono
      (Nat.le_trans hdepth (depth_le_membersDepth hmem))
  · intro hne
    have hmem : ("vectors", Json.object (o.vectors.map fun e => (e.1, vectorJson e.2))) ∈
        o.jsonMembers := by
      simp [jsonMembers, hne]
    have hdepth : 2 ≤ (Json.object (o.vectors.map fun e => (e.1, vectorJson e.2))).depth := by
      obtain ⟨e, vectors, hcons⟩ := List.exists_cons_of_ne_nil hne
      rw [hcons, depth, List.map_cons, membersDepth, vectorJson, depth]
      omega
    exact (readAs_keyed hformed.vectors fun e he =>
      hvalues e.2 fun x => mem_singles_of_vectors he).mono
        (Nat.le_trans hdepth (depth_le_membersDepth hmem))

/-- An object is read back from its own text. -/
theorem readAs_text (hformed : o.WellFormed) (hfinite : ∀ x ∈ o.singles, x.isFinite = true)
    (hback : o.NumbersReadBack) :
    ReadAs reader o.json.depth (objectChars o.fieldTexts) o := by
  rw [depth_json, fieldTexts_eq]
  refine readAs_reader (.refl _) (fieldsReadAs hformed hback.properties
    (fun x hx => readAs_single (hfinite x hx) (hback.vectors x hx)) fun values hmem => ?_)
  refine congrArg arrayChars (List.map_congr_left fun x hx => ?_)
  rw [if_pos (hfinite x (hmem x hx))]

theorem realsReadBack_properties (h : o.json.RealsReadBack) :
    (Json.object o.properties).RealsReadBack := by
  by_cases hnone : o.properties = []
  · rw [hnone]
    exact realsReadBack_object.2 fun m hm => absurd hm List.not_mem_nil
  · rw [json_eq] at h
    exact realsReadBack_object.1 h ("properties", .object o.properties)
      (by simp [jsonMembers, hnone])

theorem realsReadBack_ofSingle (h : o.json.RealsReadBack) {x : Single} (hx : x ∈ o.singles) :
    (Json.ofSingle x).RealsReadBack := by
  rw [json_eq] at h
  have hmembers := realsReadBack_object.1 h
  have hvector : ∀ {values : List Single}, x ∈ values → (vectorJson values).RealsReadBack →
      (Json.ofSingle x).RealsReadBack := fun hmem hvalues =>
    realsReadBack_array.1 hvalues _ (List.mem_map_of_mem hmem)
  rcases List.mem_append.1 hx with hx | hx
  · cases hvalues : o.vector with
    | none => rw [hvalues] at hx; cases hx
    | some values =>
      rw [hvalues] at hx
      exact hvector hx (hmembers ("vector", vectorJson values) (by simp [jsonMembers, hvalues]))
  · obtain ⟨e, he, hx⟩ := List.mem_flatMap.1 hx
    have hne : o.vectors ≠ [] := List.ne_nil_of_mem he
    have hvectors := hmembers ("vectors", .object (o.vectors.map fun e => (e.1, vectorJson e.2)))
      (by simp [jsonMembers, hne])
    exact hvector hx (realsReadBack_object.1 hvectors (e.1, vectorJson e.2)
      (List.mem_map.2 ⟨e, he, rfl⟩))

/-- An object is read back from the text of its JSON value. -/
theorem readAs_text_json (hformed : o.WellFormed) (hfinite : ∀ x ∈ o.singles, x.isFinite = true)
    (hreals : o.json.RealsReadBack) : ReadAs reader o.json.depth o.json.chars o := by
  rw [depth_json, json_eq, chars_object]
  refine readAs_reader o.perm_members (fieldsReadAs hformed (realsReadBack_properties hreals)
    (fun x hx => readAs_ofSingle (hfinite x hx) (realsReadBack_ofSingle hreals hx))
      fun values _ => ?_)
  rw [vectorJson, chars_array, List.map_map]
  rfl

end Texts

end DataObject

end VectorQuery
