import Mathlib.Data.List.Perm.Basic
import VectorQuery.Selection.Request

/-!
# Which of the selected properties are asked for

A selection selects the properties at the ends of its paths. A message asks for those whose path
neither begins with metadata, at first or behind a fragment, nor leaves a field that has fragments
by anything else than a fragment. So it loses what stands beside a fragment, and it takes metadata
in a property with parts for parts of it.
-/

namespace VectorQuery

/-- A step on the way to a property: to a field, or to the objects of one class. -/
inductive Step where
  | field (name : String)
  | fragment (target : String)
  deriving DecidableEq

/-- The step that a name stands for. -/
def Step.named (name : String) : Step :=
  if Field.isFragment { name } then .fragment (Field.fragmentClass { name }) else .field name

namespace Rpc

mutual
/-- The paths of the properties that are asked for of a property with parts. -/
def ObjectPropertiesRequest.paths : ObjectPropertiesRequest → List (List Step)
  | ⟨propName, primitiveProperties, objectProperties⟩ =>
    (primitiveProperties.map (fun name => [Step.named name]) ++
      ObjectPropertiesRequest.allPaths objectProperties).map (Step.named propName :: ·)

/-- The paths of the properties that are asked for of properties with parts. -/
def ObjectPropertiesRequest.allPaths : List ObjectPropertiesRequest → List (List Step)
  | [] => []
  | m :: ms => m.paths ++ ObjectPropertiesRequest.allPaths ms
end

mutual
/-- The paths of the properties that are asked for. -/
def PropertiesRequest.paths : PropertiesRequest → List (List Step)
  | ⟨nonRefProperties, refProperties, objectProperties⟩ =>
    nonRefProperties.map (fun name => [Step.named name]) ++
      (RefPropertiesRequest.allPaths refProperties ++
        ObjectPropertiesRequest.allPaths objectProperties)

/-- The paths of the properties that are asked for of the objects referred to. -/
def RefPropertiesRequest.allPaths : List RefPropertiesRequest → List (List Step)
  | [] => []
  | m :: ms => m.paths ++ RefPropertiesRequest.allPaths ms

/-- The paths of the properties that are asked for of the objects of one class. Where neither
properties nor metadata are asked for, it is the objects themselves. -/
def RefPropertiesRequest.paths : RefPropertiesRequest → List (List Step)
  | ⟨referenceProperty, properties, metadata, targetCollection⟩ =>
    (if properties.isNone && metadata.isNone then [[]]
      else PropertiesRequest.optionPaths properties).map
        (Step.named referenceProperty :: .fragment targetCollection :: ·)

/-- The paths of the properties that are asked for, if any are. -/
def PropertiesRequest.optionPaths : Option PropertiesRequest → List (List Step)
  | none => []
  | some m => m.paths
end

end Rpc

namespace Field

open Rpc

/-- The step that a field is. -/
def step (f : Field) : Step := Step.named f.name

mutual
/-- The ways from a field down to the fields without fields of their own. -/
def paths : Field → List (List Field)
  | ⟨name, []⟩ => [[⟨name, []⟩]]
  | ⟨name, f :: fields⟩ => (f.paths ++ allPaths fields).map (⟨name, f :: fields⟩ :: ·)

/-- The ways from fields down to the fields without fields of their own. -/
def allPaths : List Field → List (List Field)
  | [] => []
  | f :: fields => f.paths ++ allPaths fields
end

/-- Whether a message asks for what is at the end of a path. Behind a field with fragments the path
must go on by a fragment, from which it is judged anew; behind any other field it is not judged. -/
def sent : List Field → Bool
  | [] => true
  | [f] => !f.isAdditional
  | f :: g :: rest =>
    !f.isAdditional && (!f.fields.any isFragment || (g.isFragment && sent rest))

/-- What a message asks for. -/
def requested (fields : List Field) : List (List Step) :=
  PropertiesRequest.optionPaths (propertiesRequest fields)

/-- The metadata that fields of `_additional` ask for. -/
def metadataOf (fields : List Field) : MetadataRequest where
  uuid := fields.any (·.name = "id")
  vector := fields.any (·.name = "vector")
  creationTimeUnix := fields.any (·.name = "creationTimeUnix")
  lastUpdateTimeUnix := fields.any (·.name = "lastUpdateTimeUnix")
  distance := fields.any (·.name = "distance")
  certainty := fields.any (·.name = "certainty")
  score := fields.any (·.name = "score")
  explainScore := fields.any (·.name = "explainScore")
  isConsistent := fields.any (·.name = "isConsistent")
  vectors := (fields.filter (·.name = "vectors")).flatMap fun f => f.fields.map name

/-- How a message relates to the selection that it is made of. -/
structure AsksFor (fields : List Field) : Prop where
  /-- It asks for the properties at the ends of the paths that are sent, each as often as it is
  selected. -/
  paths : (requested fields).Perm (((allPaths fields).filter sent).map (List.map step))
  /-- These are all that are no metadata if and only if exactly the paths through metadata are not
  sent. -/
  complete_iff : (requested fields).Perm
      (((allPaths fields).filter fun p => !p.any isAdditional).map (List.map step)) ↔
    ∀ p ∈ allPaths fields, sent p = !p.any isAdditional
  /-- It asks for no properties if and only if the selection has nothing but metadata. -/
  nothing_iff : propertiesRequest fields = none ↔ ∀ f ∈ fields, f.isAdditional
  /-- It asks for the metadata that are listed by any of the fields for metadata. -/
  metadata : metadataRequest fields =
    if fields.any isAdditional then
      some (metadataOf ((fields.filter isAdditional).flatMap Field.fields))
    else none
  /-- Of the objects referred to, it asks for what their fragments select. -/
  references : referenceRequests fields = (fields.filter fun f => !f.isAdditional).flatMap fun f =>
    (f.fields.filter isFragment).map fun g =>
      { referenceProperty := f.name
        properties := propertiesRequest g.fields
        metadata := metadataRequest g.fields
        targetCollection := g.fragmentClass }

/-! ## Metadata -/

theorem addMetadata_metadataOf (before : List Field) (f : Field) :
    addMetadata (metadataOf before) f = metadataOf (before ++ [f]) := by
  unfold addMetadata
  split <;> simp_all [metadataOf]

theorem foldl_addMetadata (fields before : List Field) :
    fields.foldl addMetadata (metadataOf before) = metadataOf (before ++ fields) := by
  induction fields generalizing before with
  | nil => rw [List.append_nil]; rfl
  | cons f fields ih => rw [List.foldl_cons, addMetadata_metadataOf, ih, List.append_assoc]; rfl

theorem metadataRequest_eq (fields : List Field) : metadataRequest fields =
    if fields.any isAdditional then
      some (metadataOf ((fields.filter isAdditional).flatMap Field.fields))
    else none := by
  have hfold := foldl_addMetadata ((fields.filter isAdditional).flatMap Field.fields) []
  rw [List.nil_append] at hfold
  unfold metadataRequest
  split
  · rename_i h
    rw [if_neg]
    simpa using h
  · rename_i h
    rw [if_pos]
    · exact congrArg some hfold
    · simpa [List.filter_eq_nil_iff] using h

/-! ## Paths -/

/-- The ways on from a field with the given fields: nowhere, if there are none. -/
def pathsBelow (fields : List Field) : List (List Field) :=
  if fields.isEmpty then [[]] else allPaths fields

theorem paths_eq (f : Field) : f.paths = (pathsBelow f.fields).map (f :: ·) := by
  obtain ⟨name, fields⟩ := f
  cases fields with
  | nil => rw [paths]; rfl
  | cons g fields => rw [paths]; rfl

theorem pathsBelow_of_ne_nil {fields : List Field} (h : fields ≠ []) :
    pathsBelow fields = allPaths fields :=
  if_neg fun hempty => h (List.isEmpty_iff.1 hempty)

theorem sent_of_isAdditional {f : Field} (h : f.isAdditional = true) (p : List Field) :
    sent (f :: p) = false := by
  cases p <;> simp [sent, h]

theorem sent_of_no_fragment {f : Field} (h : f.isAdditional = false)
    (hfragment : f.fields.any isFragment = false) (p : List Field) : sent (f :: p) = true := by
  cases p <;> simp [sent, h, hfragment]

theorem sent_of_fragment {f : Field} (h : f.isAdditional = false)
    (hfragment : f.fields.any isFragment = true) (g : Field) (p : List Field) :
    sent (f :: g :: p) = (g.isFragment && sent p) := by
  simp [sent, h, hfragment]

theorem step_of_isFragment {f : Field} (h : f.isFragment = true) :
    f.step = .fragment f.fragmentClass := if_pos h

theorem step_eq_additional_iff (f : Field) :
    f.step = .field additional ↔ f.isAdditional = true := by
  have hadditional : ¬isFragment { name := additional } = true := by decide
  unfold step Step.named isAdditional
  rw [decide_eq_true_iff]
  constructor
  · intro h
    split at h
    · cases h
    · exact Step.field.inj h
  · intro h
    rw [h, if_neg hadditional]

/-! ## Properties with parts -/

theorem map_step_cons (f : Field) (ps : List (List Field)) :
    (ps.map (f :: ·)).map (List.map step) = (ps.map (List.map step)).map (f.step :: ·) := by
  rw [List.map_map, List.map_map]
  rfl

mutual
theorem perm_objectProperties : (f : Field) → f.fields ≠ [] →
    (objectProperties f).paths.Perm (f.paths.map (List.map step))
  | ⟨name, fields⟩, h => by
    rw [paths_eq, pathsBelow_of_ne_nil h, map_step_cons]
    exact (perm_nestedProperties fields).map _

theorem perm_nestedProperties : (fields : List Field) →
    (((fields.filter fun f => f.fields.isEmpty).map name).map (fun name => [Step.named name]) ++
      ObjectPropertiesRequest.allPaths (nestedProperties fields)).Perm
        ((allPaths fields).map (List.map step))
  | [] => .refl _
  | ⟨_, []⟩ :: rest => (perm_nestedProperties rest).cons _
  | ⟨name, g :: fields⟩ :: rest => by
    have hfirst := perm_objectProperties ⟨name, g :: fields⟩ (List.cons_ne_nil g fields)
    have hrest := perm_nestedProperties rest
    rw [allPaths, List.map_append]
    exact (List.perm_append_comm_assoc ..).trans (hfirst.append hrest)
end

/-! ## Level by level -/

theorem allPaths_parts_append (ms ns : List ObjectPropertiesRequest) :
    ObjectPropertiesRequest.allPaths (ms ++ ns) =
      ObjectPropertiesRequest.allPaths ms ++ ObjectPropertiesRequest.allPaths ns := by
  induction ms with
  | nil => rfl
  | cons m ms ih => simp only [List.cons_append, ObjectPropertiesRequest.allPaths, ih,
      List.append_assoc]

theorem allPaths_references_append (ms ns : List RefPropertiesRequest) :
    RefPropertiesRequest.allPaths (ms ++ ns) =
      RefPropertiesRequest.allPaths ms ++ RefPropertiesRequest.allPaths ns := by
  induction ms with
  | nil => rfl
  | cons m ms ih => simp only [List.cons_append, RefPropertiesRequest.allPaths, ih,
      List.append_assoc]

/-- The paths of the properties that fields ask for, before they are found to be none. -/
def level (fields : List Field) : List (List Step) :=
  PropertiesRequest.paths
    ⟨plainProperties fields, referenceRequests fields, partedProperties fields⟩

theorem optionPaths_unlessNothing (m : PropertiesRequest) :
    PropertiesRequest.optionPaths (unlessNothing m) = m.paths := by
  obtain ⟨plain, references, parted⟩ := m
  unfold unlessNothing
  split
  · rename_i h
    simp only [Bool.and_eq_true, List.isEmpty_iff] at h
    obtain ⟨⟨rfl, rfl⟩, rfl⟩ := h
    rfl
  · rfl

theorem requested_eq_level (fields : List Field) : requested fields = level fields :=
  optionPaths_unlessNothing _

theorem level_cons (f : Field) (rest : List Field) :
    (level (f :: rest)).Perm (level [f] ++ level rest) := by
  have hplain : plainProperties (f :: rest) = plainProperties [f] ++ plainProperties rest := by
    rw [plainProperties, ← List.singleton_append, List.filter_append, List.map_append]
    rfl
  have hparted : partedProperties (f :: rest) = partedProperties [f] ++ partedProperties rest := by
    rw [partedProperties, ← List.singleton_append, List.filter_append, List.map_append]
    rfl
  have hreferences : referenceRequests (f :: rest) =
      referenceRequests [f] ++ referenceRequests rest := by
    simp only [referenceRequests, List.append_nil]
  simp only [level, PropertiesRequest.paths, hplain, hparted, hreferences, List.map_append,
    allPaths_parts_append, allPaths_references_append]
  exact List.perm_iff_count.2 fun path => by simp only [List.count_append]; omega

theorem fragmentRequests_eq (reference : String) (fields : List Field) :
    fragmentRequests reference fields =
      (fields.filter isFragment).map (fragmentRequest reference) := by
  induction fields with
  | nil => rfl
  | cons f fields ih =>
    rw [fragmentRequests, List.filter_cons]
    split <;> simp [ih]

theorem fieldRequests_of_isAdditional {f : Field} (h : f.isAdditional = true) :
    fieldRequests f = [] := by
  obtain ⟨name, fields⟩ := f
  rw [fieldRequests, if_pos (of_decide_eq_true h)]

theorem fieldRequests_eq {f : Field} (h : f.isAdditional = false) :
    fieldRequests f = (f.fields.filter isFragment).map (fragmentRequest f.name) := by
  obtain ⟨name, fields⟩ := f
  rw [fieldRequests, if_neg (of_decide_eq_false h), fragmentRequests_eq]

theorem level_singleton (f : Field) : level [f] =
    (plainProperties [f]).map (fun name => [Step.named name]) ++
      (RefPropertiesRequest.allPaths (fieldRequests f) ++
        ObjectPropertiesRequest.allPaths (partedProperties [f])) := by
  simp only [level, PropertiesRequest.paths, referenceRequests, List.append_nil]

theorem level_of_isAdditional {f : Field} (h : f.isAdditional = true) : level [f] = [] := by
  rw [level_singleton, fieldRequests_of_isAdditional h]
  simp [plainProperties, partedProperties, h, RefPropertiesRequest.allPaths,
    ObjectPropertiesRequest.allPaths]

theorem level_of_nil {f : Field} (h : f.isAdditional = false) (hfields : f.fields = []) :
    level [f] = [[f.step]] := by
  rw [level_singleton, fieldRequests_eq h]
  simp [plainProperties, partedProperties, h, hfields, step, RefPropertiesRequest.allPaths,
    ObjectPropertiesRequest.allPaths]

theorem level_of_fragment {f : Field} (h : f.isAdditional = false)
    (hfragment : f.fields.any isFragment = true) :
    level [f] = RefPropertiesRequest.allPaths
      ((f.fields.filter isFragment).map (fragmentRequest f.name)) := by
  have hfields : f.fields ≠ [] := by
    intro hnil
    rw [hnil] at hfragment
    cases hfragment
  rw [level_singleton, fieldRequests_eq h]
  simp [plainProperties, partedProperties, h, hfields, hfragment, ObjectPropertiesRequest.allPaths]

theorem level_of_no_fragment {f : Field} (h : f.isAdditional = false) (hfields : f.fields ≠ [])
    (hfragment : f.fields.any isFragment = false) : level [f] = (objectProperties f).paths := by
  have hnone : f.fields.filter isFragment = [] := by
    simpa [List.filter_eq_nil_iff] using hfragment
  rw [level_singleton, fieldRequests_eq h, hnone]
  simp [plainProperties, partedProperties, h, hfields, hfragment, RefPropertiesRequest.allPaths,
    ObjectPropertiesRequest.allPaths]

/-! ## Nothing but metadata -/

theorem referenceRequests_eq (fields : List Field) :
    referenceRequests fields = (fields.filter fun f => !f.isAdditional).flatMap fun f =>
      (f.fields.filter isFragment).map (fragmentRequest f.name) := by
  induction fields with
  | nil => rfl
  | cons f fields ih =>
    rw [referenceRequests, ih]
    cases h : f.isAdditional with
    | true => rw [fieldRequests_of_isAdditional h, List.filter_cons_of_neg (by simp [h])]; rfl
    | false => rw [fieldRequests_eq h, List.filter_cons_of_pos (by simp [h])]; rfl

theorem fragmentRequest_eq (reference : String) (g : Field) : fragmentRequest reference g =
    { referenceProperty := reference
      properties := propertiesRequest g.fields
      metadata := metadataRequest g.fields
      targetCollection := g.fragmentClass } := by
  obtain ⟨name, fields⟩ := g
  rw [fragmentRequest]
  rfl

theorem unlessNothing_eq_none_iff (m : PropertiesRequest) : unlessNothing m = none ↔
    m.nonRefProperties = [] ∧ m.refProperties = [] ∧ m.objectProperties = [] := by
  unfold unlessNothing
  split
  · rename_i h
    simpa [and_assoc] using h
  · rename_i h
    simpa [and_assoc] using h

/-- A field asks for a plain property, for the objects of a class or for a property with parts. -/
theorem propertiesRequest_eq_none_iff (fields : List Field) :
    propertiesRequest fields = none ↔ ∀ f ∈ fields, f.isAdditional := by
  rw [propertiesRequest, unlessNothing_eq_none_iff]
  simp only [plainProperties, partedProperties, referenceRequests_eq, List.map_eq_nil_iff,
    List.flatMap_eq_nil_iff, List.filter_eq_nil_iff, List.mem_filter]
  constructor
  · rintro ⟨hplain, hreferences, hparted⟩ f hf
    by_contra h
    have hfields : f.fields ≠ [] := fun hnil => hplain f hf (by simp [h, hnil])
    have hfragment : ¬f.fields.any isFragment = true := by
      intro hany
      obtain ⟨g, hg, hfragment⟩ := List.any_eq_true.1 hany
      exact hreferences f ⟨hf, by simp [h]⟩ g hg hfragment
    exact hparted f hf (by simp [h, hfields, hfragment])
  · intro h
    refine ⟨fun f hf => by simp [h f hf], fun f hf => ?_, fun f hf => by simp [h f hf]⟩
    rw [h f hf.1] at hf
    cases hf.2

theorem requests_eq_none_iff (fields : List Field) :
    ((propertiesRequest fields).isNone && (metadataRequest fields).isNone) = fields.isEmpty := by
  cases fields with
  | nil => rfl
  | cons f rest =>
    rw [List.isEmpty_cons, Bool.and_eq_false_iff]
    by_cases h : propertiesRequest (f :: rest) = none
    · have hf := (propertiesRequest_eq_none_iff _).1 h f List.mem_cons_self
      rw [metadataRequest_eq, List.any_cons, hf]
      exact .inr rfl
    · exact .inl (Option.isNone_eq_false_iff.2 (Option.isSome_iff_ne_none.2 h))

/-! ## Requests against paths -/

theorem filter_sent_of_isAdditional {f : Field} (h : f.isAdditional = true)
    (ps : List (List Field)) : (ps.map (f :: ·)).filter sent = [] := by
  rw [List.filter_eq_nil_iff]
  intro p hp
  obtain ⟨q, -, rfl⟩ := List.mem_map.1 hp
  rw [sent_of_isAdditional h]
  exact Bool.false_ne_true

theorem filter_sent_of_no_fragment {f : Field} (h : f.isAdditional = false)
    (hfragment : f.fields.any isFragment = false) (ps : List (List Field)) :
    (ps.map (f :: ·)).filter sent = ps.map (f :: ·) := by
  rw [List.filter_eq_self]
  intro p hp
  obtain ⟨q, -, rfl⟩ := List.mem_map.1 hp
  exact sent_of_no_fragment h hfragment q

/-- Behind a field with fragments, the paths through a fragment go on from it. -/
theorem filter_sent_of_fragment {f : Field} (h : f.isAdditional = false)
    (hfragment : f.fields.any isFragment = true) (g : Field) (ps : List (List Field)) :
    (((ps.map (g :: ·)).map (f :: ·)).filter sent).map (List.map step) =
      if g.isFragment then
        (ps.filter sent).map fun p => f.step :: .fragment g.fragmentClass :: p.map step
      else [] := by
  have hsent : ∀ p, sent (f :: g :: p) = (g.isFragment && sent p) := sent_of_fragment h hfragment g
  cases hg : g.isFragment with
  | true =>
    simp [List.filter_map, Function.comp_def, hsent, hg, step_of_isFragment]
  | false =>
    simp [List.filter_map, Function.comp_def, hsent, hg]

mutual
theorem perm_level : (fields : List Field) →
    (level fields).Perm (((allPaths fields).filter sent).map (List.map step))
  | [] => .refl _
  | f :: rest => by
    rw [allPaths, List.filter_append, List.map_append]
    exact (level_cons f rest).trans ((perm_field f).append (perm_level rest))

theorem perm_field : (f : Field) → (level [f]).Perm ((f.paths.filter sent).map (List.map step))
  | ⟨name, fields⟩ => by
    cases h : isAdditional ⟨name, fields⟩ with
    | true =>
      rw [level_of_isAdditional h, paths_eq, filter_sent_of_isAdditional h]
      exact .refl _
    | false =>
      cases hfragment : fields.any isFragment with
      | true =>
        have hfields : fields ≠ [] := by
          rintro rfl
          cases hfragment
        rw [level_of_fragment h hfragment, paths_eq, pathsBelow_of_ne_nil hfields]
        exact perm_fragments fields _ h hfragment
      | false =>
        rw [paths_eq, filter_sent_of_no_fragment h hfragment, ← paths_eq]
        by_cases hfields : fields = []
        · subst hfields
          rw [level_of_nil h rfl, paths]
          exact .refl _
        · rw [level_of_no_fragment h hfields hfragment]
          exact perm_objectProperties _ hfields

theorem perm_fragments : (fields : List Field) → (f : Field) → f.isAdditional = false →
    f.fields.any isFragment = true →
    (RefPropertiesRequest.allPaths ((fields.filter isFragment).map (fragmentRequest f.name))).Perm
      ((((allPaths fields).map (f :: ·)).filter sent).map (List.map step))
  | [], _, _, _ => .refl _
  | g :: rest, f, h, hfragment => by
    have hrest := perm_fragments rest f h hfragment
    rw [allPaths, List.map_append, List.filter_append, List.map_append, paths_eq,
      filter_sent_of_fragment h hfragment]
    cases hg : g.isFragment with
    | true =>
      rw [List.filter_cons_of_pos hg, List.map_cons, RefPropertiesRequest.allPaths, if_pos rfl]
      exact (perm_fragment g f.name).append hrest
    | false =>
      rw [List.filter_cons_of_neg (Bool.eq_false_iff.1 hg), if_neg Bool.false_ne_true]
      exact hrest

theorem perm_fragment : (g : Field) → (reference : String) →
    (fragmentRequest reference g).paths.Perm
      (((pathsBelow g.fields).filter sent).map fun p =>
        Step.named reference :: .fragment g.fragmentClass :: p.map step)
  | ⟨name, fields⟩, reference => by
    have hfields := perm_level fields
    rw [← requested_eq_level] at hfields
    rw [fragmentRequest_eq, RefPropertiesRequest.paths, requests_eq_none_iff]
    cases fields with
    | nil => exact .refl _
    | cons f rest =>
      have hmap := hfields.map
        (Step.named reference :: .fragment (fragmentClass ⟨name, f :: rest⟩) :: ·)
      rw [List.map_map] at hmap
      exact hmap
end

/-- The steps of a path tell whether it goes through metadata. -/
theorem any_isAdditional_of_map_step {p q : List Field} (h : p.map step = q.map step) :
    p.any isAdditional = q.any isAdditional := by
  have hany : ∀ r : List Field, r.any isAdditional = (r.map step).contains (.field additional) := by
    intro r
    rw [Bool.eq_iff_iff, List.any_eq_true, List.contains_iff_mem, List.mem_map]
    simp only [step_eq_additional_iff]
  rw [hany, hany, h]

theorem perm_clean_iff (fields : List Field) :
    (requested fields).Perm
        (((allPaths fields).filter fun p => !p.any isAdditional).map (List.map step)) ↔
      ∀ p ∈ allPaths fields, sent p = !p.any isAdditional := by
  have hlevel := perm_level fields
  rw [← requested_eq_level] at hlevel
  constructor
  · intro h
    have hperm := hlevel.symm.trans h
    have hclean : ∀ p ∈ allPaths fields, sent p = true → (!p.any isAdditional) = true := by
      intro p hp hsent
      have hmem : p.map step ∈ ((allPaths fields).filter sent).map (List.map step) :=
        List.mem_map_of_mem (List.mem_filter.2 ⟨hp, hsent⟩)
      obtain ⟨q, hq, hstep⟩ := List.mem_map.1 (hperm.mem_iff.1 hmem)
      rw [← any_isAdditional_of_map_step hstep]
      exact (List.mem_filter.1 hq).2
    -- The sent paths are among the others and as many, so they are the same.
    have hsame : (allPaths fields).filter sent =
        ((allPaths fields).filter fun p => !p.any isAdditional).filter sent := by
      rw [List.filter_filter]
      refine List.filter_congr fun p hp => ?_
      cases hsent : sent p with
      | true => rw [hclean p hp hsent]; rfl
      | false => rfl
    have hlength := hperm.length_eq
    rw [List.length_map, List.length_map, hsame, List.length_filter_eq_length_iff] at hlength
    intro p hp
    rw [Bool.eq_iff_iff]
    exact ⟨hclean p hp, fun h => hlength p (List.mem_filter.2 ⟨hp, h⟩)⟩
  · intro h
    rwa [← List.filter_congr h]

/-- A message asks for exactly the properties on the paths that are sent, and for all metadata that
are listed. -/
theorem asksFor (fields : List Field) : AsksFor fields where
  paths := requested_eq_level fields ▸ perm_level fields
  complete_iff := perm_clean_iff fields
  nothing_iff := propertiesRequest_eq_none_iff fields
  metadata := metadataRequest_eq fields
  references := by
    have hfragment : ∀ f : Field, fragmentRequest f.name = fun g =>
        { referenceProperty := f.name
          properties := propertiesRequest g.fields
          metadata := metadataRequest g.fields
          targetCollection := g.fragmentClass } := fun f => funext (fragmentRequest_eq f.name)
    simp only [referenceRequests_eq, hfragment]

/-- What stands beside a fragment is lost, and metadata inside of a property with parts are asked
for as properties. -/
theorem not_complete_beside_fragment :
    let beside : List Field :=
      [{ name := "ref"
         fields := [{ name := "... on A", fields := [{ name := "x" }] }, { name := "y" }] }]
    let inside : List Field :=
      [{ name := "obj"
         fields := [{ name := "_additional", fields := [{ name := "id" }] }, { name := "city" }] }]
    ¬(requested beside).Perm
        (((allPaths beside).filter fun p => !p.any isAdditional).map (List.map step)) ∧
      ¬(requested inside).Perm
        (((allPaths inside).filter fun p => !p.any isAdditional).map (List.map step)) := by
  decide

end Field

end VectorQuery
