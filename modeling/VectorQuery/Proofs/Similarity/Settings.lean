import VectorQuery.Proofs.Query.SimilarityText
import VectorQuery.Proofs.Similarity.Combination
import VectorQuery.Proofs.Similarity.NearMedia
import VectorQuery.Proofs.Keyed
import VectorQuery.Proofs.Slots

/-!
# The settings of similarity clauses

Each setting of a similarity clause fills a slot of its own, but for certainty and distance, which
share one.
-/

namespace VectorQuery

open Number Document Grammar

/-! ## Options -/

namespace SimilarityOptions

/-- The slots of options. -/
inductive Slot where
  | threshold | targetVectors | targets
  deriving DecidableEq

/-- The setting that sets a threshold. -/
def Setting.ofThreshold : Threshold → Setting
  | .certainty x => .certainty x
  | .distance x => .distance x

/-- Certainty and distance share a slot. -/
def slots : Slots SimilarityOptions Setting Slot where
  slot
    | .certainty _ => .threshold
    | .distance _ => .threshold
    | .targetVectors _ => .targetVectors
    | .targets _ => .targets
  kept s := s
  held o
    | .threshold => o.threshold.map Setting.ofThreshold
    | .targetVectors => some (.targetVectors o.targetVectors)
    | .targets => o.targets.map .targets

theorem fills_set : slots.Fills set where
  own c s := by cases s <;> rfl
  other c s k hk := by
    cases s <;> cases k <;> first | rfl | exact absurd rfl hk

theorem ofThreshold_injective : Function.Injective Setting.ofThreshold := by
  rintro (x | x) (y | y) h <;> cases h <;> rfl

theorem ext_held {a b : SimilarityOptions} (h : slots.held a = slots.held b) : a = b := by
  have hthreshold := Option.map_injective ofThreshold_injective (congrFun h .threshold)
  have hnames := Setting.targetVectors.inj (Option.some.inj (congrFun h .targetVectors))
  have htargets := Option.map_injective (fun _ _ => Setting.targets.inj) (congrFun h .targets)
  cases a
  cases b
  simp_all

section Clause
variable {ClauseSetting : Type} {ofOption : Setting → ClauseSetting}

/-- What a slot of options holds, as a setting of their clause. -/
def heldAs (ofOption : Setting → ClauseSetting) (o : SimilarityOptions) (k : Slot) :
    Option ClauseSetting :=
  (slots.held o k).map ofOption

theorem heldAs_own (o : SimilarityOptions) (s : Setting) :
    (o.set s).heldAs ofOption (slots.slot s) = some (ofOption s) :=
  congrArg (Option.map ofOption) (fills_set.own o s)

theorem heldAs_other {o : SimilarityOptions} {s : Setting} {k : Slot} (h : k ≠ slots.slot s) :
    (o.set s).heldAs ofOption k = o.heldAs ofOption k :=
  congrArg (Option.map ofOption) (fills_set.other o s k h)

theorem ext_heldAs (hinj : Function.Injective ofOption) {a b : SimilarityOptions}
    (h : ∀ k, a.heldAs ofOption k = b.heldAs ofOption k) : a = b :=
  ext_held (funext fun k => Option.map_injective hinj (h k))

end Clause

/-- A clause shows the threshold of its options, be it a certainty or a distance, and no other: in a
document among its arguments and in a message. -/
structure ShowsThreshold (o : SimilarityOptions) (arguments : List (String × TokenTree))
    (certainty distance : Option Single) : Prop where
  document : arguments.lookup "certainty" = (o.certainty.map fun x => tree [.single x]) ∧
    arguments.lookup "distance" = o.distance.map fun x => tree [.single x]
  message : certainty = o.certainty ∧ distance = o.distance
  one : o.certainty = none ∨ o.distance = none

theorem certainty_or_distance_eq_none (o : SimilarityOptions) :
    o.certainty = none ∨ o.distance = none := by
  unfold certainty distance
  rcases o.threshold with _ | ⟨x⟩ | ⟨x⟩ <;> simp

end SimilarityOptions

/-! ## Search near concepts -/

namespace NearText

/-- The slots of a clause. -/
inductive Slot where
  | concepts | moveTo | moveAwayFrom | autocorrect
  | option (k : SimilarityOptions.Slot)
  deriving DecidableEq

/-- Each setting has a slot of its own, and the options have theirs. -/
def slots : Slots NearText Setting Slot where
  slot
    | .concepts _ => .concepts
    | .moveTo _ => .moveTo
    | .moveAwayFrom _ => .moveAwayFrom
    | .autocorrect _ => .autocorrect
    | .option s => .option (SimilarityOptions.slots.slot s)
  kept s := s
  held c
    | .concepts => some (.concepts c.concepts)
    | .moveTo => c.moveTo.map .moveTo
    | .moveAwayFrom => c.moveAwayFrom.map .moveAwayFrom
    | .autocorrect => c.autocorrect.map .autocorrect
    | .option k => c.options.heldAs .option k

theorem fills_set : slots.Fills set where
  own c s := by
    cases s with
    | option s => exact SimilarityOptions.heldAs_own ..
    | _ => rfl
  other c s k hk := by
    cases s with
    | option s =>
      cases k with
      | option k =>
        exact SimilarityOptions.heldAs_other fun h => hk (congrArg Slot.option h)
      | _ => rfl
    | _ => cases k <;> first | rfl | exact absurd rfl hk

theorem ext_held {a b : NearText} (h : slots.held a = slots.held b) : a = b := by
  have hconcepts := Setting.concepts.inj (Option.some.inj (congrFun h .concepts))
  have hto := Option.map_injective (fun _ _ => Setting.moveTo.inj) (congrFun h .moveTo)
  have haway := Option.map_injective (fun _ _ => Setting.moveAwayFrom.inj)
    (congrFun h .moveAwayFrom)
  have hautocorrect := Option.map_injective (fun _ _ => Setting.autocorrect.inj)
    (congrFun h .autocorrect)
  have hoptions : a.options = b.options :=
    SimilarityOptions.ext_heldAs (fun _ _ => Setting.option.inj) fun k => congrFun h (.option k)
  cases a
  cases b
  simp_all

/-- The text and the message of a clause. -/
def rendered (c : NearText) : String × Rpc.NearTextSearch := (c.document.text, c.message)

theorem lastCounts : slots.LastCounts ofSettings rendered :=
  fills_set.lastCounts (fun _ _ h => congrArg rendered (ext_held h)) {}

theorem showsThreshold (c : NearText) : c.options.ShowsThreshold c.document.value.arguments
    c.message.certainty c.message.distance where
  document := by
    rw [NearText.document, value_entry (by decide) c.isValue_body, arguments_body]
    simp +decide
  message := ⟨rfl, rfl⟩
  one := c.options.certainty_or_distance_eq_none

end NearText

/-! ## Search near an object -/

namespace NearObject

inductive Slot where
  | id | beacon
  | option (k : SimilarityOptions.Slot)
  deriving DecidableEq

/-- Id and beacon have slots of their own. -/
def slots : Slots NearObject Setting Slot where
  slot
    | .id _ => .id
    | .beacon _ => .beacon
    | .option s => .option (SimilarityOptions.slots.slot s)
  kept s := s
  held c
    | .id => some (.id c.id)
    | .beacon => some (.beacon c.beacon)
    | .option k => c.options.heldAs .option k

theorem fills_set : slots.Fills set where
  own c s := by
    cases s with
    | option s => exact SimilarityOptions.heldAs_own ..
    | _ => rfl
  other c s k hk := by
    cases s with
    | option s =>
      cases k with
      | option k =>
        exact SimilarityOptions.heldAs_other fun h => hk (congrArg Slot.option h)
      | _ => rfl
    | _ => cases k <;> first | rfl | exact absurd rfl hk

theorem ext_held {a b : NearObject} (h : slots.held a = slots.held b) : a = b := by
  have hid := Setting.id.inj (Option.some.inj (congrFun h .id))
  have hbeacon := Setting.beacon.inj (Option.some.inj (congrFun h .beacon))
  have hoptions : a.options = b.options :=
    SimilarityOptions.ext_heldAs (fun _ _ => Setting.option.inj) fun k => congrFun h (.option k)
  cases a
  cases b
  simp_all

def rendered (c : NearObject) : String × Rpc.NearObject := (c.document.text, c.message)

theorem lastCounts : slots.LastCounts ofSettings rendered :=
  fills_set.lastCounts (fun _ _ h => congrArg rendered (ext_held h)) {}

theorem showsThreshold (c : NearObject) : c.options.ShowsThreshold c.document.value.arguments
    c.message.certainty c.message.distance where
  document := by
    rw [arguments_document]
    simp +decide
  message := ⟨rfl, rfl⟩
  one := c.options.certainty_or_distance_eq_none

end NearObject

/-! ## Search near a vector -/

namespace NearVector

/-- The slots of a clause: every target has one for its vector. -/
inductive Slot where
  | vector
  | target (name : String)
  | option (k : SimilarityOptions.Slot)
  deriving DecidableEq

/-- A target holds the vector that stands under its name. -/
def slots : Slots NearVector Setting Slot where
  slot
    | .vector _ => .vector
    | .vectorPerTarget name _ => .target name
    | .option s => .option (SimilarityOptions.slots.slot s)
  kept s := s
  held c
    | .vector => some (.vector c.vector)
    | .target name => (Keyed.get? name c.vectorPerTarget).map (.vectorPerTarget name)
    | .option k => c.options.heldAs .option k

/-- The target that a slot belongs to. -/
def Slot.target? : Slot → Option String
  | .target name => some name
  | _ => none

/-- The target that a setting gives a vector to. -/
def Setting.target? : Setting → Option String
  | .vectorPerTarget name _ => some name
  | _ => none

/-- The targets of settings, in the order in which they are given vectors. -/
def targetsOf (settings : List Setting) : List String := settings.filterMap Setting.target?

theorem get?_putTarget (target : String) (vector : List Single)
    (entries : List (String × List Single)) (name : String) :
    Keyed.get? name (putTarget target vector entries) =
      if name = target then some vector else Keyed.get? name entries := by
  induction entries with
  | nil => rfl
  | cons entry entries ih =>
    obtain ⟨other, v⟩ := entry
    rw [putTarget]
    by_cases hother : other = target
    · rw [if_pos hother, Keyed.get?, Keyed.get?, hother]
      split <;> rfl
    · rw [if_neg hother, Keyed.get?, Keyed.get?, ih]
      by_cases hname : name = other
      · rw [if_pos hname, if_pos hname, if_neg (hname ▸ hother)]
      · rw [if_neg hname, if_neg hname]

theorem map_fst_putTarget (target : String) (vector : List Single)
    (entries : List (String × List Single)) :
    (putTarget target vector entries).map Prod.fst =
      Combination.addName (entries.map Prod.fst) target := by
  induction entries with
  | nil => rfl
  | cons entry entries ih =>
    obtain ⟨other, v⟩ := entry
    rw [putTarget]
    by_cases hother : other = target
    · simp [hother, Combination.addName]
    · rw [if_neg hother, List.map_cons, ih]
      by_cases hmem : target ∈ entries.map Prod.fst <;>
        simp_all [Combination.addName, Ne.symm hother]

theorem fills_set : slots.Fills set where
  own c s := by
    cases s with
    | vector v => rfl
    | vectorPerTarget target v =>
      exact congrArg (Option.map _) ((get?_putTarget ..).trans (if_pos rfl))
    | option s => exact SimilarityOptions.heldAs_own ..
  other c s k hk := by
    cases s with
    | vector v => cases k <;> first | rfl | exact absurd rfl hk
    | vectorPerTarget target v =>
      cases k with
      | target name =>
        refine congrArg (Option.map _) ((get?_putTarget ..).trans (if_neg fun h => hk ?_))
        exact congrArg Slot.target h
      | _ => rfl
    | option s =>
      cases k with
      | option k =>
        exact SimilarityOptions.heldAs_other fun h => hk (congrArg Slot.option h)
      | _ => rfl

/-- The targets that a clause has vectors for. -/
def targets (c : NearVector) : List String := c.vectorPerTarget.map Prod.fst

theorem targets_ofSettings (settings : List Setting) :
    (ofSettings settings).targets = Combination.distinct (targetsOf settings) := by
  have hfold : ∀ c : NearVector, (settings.foldl set c).targets =
      (targetsOf settings).foldl Combination.addName c.targets := by
    induction settings with
    | nil => exact fun _ => rfl
    | cons s settings ih =>
      intro c
      rw [List.foldl_cons, ih]
      cases s with
      | vectorPerTarget target v =>
        exact congrArg (List.foldl _ · (targetsOf settings)) (map_fst_putTarget ..)
      | _ => rfl
  exact hfold {}

/-- A clause is what its slots hold and the order of its targets. -/
theorem ext_held {a b : NearVector} (hnodup : b.targets.Nodup) (htargets : a.targets = b.targets)
    (h : slots.held a = slots.held b) : a = b := by
  have hvector := Setting.vector.inj (Option.some.inj (congrFun h .vector))
  have hget : ∀ name, Keyed.get? name a.vectorPerTarget = Keyed.get? name b.vectorPerTarget :=
    fun name => Option.map_injective (fun _ _ heq => (Setting.vectorPerTarget.inj heq).2)
      (congrFun h (.target name))
  have hperTarget := Keyed.eq_of_get?_eq htargets hnodup hget
  have hoptions : a.options = b.options :=
    SimilarityOptions.ext_heldAs (fun _ _ => Setting.option.inj) fun k => congrFun h (.option k)
  cases a
  cases b
  simp_all

def rendered (c : NearVector) : String × Rpc.NearVector := (c.document.text, c.message)

/-- Only the last setting of each slot counts, and the order in which targets are first given
vectors. -/
structure LastCounts : Prop where
  /-- A slot holds what its last setting has put there, and without one what it holds at first. -/
  holds : ∀ settings k, slots.held (ofSettings settings) k =
    ((slots.last? k settings).map slots.kept).or (slots.held {} k)
  /-- A target stands once, where it is first given a vector, and has the vector it is given
  last. -/
  targets : ∀ settings,
    Combination.InFirstOrder (ofSettings settings).targets (targetsOf settings) ∧
      ∀ target vector, (target, vector) ∈ (ofSettings settings).vectorPerTarget →
        slots.last? (.target target) settings = some (.vectorPerTarget target vector)
  /-- The last settings of the slots, in any order, come to the same as all settings if and only if
  they give vectors to the targets in the order of all settings. -/
  latest : ∀ settings order, order.Perm (slots.latest settings) →
    ((ofSettings order).rendered = (ofSettings settings).rendered ↔
      targetsOf order = Combination.distinct (targetsOf settings))
  /-- It is only within a slot and between targets that the order matters. -/
  reordered : ∀ settings order, slots.Reordered order settings →
    ((ofSettings order).rendered = (ofSettings settings).rendered ↔
      Combination.distinct (targetsOf order) = Combination.distinct (targetsOf settings))

theorem nodup_targetsOf_of_perm_latest {settings order : List Setting}
    (h : order.Perm (slots.latest settings)) : (targetsOf order).Nodup := by
  have hslots : (order.map slots.slot).Nodup :=
    (h.map slots.slot).nodup_iff.2 (Slots.nodup_map_slot_latest settings)
  have htargets : targetsOf order = (order.map slots.slot).filterMap Slot.target? := by
    rw [targetsOf, List.filterMap_map]
    congr 1
    funext s
    cases s <;> rfl
  rw [htargets]
  refine hslots.filterMap fun j k name hj hk => ?_
  cases j <;> cases k <;> simp_all [Slot.target?]

theorem rendered_eq_iff {settings order : List Setting}
    (hlast : ∀ k, slots.last? k order = slots.last? k settings) :
    (ofSettings order).rendered = (ofSettings settings).rendered ↔
      Combination.distinct (targetsOf order) = Combination.distinct (targetsOf settings) := by
  rw [← targets_ofSettings, ← targets_ofSettings]
  constructor
  · -- the message names the targets in their order
    intro h
    have hmessage := congrArg (fun r => r.2.vectorForTargets.map Rpc.VectorForTarget.name) h
    simp only [rendered, message, List.map_map] at hmessage
    exact hmessage
  · intro h
    have hnodup : (ofSettings settings).targets.Nodup := by
      rw [targets_ofSettings]
      exact (Combination.inFirstOrder_distinct _).nodup
    rw [ext_held hnodup h (fills_set.held_eq hlast {})]

theorem lastCounts : LastCounts where
  holds settings k := fills_set.held_foldl settings {} k
  targets settings := by
    have horder := Combination.inFirstOrder_distinct (targetsOf settings)
    rw [← targets_ofSettings] at horder
    refine ⟨horder, fun target vector hmem => ?_⟩
    have hheld : slots.held (ofSettings settings) (.target target) =
        some (.vectorPerTarget target vector) :=
      congrArg (Option.map _) (Keyed.get?_of_mem horder.nodup hmem)
    have hlast := fills_set.held_foldl_of_held_eq_none
      (rfl : slots.held {} (.target target) = none) settings
    obtain ⟨s, hs, rfl⟩ := Option.map_eq_some_iff.1 (hlast.symm.trans hheld)
    exact hs
  latest settings order hperm := by
    rw [rendered_eq_iff (Slots.last?_of_perm_latest hperm),
      Combination.distinct_of_nodup (nodup_targetsOf_of_perm_latest hperm)]
  reordered _ _ horder := rendered_eq_iff horder.last?

theorem showsThreshold (c : NearVector) : c.options.ShowsThreshold c.document.value.arguments
    c.message.certainty c.message.distance where
  document := by
    rw [NearVector.document, value_entry (by decide) c.isValue_body, arguments_body]
    simp +decide
  message := ⟨rfl, rfl⟩
  one := c.options.certainty_or_distance_eq_none

end NearVector

/-! ## Search near a medium -/

namespace NearMedia

inductive Slot where
  | source
  | option (k : SimilarityOptions.Slot)
  deriving DecidableEq

/-- A setting as a clause keeps it, in which a stream is no more than its bytes. -/
def Setting.kept : Setting → Setting
  | .stream reads => .source (.bytes ((drain reads).toOption.getD []))
  | s => s

/-- All ways to supply a content share a slot. -/
def slots : Slots NearMedia Setting Slot where
  slot
    | .source _ => .source
    | .stream _ => .source
    | .option s => .option (SimilarityOptions.slots.slot s)
  kept := Setting.kept
  held c
    | .source => c.source.map .source
    | .option k => c.options.heldAs .option k

/-- Why a setting is refused, if it is. -/
def Setting.refusal? : Setting → Option SettingError
  | .stream reads =>
    match drain reads with
    | .ok _ => none
    | .error reason => some (.mediaRead reason)
  | _ => none

/-- The clause with one more setting, whether it is refused or not. -/
def put (c : NearMedia) : Setting → NearMedia
  | .source source => { c with source := some source }
  | .stream reads => { c with source := some (.bytes ((drain reads).toOption.getD [])) }
  | .option setting => { c with options := c.options.set setting }

theorem fills_put : slots.Fills put where
  own c s := by
    cases s with
    | option s => exact SimilarityOptions.heldAs_own ..
    | _ => rfl
  other c s k hk := by
    cases s with
    | option s =>
      cases k with
      | option k =>
        exact SimilarityOptions.heldAs_other fun h => hk (congrArg Slot.option h)
      | _ => rfl
    | _ => cases k <;> first | rfl | exact absurd rfl hk

theorem kind_put (c : NearMedia) (s : Setting) : (c.put s).kind = c.kind := by
  cases s <;> rfl

theorem kind_foldl_put (settings : List Setting) (c : NearMedia) :
    (settings.foldl put c).kind = c.kind := by
  induction settings generalizing c with
  | nil => rfl
  | cons s settings ih => exact (ih _).trans (kind_put c s)

/-- A clause is its kind and what its slots hold. -/
theorem ext_held {a b : NearMedia} (hkind : a.kind = b.kind) (h : slots.held a = slots.held b) :
    a = b := by
  have hsource := Option.map_injective (fun _ _ => Setting.source.inj) (congrFun h .source)
  have hoptions : a.options = b.options :=
    SimilarityOptions.ext_heldAs (fun _ _ => Setting.option.inj) fun k => congrFun h (.option k)
  cases a
  cases b
  simp_all

theorem foldl_put_eq {settings order : List Setting}
    (hlast : ∀ k, slots.last? k order = slots.last? k settings) (c : NearMedia) :
    order.foldl put c = settings.foldl put c :=
  ext_held ((kind_foldl_put ..).trans (kind_foldl_put ..).symm) (fills_put.held_eq hlast c)

theorem set_eq (c : NearMedia) (s : Setting) :
    c.set s = s.refusal?.elim (.ok (c.put s)) .error := by
  cases s with
  | stream reads =>
    rw [set, Setting.refusal?, put]
    cases drain reads <;> rfl
  | _ => rfl

/-- The first setting that is refused tells how settings end, and without one there is a clause. -/
theorem ofSettings_eq (kind : MediaKind) (settings : List Setting) : ofSettings kind settings =
    (settings.findSome? Setting.refusal?).elim (.ok (settings.foldl put { kind })) .error := by
  have hfold : ∀ c : NearMedia, settings.foldlM set c =
      (settings.findSome? Setting.refusal?).elim (.ok (settings.foldl put c)) .error := by
    induction settings with
    | nil => exact fun _ => rfl
    | cons s settings ih =>
      intro c
      -- a refusal depends on the setting alone, not on what was set before
      rw [List.foldlM_cons, set_eq, List.findSome?_cons]
      cases s.refusal? with
      | none => exact ih _
      | some e => rfl
  exact hfold _

theorem ofSettings_eq_ok_iff {kind : MediaKind} {settings : List Setting} {c : NearMedia} :
    ofSettings kind settings = .ok c ↔
      (∀ s ∈ settings, s.refusal? = none) ∧ settings.foldl put { kind } = c := by
  rw [ofSettings_eq, ← List.findSome?_eq_none_iff]
  cases settings.findSome? Setting.refusal? <;> simp

/-- Only what fills the slot of the content is refused. -/
theorem findSome?_settingsOf (settings : List Setting) :
    (slots.settingsOf .source settings).findSome? Setting.refusal? =
      settings.findSome? Setting.refusal? := by
  induction settings with
  | nil => rfl
  | cons s settings ih =>
    rw [Slots.settingsOf_cons, List.findSome?_cons, ← ih]
    cases s with
    | option s => rfl
    | _ => exact List.findSome?_cons ..

/-- Of the settings that are not refused only the last one of each slot counts. -/
structure LastCounts (kind : MediaKind) : Prop where
  /-- A slot holds what its last setting has put there, and without one what it holds at first. -/
  holds : ∀ settings c, ofSettings kind settings = .ok c → ∀ k, slots.held c k =
    ((slots.last? k settings).map slots.kept).or (slots.held { kind } k)
  /-- The last settings of the slots, in any order, come to the same as all settings. -/
  latest : ∀ settings c, ofSettings kind settings = .ok c → ∀ order,
    order.Perm (slots.latest settings) → ofSettings kind order = .ok c
  /-- It is only within a slot that the order matters, whether there is a clause or a setting is
  refused. -/
  reordered : ∀ settings order, slots.Reordered order settings →
    ofSettings kind order = ofSettings kind settings
  /-- The clause that is of one kind only comes to the same. -/
  wrapped : ∀ settings,
    (NearMediaOf.ofSettings kind settings).map NearMediaOf.clause = ofSettings kind settings

theorem lastCounts (kind : MediaKind) : LastCounts kind where
  holds settings c h k := by
    rw [← (ofSettings_eq_ok_iff.1 h).2]
    exact fills_put.held_foldl settings _ k
  latest settings c h order hperm := by
    obtain ⟨haccepted, hc⟩ := ofSettings_eq_ok_iff.1 h
    refine ofSettings_eq_ok_iff.2 ⟨fun s hs => haccepted s ?_, ?_⟩
    · exact (Slots.latest_sublist settings).subset (hperm.subset hs)
    · rw [foldl_put_eq (Slots.last?_of_perm_latest hperm), hc]
  reordered settings order horder := by
    rw [ofSettings_eq, ofSettings_eq, ← findSome?_settingsOf order, horder,
      findSome?_settingsOf, foldl_put_eq horder.last?]
  wrapped := clause_ofSettings kind

theorem showsThreshold (c : NearMedia) : c.options.ShowsThreshold c.document.value.arguments
    c.message.certainty c.message.distance where
  document := by
    rw [arguments_document]
    cases c.kind <;> simp +decide [MediaKind.fieldName]
  message := ⟨rfl, rfl⟩
  one := c.options.certainty_or_distance_eq_none

end NearMedia

end VectorQuery
