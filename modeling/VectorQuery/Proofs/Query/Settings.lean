import VectorQuery.Proofs.Query.GetText
import VectorQuery.Proofs.Similarity.Settings

/-!
# Only the last setting of each slot counts

The settings of queries and of hybrid searches fill slots, as those of similarity clauses do. Media
have a slot for each kind, and the two searches inside a hybrid search share one.
-/

namespace VectorQuery

open Document Grammar

/-! ## Hybrid search -/

namespace Hybrid

inductive Slot where
  | query | vector | alpha | properties | fusionType | targetVectors | targets
  | maxVectorDistance | bm25SearchOperator | search
  deriving DecidableEq

/-- The setting that sets a search. -/
def Setting.ofSearch : HybridSearch → Setting
  | .nearText clause => .nearText clause
  | .nearVector clause => .nearVector clause

/-- Searches near concepts and near a vector share a slot. -/
def slots : Slots Hybrid Setting Slot where
  slot
    | .query _ => .query
    | .vector _ => .vector
    | .alpha _ => .alpha
    | .properties _ => .properties
    | .fusionType _ => .fusionType
    | .targetVectors _ => .targetVectors
    | .targets _ => .targets
    | .maxVectorDistance _ => .maxVectorDistance
    | .bm25SearchOperator _ => .bm25SearchOperator
    | .nearText _ => .search
    | .nearVector _ => .search
  kept s := s
  held c
    | .query => some (.query c.query)
    | .vector => some (.vector c.vector)
    | .alpha => c.alpha.map .alpha
    | .properties => some (.properties c.properties)
    | .fusionType => c.fusionType.map .fusionType
    | .targetVectors => some (.targetVectors c.targets.targetVectors)
    | .targets => c.targets.targets.map .targets
    | .maxVectorDistance => c.maxVectorDistance.map .maxVectorDistance
    | .bm25SearchOperator => c.bm25SearchOperator.map .bm25SearchOperator
    | .search => c.search.map Setting.ofSearch

theorem fills_set : slots.Fills set where
  own c s := by cases s <;> rfl
  other c s k hk := by
    cases s <;> cases k <;> first | rfl | exact absurd rfl hk

def rendered (c : Hybrid) : String × Rpc.Hybrid := (c.document.text, c.message)

theorem ofSearch_injective : Function.Injective Setting.ofSearch := by
  rintro (c | c) (d | d) h <;> cases h <;> rfl

/-- No slot holds a threshold of the targets, and none is shown. -/
theorem rendered_eq_of_held {a b : Hybrid} (h : slots.held a = slots.held b) :
    a.rendered = b.rendered := by
  have hquery := Setting.query.inj (Option.some.inj (congrFun h .query))
  have hvector := Setting.vector.inj (Option.some.inj (congrFun h .vector))
  have halpha := Option.map_injective (fun _ _ => Setting.alpha.inj) (congrFun h .alpha)
  have hproperties := Setting.properties.inj (Option.some.inj (congrFun h .properties))
  have hfusion := Option.map_injective (fun _ _ => Setting.fusionType.inj) (congrFun h .fusionType)
  have hnames := Setting.targetVectors.inj (Option.some.inj (congrFun h .targetVectors))
  have htargets := Option.map_injective (fun _ _ => Setting.targets.inj) (congrFun h .targets)
  have hdistance := Option.map_injective (fun _ _ => Setting.maxVectorDistance.inj)
    (congrFun h .maxVectorDistance)
  have hoperator := Option.map_injective (fun _ _ => Setting.bm25SearchOperator.inj)
    (congrFun h .bm25SearchOperator)
  have hsearch := Option.map_injective ofSearch_injective (congrFun h .search)
  simp only [rendered, document, message, SimilarityOptions.targetsDocument,
    SimilarityOptions.messageTargetVectors, SimilarityOptions.messageTargets,
    SimilarityOptions.effectiveTargets, hquery, hvector, halpha, hproperties, hfusion, hnames,
    htargets, hdistance, hoperator, hsearch]

theorem lastCounts : slots.LastCounts ofSettings rendered :=
  fills_set.lastCounts (fun _ _ => rendered_eq_of_held) {}

/-- A clause shows one search at most, in a document and in a message. -/
structure ShowsOneSearch (c : Hybrid) : Prop where
  document : (c.document.value.arguments.filter fun e => e.1 = "searches") =
    (c.search.map fun s => ("searches", s.document.value)).toList
  message : c.message.nearText = none ∨ c.message.nearVector = none

theorem showsOneSearch (c : Hybrid) : c.ShowsOneSearch where
  document := by
    rw [arguments_document]
    simp +decide [List.filter_append, filter_toList, filter_ite]
  message := by
    rw [Hybrid.message]
    rcases c.search with _ | ⟨s⟩ | ⟨s⟩
    · exact .inl rfl
    · exact .inr rfl
    · exact .inl rfl

end Hybrid

/-! ## Queries -/

namespace Get

/-- The slots of a query: every kind of media has one. -/
inductive Slot where
  | className | fields | filter | nearText | nearVector | nearObject
  | nearMedia (kind : MediaKind)
  | limit | offset | sort | groupBy | autocut | after | bm25 | hybrid | tenant
  | consistencyLevel | generative
  deriving DecidableEq

/-- Each setting has a slot of its own. A filter is kept as far as it counts. -/
def slots : Slots Get Setting Slot where
  slot
    | .className _ => .className
    | .fields _ => .fields
    | .filter _ => .filter
    | .nearText _ => .nearText
    | .nearVector _ => .nearVector
    | .nearObject _ => .nearObject
    | .nearMedia clause => .nearMedia clause.kind
    | .limit _ => .limit
    | .offset _ => .offset
    | .sort _ => .sort
    | .groupBy _ => .groupBy
    | .autocut _ => .autocut
    | .after _ => .after
    | .bm25 _ => .bm25
    | .hybrid _ => .hybrid
    | .tenant _ => .tenant
    | .consistencyLevel _ => .consistencyLevel
    | .generative _ => .generative
  kept
    | .filter f => .filter f.pruned
    | s => s
  held g
    | .className => some (.className g.className)
    | .fields => some (.fields g.fields)
    | .filter => g.filter.map .filter
    | .nearText => g.nearText.map .nearText
    | .nearVector => g.nearVector.map .nearVector
    | .nearObject => g.nearObject.map .nearObject
    | .nearMedia kind => (g.nearMedia kind).map .nearMedia
    | .limit => g.limit.map .limit
    | .offset => g.offset.map .offset
    | .sort => some (.sort g.sort)
    | .groupBy => g.groupBy.map .groupBy
    | .autocut => g.autocut.map .autocut
    | .after => g.after.map .after
    | .bm25 => g.bm25.map .bm25
    | .hybrid => g.hybrid.map .hybrid
    | .tenant => g.tenant.map .tenant
    | .consistencyLevel => g.consistencyLevel.map .consistencyLevel
    | .generative => g.generative.map .generative

theorem fills_set : slots.Fills set where
  own g s := by
    cases s with
    | nearMedia clause => exact congrArg (Option.map Setting.nearMedia) (if_pos rfl)
    | _ => rfl
  other g s k hk := by
    cases s with
    | nearMedia clause =>
      cases k with
      | nearMedia kind =>
        refine congrArg (Option.map Setting.nearMedia) (if_neg fun h => hk ?_)
        exact congrArg Slot.nearMedia h
      | _ => rfl
    | _ => cases k <;> first | rfl | exact absurd rfl hk

theorem ext_held {a b : Get} (h : slots.held a = slots.held b) : a = b := by
  have hclass := Setting.className.inj (Option.some.inj (congrFun h .className))
  have hfields := Setting.fields.inj (Option.some.inj (congrFun h .fields))
  have hfilter := Option.map_injective (fun _ _ => Setting.filter.inj) (congrFun h .filter)
  have hnearText := Option.map_injective (fun _ _ => Setting.nearText.inj) (congrFun h .nearText)
  have hnearVector := Option.map_injective (fun _ _ => Setting.nearVector.inj)
    (congrFun h .nearVector)
  have hnearObject := Option.map_injective (fun _ _ => Setting.nearObject.inj)
    (congrFun h .nearObject)
  have hnearMedia : a.nearMedia = b.nearMedia := funext fun kind =>
    Option.map_injective (fun _ _ => Setting.nearMedia.inj) (congrFun h (.nearMedia kind))
  have hlimit := Option.map_injective (fun _ _ => Setting.limit.inj) (congrFun h .limit)
  have hoffset := Option.map_injective (fun _ _ => Setting.offset.inj) (congrFun h .offset)
  have hsort := Setting.sort.inj (Option.some.inj (congrFun h .sort))
  have hgroupBy := Option.map_injective (fun _ _ => Setting.groupBy.inj) (congrFun h .groupBy)
  have hautocut := Option.map_injective (fun _ _ => Setting.autocut.inj) (congrFun h .autocut)
  have hafter := Option.map_injective (fun _ _ => Setting.after.inj) (congrFun h .after)
  have hbm25 := Option.map_injective (fun _ _ => Setting.bm25.inj) (congrFun h .bm25)
  have hhybrid := Option.map_injective (fun _ _ => Setting.hybrid.inj) (congrFun h .hybrid)
  have htenant := Option.map_injective (fun _ _ => Setting.tenant.inj) (congrFun h .tenant)
  have hlevel := Option.map_injective (fun _ _ => Setting.consistencyLevel.inj)
    (congrFun h .consistencyLevel)
  have hgenerative := Option.map_injective (fun _ _ => Setting.generative.inj)
    (congrFun h .generative)
  cases a
  cases b
  simp_all

def rendered (g : Get) : String × Rpc.SearchRequest := (g.document.text, g.message)

theorem lastCounts : slots.LastCounts ofSettings rendered :=
  fills_set.lastCounts (fun _ _ h => congrArg rendered (ext_held h)) {}

/-! ## Media of a query -/

/-- The search near a medium that a setting sets. -/
def Setting.media? : Setting → Option NearMedia
  | .nearMedia clause => some clause
  | _ => none

/-- The last clauses of the kinds of media, in the order of the kinds. -/
def lastMedia (settings : List Setting) : List NearMedia :=
  MediaKind.all.filterMap fun kind => (slots.last? (.nearMedia kind) settings).bind Setting.media?

/-- A query shows the last media clause of each kind and no other, in the order of the kinds. -/
structure ShowsLastMedia (settings : List Setting) : Prop where
  document : (argumentsOf ((ofSettings settings).clauses.flatMap trees)).filter isMediaEntry =
    MediaKind.entriesOf (lastMedia settings)
  message : (ofSettings settings).message.nearMedia = (lastMedia settings).map NearMedia.message
  kinds : ((lastMedia settings).map NearMedia.kind).Sublist MediaKind.all

theorem kind_of_last? {kind : MediaKind} {settings : List Setting} {c : NearMedia}
    (h : (slots.last? (.nearMedia kind) settings).bind Setting.media? = some c) :
    c.kind = kind := by
  obtain ⟨s, hs, hc⟩ := Option.bind_eq_some_iff.1 h
  have hslot := Slots.slot_of_last? hs
  cases s with
  | nearMedia clause =>
    cases hc
    exact Slot.nearMedia.inj hslot
  | _ => cases hc

theorem kinds_sublist {f : MediaKind → Option NearMedia}
    (h : ∀ kind c, f kind = some c → c.kind = kind) (kinds : List MediaKind) :
    ((kinds.filterMap f).map NearMedia.kind).Sublist kinds := by
  induction kinds with
  | nil => exact .slnil
  | cons kind kinds ih =>
    cases hf : f kind with
    | none =>
      rw [List.filterMap_cons_none hf]
      exact ih.cons kind
    | some c =>
      rw [List.filterMap_cons_some hf, List.map_cons, h kind c hf]
      exact ih.cons_cons kind

theorem clauses_ofSettings (settings : List Setting) :
    MediaKind.clauses (ofSettings settings).nearMedia = lastMedia settings := by
  unfold MediaKind.clauses lastMedia
  congr 1
  funext kind
  have hheld := fills_set.held_foldl_of_held_eq_none
    (rfl : slots.held {} (.nearMedia kind) = none) settings
  have hshown : ∀ o : Option NearMedia, (o.map Setting.nearMedia).bind Setting.media? = o := by
    rintro (_ | c) <;> rfl
  have hkept : ∀ o : Option Setting, (o.map slots.kept).bind Setting.media? =
      o.bind Setting.media? := by
    rintro (_ | s)
    · rfl
    · cases s <;> rfl
  rw [← hkept, ← hheld]
  exact (hshown _).symm

theorem showsLastMedia (settings : List Setting) : ShowsLastMedia settings where
  document := by
    rw [argumentsOf_clauses, List.filter_append, List.filter_append, filter_front, filter_back,
      filter_media, clauses_ofSettings, List.nil_append, List.append_nil]
  message := congrArg (List.map NearMedia.message) (clauses_ofSettings settings)
  kinds := kinds_sublist (fun _ _ => kind_of_last?) MediaKind.all

end Get

/-! ## Queries and their clauses -/

/-- Of all settings only the last one of each slot counts, in queries and in the clauses that take
settings. -/
structure LastSettingsCount : Prop where
  get : Get.slots.LastCounts Get.ofSettings Get.rendered
  media : ∀ settings, Get.ShowsLastMedia settings
  nearText : NearText.slots.LastCounts NearText.ofSettings NearText.rendered
  nearVector : NearVector.LastCounts
  nearObject : NearObject.slots.LastCounts NearObject.ofSettings NearObject.rendered
  nearMedia : ∀ kind, NearMedia.LastCounts kind
  hybrid : Hybrid.slots.LastCounts Hybrid.ofSettings Hybrid.rendered
  /-- A certainty and a distance are never shown together. -/
  thresholds :
    (∀ c : NearText, c.options.ShowsThreshold c.document.value.arguments
      c.message.certainty c.message.distance) ∧
    (∀ c : NearVector, c.options.ShowsThreshold c.document.value.arguments
      c.message.certainty c.message.distance) ∧
    (∀ c : NearObject, c.options.ShowsThreshold c.document.value.arguments
      c.message.certainty c.message.distance) ∧
    ∀ c : NearMedia, c.options.ShowsThreshold c.document.value.arguments
      c.message.certainty c.message.distance
  /-- Neither are the two searches inside a hybrid search. -/
  searches : ∀ c : Hybrid, c.ShowsOneSearch

/-- Settings of a query among which are two limits and two searches near an image. -/
def Get.interleaved : List Get.Setting :=
  [.limit 3, .nearMedia { kind := .imu, source := some (.bytes [97]) }, .className "Pizza",
    .nearMedia { kind := .image, source := some (.encoded "YQ==") }, .limit 5,
    .nearMedia { kind := .image, source := some (.encoded "Yg==") }]

/-- Settings of a clause that give a vector to one target twice, with another target in between. -/
def NearVector.interleaved (v w : Number.Single) : List NearVector.Setting :=
  [.vectorPerTarget "a" [v], .option (.certainty v), .vectorPerTarget "b" [v],
    .vectorPerTarget "a" [w], .option (.distance w)]

end VectorQuery
