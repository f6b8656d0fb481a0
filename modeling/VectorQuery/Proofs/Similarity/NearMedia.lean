import VectorQuery.Proofs.Media.Source
import VectorQuery.Similarity.NearMedia

/-!
# One content, however it is supplied

A clause shows its kind, its content as base64 and its options, and what it shows after a setting
depends on nothing but what it has shown before. So bytes, a stream that delivers them, their base64
and a data URI with it can stand for one another among any other settings.
-/

namespace VectorQuery

namespace NearMedia

/-- What a clause shows of itself. -/
def shown (c : NearMedia) : MediaKind × String × SimilarityOptions := (c.kind, c.encoded, c.options)

/-- The text and the message of a clause. -/
def rendered (c : NearMedia) : String × Rpc.NearMediaSearch := (c.document.text, c.message)

/-- The content that a setting brings, if it brings one. -/
def Setting.source? : Setting → Option MediaSource
  | .source content => some content
  | .stream reads => (drain reads).toOption.map .bytes
  | .option _ => none

/-- The ways to supply bytes: as they are, by a stream, as base64 and in a data URI, whose header
may hold anything. -/
inductive Setting.Supplies (bytes : List UInt8) : Setting → Prop
  | bytes : Supplies bytes (.source (.bytes bytes))
  | stream {reads : List Read} (h : Delivers reads bytes) : Supplies bytes (.stream reads)
  | text : Supplies bytes (.source (.encoded (Text.Base64.encode bytes)))
  | uri (header : String) : Supplies bytes
    (.source (.encoded ("data:" ++ header ++ ";base64," ++ Text.Base64.encode bytes)))

/-- How the clauses of a kind come by their content. -/
structure TakesContent (kind : MediaKind) : Prop where
  /-- Whatever way bytes are supplied, the clause shows their base64 and is the same otherwise. -/
  supplied : ∀ bytes s, s.Supplies bytes → ∀ c : NearMedia, ∃ d, c.set s = .ok d ∧
    d.shown = (c.kind, Text.Base64.encode bytes, c.options)
  /-- Among any other settings, the ways to supply the same bytes are alike. -/
  alike : ∀ bytes s t, s.Supplies bytes → t.Supplies bytes → ∀ before after,
    (ofSettings kind (before ++ s :: after)).map rendered =
      (ofSettings kind (before ++ t :: after)).map rendered
  /-- The clause that is of one kind only differs in nothing. -/
  wrapped : ∀ settings,
    (NearMediaOf.ofSettings kind settings).map (fun c => (c.document.text, c.message)) =
      (ofSettings kind settings).map rendered
  /-- The content that is supplied last stands. -/
  latest : ∀ before s after source, s.source? = some source → (∀ t ∈ after, t.source? = none) →
    ∀ d, ofSettings kind (before ++ s :: after) = .ok d → d.encoded = source.base64
  /-- The bytes that are supplied last can be read off the content. -/
  decoded : ∀ bytes before s after, s.Supplies bytes → (∀ t ∈ after, t.source? = none) →
    ∀ d, ofSettings kind (before ++ s :: after) = .ok d →
      Text.Base64.decode? d.encoded = some bytes
  /-- The content of a data URI is not one itself. -/
  stripped : ∀ text, (MediaSource.encoded (MediaSource.encoded text).base64).base64 =
    (MediaSource.encoded text).base64
  /-- A stream that fails before its end is refused, and there is no clause. -/
  refused : ∀ reason reads, Breaks reason reads →
    (∀ c : NearMedia, c.set (.stream reads) = .error (.mediaRead reason)) ∧
      ∀ before after, (∃ c, ofSettings kind before = .ok c) →
        ofSettings kind (before ++ .stream reads :: after) = .error (.mediaRead reason)
  /-- There is a clause if and only if every stream delivers its bytes. -/
  accepted : ∀ settings, (∃ d, ofSettings kind settings = .ok d) ↔
    ∀ reads, .stream reads ∈ settings → ∃ bytes, Delivers reads bytes

/-- Two outcomes that are refused alike or show the same. -/
inductive Alike : Except SettingError NearMedia → Except SettingError NearMedia → Prop
  | ok {c d : NearMedia} (h : c.shown = d.shown) : Alike (.ok c) (.ok d)
  | error (e : SettingError) : Alike (.error e) (.error e)

/-! ## One setting -/

theorem shown_eq_iff {c d : NearMedia} :
    c.shown = d.shown ↔ c.kind = d.kind ∧ c.encoded = d.encoded ∧ c.options = d.options := by
  simp [shown]

theorem Alike.rendered {x y : Except SettingError NearMedia} (h : Alike x y) :
    x.map rendered = y.map rendered := by
  cases h with
  | @ok c d h =>
    obtain ⟨hkind, hencoded, hoptions⟩ := shown_eq_iff.1 h
    refine congrArg Except.ok ?_
    simp only [NearMedia.rendered, document, message, hkind, hencoded, hoptions]
  | error e => rfl

theorem Setting.Supplies.source? {bytes : List UInt8} {s : Setting} (h : s.Supplies bytes) :
    ∃ source, s.source? = some source ∧ source.base64 = Text.Base64.encode bytes := by
  cases h with
  | bytes => exact ⟨.bytes bytes, rfl, rfl⟩
  | stream h =>
    refine ⟨.bytes bytes, ?_, rfl⟩
    rw [Setting.source?, drain_eq_ok_iff.2 h]
    rfl
  | text => exact ⟨_, rfl, MediaSource.base64_encoded_encode bytes⟩
  | uri header => exact ⟨_, rfl, MediaSource.base64_encoded_uri header bytes⟩

theorem set_of_source? {s : Setting} {source : MediaSource} (h : s.source? = some source)
    (c : NearMedia) : c.set s = .ok { c with source := some source } := by
  cases s with
  | source other =>
    cases h
    rfl
  | stream reads =>
    rw [Setting.source?] at h
    cases hreads : drain reads with
    | ok bytes =>
      rw [hreads] at h
      cases h
      rw [set, hreads]
    | error reason =>
      rw [hreads] at h
      cases h
  | option setting => cases h

theorem set_stream_of_breaks {reason : String} {reads : List Read} (h : Breaks reason reads)
    (c : NearMedia) : c.set (.stream reads) = .error (.mediaRead reason) := by
  rw [set, drain_eq_error_iff.2 h]

/-- A setting brings a content, is a stream that breaks, or is an option. -/
theorem Setting.source?_cases (s : Setting) :
    (∃ source, s.source? = some source) ∨
      (∃ reason reads, s = .stream reads ∧ Breaks reason reads) ∨
      ∃ setting, s = .option setting := by
  cases s with
  | source source => exact .inl ⟨source, rfl⟩
  | stream reads =>
    rcases delivers_or_breaks reads with ⟨bytes, hreads⟩ | ⟨reason, hreads⟩
    · have hsupplies : (Setting.stream reads).Supplies bytes := .stream hreads
      obtain ⟨source, hsource, -⟩ := hsupplies.source?
      exact .inl ⟨source, hsource⟩
    · exact .inr (.inl ⟨reason, reads, rfl, hreads⟩)
  | option setting => exact .inr (.inr ⟨setting, rfl⟩)

theorem encoded_of_source?_eq_none {s : Setting} (h : s.source? = none) {c d : NearMedia}
    (hset : c.set s = .ok d) : d.encoded = c.encoded := by
  rcases s.source?_cases with ⟨source, hsource⟩ | ⟨reason, reads, rfl, hreads⟩ | ⟨setting, rfl⟩
  · rw [hsource] at h
    cases h
  · rw [set_stream_of_breaks hreads] at hset
    cases hset
  · cases hset
    rfl

theorem exists_set_iff {s : Setting} (c : NearMedia) :
    (∃ d, c.set s = .ok d) ↔ ∀ reads, s = .stream reads → ∃ bytes, Delivers reads bytes := by
  constructor
  · rintro ⟨d, hd⟩ reads rfl
    rcases delivers_or_breaks reads with hbytes | ⟨reason, hreads⟩
    · exact hbytes
    · rw [set_stream_of_breaks hreads] at hd
      cases hd
  · intro h
    rcases s.source?_cases with ⟨source, hsource⟩ | ⟨reason, reads, rfl, hreads⟩ | ⟨setting, rfl⟩
    · exact ⟨_, set_of_source? hsource c⟩
    · obtain ⟨bytes, hbytes⟩ := h reads rfl
      exact absurd hbytes (hreads.not_delivers bytes)
    · exact ⟨_, rfl⟩

theorem alike_set {c d : NearMedia} (h : c.shown = d.shown) (s : Setting) :
    Alike (c.set s) (d.set s) := by
  obtain ⟨hkind, hencoded, hoptions⟩ := shown_eq_iff.1 h
  rcases s.source?_cases with ⟨source, hsource⟩ | ⟨reason, reads, rfl, hreads⟩ | ⟨setting, rfl⟩
  · rw [set_of_source? hsource, set_of_source? hsource]
    exact .ok (shown_eq_iff.2 ⟨hkind, rfl, hoptions⟩)
  · rw [set_stream_of_breaks hreads, set_stream_of_breaks hreads]
    exact .error _
  · exact .ok (shown_eq_iff.2 ⟨hkind, hencoded, congrArg (·.set setting) hoptions⟩)

/-! ## Settings one after another -/

theorem alike_foldlM_set {c d : NearMedia} (h : c.shown = d.shown) (settings : List Setting) :
    Alike (settings.foldlM set c) (settings.foldlM set d) := by
  induction settings generalizing c d with
  | nil => exact .ok h
  | cons s settings ih =>
    rw [List.foldlM_cons, List.foldlM_cons]
    have hs := alike_set h s
    generalize c.set s = x, d.set s = y at hs ⊢
    cases hs with
    | ok h => exact ih h
    | error e => exact .error e

theorem ofSettings_append (kind : MediaKind) (before after : List Setting) :
    ofSettings kind (before ++ after) = ofSettings kind before >>= after.foldlM set :=
  List.foldlM_append

theorem foldlM_set_of_source? {s : Setting} {source : MediaSource} (h : s.source? = some source)
    (after : List Setting) (c : NearMedia) :
    (s :: after).foldlM set c = after.foldlM set { c with source := some source } := by
  rw [List.foldlM_cons, set_of_source? h]
  rfl

theorem encoded_foldlM_set {after : List Setting} (h : ∀ t ∈ after, t.source? = none)
    {c d : NearMedia} (hafter : after.foldlM set c = .ok d) : d.encoded = c.encoded := by
  induction after generalizing c with
  | nil =>
    cases hafter
    rfl
  | cons t after ih =>
    obtain ⟨ht, hrest⟩ := List.forall_mem_cons.1 h
    rw [List.foldlM_cons] at hafter
    cases hset : c.set t with
    | error e =>
      rw [hset] at hafter
      cases hafter
    | ok c' =>
      rw [hset] at hafter
      exact (ih hrest hafter).trans (encoded_of_source?_eq_none ht hset)

theorem encoded_of_latest {kind : MediaKind} {before after : List Setting} {s : Setting}
    {source : MediaSource} (hs : s.source? = some source) (hafter : ∀ t ∈ after, t.source? = none)
    {d : NearMedia} (h : ofSettings kind (before ++ s :: after) = .ok d) :
    d.encoded = source.base64 := by
  rw [ofSettings_append] at h
  cases hbefore : ofSettings kind before with
  | error e =>
    rw [hbefore] at h
    cases h
  | ok c =>
    rw [hbefore] at h
    have hrest : after.foldlM set { c with source := some source } = .ok d :=
      (foldlM_set_of_source? hs after c).symm.trans h
    exact encoded_foldlM_set hafter hrest

theorem alike_ofSettings {kind : MediaKind} {bytes : List UInt8} {s t : Setting}
    (hs : s.Supplies bytes) (ht : t.Supplies bytes) (before after : List Setting) :
    Alike (ofSettings kind (before ++ s :: after)) (ofSettings kind (before ++ t :: after)) := by
  rw [ofSettings_append, ofSettings_append]
  obtain ⟨source, hsource, hbytes⟩ := hs.source?
  obtain ⟨other, hother, hsame⟩ := ht.source?
  cases ofSettings kind before with
  | error e => exact .error e
  | ok c =>
    change Alike ((s :: after).foldlM set c) ((t :: after).foldlM set c)
    rw [foldlM_set_of_source? hsource, foldlM_set_of_source? hother]
    have hshown : ({ c with source := some source } : NearMedia).shown =
        ({ c with source := some other } : NearMedia).shown :=
      shown_eq_iff.2 ⟨rfl, hbytes.trans hsame.symm, rfl⟩
    exact alike_foldlM_set hshown after

theorem exists_foldlM_set_iff {settings : List Setting} (c : NearMedia) :
    (∃ d, settings.foldlM set c = .ok d) ↔
      ∀ reads, .stream reads ∈ settings → ∃ bytes, Delivers reads bytes := by
  induction settings generalizing c with
  | nil =>
    constructor
    · rintro - reads hmem
      cases hmem
    · exact fun _ => ⟨c, rfl⟩
  | cons s settings ih =>
    have hs := exists_set_iff (s := s) c
    rw [List.foldlM_cons]
    constructor
    · rintro ⟨d, hd⟩ reads hmem
      cases hset : c.set s with
      | error e =>
        rw [hset] at hd
        cases hd
      | ok c' =>
        rw [hset] at hd
        rcases List.mem_cons.1 hmem with rfl | hmem
        · exact hs.1 ⟨c', hset⟩ reads rfl
        · exact (ih c').1 ⟨d, hd⟩ reads hmem
    · intro h
      obtain ⟨c', hset⟩ := hs.2 fun reads hreads => h reads (hreads ▸ List.mem_cons_self)
      rw [hset]
      exact (ih c').2 fun reads hmem => h reads (List.mem_cons_of_mem _ hmem)

theorem clause_ofSettings (kind : MediaKind) (settings : List Setting) :
    (NearMediaOf.ofSettings kind settings).map NearMediaOf.clause = ofSettings kind settings := by
  have hstep : ∀ (c : NearMediaOf kind) (s : Setting),
      (c.set s).map NearMediaOf.clause = c.clause.set s := by
    intro c s
    rw [NearMediaOf.set]
    split
    · rename_i h
      exact h.symm
    · rename_i h
      exact h.symm
  have hfold : ∀ c : NearMediaOf kind, (settings.foldlM NearMediaOf.set c).map
      NearMediaOf.clause = settings.foldlM set c.clause := by
    induction settings with
    | nil => exact fun _ => rfl
    | cons s settings ih =>
      intro c
      rw [List.foldlM_cons, List.foldlM_cons, ← hstep]
      cases c.set s with
      | error e => rfl
      | ok c' => exact ih c'
  exact hfold _

/-- Clauses of any kind take the same bytes alike, whatever way they are supplied. -/
theorem takesContent (kind : MediaKind) : TakesContent kind where
  supplied := by
    intro bytes s hs c
    obtain ⟨source, hsource, hbytes⟩ := hs.source?
    exact ⟨_, set_of_source? hsource c, congrArg (fun text => (c.kind, text, c.options)) hbytes⟩
  alike _ _ _ hs ht before after := (alike_ofSettings hs ht before after).rendered
  wrapped := by
    intro settings
    rw [← clause_ofSettings]
    cases NearMediaOf.ofSettings kind settings with
    | error e => rfl
    | ok c => rfl
  latest _ _ _ _ hs hafter _ h := encoded_of_latest hs hafter h
  decoded := by
    intro bytes before s after hs hafter d h
    obtain ⟨source, hsource, hbytes⟩ := hs.source?
    rw [encoded_of_latest hsource hafter h, hbytes]
    exact Text.Base64.decode?_eq_some_iff.2 rfl
  stripped := MediaSource.base64_base64
  refused := by
    intro reason reads hreads
    refine ⟨set_stream_of_breaks hreads, ?_⟩
    rintro before after ⟨c, hc⟩
    rw [ofSettings_append, hc]
    change (Setting.stream reads :: after).foldlM set c = _
    rw [List.foldlM_cons, set_stream_of_breaks hreads]
    rfl
  accepted _ := exists_foldlM_set_iff _

/-- Three bytes in two reads with an interruption, and in a data URI whose header holds a marker. -/
theorem takesContent_thermal :
    (ofSettings .thermal
        [.stream [.interrupted, .data [97], .data [98, 99], .data []],
          .option (.targetVectors ["heat"])]).map rendered =
      (ofSettings .thermal
        [.source (.encoded ("data:" ++ "x;base64,y" ++ ";base64," ++
            Text.Base64.encode [97, 98, 99])),
          .option (.targetVectors ["heat"])]).map rendered ∧
      (ofSettings .thermal [.stream [.interrupted, .data [97], .data [98, 99], .data []],
        .option (.targetVectors ["heat"])]).map encoded = .ok "YWJj" ∧
      ofSettings .thermal [.stream [.interrupted, .data [97], .failed "gone"]] =
        .error (.mediaRead "gone") := by
  have hreads : Delivers [.interrupted, .data [97], .data [98, 99], .data []] [97, 98, 99] :=
    .interrupted (.data (by decide) (.data (by decide) .ended))
  have hfails : Breaks "gone" [.interrupted, .data [97], .failed "gone"] :=
    .interrupted (.data (by decide) .failed)
  have hrules := takesContent .thermal
  refine ⟨hrules.alike [97, 98, 99] _ _ (.stream hreads) (.uri _) [] _, rfl, ?_⟩
  exact (hrules.refused "gone" _ hfails).2 [] [] ⟨_, rfl⟩

end NearMedia

end VectorQuery
