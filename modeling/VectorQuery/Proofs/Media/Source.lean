import VectorQuery.Media.Source
import VectorQuery.Proofs.Text.Base64

/-!
# The content of a medium, however it is given

A stream gives the bytes of its reads up to the one that ends it, and interruptions do not count. A
data URI gives what stands behind its last marker, which holds no marker itself, so taking the
content of a content changes nothing.
-/

namespace VectorQuery

/-! ## Streams -/

/-- Reads that deliver bytes and then end, by a read without bytes or because there are no more. -/
inductive Delivers : List Read → List UInt8 → Prop
  | exhausted : Delivers [] []
  | ended {rest : List Read} : Delivers (.data [] :: rest) []
  | interrupted {rest : List Read} {bytes : List UInt8} (h : Delivers rest bytes) :
    Delivers (.interrupted :: rest) bytes
  | data {chunk bytes : List UInt8} {rest : List Read} (hchunk : chunk ≠ [])
    (h : Delivers rest bytes) : Delivers (.data chunk :: rest) (chunk ++ bytes)

/-- Reads of which one fails before they end. -/
inductive Breaks (reason : String) : List Read → Prop
  | failed {rest : List Read} : Breaks reason (.failed reason :: rest)
  | interrupted {rest : List Read} (h : Breaks reason rest) : Breaks reason (.interrupted :: rest)
  | data {chunk : List UInt8} {rest : List Read} (hchunk : chunk ≠ []) (h : Breaks reason rest) :
    Breaks reason (.data chunk :: rest)

theorem drain_data {chunk : List UInt8} (h : chunk ≠ []) (rest : List Read) :
    drain (.data chunk :: rest) = (drain rest).map (chunk ++ ·) := by
  rw [drain]
  exact h

theorem drain_eq_ok_iff {reads : List Read} {bytes : List UInt8} :
    drain reads = .ok bytes ↔ Delivers reads bytes := by
  constructor
  · intro h
    induction reads generalizing bytes with
    | nil =>
      cases h
      exact .exhausted
    | cons read rest ih =>
      cases read with
      | interrupted => exact .interrupted (ih h)
      | failed reason => cases h
      | data chunk =>
        by_cases hchunk : chunk = []
        · subst hchunk
          cases h
          exact .ended
        · rw [drain_data hchunk] at h
          cases hrest : drain rest with
          | error reason =>
            rw [hrest] at h
            cases h
          | ok more =>
            rw [hrest] at h
            cases h
            exact .data hchunk (ih hrest)
  · intro h
    induction h with
    | exhausted => rfl
    | ended => rfl
    | interrupted _ ih => exact ih
    | data hchunk _ ih =>
      rw [drain_data hchunk, ih]
      rfl

theorem drain_eq_error_iff {reads : List Read} {reason : String} :
    drain reads = .error reason ↔ Breaks reason reads := by
  constructor
  · intro h
    induction reads with
    | nil => cases h
    | cons read rest ih =>
      cases read with
      | interrupted => exact .interrupted (ih h)
      | failed other =>
        cases h
        exact .failed
      | data chunk =>
        by_cases hchunk : chunk = []
        · subst hchunk
          cases h
        · rw [drain_data hchunk] at h
          cases hrest : drain rest with
          | error other =>
            rw [hrest] at h
            cases h
            exact .data hchunk (ih hrest)
          | ok more =>
            rw [hrest] at h
            cases h
  · intro h
    induction h with
    | failed => rfl
    | interrupted _ ih => exact ih
    | data hchunk _ ih =>
      rw [drain_data hchunk, ih]
      rfl

theorem delivers_or_breaks (reads : List Read) :
    (∃ bytes, Delivers reads bytes) ∨ ∃ reason, Breaks reason reads := by
  cases h : drain reads with
  | ok bytes => exact .inl ⟨bytes, drain_eq_ok_iff.1 h⟩
  | error reason => exact .inr ⟨reason, drain_eq_error_iff.1 h⟩

theorem Breaks.not_delivers {reason : String} {reads : List Read} (h : Breaks reason reads)
    (bytes : List UInt8) : ¬Delivers reads bytes := by
  intro hbytes
  have hok := drain_eq_ok_iff.2 hbytes
  rw [drain_eq_error_iff.2 h] at hok
  cases hok

/-! ## Data URIs -/

namespace DataUri

theorem marker_eq : marker = [';', 'b', 'a', 's', 'e', '6', '4', ','] := by
  delta marker
  simp

/-- A marker in an end of a text is a marker in the text. -/
theorem afterLastMarker?_append_of_eq_some {s content : List Char}
    (h : afterLastMarker? s = some content) (front : List Char) :
    afterLastMarker? (front ++ s) = some content := by
  induction front with
  | nil => exact h
  | cons c front ih => rw [List.cons_append, afterLastMarker?, ih]

theorem afterLastMarker?_of_append_eq_none {front s : List Char}
    (h : afterLastMarker? (front ++ s) = none) : afterLastMarker? s = none := by
  cases hs : afterLastMarker? s with
  | none => rfl
  | some content =>
    rw [afterLastMarker?_append_of_eq_some hs] at h
    cases h

/-- No marker is behind the last one. -/
theorem afterLastMarker?_of_eq_some {s content : List Char}
    (h : afterLastMarker? s = some content) : afterLastMarker? content = none := by
  induction s with
  | nil => cases h
  | cons c s ih =>
    rw [afterLastMarker?] at h
    cases hs : afterLastMarker? s with
    | some later =>
      rw [hs] at h
      cases h
      exact ih hs
    | none =>
      simp only [hs] at h
      by_cases hmarker : marker.isPrefixOf (c :: s) = true
      · rw [if_pos hmarker] at h
        cases h
        have hdrop : (c :: s).drop marker.length = s.drop 7 := by
          rw [marker_eq]
          rfl
        rw [← List.take_append_drop 7 s] at hs
        rw [hdrop]
        exact afterLastMarker?_of_append_eq_none hs
      · rw [if_neg hmarker] at h
        cases h

theorem afterLastMarker?_of_notMem {s : List Char} (h : ';' ∉ s) : afterLastMarker? s = none := by
  induction s with
  | nil => rfl
  | cons c s ih =>
    rw [List.mem_cons, not_or] at h
    obtain ⟨hc, hs⟩ := h
    have hmarker : ¬marker.isPrefixOf (c :: s) = true := by
      simp [marker_eq, hc]
    simp only [afterLastMarker?, ih hs, if_neg hmarker]

theorem afterLastMarker?_marker {content : List Char} (h : ';' ∉ content) :
    afterLastMarker? (marker ++ content) = some content := by
  have htail : afterLastMarker? (['b', 'a', 's', 'e', '6', '4', ','] ++ content) = none :=
    afterLastMarker?_of_notMem (by simp [h])
  rw [marker_eq, List.cons_append, afterLastMarker?, htail, if_pos (by simp [marker_eq]), marker_eq]
  rfl

theorem payload_of_afterLastMarker? {s : List Char} (h : afterLastMarker? s = none) :
    payload s = s := by
  rw [payload, h]
  split <;> rfl

theorem payload_payload (s : List Char) : payload (payload s) = payload s := by
  cases h : afterLastMarker? s with
  | none => rw [payload_of_afterLastMarker? h, payload_of_afterLastMarker? h]
  | some content =>
    by_cases hscheme : scheme.isPrefixOf s = true
    · have hs : payload s = content := by
        rw [payload, if_pos hscheme, h]
        rfl
      rw [hs, payload_of_afterLastMarker? (afterLastMarker?_of_eq_some h)]
    · have hs : payload s = s := if_neg hscheme
      rw [hs, hs]

/-- Whatever stands in front of the last marker, markers included, is left out. -/
theorem payload_uri (header : List Char) {content : List Char} (h : ';' ∉ content) :
    payload (scheme ++ header ++ marker ++ content) = content := by
  have hscheme : scheme.isPrefixOf (scheme ++ header ++ marker ++ content) = true := by
    simp [List.append_assoc]
  have hlast : afterLastMarker? (scheme ++ header ++ marker ++ content) = some content := by
    rw [List.append_assoc _ marker]
    exact afterLastMarker?_append_of_eq_some (afterLastMarker?_marker h) _
  rw [payload, if_pos hscheme, hlast]
  rfl

end DataUri

namespace MediaSource

theorem base64_base64 (text : String) :
    (encoded (encoded text).base64).base64 = (encoded text).base64 := by
  simp only [base64, String.toList_ofList, DataUri.payload_payload]

theorem notMem_toList_encode {c : Char} (h : c ∉ '=' :: Text.Base64.alphabet)
    (bytes : List UInt8) : c ∉ (Text.Base64.encode bytes).toList := by
  rw [Text.Base64.encode, String.toList_ofList]
  exact Text.Base64.not_mem_encodeChars h bytes

theorem base64_encoded_encode (bytes : List UInt8) :
    (encoded (Text.Base64.encode bytes)).base64 = Text.Base64.encode bytes := by
  have hmarker := notMem_toList_encode (c := ';') (by decide) bytes
  rw [base64, DataUri.payload_of_afterLastMarker? (DataUri.afterLastMarker?_of_notMem hmarker),
    String.ofList_toList]

theorem base64_encoded_uri (header : String) (bytes : List UInt8) :
    (encoded ("data:" ++ header ++ ";base64," ++ Text.Base64.encode bytes)).base64 =
      Text.Base64.encode bytes := by
  have hmarker := notMem_toList_encode (c := ';') (by decide) bytes
  have hpayload := DataUri.payload_uri header.toList hmarker
  rw [base64, String.toList_append, String.toList_append, String.toList_append]
  exact (congrArg String.ofList hpayload).trans (String.ofList_toList)

end MediaSource

end VectorQuery
