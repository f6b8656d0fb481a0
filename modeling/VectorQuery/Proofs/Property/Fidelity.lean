import VectorQuery.Proofs.Json.Printed
import VectorQuery.Property

/-!
# Which properties come back from a message

A message has kinds of its own for some arrays and tries them one after another, so an array that
goes as one kind could come back as another. It does so only as numbers: whole numbers among
floating point ones lose what tells them apart. Whatever goes as text comes back as it was, up to
the depth that the reader allows.
-/

namespace VectorQuery

namespace Property

open Json

/-- A property that does not come back as it was. -/
inductive Altered : Json → Prop
  /-- A whole number beyond the signed range goes as a floating point number. -/
  | large {n : Whole} (h : signedBound ≤ n.value) : Altered (.whole n)
  /-- Numbers of which one is whole go as floating point numbers, unless all of them are whole and
  in the signed range. -/
  | mixed {items : List Json}
    (hnumbers : ∀ item ∈ items, (∃ n, item = .whole n) ∨ ∃ x, item = .real x)
    (hwhole : ∃ n, .whole n ∈ items)
    (hints : ¬∀ item ∈ items, ∃ n : Whole, item = .whole n ∧ n.value < signedBound) :
    Altered (.array items)
  /-- An array that nests too deep comes back as its text. -/
  | deepArray {items : List Json} (h : 128 ≤ depth (.array items)) : Altered (.array items)
  /-- An object that nests too deep comes back as its text. -/
  | deepObject {members : List (String × Json)} (h : 128 ≤ depth (.object members)) :
    Altered (.object members)

/-- How a property comes back: as it was unless it is one of those that do not, and as its text if
it nests too deep. -/
structure Restored (v w : Json) : Prop where
  /-- When it comes back as it was. -/
  eq_iff : w = v ↔ ¬Altered v
  /-- What comes back otherwise if it nests too deep. -/
  eq_text : 128 ≤ depth v → w = .string v.text

theorem Restored.unaltered {v : Json} (hdepth : depth v < 128) (h : ¬Altered v) : Restored v v :=
  ⟨iff_of_true rfl h, fun hdeep => absurd hdepth (Nat.not_lt.2 hdeep)⟩

theorem Restored.altered {v w : Json} (hdepth : depth v < 128) (h : Altered v) (hne : w ≠ v) :
    Restored v w :=
  ⟨iff_of_false hne (not_not.2 h), fun hdeep => absurd hdepth (Nat.not_lt.2 hdeep)⟩

/-- What goes as text comes back as it was, or as that text. -/
theorem Restored.of_text {v : Json} (hformed : v.WellFormed) (hreals : v.RealsReadBack)
    (haltered : Altered v ↔ 128 ≤ depth v) (hne : .string v.text ≠ v) :
    Restored v (json (.json v.text)) := by
  have hread := parse?_text hformed hreals
  by_cases hdepth : depth v ≤ deepest
  · have hshallow : depth v < 128 := Nat.lt_succ_of_le hdepth
    rw [json, hread, if_pos hdepth]
    exact .unaltered hshallow fun h => absurd (haltered.1 h) (Nat.not_le.2 hshallow)
  · have hdeep : 128 ≤ depth v := Nat.lt_of_not_le hdepth
    rw [json, hread, if_neg hdepth]
    exact ⟨iff_of_false hne (not_not.2 (haltered.2 hdeep)), fun _ => rfl⟩

/-! ## Arrays of one kind -/

theorem exists_of_mapM_eq_none {α : Type} {item? : Json → Option α} {items : List Json}
    (h : items.mapM item? = none) : ∃ item ∈ items, item? item = none := by
  induction items with
  | nil => cases h
  | cons item items ih =>
    rw [List.mapM_cons] at h
    cases hitem : item? item with
    | none => exact ⟨item, List.mem_cons_self .., hitem⟩
    | some x =>
      cases hitems : items.mapM item? with
      | none =>
        obtain ⟨other, hmem, hother⟩ := ih hitems
        exact ⟨other, List.mem_cons_of_mem _ hmem, hother⟩
      | some xs =>
        rw [hitem, hitems] at h
        cases h

theorem exists_of_mapM_eq_some {α : Type} {item? : Json → Option α} {items : List Json}
    {xs : List α} (h : items.mapM item? = some xs) : ∀ item ∈ items, ∃ x, item? item = some x := by
  induction items generalizing xs with
  | nil => exact fun _ hitem => absurd hitem List.not_mem_nil
  | cons item items ih =>
    rw [List.mapM_cons] at h
    obtain ⟨x, hx, h⟩ := Option.bind_eq_some_iff.1 h
    obtain ⟨xs, hxs, -⟩ := Option.bind_eq_some_iff.1 h
    exact List.forall_mem_cons.2 ⟨⟨x, hx⟩, ih hxs⟩

/-- Items that are read one by one and written again are what they were. -/
theorem map_eq_of_mapM {α : Type} {item? : Json → Option α} {back : α → Json} {items : List Json}
    {xs : List α} (hback : ∀ item ∈ items, ∀ x, item? item = some x → back x = item)
    (h : items.mapM item? = some xs) : xs.map back = items := by
  induction items generalizing xs with
  | nil =>
    cases h
    rfl
  | cons item items ih =>
    obtain ⟨hitem, hitems⟩ := List.forall_mem_cons.1 hback
    rw [List.mapM_cons] at h
    obtain ⟨x, hx, h⟩ := Option.bind_eq_some_iff.1 h
    obtain ⟨xs, hxs, h⟩ := Option.bind_eq_some_iff.1 h
    cases h
    rw [List.map_cons, hitem x hx, ih hitems hxs]

theorem number_of_double? {v : Json} {x : Number.Double} (h : v.double? = some x) :
    (∃ n, v = .whole n) ∨ ∃ x, v = .real x := by
  cases v with
  | whole n => exact .inl ⟨n, rfl⟩
  | real x => exact .inr ⟨x, rfl⟩
  | _ => cases h

theorem depth_array_of_flat {items : List Json} (h : ∀ item ∈ items, depth item = 0) :
    depth (.array items) = 1 := by
  have hitems : itemsDepth items = 0 := by
    induction items with
    | nil => rfl
    | cons item items ih =>
      obtain ⟨hitem, hitems⟩ := List.forall_mem_cons.1 h
      rw [itemsDepth, hitem, ih hitems]
      rfl
  rw [depth, hitems]

theorem ofInt64_eq_whole (i : Int64) : ∃ n, ofInt64 i = .whole n ∧ n.value < signedBound := by
  have hbound : i.toInt < signedBound := i.toInt_lt
  have hunsigned : i.toInt < unsignedBound := Int.lt_trans hbound (by decide)
  exact ⟨⟨i.toInt, i.le_toInt, hunsigned⟩, dif_pos ⟨i.le_toInt, hunsigned⟩, hbound⟩

theorem ofDouble_ne_whole (x : Number.Double) (n : Whole) : ofDouble x ≠ .whole n := by
  unfold ofDouble
  split <;> nofun

theorem depth_ofInt64 (i : Int64) : depth (ofInt64 i) = 0 := by
  obtain ⟨n, hn, -⟩ := ofInt64_eq_whole i
  rw [hn]
  rfl

theorem depth_ofDouble (x : Number.Double) : depth (ofDouble x) = 0 := by
  unfold ofDouble
  split <;> rfl

theorem string_of_string? {v : Json} {s : String} (h : v.string? = some s) : .string s = v := by
  cases v with
  | string => cases h; rfl
  | _ => cases h

theorem bool_of_bool? {v : Json} {b : Bool} (h : v.bool? = some b) : .bool b = v := by
  cases v with
  | bool => cases h; rfl
  | _ => cases h

theorem ofInt64_of_int64? {v : Json} {i : Int64} (h : v.int64? = some i) : ofInt64 i = v := by
  cases v with
  | whole n =>
    rw [int64?] at h
    by_cases hn : n.value < signedBound
    · rw [if_pos hn] at h
      cases h
      rw [ofInt64, Int64.toInt_ofInt_of_le n.least_le hn, ofInt_value]
    · rw [if_neg hn] at h
      cases h
  | _ => cases h

/-- An array that goes as an array of one kind comes back as it was where every item does. -/
theorem restored_typed {α : Type} {item? : Json → Option α} {back : α → Json} {items : List Json}
    {xs : List α} (hback : ∀ item ∈ items, ∀ x, item? item = some x → back x = item)
    (hflat : ∀ x, depth (back x) = 0)
    (hints : ∀ x n, back x = .whole n → ∀ y, ∃ m, back y = .whole m ∧ m.value < signedBound)
    (h : items.mapM item? = some xs) : Restored (.array items) (.array (xs.map back)) := by
  obtain rfl := map_eq_of_mapM hback h
  have hdepth : depth (.array (xs.map back)) = 1 := by
    refine depth_array_of_flat fun item hitem => ?_
    obtain ⟨x, -, rfl⟩ := List.mem_map.1 hitem
    exact hflat x
  refine .unaltered (by omega) ?_
  intro haltered
  cases haltered with
  | mixed _ hwhole hmixed =>
    obtain ⟨n, hmem⟩ := hwhole
    obtain ⟨x, -, hx⟩ := List.mem_map.1 hmem
    refine hmixed fun item hitem => ?_
    obtain ⟨y, -, rfl⟩ := List.mem_map.1 hitem
    exact hints x n hx y
  | deepArray hdeep => omega

/-- Numbers that do not all go as whole numbers come back as floating point numbers. -/
theorem restored_numbers {items : List Json} {xs : List Number.Double}
    (hints : items.mapM int64? = none) (h : items.mapM double? = some xs) :
    Restored (.array items) (.array (xs.map .ofDouble)) := by
  have hnumbers : ∀ item ∈ items, (∃ n, item = .whole n) ∨ ∃ x, item = .real x := by
    intro item hitem
    obtain ⟨x, hx⟩ := exists_of_mapM_eq_some h item hitem
    exact number_of_double? hx
  by_cases hwhole : ∃ n, .whole n ∈ items
  · have hdepth : depth (.array items) = 1 := by
      refine depth_array_of_flat fun item hitem => ?_
      obtain ⟨n, rfl⟩ | ⟨x, rfl⟩ := hnumbers item hitem <;> rfl
    refine .altered (by omega) (.mixed hnumbers hwhole ?_) ?_
    · intro hall
      obtain ⟨item, hmem, hnone⟩ := exists_of_mapM_eq_none hints
      obtain ⟨n, rfl, hn⟩ := hall item hmem
      rw [int64?, if_pos hn] at hnone
      cases hnone
    · intro heq
      obtain ⟨n, hmem⟩ := hwhole
      rw [← Json.array.inj heq] at hmem
      obtain ⟨x, -, hx⟩ := List.mem_map.1 hmem
      exact ofDouble_ne_whole x n hx
  · refine restored_typed ?_ depth_ofDouble (fun x n hx => absurd hx (ofDouble_ne_whole x n)) h
    intro item hitem x hx
    obtain ⟨n, rfl⟩ | ⟨y, rfl⟩ := hnumbers item hitem
    · exact absurd ⟨n, hitem⟩ hwhole
    · cases hx
      exact dif_pos y.finite

/-! ## Every value -/

theorem restored_whole (n : Whole) : Restored (.whole n) (json (value (.whole n))) := by
  cases hi : (Json.whole n).int64? with
  | some i =>
    have hback : json (value (.whole n)) = .whole n := by
      rw [value, hi]
      exact ofInt64_of_int64? hi
    rw [hback]
    refine .unaltered (Nat.zero_lt_succ _) ?_
    intro haltered
    cases haltered with
    | large hlarge =>
      rw [int64?, if_neg (Int.not_lt.2 hlarge)] at hi
      cases hi
  | none =>
    have hback : json (value (.whole n)) = ofDouble (Number.Binary.ofInt n.value) := by
      rw [value, hi]
      rfl
    rw [hback]
    refine .altered (Nat.zero_lt_succ _) (.large ?_) (ofDouble_ne_whole _ n)
    by_contra hsmall
    rw [int64?, if_pos (Int.not_le.1 hsmall)] at hi
    cases hi

theorem restored_array {items : List Json} (hformed : (Json.array items).WellFormed)
    (hreals : (Json.array items).RealsReadBack) :
    Restored (.array items) (json (value (.array items))) := by
  have htext : items = [] ∨ items.mapM double? = none →
      Restored (.array items) (json (.json (Json.array items).text)) := by
    intro hother
    refine .of_text hformed hreals ⟨?_, .deepArray⟩ nofun
    intro haltered
    cases haltered with
    | deepArray h => exact h
    | mixed hnumbers hwhole _ =>
      obtain ⟨n, hmem⟩ := hwhole
      obtain rfl | hnone := hother
      · exact absurd hmem List.not_mem_nil
      · obtain ⟨item, hitem, hnone⟩ := exists_of_mapM_eq_none hnone
        obtain ⟨n, rfl⟩ | ⟨x, rfl⟩ := hnumbers item hitem <;> cases hnone
  obtain rfl | hne := eq_or_ne items []
  · exact htext (.inl rfl)
  rw [value, arrayValue?, if_neg (by simpa using hne)]
  cases htexts : items.mapM string? with
  | some ss =>
    show Restored _ (.array (ss.map .string))
    exact restored_typed (fun _ _ _ => string_of_string?) (fun _ => rfl) (fun _ _ h => nomatch h)
      htexts
  | none =>
    cases hbools : items.mapM bool? with
    | some bs =>
      show Restored _ (.array (bs.map .bool))
      exact restored_typed (fun _ _ _ => bool_of_bool?) (fun _ => rfl) (fun _ _ h => nomatch h)
        hbools
    | none =>
      cases hints : items.mapM int64? with
      | some is =>
        show Restored _ (.array (is.map .ofInt64))
        exact restored_typed (fun _ _ _ => ofInt64_of_int64?) depth_ofInt64
          (fun _ _ _ => ofInt64_eq_whole) hints
      | none =>
        cases hnumbers : items.mapM double? with
        | some xs => exact restored_numbers hints hnumbers
        | none => exact htext (.inr hnumbers)

/-- A property comes back as it was but in the cases that are listed. -/
theorem restored {v : Json} (hformed : v.WellFormed) (hreals : v.RealsReadBack) :
    Restored v (json (value v)) := by
  cases v with
  | null => exact .unaltered (Nat.zero_lt_succ _) nofun
  | bool b => exact .unaltered (Nat.zero_lt_succ _) nofun
  | string s => exact .unaltered (Nat.zero_lt_succ _) nofun
  | real x =>
    have hback : json (value (.real x)) = .real x := dif_pos x.finite
    rw [hback]
    exact .unaltered (Nat.zero_lt_succ _) nofun
  | whole n => exact restored_whole n
  | array items => exact restored_array hformed hreals
  | object members =>
    refine .of_text hformed hreals ⟨?_, .deepObject⟩ nofun
    intro haltered
    cases haltered with
    | deepObject h => exact h

end Property

end VectorQuery
