import VectorQuery.Keyed

/-!
# Looking up keys

A key is found in a list under distinct keys whatever order the list has, and giving a value for a
key keeps the order of the keys.
-/

namespace VectorQuery.Keyed

variable {α : Type} {entries : List (String × α)} {key : String} {value : α}

theorem get?_of_notMem (h : key ∉ entries.map Prod.fst) : get? key entries = none := by
  induction entries with
  | nil => rfl
  | cons entry entries ih =>
    obtain ⟨hne, h⟩ := not_or.1 fun hmem => h (List.mem_cons.2 hmem)
    rw [get?, if_neg hne, ih h]

theorem get?_of_mem (hkeys : (entries.map Prod.fst).Nodup) (h : (key, value) ∈ entries) :
    get? key entries = some value := by
  induction entries with
  | nil => cases h
  | cons entry entries ih =>
    obtain ⟨hnew, hkeys⟩ := List.nodup_cons.1 hkeys
    rw [get?]
    rcases List.mem_cons.1 h with rfl | h
    · rw [if_pos rfl]
    · rw [if_neg, ih hkeys h]
      rintro rfl
      exact hnew (List.mem_map.2 ⟨_, h, rfl⟩)

theorem get?_map {β : Type} (f : α → β) (key : String) (entries : List (String × α)) :
    get? key (entries.map fun entry => (entry.1, f entry.2)) = (get? key entries).map f := by
  induction entries with
  | nil => rfl
  | cons entry entries ih =>
    rw [List.map_cons, get?, get?, ih]
    by_cases hkey : key = entry.1
    · rw [if_pos hkey, if_pos hkey, Option.map_some]
    · rw [if_neg hkey, if_neg hkey]

/-- A value that is given last under a new key is found under that key alone. -/
theorem get?_append_singleton (other : String) (h : key ∉ entries.map Prod.fst) :
    get? other (entries ++ [(key, value)]) =
      if other = key then some value else get? other entries := by
  induction entries with
  | nil => rfl
  | cons entry entries ih =>
    obtain ⟨k, v⟩ := entry
    obtain ⟨hne, h⟩ := not_or.1 fun hmem => h (List.mem_cons.2 hmem)
    rw [List.cons_append, get?, get?, ih h]
    by_cases hother : other = k
    · rw [if_pos hother, if_pos hother, if_neg (fun heq => hne (heq.symm.trans hother))]
    · rw [if_neg hother, if_neg hother]

/-- Lists under the same distinct keys are told apart by what is found in them. -/
theorem eq_of_get?_eq {others : List (String × α)}
    (hkeys : entries.map Prod.fst = others.map Prod.fst) (hnodup : (others.map Prod.fst).Nodup)
    (h : ∀ key, get? key entries = get? key others) : entries = others := by
  induction entries generalizing others with
  | nil => exact (List.map_eq_nil_iff.1 hkeys.symm).symm
  | cons entry entries ih =>
    cases others with
    | nil => cases hkeys
    | cons other others =>
      obtain ⟨k, v⟩ := entry
      obtain ⟨k', v'⟩ := other
      obtain ⟨rfl, htail⟩ := List.cons.inj hkeys
      obtain ⟨hnew, hnodup⟩ := List.nodup_cons.1 hnodup
      have hvalue : v = v' := by simpa [get?] using h k
      have hrest : ∀ key, get? key entries = get? key others := by
        intro key
        by_cases hkey : key = k
        · subst hkey
          rw [get?_of_notMem (htail ▸ hnew), get?_of_notMem hnew]
        · simpa [get?, hkey] using h key
      rw [hvalue, ih htail hnodup hrest]

theorem mem_insert {entry : String × α} (h : entry ∈ insert key value entries) :
    entry = (key, value) ∨ entry ∈ entries := by
  induction entries with
  | nil => exact .inl (List.mem_singleton.1 h)
  | cons first entries ih =>
    obtain ⟨k, v⟩ := first
    rw [insert] at h
    split at h
    · exact (List.mem_cons.1 h)
    · split at h
      · exact (List.mem_cons.1 h).imp_right (List.mem_cons_of_mem _)
      · rcases List.mem_cons.1 h with rfl | h
        · exact .inr (List.mem_cons_self ..)
        · exact (ih h).imp_right (List.mem_cons_of_mem _)

theorem ordered_insert (key : String) (value : α) (h : Ordered entries) :
    Ordered (insert key value entries) := by
  induction entries with
  | nil => exact List.pairwise_singleton _ _
  | cons entry entries ih =>
    obtain ⟨k, v⟩ := entry
    obtain ⟨hlt, hrest⟩ := List.pairwise_cons.1 h
    obtain hk | rfl | hk := Std.lt_trichotomy key k
    · rw [insert_of_lt hk]
      refine List.pairwise_cons.2 ⟨fun entry hentry => ?_, h⟩
      rcases List.mem_cons.1 hentry with rfl | hentry
      · exact hk
      · exact String.lt_trans hk (hlt entry hentry)
    · rw [insert_self]
      exact List.pairwise_cons.2 ⟨hlt, hrest⟩
    · rw [insert_of_gt hk]
      refine List.pairwise_cons.2 ⟨fun entry hentry => ?_, ih hrest⟩
      rcases mem_insert hentry with rfl | hentry
      · exact hk
      · exact hlt entry hentry

/-- What holds of values one by one holds of them in a list under keys, which is in the order of the
keys. -/
theorem ordered_ofList (given : List (String × α)) :
    Ordered (ofList given) ∧ ∀ entry ∈ ofList given, entry ∈ given := by
  have hfold : ∀ kept : List (String × α), Ordered kept →
      Ordered (given.foldl (fun keyed entry => insert entry.1 entry.2 keyed) kept) ∧
        ∀ entry ∈ given.foldl (fun keyed entry => insert entry.1 entry.2 keyed) kept,
          entry ∈ kept ∨ entry ∈ given := by
    induction given with
    | nil => exact fun kept hkept => ⟨hkept, fun _ hentry => .inl hentry⟩
    | cons first given ih =>
      intro kept hkept
      obtain ⟨hordered, hmem⟩ := ih _ (ordered_insert first.1 first.2 hkept)
      refine ⟨hordered, fun entry hentry => ?_⟩
      rcases hmem entry hentry with hentry | hentry
      · rcases mem_insert hentry with rfl | hentry
        · exact .inr (List.mem_cons_self ..)
        · exact .inl hentry
      · exact .inr (List.mem_cons_of_mem _ hentry)
  obtain ⟨hordered, hmem⟩ := hfold [] List.Pairwise.nil
  exact ⟨hordered, fun entry hentry => (hmem entry hentry).resolve_left List.not_mem_nil⟩

end VectorQuery.Keyed
