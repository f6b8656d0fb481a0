/-!
# Lists of values under keys

JSON objects, named vectors and request headers are lists of values under distinct keys, in
increasing order of the keys. `Keyed.insert` keeps that order and replaces what stood under the
key, so the last value given for a key is the one that counts.
-/

namespace VectorQuery.Keyed

variable {α β : Type}

/-- The list with `value` under `key`, in place of what stood there. -/
def insert (key : String) (value : α) : List (String × α) → List (String × α)
  | [] => [(key, value)]
  | (k, v) :: rest =>
    if key < k then (key, value) :: (k, v) :: rest
    else if key = k then (key, value) :: rest
    else (k, v) :: insert key value rest

/-- The list that results from giving the values one after another. -/
def ofList (entries : List (String × α)) : List (String × α) :=
  entries.foldl (fun keyed (key, value) => insert key value keyed) []

/-- The value under a key. -/
def get? (key : String) : List (String × α) → Option α
  | [] => none
  | (k, v) :: rest => if key = k then some v else get? key rest

/-- The keys are distinct and increase. -/
def Ordered (entries : List (String × α)) : Prop :=
  entries.Pairwise fun a b => a.1 < b.1

theorem get?_insert_self (key : String) (value : α) (entries : List (String × α)) :
    get? key (insert key value entries) = some value := by
  induction entries with
  | nil => simp [insert, get?]
  | cons entry rest ih =>
    obtain ⟨k, v⟩ := entry
    unfold insert
    split
    · simp [get?]
    · split
      · simp [get?]
      · next hne => simp [get?, hne, ih]

theorem get?_insert_of_ne {key other : String} (hne : other ≠ key) (value : α)
    (entries : List (String × α)) : get? other (insert key value entries) = get? other entries := by
  induction entries with
  | nil => simp [insert, get?, hne]
  | cons entry rest ih =>
    obtain ⟨k, v⟩ := entry
    unfold insert
    split
    · simp [get?, hne]
    · split
      · next heq => subst heq; simp [get?, hne]
      · by_cases hk : other = k <;> simp [get?, hk, ih]

/-- A key that comes after all others goes to the end. -/
theorem insert_of_forall_lt {key : String} (value : α) {entries : List (String × α)}
    (h : ∀ entry ∈ entries, entry.1 < key) :
    insert key value entries = entries ++ [(key, value)] := by
  induction entries with
  | nil => rfl
  | cons entry rest ih =>
    obtain ⟨k, v⟩ := entry
    have hk : k < key := h (k, v) (List.mem_cons_self ..)
    have hne : key ≠ k := fun heq => String.lt_irrefl k (heq ▸ hk)
    rw [insert, if_neg (String.lt_asymm hk), if_neg hne,
      ih fun entry hentry => h entry (List.mem_cons_of_mem _ hentry), List.cons_append]

theorem foldl_insert_of_ordered (entries kept : List (String × α))
    (h : Ordered (kept ++ entries)) :
    entries.foldl (fun keyed (key, value) => insert key value keyed) kept = kept ++ entries := by
  induction entries generalizing kept with
  | nil => rw [List.foldl_nil, List.append_nil]
  | cons entry rest ih =>
    obtain ⟨key, value⟩ := entry
    have hlt : ∀ entry ∈ kept, entry.1 < key := fun entry hentry =>
      (List.pairwise_append.mp h).2.2 entry hentry (key, value) (List.mem_cons_self ..)
    rw [List.append_cons] at h ⊢
    rw [← ih _ h, ← insert_of_forall_lt value hlt, List.foldl_cons]

/-- Entries that are in the order of their keys stay as they are. -/
theorem ofList_of_ordered {entries : List (String × α)}
    (h : Ordered entries) : ofList entries = entries :=
  foldl_insert_of_ordered entries [] h

theorem insert_of_lt {a k : String} (h : a < k) (x v : α) (rest : List (String × α)) :
    insert a x ((k, v) :: rest) = (a, x) :: (k, v) :: rest := by
  rw [insert, if_pos h]

theorem insert_self (k : String) (x v : α) (rest : List (String × α)) :
    insert k x ((k, v) :: rest) = (k, x) :: rest := by
  rw [insert, if_neg (String.lt_irrefl k), if_pos rfl]

theorem insert_of_gt {a k : String} (h : k < a) (x v : α) (rest : List (String × α)) :
    insert a x ((k, v) :: rest) = (k, v) :: insert a x rest := by
  have hne : a ≠ k := fun heq => String.lt_irrefl k (heq ▸ h)
  rw [insert, if_neg (String.lt_asymm h), if_neg hne]

/-- The smaller of two keys goes before the greater one, whichever is given first. -/
theorem insert_comm_of_lt {a b : String} (h : a < b) (x y : α) (entries : List (String × α)) :
    insert a x (insert b y entries) = insert b y (insert a x entries) := by
  induction entries with
  | nil => exact (insert_of_lt h x y []).trans (insert_of_gt h y x []).symm
  | cons entry rest ih =>
    obtain ⟨k, v⟩ := entry
    obtain hb | rfl | hb := Std.lt_trichotomy b k
    · rw [insert_of_lt hb, insert_of_lt h, insert_of_lt (String.lt_trans h hb), insert_of_gt h,
        insert_of_lt hb]
    · rw [insert_self, insert_of_lt h, insert_of_lt h, insert_of_gt h, insert_self]
    · rw [insert_of_gt hb]
      obtain ha | rfl | ha := Std.lt_trichotomy a k
      · rw [insert_of_lt ha, insert_of_lt ha, insert_of_gt h, insert_of_gt hb]
      · rw [insert_self, insert_self, insert_of_gt h]
      · rw [insert_of_gt ha, insert_of_gt ha, insert_of_gt hb, ih]

theorem insert_comm {a b : String} (hne : a ≠ b) (x y : α) (entries : List (String × α)) :
    insert a x (insert b y entries) = insert b y (insert a x entries) := by
  obtain h | rfl | h := Std.lt_trichotomy a b
  · exact insert_comm_of_lt h x y entries
  · exact absurd rfl hne
  · exact (insert_comm_of_lt h y x entries).symm

theorem eq_of_mem_of_ordered {entries : List (String × α)} (h : Ordered entries) {key : String}
    {x y : α} (hx : (key, x) ∈ entries) (hy : (key, y) ∈ entries) : x = y := by
  induction entries with
  | nil => cases hx
  | cons entry rest ih =>
    obtain ⟨hlt, hrest⟩ := List.pairwise_cons.1 h
    obtain rfl | hxrest := List.mem_cons.1 hx
    · obtain heq | hyrest := List.mem_cons.1 hy
      · exact (Prod.mk.inj heq).2.symm
      · exact absurd (hlt (key, y) hyrest) (String.lt_irrefl key)
    · obtain rfl | hyrest := List.mem_cons.1 hy
      · exact absurd (hlt (key, x) hxrest) (String.lt_irrefl key)
      · exact ih hrest hxrest hyrest

/-- Under distinct keys it does not matter in which order values are given. -/
theorem ofList_of_perm {entries given : List (String × α)} (h : Ordered entries)
    (hperm : given.Perm entries) : ofList given = entries := by
  have hsame : ofList given = ofList entries := by
    refine (hperm.symm.foldl_eq' ?_ []).symm
    intro (a, x) ha (b, y) hb keyed
    by_cases hab : a = b
    · subst hab
      rw [eq_of_mem_of_ordered h ha hb]
    · exact insert_comm (Ne.symm hab) y x keyed
  rw [hsame, ofList_of_ordered h]

end VectorQuery.Keyed
