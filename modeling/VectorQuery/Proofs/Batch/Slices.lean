import VectorQuery.Batch.Insertion

/-!
# Slices of a batch

The slices of a batch are full but for the last, and together they are the batch. So the item at a
place of the batch stands in the slice that the place divided by the size names.
-/

namespace VectorQuery

variable {α : Type} {size : Nat}

theorem length_le_of_mem_slices (hsize : 0 < size) (items : List α) :
    ∀ slice ∈ slices size items, slice.length ≤ size := by
  fun_induction slices size items with
  | case1 items h => simpa using h.resolve_left (by omega)
  | case2 items h ih =>
    rw [List.forall_mem_cons]
    exact ⟨List.length_take_le _ _, ih⟩

theorem ne_nil_of_mem_slices {items : List α} (hitems : items ≠ []) :
    ∀ slice ∈ slices size items, slice ≠ [] := by
  fun_induction slices size items with
  | case1 items h => simpa using hitems
  | case2 items h ih =>
    rw [not_or, Nat.not_le] at h
    have hdrop : items.drop size ≠ [] := by
      rw [Ne, List.drop_eq_nil_iff]
      omega
    rw [List.forall_mem_cons]
    refine ⟨?_, ih hdrop⟩
    rw [Ne, List.take_eq_nil_iff]
    exact fun hnil => hnil.elim h.1 hitems

theorem slices_ne_nil (size : Nat) (items : List α) : slices size items ≠ [] := by
  unfold slices
  split <;> simp

/-- Every slice but the last is full. -/
theorem length_of_mem_dropLast_slices (items : List α) :
    ∀ slice ∈ (slices size items).dropLast, slice.length = size := by
  fun_induction slices size items with
  | case1 items h => simp
  | case2 items h ih =>
    rw [not_or, Nat.not_le] at h
    rw [List.dropLast_cons_of_ne_nil (slices_ne_nil _ _), List.forall_mem_cons]
    exact ⟨by simp; omega, ih⟩

/-- The item at a place of the batch is in the slice that the place divided by the size names. -/
theorem exists_slice_of_lt (hsize : 0 < size) (items : List α) : ∀ i < items.length,
    ∃ slice, (slices size items)[i / size]? = some slice ∧ slice[i % size]? = items[i]? := by
  fun_induction slices size items with
  | case1 items h =>
    intro i hi
    have hsmall : i < size := Nat.lt_of_lt_of_le hi (h.resolve_left (by omega))
    exact ⟨items, by rw [Nat.div_eq_of_lt hsmall]; rfl, by rw [Nat.mod_eq_of_lt hsmall]⟩
  | case2 items h ih =>
    intro i hi
    by_cases hsmall : i < size
    · refine ⟨items.take size, by rw [Nat.div_eq_of_lt hsmall]; rfl, ?_⟩
      rw [Nat.mod_eq_of_lt hsmall, List.getElem?_take_of_lt hsmall]
    · have hge : size ≤ i := Nat.le_of_not_lt hsmall
      obtain ⟨slice, hslice, hitem⟩ := ih (i - size) (by rw [List.length_drop]; omega)
      refine ⟨slice, ?_, ?_⟩
      · rw [Nat.div_eq_sub_div hsize hge, List.getElem?_cons_succ, hslice]
      · rw [Nat.mod_eq_sub_mod hge, hitem, List.getElem?_drop, Nat.add_sub_cancel' hge]

namespace Insertion

theorem flatMap_objects_split (size : Nat) (b : Insertion) :
    (b.split size).flatMap objects = b.objects := by
  rw [split, List.flatMap_map]
  exact List.flatMap_id.trans (flatten_slices size b.objects)

/-- Every slice has objects, not more than fit, and is written as the insertion is. -/
theorem of_mem_split (hsize : 0 < size) {b : Insertion} (hobjects : b.objects ≠ []) :
    ∀ slice ∈ b.split size, slice.objects ≠ [] ∧ slice.objects.length ≤ size ∧
      slice.consistencyLevel = b.consistencyLevel :=
  List.forall_mem_map.2 fun objects hmem =>
    ⟨ne_nil_of_mem_slices hobjects objects hmem, length_le_of_mem_slices hsize _ objects hmem, rfl⟩

/-- The object at a place stands in the slice that the place divided by the size names. -/
theorem exists_split_of_lt (hsize : 0 < size) (b : Insertion) {i : Nat}
    (hi : i < b.objects.length) :
    ∃ slice, (b.split size)[i / size]? = some slice ∧ i % size < slice.objects.length := by
  obtain ⟨objects, hslice, hobject⟩ := exists_slice_of_lt hsize b.objects i hi
  refine ⟨{ b with objects }, by rw [split, List.getElem?_map, hslice]; rfl, ?_⟩
  rw [List.getElem?_eq_getElem hi] at hobject
  exact (List.getElem?_eq_some_iff.1 hobject).1

theorem length_of_mem_dropLast_split (size : Nat) (b : Insertion) :
    ∀ slice ∈ (b.split size).dropLast, slice.objects.length = size := by
  rw [split, ← List.map_dropLast]
  exact List.forall_mem_map.2 (length_of_mem_dropLast_slices b.objects)

end Insertion

end VectorQuery
