import Mathlib.Data.List.Basic

/-!
# Slots that settings fill

A setting puts something into one slot of a state and leaves the other slots as they are. What a
slot holds after many settings is then what the last of its settings has put there, so all other
settings of the slot may be left out, and settings of different slots may be given in any order.
-/

namespace VectorQuery

/-- The slots of a state that settings fill. -/
structure Slots (State Setting Slot : Type) where
  /-- The slot that a setting fills. -/
  slot : Setting → Slot
  /-- A setting as its slot keeps it. -/
  kept : Setting → Setting
  /-- What a slot holds, as a setting that puts it there. -/
  held : State → Slot → Option Setting

namespace Slots

variable {State Setting Slot Outcome : Type} [DecidableEq Slot] (S : Slots State Setting Slot)

/-- The settings of a slot, in their order. -/
def settingsOf (k : Slot) (settings : List Setting) : List Setting :=
  settings.filter fun s => S.slot s = k

/-- The last setting of a slot. -/
def last? (k : Slot) (settings : List Setting) : Option Setting :=
  (S.settingsOf k settings).getLast?

/-- The last setting of each slot, without those that a later one replaces. -/
def latest : List Setting → List Setting
  | [] => []
  | s :: rest => if rest.any fun t => S.slot t = S.slot s then latest rest else s :: latest rest

/-- Settings in another order, in which those of each slot keep theirs. -/
def Reordered (order settings : List Setting) : Prop :=
  ∀ k, S.settingsOf k order = S.settingsOf k settings

/-- Each setting fills its slot and no other. -/
structure Fills (set : State → Setting → State) : Prop where
  own : ∀ c s, S.held (set c s) (S.slot s) = some (S.kept s)
  other : ∀ c s k, k ≠ S.slot s → S.held (set c s) k = S.held c k

/-- Only the last setting of each slot counts. -/
structure LastCounts (ofSettings : List Setting → State) (outcome : State → Outcome) : Prop where
  /-- A slot holds what its last setting has put there, and without one what it holds at first. -/
  holds : ∀ settings k, S.held (ofSettings settings) k =
    ((S.last? k settings).map S.kept).or (S.held (ofSettings []) k)
  /-- The last settings of the slots, in any order, come to the same as all settings. -/
  latest : ∀ settings order, order.Perm (S.latest settings) →
    outcome (ofSettings order) = outcome (ofSettings settings)
  /-- It is only within a slot that the order matters. -/
  reordered : ∀ settings order, S.Reordered order settings →
    outcome (ofSettings order) = outcome (ofSettings settings)

variable {S}

/-! ## The last setting of a slot -/

theorem settingsOf_cons (k : Slot) (s : Setting) (rest : List Setting) :
    S.settingsOf k (s :: rest) =
      if S.slot s = k then s :: S.settingsOf k rest else S.settingsOf k rest := by
  by_cases h : S.slot s = k <;> simp [settingsOf, h]

/-- A setting counts if no later one of its slot does. -/
theorem last?_cons (k : Slot) (s : Setting) (rest : List Setting) :
    S.last? k (s :: rest) = (S.last? k rest).or (if S.slot s = k then some s else none) := by
  rw [last?, settingsOf_cons, last?]
  by_cases h : S.slot s = k
  · rw [if_pos h, if_pos h, List.getLast?_cons]
    cases (S.settingsOf k rest).getLast? <;> rfl
  · rw [if_neg h, if_neg h, Option.or_none]

theorem last?_eq_none_iff {k : Slot} {settings : List Setting} :
    S.last? k settings = none ↔ ∀ s ∈ settings, S.slot s ≠ k := by
  simp [last?, settingsOf]

theorem slot_of_last? {k : Slot} {settings : List Setting} {s : Setting}
    (h : S.last? k settings = some s) : S.slot s = k :=
  of_decide_eq_true (List.mem_filter.1 (List.mem_of_getLast? h)).2

theorem settingsOf_latest (k : Slot) (settings : List Setting) :
    S.settingsOf k (S.latest settings) = (S.last? k settings).toList := by
  induction settings with
  | nil => rfl
  | cons s rest ih =>
    rw [latest, last?_cons]
    split
    · rename_i hany
      obtain ⟨t, ht, hslot⟩ := List.any_eq_true.1 hany
      rw [ih]
      by_cases h : S.slot s = k
      · -- a later setting of the slot is there, so the last one is among the rest
        have hlast : S.last? k rest ≠ none := fun hnone =>
          last?_eq_none_iff.1 hnone t ht ((of_decide_eq_true hslot).trans h)
        obtain ⟨u, hu⟩ := Option.ne_none_iff_exists'.1 hlast
        rw [hu, Option.some_or]
      · rw [if_neg h, Option.or_none]
    · rename_i hany
      rw [settingsOf_cons, ih]
      by_cases h : S.slot s = k
      · -- `s` is the last setting of its slot
        have hnone : S.last? k rest = none := last?_eq_none_iff.2 fun t ht hslot =>
          hany (List.any_eq_true.2 ⟨t, ht, decide_eq_true (hslot.trans h.symm)⟩)
        rw [if_pos h, if_pos h, hnone]
        rfl
      · rw [if_neg h, if_neg h, Option.or_none]

theorem latest_sublist (settings : List Setting) : (S.latest settings).Sublist settings := by
  induction settings with
  | nil => exact .slnil
  | cons s rest ih =>
    rw [latest]
    split
    · exact ih.cons s
    · exact ih.cons_cons s

/-- The last settings are of different slots. -/
theorem nodup_map_slot_latest (settings : List Setting) :
    ((S.latest settings).map S.slot).Nodup := by
  induction settings with
  | nil => exact .nil
  | cons s rest ih =>
    rw [latest]
    split
    · exact ih
    · rename_i hany
      refine List.nodup_cons.2 ⟨fun hmem => hany ?_, ih⟩
      obtain ⟨t, ht, hslot⟩ := List.mem_map.1 hmem
      exact List.any_eq_true.2 ⟨t, (latest_sublist rest).subset ht, decide_eq_true hslot⟩

/-- Of each slot there is one setting at most among the last ones, so their order is none of its
own. -/
theorem last?_of_perm_latest {settings order : List Setting} (h : order.Perm (S.latest settings))
    (k : Slot) : S.last? k order = S.last? k settings := by
  have hperm : (S.settingsOf k order).Perm (S.last? k settings).toList := by
    rw [← settingsOf_latest]
    exact h.filter _
  rw [last?]
  cases hlast : S.last? k settings with
  | none =>
    rw [hlast] at hperm
    rw [hperm.eq_nil]
    rfl
  | some s =>
    rw [hlast] at hperm
    rw [List.perm_singleton.1 hperm]
    rfl

theorem Reordered.last? {settings order : List Setting} (h : S.Reordered order settings)
    (k : Slot) : S.last? k order = S.last? k settings :=
  congrArg List.getLast? (h k)

/-! ## What a slot holds -/

section Fills
variable {set : State → Setting → State} (h : S.Fills set)
include h

theorem Fills.held_set (c : State) (s : Setting) (k : Slot) :
    S.held (set c s) k = (if S.slot s = k then some (S.kept s) else none).or (S.held c k) := by
  by_cases hk : S.slot s = k
  · rw [if_pos hk, ← hk, h.own, Option.some_or]
  · rw [if_neg hk, h.other c s k (Ne.symm hk), Option.none_or]

theorem Fills.held_foldl (settings : List Setting) (c : State) (k : Slot) :
    S.held (settings.foldl set c) k = ((S.last? k settings).map S.kept).or (S.held c k) := by
  induction settings generalizing c with
  | nil => rfl
  | cons s rest ih =>
    rw [List.foldl_cons, ih, h.held_set, last?_cons, ← Option.or_assoc]
    congr 1
    cases S.last? k rest with
    | some t => rfl
    | none => by_cases hk : S.slot s = k <;> simp [hk]

theorem Fills.held_foldl_of_held_eq_none {c : State} {k : Slot} (hfresh : S.held c k = none)
    (settings : List Setting) :
    S.held (settings.foldl set c) k = (S.last? k settings).map S.kept := by
  rw [h.held_foldl, hfresh, Option.or_none]

/-- States in which every slot has the same last setting hold the same. -/
theorem Fills.held_eq {settings order : List Setting}
    (hlast : ∀ k, S.last? k order = S.last? k settings) (c : State) :
    S.held (order.foldl set c) = S.held (settings.foldl set c) := by
  funext k
  rw [h.held_foldl, h.held_foldl, hlast]

/-- Where what the slots hold determines the outcome, only the last settings count. -/
theorem Fills.lastCounts {outcome : State → Outcome}
    (hext : ∀ a b, S.held a = S.held b → outcome a = outcome b) (c : State) :
    S.LastCounts (fun settings => settings.foldl set c) outcome where
  holds settings k := h.held_foldl settings c k
  latest _ _ hperm := hext _ _ (h.held_eq (last?_of_perm_latest hperm) c)
  reordered _ _ horder := hext _ _ (h.held_eq horder.last? c)

end Fills

end Slots

end VectorQuery
