import Mathlib.Logic.Relation
import VectorQuery.Filter.Message

/-!
# The nodes of filters

A filter and its message are trees of the same form: every node of the message is the message of a
node of the filter, and every node of a pruned filter is pruned.
-/

namespace VectorQuery

open Relation

/-- A message is a node of a message, which may be the message itself. -/
def Rpc.Filters.Contains : Rpc.Filters → Rpc.Filters → Prop := ReflTransGen fun m n => n ∈ m.filters

namespace Filter

/-- A filter is a node of a filter, which may be the filter itself. -/
def Contains : Filter → Filter → Prop := ReflTransGen fun f g => g ∈ f.operands

theorem messages_eq_map (fs : List Filter) : messages fs = fs.map message := by
  induction fs with
  | nil => rfl
  | cons f fs ih => rw [messages, ih, List.map_cons]

theorem prunedList_eq_map (fs : List Filter) : prunedList fs = fs.map pruned := by
  induction fs with
  | nil => rfl
  | cons f fs ih => rw [prunedList, ih, List.map_cons]

@[simp] theorem message_on (f : Filter) : f.message.on = f.path := by
  rcases f with ⟨operator, path, value, _ | ⟨operand, operands⟩⟩ <;> rw [message]

@[simp] theorem message_filters (f : Filter) : f.message.filters = f.operands.map message := by
  rcases f with ⟨operator, path, value, _ | ⟨operand, operands⟩⟩ <;> rw [message, messages_eq_map]

theorem message_testValue_isSome (f : Filter) :
    f.message.testValue.isSome = (f.operands.isEmpty && f.value.isSome) := by
  rcases f with ⟨operator, path, value, _ | ⟨operand, operands⟩⟩ <;> simp [message]

@[simp] theorem pruned_operands (f : Filter) : f.pruned.operands = f.operands.map pruned := by
  rcases f with ⟨operator, path, value, _ | ⟨operand, operands⟩⟩ <;>
    simp [pruned, prunedList_eq_map]

theorem pruned_path {f : Filter} (h : f.operands ≠ []) : f.pruned.path = [] := by
  rcases f with ⟨operator, path, value, _ | ⟨operand, operands⟩⟩
  · exact absurd rfl h
  · rw [pruned]

/-- Every node of the message of a filter is the message of a node of the filter. -/
theorem exists_of_message_contains {f : Filter} {n : Rpc.Filters} (h : f.message.Contains n) :
    ∃ g, f.Contains g ∧ n = g.message := by
  induction h with
  | refl => exact ⟨f, .refl, rfl⟩
  | tail _ hn ih =>
    obtain ⟨g, hg, rfl⟩ := ih
    rw [message_filters, List.mem_map] at hn
    obtain ⟨g', hg', rfl⟩ := hn
    exact ⟨g', hg.tail hg', rfl⟩

/-- Every node of a pruned filter is pruned. -/
theorem exists_of_pruned_contains {f g : Filter} (h : f.pruned.Contains g) :
    ∃ g' : Filter, g = g'.pruned := by
  induction h with
  | refl => exact ⟨f, rfl⟩
  | tail _ hg ih =>
    obtain ⟨g', rfl⟩ := ih
    rw [pruned_operands, List.mem_map] at hg
    obtain ⟨g'', -, rfl⟩ := hg
    exact ⟨g'', rfl⟩

/-- No node of the message of a filter has both operands and a test value. -/
theorem message_exclusive {f : Filter} {n : Rpc.Filters} (h : f.message.Contains n) :
    n.filters = [] ∨ n.testValue = none := by
  obtain ⟨g, -, rfl⟩ := exists_of_message_contains h
  have hvalue := g.message_testValue_isSome
  rw [message_filters, List.map_eq_nil_iff]
  cases hoperands : g.operands with
  | nil => exact Or.inl rfl
  | cons operand operands =>
    rw [hoperands, List.isEmpty_cons, Bool.false_and, Option.isSome_eq_false_iff,
      Option.isNone_iff_eq_none] at hvalue
    exact Or.inr hvalue

/-- A node of the message of a filter has neither operands nor a test value exactly when it is the
message of a node without operands and without a value. -/
theorem message_bare_iff {f : Filter} {n : Rpc.Filters} (h : f.message.Contains n) :
    n.filters = [] ∧ n.testValue = none ↔
      ∃ g, f.Contains g ∧ n = g.message ∧ g.operands = [] ∧ g.value = none := by
  constructor
  · rintro ⟨hfilters, htest⟩
    obtain ⟨g, hg, rfl⟩ := exists_of_message_contains h
    rw [message_filters, List.map_eq_nil_iff] at hfilters
    have hvalue := g.message_testValue_isSome
    rw [htest, hfilters, List.isEmpty_nil, Bool.true_and] at hvalue
    have hnone : g.value = none :=
      Option.isNone_iff_eq_none.1 (Option.isSome_eq_false_iff.1 hvalue.symm)
    exact ⟨g, hg, rfl, hfilters, hnone⟩
  · rintro ⟨g, -, rfl, hoperands, hvalue⟩
    have htest := g.message_testValue_isSome
    rw [hoperands, hvalue, Option.isSome_none, Bool.and_false] at htest
    rw [message_filters, hoperands]
    exact ⟨rfl, Option.isNone_iff_eq_none.1 (Option.isSome_eq_false_iff.1 htest)⟩

/-- No node of the message of a pruned filter has both operands and a path. -/
theorem pruned_message_on {f : Filter} {n : Rpc.Filters} (h : f.pruned.message.Contains n)
    (hn : n.filters ≠ []) : n.on = [] := by
  obtain ⟨g, hg, rfl⟩ := exists_of_message_contains h
  obtain ⟨g', rfl⟩ := exists_of_pruned_contains hg
  rw [message_on]
  refine pruned_path fun hoperands => hn ?_
  rw [message_filters, pruned_operands, hoperands]
  rfl

end Filter

end VectorQuery
