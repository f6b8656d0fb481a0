import VectorQuery.Proofs.Language.Literal
import VectorQuery.Query.Aggregate
import VectorQuery.Query.Explore

/-!
# The names that documents are written with

The names of operators, clauses, keys and the like are names of the query language, so each is read
as one token, and what has different names is different.
-/

namespace VectorQuery

open Grammar

namespace Operator

theorem isName_name (operator : Operator) : isName operator.name = true := by
  cases operator <;> decide

theorem ofName?_name (operator : Operator) : ofName? operator.name = some operator := by
  cases operator <;> decide

theorem name_injective {a b : Operator} (h : a.name = b.name) : a = b := by
  have ha := ofName?_name a
  rw [h, ofName?_name b] at ha
  exact (Option.some.inj ha).symm

end Operator

namespace FilterValue

theorem isName_key (v : FilterValue) : isName v.key = true := by
  cases v <;> simp only [key] <;> decide

/-- The key of a value is told from the keys of the other parts of a filter. -/
theorem key_ne (v : FilterValue) :
    v.key ≠ "operator" ∧ v.key ≠ "path" ∧ v.key ≠ "operands" := by
  cases v <;> simp only [key] <;> decide

end FilterValue

namespace CombinationMethod

theorem isName_name (method : CombinationMethod) : isName method.name = true := by
  cases method <;> decide

theorem name_injective {a b : CombinationMethod} (h : a.name = b.name) : a = b := by
  cases a <;> cases b <;> first | rfl | exact absurd h (by decide)

end CombinationMethod

namespace MediaKind

theorem isName_clauseName (kind : MediaKind) : isName kind.clauseName = true := by
  cases kind <;> decide

theorem isName_fieldName (kind : MediaKind) : isName kind.fieldName = true := by
  cases kind <;> decide

theorem clauseName_injective {a b : MediaKind} (h : a.clauseName = b.clauseName) : a = b := by
  cases a <;> cases b <;> first | rfl | exact absurd h (by decide)

end MediaKind

namespace FusionType

theorem isName_name (fusion : FusionType) : isName fusion.name = true := by
  cases fusion <;> decide

theorem name_injective {a b : FusionType} (h : a.name = b.name) : a = b := by
  cases a <;> cases b <;> first | rfl | exact absurd h (by decide)

end FusionType

theorem WordMatching.isName_name (m : WordMatching) : isName m.name = true := by
  unfold name
  split <;> decide

namespace SortOrder

theorem isName_name (order : SortOrder) : isName order.name = true := by
  cases order <;> decide

theorem name_injective {a b : SortOrder} (h : a.name = b.name) : a = b := by
  cases a <;> cases b <;> first | rfl | exact absurd h (by decide)

end SortOrder

namespace ConsistencyLevel

theorem isName_name (level : ConsistencyLevel) : isName level.name = true := by
  cases level <;> decide

theorem name_injective {a b : ConsistencyLevel} (h : a.name = b.name) : a = b := by
  cases a <;> cases b <;> first | rfl | exact absurd h (by decide)

end ConsistencyLevel

theorem ExploreField.isName_name (field : ExploreField) : isName field.name = true := by
  cases field <;> decide

end VectorQuery
