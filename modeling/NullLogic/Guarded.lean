import NullLogic.Bindings
import NullLogic.Expr.Nodes
import NullLogic.Nullability

/-!
# Where both readings of `NULL` can agree

Only equalities have a two-valued form. An ordering of something that might be
`NULL`, and a `CASE` whose operand and tests might both be `NULL`, depend on how
comparisons read `NULL`. An expression is `Guarded` if it has neither.

`Bindings.Respect e` says that no column that `e` declares not to be `NULL` is
bound to it.
-/

namespace NullLogic

namespace Expr

/-- The node compares, other than for equality, only what is never `NULL`. -/
def GuardedNode : Expr → Prop
  | binary (.comparison .equal) _ _ _ => True
  | binary (.comparison .notEqual) _ _ _ => True
  | binary (.comparison _) left right _ => left.nullable = false ∧ right.nullable = false
  | caseWhen (some operand) clauses _ _ =>
      operand.nullable = false ∨ ∀ clause ∈ clauses, clause.test.nullable = false
  | _ => True

instance : DecidablePred GuardedNode := fun e => by
  unfold GuardedNode
  split <;> infer_instance

def Guarded (e : Expr) : Prop :=
  Everywhere GuardedNode e

instance (e : Expr) : Decidable e.Guarded :=
  inferInstanceAs (Decidable (Everywhere GuardedNode e))

end Expr

def Bindings.RespectNode (b : Bindings) : Expr → Prop
  | .column source name _ false => b.column source name ≠ some .null
  | _ => True

instance (b : Bindings) : DecidablePred b.RespectNode := fun e => by
  unfold Bindings.RespectNode
  split <;> infer_instance

def Bindings.Respect (b : Bindings) (e : Expr) : Prop :=
  e.Everywhere b.RespectNode

instance (b : Bindings) (e : Expr) : Decidable (b.Respect e) :=
  inferInstanceAs (Decidable (e.Everywhere b.RespectNode))

end NullLogic
