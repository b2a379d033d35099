import NullLogic.Optimize
import NullLogic.Proofs.Simplify.Nodes

/-!
# Simplifying ends in a normal form

No rule leaves a redex behind, and without a redex no rule applies. So the results of
simplifying, the expressions that it leaves alone, and the normal expressions are the
same, as `simplify_normal_form` says; in particular simplifying twice is simplifying
once.
-/

namespace NullLogic

namespace Simplify

variable {flip : Bool}

theorem isNormal_of_node_eq_ok {e s : Expr} (h : node flip e = .ok s)
    (hc : ∀ c ∈ e.children, IsNormal flip c) : IsNormal flip s :=
  node_everywhere (fun _ _ hn => hn) (fun _ _ _ _ _ => nofun) h hc id

theorem isNormal_of_tree_eq_ok {e s : Expr} (h : tree flip e = .ok s) : IsNormal flip s := by
  refine tree_induction (motive := fun _ s => IsNormal flip s) ?_ h
  intro e m s halike hnode
  exact isNormal_of_node_eq_ok hnode (halike.forall_children fun c _ c' hc' => hc'.2)

/-! ### Normal expressions stay -/

theorem nullTest_of_not_redex {kind : NullTest} {x : Expr} {t : DataType}
    (h : ¬ Redex flip (.unary (.test kind) x t)) :
    nullTest kind x t = .unary (.test kind) x t := by
  unfold nullTest
  split
  · exact absurd (.testNull kind _ t) h
  · exact absurd (.testNot kind _ _ t) h
  · rfl

theorem absorb?_of_not_redex {kind : Connective} {l r : Expr} {t : DataType}
    (h : ¬ Redex flip (.binary (.connective kind) l r t)) :
    (absorb? kind l r).getD (.binary (.connective kind) l r t) =
      .binary (.connective kind) l r t := by
  obtain ⟨c, u, rfl, -⟩ | ⟨c, u, rfl, -⟩ | ⟨-, -, heq⟩ :=
    absorb?_cases kind l r (.binary (.connective kind) l r t)
  · exact absurd (.constantLeft kind c r u t) h
  · exact absurd (.constantRight kind l c u t) h
  · exact heq

theorem negate_of_not_redex {x : Expr} {t : DataType} (h : ¬ Redex flip (.unary .not x t)) :
    negate flip x t = .ok (.unary .not x t) := by
  unfold negate
  split
  · exact absurd (.notConstant _ _ t) h
  · exact absurd (.notNot _ _ t) h
  · exact absurd (.notTest _ _ _ t) h
  · exact absurd (.notConnective _ _ _ _ t) h
  · split
    · rename_i hflip
      exact absurd (.notComparison _ _ _ _ t hflip) h
    · rfl
  · rfl

theorem node_of_not_redex {e : Expr} (h : ¬ Redex flip e) : node flip e = .ok e := by
  unfold node
  split
  · exact negate_of_not_redex h
  · rw [nullTest_of_not_redex h]
  · rw [absorb?_of_not_redex h]
  · rfl

theorem tree_of_isNormal {e : Expr} (h : IsNormal flip e) : tree flip e = .ok e := by
  induction e using Expr.induction with
  | step e ih =>
      rw [isNormal_iff] at h
      have hchildren : e.children.mapM (tree flip) = .ok e.children :=
        mapM_eq_ok_iff.2 (List.forall₂_same.2 fun c hc => ih c hc (h.2 c hc))
      rw [tree_eq, hchildren, ok_bind, Expr.refill_children]
      exact node_of_not_redex h.1

theorem isNormal_of_simplify_eq_ok {e s : Expr} (h : simplify flip e = .ok s) :
    IsNormal flip s :=
  isNormal_of_tree_eq_ok (tree_of_simplify_eq_ok h)

theorem simplify_eq_self_iff {e : Expr} : simplify flip e = .ok e ↔ IsNormal flip e := by
  constructor
  · exact isNormal_of_simplify_eq_ok
  · intro h
    exact simplify_of_tree (tree_of_isNormal h)

theorem exists_simplify_eq_iff {s : Expr} :
    (∃ e, simplify flip e = .ok s) ↔ IsNormal flip s := by
  constructor
  · intro h
    obtain ⟨e, he⟩ := h
    exact isNormal_of_simplify_eq_ok he
  · intro h
    exact ⟨s, simplify_eq_self_iff.2 h⟩

end Simplify

open Simplify

/-- What simplifying leads to is what it leaves as it is, and both are the normal
expressions. Under relational nulls this is true as well, a negated comparison being
normal there. -/
theorem simplify_normal_form (s : Expr) :
    ((∃ e, simplify true e = .ok s) ↔ IsNormal true s) ∧
      (simplify true s = .ok s ↔ IsNormal true s) ∧
      ((∃ e, optimize { useRelationalNulls := true } e = .ok s) ↔ IsNormal false s) ∧
      (optimize { useRelationalNulls := true } s = .ok s ↔ IsNormal false s) :=
  ⟨exists_simplify_eq_iff, simplify_eq_self_iff, exists_simplify_eq_iff, simplify_eq_self_iff⟩

end NullLogic
