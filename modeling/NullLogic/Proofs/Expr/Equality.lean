import Mathlib.Data.List.Forall2
import NullLogic.Expr.Children
import NullLogic.Expr.Equality

/-!
# Equality of expressions and their children

Trees that `Expr.agree` have children that agree one by one, whatever relation their constants
are compared by. If it is reflexive, so is `agree`; in particular `Expr.same` is.
-/

namespace NullLogic

theorem Value.same_self (v : Value) : v.same v = true := by
  cases v <;> simp [same, order]

namespace Expr

variable {rel : Value → Value → Bool}

/-! ### The children of expressions that agree -/

theorem forall₂_of_agreeOption {u v : Option Expr} (h : agreeOption rel u v = true) :
    List.Forall₂ (fun c d => agree rel c d = true) u.toList v.toList := by
  cases u <;> cases v <;> simp_all [agreeOption]

theorem forall₂_of_agreeList {xs ys : List Expr} (h : agreeList rel xs ys = true) :
    List.Forall₂ (fun c d => agree rel c d = true) xs ys := by
  induction xs generalizing ys with
  | nil => cases ys <;> simp_all [agreeList]
  | cons x xs ih => cases ys <;> simp_all [agreeList]

theorem forall₂_of_agreeClauses {ks ls : List (Clause Expr)}
    (h : agreeClauses rel ks ls = true) :
    List.Forall₂ (fun c d => agree rel c d = true) (clauseChildren ks) (clauseChildren ls) := by
  induction ks generalizing ls with
  | nil => cases ls <;> simp_all [agreeClauses]
  | cons k ks ih => cases ls <;> simp_all [agreeClauses]

theorem forall₂_children_of_agree {e f : Expr} (h : agree rel e f = true) :
    List.Forall₂ (fun c d => agree rel c d = true) e.children f.children := by
  cases e <;> cases f <;> simp only [agree, Bool.and_eq_true, Bool.false_eq_true] at h
  case unary.unary => exact .cons h.1.2 .nil
  case binary.binary => exact .cons h.1.1.2 (.cons h.1.2 .nil)
  case like.like => exact .cons h.1.1 (.cons h.1.2 (forall₂_of_agreeOption h.2))
  case call.call =>
    exact List.rel_append (forall₂_of_agreeOption h.1.1.2) (forall₂_of_agreeList h.1.2)
  case caseWhen.caseWhen =>
    exact List.rel_append (forall₂_of_agreeOption h.1.1.1)
      (List.rel_append (forall₂_of_agreeClauses h.1.1.2) (forall₂_of_agreeOption h.1.2))
  case join.join => exact .cons h.1.2 (.cons h.2 .nil)
  all_goals exact .nil

/-! ### Expressions agree with themselves -/

theorem agreeOption_self {u : Option Expr} (h : ∀ c ∈ u.toList, agree rel c c = true) :
    agreeOption rel u u = true := by
  cases u <;> simp_all [agreeOption]

theorem agreeList_self {xs : List Expr} (h : ∀ c ∈ xs, agree rel c c = true) :
    agreeList rel xs xs = true := by
  induction xs with
  | nil => rfl
  | cons x xs ih => simp_all [agreeList]

theorem agreeClauses_self {ks : List (Clause Expr)}
    (h : ∀ c ∈ clauseChildren ks, agree rel c c = true) : agreeClauses rel ks ks = true := by
  induction ks with
  | nil => rfl
  | cons k ks ih => simp_all [agreeClauses]

theorem agree_self (hrel : ∀ v, rel v v = true) (e : Expr) : agree rel e e = true := by
  induction e using Expr.induction with
  | step e ih =>
      cases e <;> simp_all [agree, children, or_imp, forall_and, agreeOption_self, agreeList_self,
        agreeClauses_self]

theorem same_self (e : Expr) : e.same e = true :=
  agree_self Value.same_self e

end Expr

end NullLogic
