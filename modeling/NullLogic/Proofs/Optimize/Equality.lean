import NullLogic.Optimize
import NullLogic.Proofs.Simplify.Negation
import NullLogic.Proofs.WellTyped.Optimize
import NullLogic.Sample

/-!
# Negated equalities

The two-valued form of an inequality is that of the equality with every connective, null test
and comparison turned into its opposite, and with the operands in the same order. So
simplifying the negation of one leads to what the other is simplified to
(`opposite_form`), and `NOT` before an equality can as well be written as the operator.
-/

namespace NullLogic

/-- Both expressions are optimized, and to the same one. -/
def OptimizeAlike (e f : Expr) : Prop :=
  ∃ o, optimize {} e = .ok o ∧ optimize {} f = .ok o

theorem optimize_of_tree {e r s : Expr} (hr : twoValued e = .ok r)
    (hs : Simplify.tree true r = .ok s) : optimize {} e = .ok s := by
  rw [optimize_default, hr, ok_bind]
  exact Simplify.simplify_of_tree hs

/-! ### Dual forms -/

namespace TwoValued

open Simplify

theorem guardKind_not (positive : Bool) : guardKind (!positive) = (guardKind positive).dual := by
  cases positive <;> rfl

theorem guardTest_not (positive : Bool) :
    guardTest (!positive) = (guardTest positive).complement := by
  cases positive <;> rfl

theorem values_not (positive : Bool) (type : DataType) (l r : Operand) :
    values (!positive) type l r =
      .binary (.comparison (Comparison.equality
        (positive == (l.negated == r.negated))).complement) l.expr r.expr type := by
  unfold values
  cases positive <;> cases l.negated == r.negated <;> rfl

theorem opposite_form (positive : Bool) {l r : Operand} {t : DataType}
    (hl : l.expr.Everywhere Expr.NodeTyped) (hr : r.expr.Everywhere Expr.NodeTyped)
    (ht : l.expr.dataType.commonType? r.expr.dataType = some t) :
    Opposite true (form positive .boolean l r) (form (!positive) .boolean l r) := by
  have hvalues : Opposite true (values positive .boolean l r)
      (values (!positive) .boolean l r) := by
    rw [values_not]
    exact opposite_comparison (Expr.everywhere_binary (nodeTyped_values ht) hl hr)
  have htests : ∀ kind test, Opposite true
      (connected kind (tested test l.expr) (tested test r.expr))
      (connected kind.dual (tested test.complement l.expr) (tested test.complement r.expr)) :=
    fun kind test => (opposite_test hl test).connective (opposite_test hr test)
  unfold form
  rw [guardKind_not, guardTest_not]
  split
  · exact hvalues
  · exact hvalues.connective (opposite_test hl _)
  · exact hvalues.connective (opposite_test hr _)
  · exact (hvalues.connective (htests _ _)).connective (htests _ _)

end TwoValued

/-! ### Well-typed equalities -/

open TwoValued

variable {a b : Expr} {t : DataType}

theorem Expr.wellTyped_comparison (ha : a.WellTyped) (hb : b.WellTyped)
    (ht : a.dataType.commonType? b.dataType = some t) (kind : Comparison) :
    (Expr.binary (.comparison kind) a b .boolean).WellTyped :=
  everywhere_binary (Checked.comparison_eq_ok_iff.2 ⟨⟨t, ht⟩, rfl⟩) ha hb

theorem exists_twoValued_equality (ha : a.WellTyped) (hb : b.WellTyped)
    (ht : a.dataType.commonType? b.dataType = some t) :
    ∃ l r, twoValued a.bare = .ok l ∧ twoValued b.bare = .ok r ∧
      ∀ positive, twoValued (.binary (.comparison (.equality positive)) a b .boolean) =
        .ok (form positive .boolean ⟨l, a.isNegation, a.nullable⟩
          ⟨r, b.isNegation, b.nullable⟩) := by
  obtain ⟨l, hl⟩ := exists_twoValued ha.nodeTyped.bare ha.joinCheck.bare
  obtain ⟨r, hr⟩ := exists_twoValued hb.nodeTyped.bare hb.joinCheck.bare
  refine ⟨l, r, hl, hr, fun positive => ?_⟩
  have hwell := Expr.wellTyped_comparison ha hb ht (.equality positive)
  obtain ⟨e, he⟩ := exists_twoValued hwell.nodeTyped hwell.joinCheck
  obtain ⟨l', r', hl', hr', rfl⟩ := form_of_twoValued_eq_ok he
  obtain rfl := Except.ok.inj (hl.symm.trans hl')
  obtain rfl := Except.ok.inj (hr.symm.trans hr')
  exact he

theorem optimizeAlike_not_equality (ha : a.WellTyped) (hb : b.WellTyped)
    (ht : a.dataType.commonType? b.dataType = some t) (positive : Bool) :
    OptimizeAlike
      (.unary .not (.binary (.comparison (.equality positive)) a b .boolean) .boolean)
      (.binary (.comparison (.equality !positive)) a b .boolean) := by
  obtain ⟨l, r, hl, hr, hform⟩ := exists_twoValued_equality ha hb ht
  have htyped := (Expr.wellTyped_comparison ha hb ht (.equality positive)).nodeTyped
  obtain ⟨u, hu⟩ := exists_commonType?_of_twoValued htyped hl hr
  have hopposite : Simplify.Opposite true
      (form positive .boolean ⟨l, a.isNegation, a.nullable⟩ ⟨r, b.isNegation, b.nullable⟩)
      (form (!positive) .boolean ⟨l, a.isNegation, a.nullable⟩ ⟨r, b.isNegation, b.nullable⟩) :=
    opposite_form positive (nodeTyped_of_twoValued hl ha.nodeTyped.bare)
      (nodeTyped_of_twoValued hr hb.nodeTyped.bare) hu
  have htree := hopposite.tree_not
  obtain ⟨-, o, -, ho, -⟩ := hopposite
  exact ⟨o, optimize_of_tree (twoValued_unary (hform positive) .not .boolean) (htree.trans ho),
    optimize_of_tree (hform !positive) ho⟩

/-- The negation of an equality is optimized to what the inequality is, and the negation of an
inequality to what the equality is. -/
theorem optimize_not_equal {e : Expr} (ha : a.WellTyped) (hb : b.WellTyped)
    (h : Checked.equal a b = .ok e) :
    ∃ d n n', Checked.notEqual a b = .ok d ∧ Checked.not e = .ok n ∧ Checked.not d = .ok n' ∧
      OptimizeAlike n d ∧ OptimizeAlike n' e := by
  obtain ⟨⟨t, ht⟩, rfl⟩ := Checked.comparison_eq_ok_iff.1 h
  refine ⟨_, _, _, Checked.comparison_eq_ok_iff.2 ⟨⟨t, ht⟩, rfl⟩, rfl, rfl, ?_, ?_⟩
  · exact optimizeAlike_not_equality ha hb ht true
  · exact optimizeAlike_not_equality ha hb ht false

/-- `NOT q = a`, where both sides may be `NULL`. -/
theorem optimize_not_equal_of_not :
    ∃ d n n', Checked.notEqual (.unary .not Sample.q .boolean) Sample.a = .ok d ∧
      Checked.not (.binary .equal (.unary .not Sample.q .boolean) Sample.a .boolean) = .ok n ∧
      Checked.not d = .ok n' ∧ OptimizeAlike n d ∧
      OptimizeAlike n' (.binary .equal (.unary .not Sample.q .boolean) Sample.a .boolean) :=
  optimize_not_equal (by decide) (by decide) rfl

end NullLogic
