import NullLogic.Optimize
import NullLogic.Proofs.Simplify.Typing
import NullLogic.Proofs.TwoValued.Typing

/-!
# Well-typed expressions can be optimized

The passes build nodes by checked functions, of operands that they have replaced or taken a
`NOT` off. On well-typed expressions no check fails, and the operands of all nodes of the
result would pass their checks again. Only the predicates of joins need not be conjunctions
of equalities any more.
-/

namespace NullLogic

theorem Expr.WellTyped.joinCheck {e : Expr} (he : e.WellTyped) :
    e.Everywhere fun n => TwoValued.joinCheck n = .ok () :=
  he.mono fun _ hn => TwoValued.joinCheck_of_isChecked hn

theorem exists_simplify (flip : Bool) {e : Expr} (he : e.Everywhere Expr.NodeTyped) :
    ∃ s, simplify flip e = .ok s ∧ e.ReplaceableBy s ∧ s.Everywhere Expr.NodeTyped := by
  obtain ⟨s, hs⟩ : ∃ s, Simplify.tree flip e = .ok s := Simplify.exists_tree he
  exact ⟨s, Simplify.simplify_of_tree hs, Simplify.nodeTyped_of_tree hs he⟩

theorem exists_optimize (options : Options) {e : Expr} (he : e.WellTyped) :
    ∃ o, optimize options e = .ok o ∧ e.ReplaceableBy o ∧ o.Everywhere Expr.NodeTyped := by
  obtain ⟨relational, skip⟩ := options
  have hrest : ∀ {e' : Expr}, e.ReplaceableBy e' → e'.Everywhere Expr.NodeTyped →
      ∃ o, (if skip then pure e' else simplify (!relational) e') = .ok o ∧
        e.ReplaceableBy o ∧ o.Everywhere Expr.NodeTyped := by
    intro e' hreplaceable htyped
    cases skip with
    | true => exact ⟨e', rfl, hreplaceable, htyped⟩
    | false =>
        obtain ⟨s, hs, hreplaceable', htyped'⟩ := exists_simplify (!relational) htyped
        exact ⟨s, hs, hreplaceable.trans hreplaceable', htyped'⟩
  cases relational with
  | true => exact hrest ⟨.refl _, id⟩ he.nodeTyped
  | false =>
      obtain ⟨e', he'⟩ := exists_twoValued he.nodeTyped he.joinCheck
      simp only [optimize, Bool.false_eq_true, if_false, he', ok_bind]
      exact hrest (replaceableBy_of_twoValued he' he.self.nodeTyped)
        (nodeTyped_of_twoValued he' he.nodeTyped)

/-- Optimizing never fails on a well-typed expression, under any options. The result has its
type, or that of an untyped `NULL` in the place of a truth value; two-valued forms always
have its type. -/
theorem optimize_wellTyped {e : Expr} (he : e.WellTyped) :
    (∀ options, ∃ o, optimize options e = .ok o ∧
      (o.dataType = e.dataType ∨ e.dataType = .boolean ∧ o.dataType = .null) ∧
      o.Everywhere Expr.OperandsChecked) ∧
    ∃ r, twoValued e = .ok r ∧ r.dataType = e.dataType := by
  constructor
  · intro options
    obtain ⟨o, ho, hreplaceable, htyped⟩ := exists_optimize options he
    exact ⟨o, ho, hreplaceable.type, htyped.mono fun _ hn => hn.operandsChecked⟩
  · obtain ⟨r, hr⟩ := exists_twoValued he.nodeTyped he.joinCheck
    exact ⟨r, hr, dataType_of_twoValued hr he.self.nodeTyped⟩

/-- `NOT (NOT NULL)` is Boolean, and is simplified to `NULL`. -/
theorem optimize_wellTyped_of_null :
    ∃ o, optimize {} (.unary .not (.unary .not (.constant .null .null) .boolean) .boolean) =
        .ok o ∧
      o.dataType = .null ∧ o.Everywhere Expr.OperandsChecked := by
  obtain ⟨o, ho, htype, hchecked⟩ := (optimize_wellTyped (e := .unary .not (.unary .not
    (.constant .null .null) .boolean) .boolean) (by decide)).1 {}
  have heq : optimize {} (.unary .not (.unary .not (.constant .null .null) .boolean) .boolean) =
      .ok (.constant .null .null) := rfl
  obtain rfl := Except.ok.inj (ho.symm.trans heq)
  exact ⟨_, ho, rfl, hchecked⟩

end NullLogic
