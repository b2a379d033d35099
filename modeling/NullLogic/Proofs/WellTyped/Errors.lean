import NullLogic.Proofs.TwoValued.Meaning
import NullLogic.Proofs.TwoValued.Typing
import NullLogic.Proofs.WellTyped.Evaluation

/-!
# The errors of two-valued forms

The two-valued form of a well-typed expression fails when the expression does, and with the
same error. A guarded comparison evaluates some operands several times, and begins with the
comparison of values, so the first error is that of the expression. An error could be lost
only with a `NOT` that is taken off an operand, if the `NOT` itself fails. That needs an
operand that is no truth value, and types exclude it (`negatesTruth_of_nodeTyped`).
-/

namespace NullLogic

variable {reading : NullReading} {b : Bindings}

theorem DataType.isBoolean_of_commonType? {s t u : DataType} (h : s.commonType? t = some u)
    (hboolean : s = boolean ∨ t = boolean) : s.isBoolean = true ∧ t.isBoolean = true := by
  rcases hboolean with rfl | rfl
  · exact ⟨rfl, isBoolean_iff.2 (commonType?_boolean_left_iff.1 h).1⟩
  · rw [commonType?_comm] at h
    exact ⟨isBoolean_iff.2 (commonType?_boolean_left_iff.1 h).1, rfl⟩

theorem Expr.NodeTyped.dataType_of_isNegation {e : Expr} (h : e.NodeTyped)
    (hn : e.isNegation = true) : e.dataType = .boolean := by
  obtain ⟨type, hnot⟩ := Expr.exists_eq_not_of_isNegation hn
  rw [hnot] at h ⊢
  exact h.not.2

theorem isTruth_of_evaluate {e : Expr} {v : Value} (he : e.Everywhere Expr.NodeTyped)
    (hb : b.Fit e) (htype : e.dataType.isBoolean = true) (hv : evaluate reading b e = .ok v) :
    v.IsTruth := by
  have hmeets : EvaluatesTyped reading b e e := evaluate_meets he hb
  exact (hmeets.ok hv).eq_ofTruth htype

/-- An operand that begins with `NOT` is compared with a truth value, if with any value. -/
theorem negatesTruth_of_nodeTyped {e : Expr} (he : e.Everywhere Expr.NodeTyped)
    (hb : b.Fit e) : NegatesTruth b e := by
  unfold NegatesTruth
  split
  · rename_i kind left right type
    intro hneg
    obtain ⟨-, t, ht⟩ := he.self.comparison
    have hboolean : left.dataType.isBoolean = true ∧ right.dataType.isBoolean = true := by
      refine DataType.isBoolean_of_commonType? ht ?_
      rcases Bool.or_eq_true_iff.1 hneg with hn | hn
      · exact .inl (he.left.self.dataType_of_isNegation hn)
      · exact .inr (he.right.self.dataType_of_isNegation hn)
    constructor
    · intro v hv
      have htype := he.left.self.bare.isBoolean hboolean.1
      exact isTruth_of_evaluate he.left.bare hb.left.bare htype hv
    · intro w hw
      have htype := he.right.self.bare.isBoolean hboolean.2
      exact isTruth_of_evaluate he.right.bare hb.right.bare htype hw
  · trivial

theorem everywhere_negatesTruth {e : Expr} (he : e.Everywhere Expr.NodeTyped) (hb : b.Fit e) :
    e.Everywhere (NegatesTruth b) := by
  intro n hn
  exact negatesTruth_of_nodeTyped (Expr.Everywhere.of_mem_nodes he hn)
    (Expr.Everywhere.of_mem_nodes hb hn)

/-- Evaluating the two-valued form fails exactly when evaluating the expression does, where
`NULL` is a value equal to itself only, and with the same error. -/
theorem evaluate_twoValued_error_iff {e : Expr} (he : e.WellTyped) (hg : e.Guarded) :
    ∃ r, twoValued e = .ok r ∧ ∀ b : Bindings, b.Respect e → b.Fit e → ∀ err,
      evaluate .asValue b e = .error err ↔ evaluate .threeValued b r = .error err := by
  obtain ⟨r, hr⟩ : ∃ r, twoValued e = .ok r :=
    exists_twoValued he.nodeTyped (he.mono fun _ hn => TwoValued.joinCheck_of_isChecked hn)
  refine ⟨r, hr, fun b hb hfit err => ?_⟩
  have hkeeps : KeepsUnder True .asValue .threeValued b e r :=
    twoValued_keeps hr hg hb fun _ => everywhere_negatesTruth he.nodeTyped hfit
  rw [hkeeps.eq trivial]

/-- `NOT q = (x / y = p)`, where a `NOT` is taken off the left operand, fails for the zero in
`y` that only the right operand divides by. -/
theorem evaluate_twoValued_error_iff_of_zero :
    ∃ r, twoValued (.binary .equal (.unary .not Sample.q .boolean) (.binary .equal
        (.binary (.arithmetic .divide) Sample.x Sample.y .int64) Sample.p .boolean) .boolean) =
        .ok r ∧
      evaluate .threeValued (Sample.bindings .null (.bool true) .null (.int 1) (.int 0) .null)
        r = .error .divisionByZero := by
  obtain ⟨r, hr, h⟩ := evaluate_twoValued_error_iff (e := .binary .equal
    (.unary .not Sample.q .boolean) (.binary .equal
      (.binary (.arithmetic .divide) Sample.x Sample.y .int64) Sample.p .boolean) .boolean)
    (by decide) (by decide)
  exact ⟨r, hr, (h _ (by decide) (by decide) _).1 rfl⟩

end NullLogic
