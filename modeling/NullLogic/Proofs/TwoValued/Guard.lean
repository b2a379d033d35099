import NullLogic.Proofs.Truth
import NullLogic.Proofs.TwoValued.Form

/-!
# The value of a guarded comparison

`TwoValued.outcome` is what a guarded comparison makes of the values of its operands:
`NULL`s are compared as values, and other values by the operator that accounts for the
`NOT`s left out. It does not mention the reading of `NULL`, and `evaluate_form` says
that under either reading nothing else comes out, as long as only operands taken for
nullable are `NULL`: the null tests decide wherever the comparison of values is
unknown.
-/

namespace NullLogic

variable {reading : NullReading} {b : Bindings}

theorem Comparison.apply_eq_ok_of_isNull (kind : Comparison) {v w : Value}
    (h : (v.isNull || w.isNull) = true) :
    ∃ t, kind.apply reading v w = .ok (Value.ofTruth t) := by
  cases reading with
  | threeValued => exact ⟨none, by rw [Comparison.apply, h]; rfl⟩
  | asValue => exact ⟨some _, by rw [Comparison.apply, h]; rfl⟩

namespace TwoValued

/-! ### Evaluating the parts -/

theorem evaluate_connected {kind : Connective} {l r : Expr} {s t : Option Bool}
    (hl : evaluate reading b l = .ok (Value.ofTruth s))
    (hr : evaluate reading b r = .ok (Value.ofTruth t)) :
    evaluate reading b (connected kind l r) = .ok (Value.ofTruth (kind.apply s t)) :=
  evaluate_connective_eq_ok_iff.2 ⟨s, t, hl, hr, rfl⟩

theorem evaluate_connected_error {kind : Connective} {l r : Expr} {e : EvalError}
    (hl : evaluate reading b l = .error e) :
    evaluate reading b (connected kind l r) = .error e := by
  rw [connected, evaluate, hl]
  rfl

theorem evaluate_tested {kind : NullTest} {x : Expr} {v : Value}
    (h : evaluate reading b x = .ok v) :
    evaluate reading b (tested kind x) = .ok (Value.ofTruth (some (kind.holds v.isNull))) := by
  rw [tested, evaluate, h]
  rfl

/-- Every guarded comparison begins with the comparison of values. -/
theorem evaluate_form_error {positive : Bool} {type : DataType} {l r : Operand} {e : EvalError}
    (h : evaluate reading b (values positive type l r) = .error e) :
    evaluate reading b (form positive type l r) = .error e := by
  unfold form
  split
  · exact h
  · exact evaluate_connected_error h
  · exact evaluate_connected_error h
  · exact evaluate_connected_error (evaluate_connected_error h)

/-! ### The guards -/

/-- The truth of a guarded comparison, from which operands might be and are `NULL`,
and from the truth of the comparison of values. -/
def formTruth (positive leftNullable rightNullable leftNull rightNull : Bool)
    (compared : Option Bool) : Option Bool :=
  let kind := guardKind positive
  let passed (null : Bool) : Option Bool := some ((guardTest positive).holds null)
  let failed (null : Bool) : Option Bool := some ((guardTest positive).complement.holds null)
  match leftNullable, rightNullable with
  | false, false => compared
  | true, false => kind.apply compared (passed leftNull)
  | false, true => kind.apply compared (passed rightNull)
  | true, true =>
      kind.dual.apply
        (kind.apply compared (kind.apply (passed leftNull) (passed rightNull)))
        (kind.apply (failed leftNull) (failed rightNull))

/-- With a `NULL` the truth of the comparison of values is masked, and without one the
guards are. -/
theorem formTruth_eq (positive : Bool) {leftNullable rightNullable leftNull rightNull : Bool}
    (compared : Option Bool) (hl : leftNull = true → leftNullable = true)
    (hr : rightNull = true → rightNullable = true) :
    formTruth positive leftNullable rightNullable leftNull rightNull compared =
      if leftNull || rightNull then
        some ((Comparison.equality positive).holdsOfNull (leftNull && rightNull))
      else compared := by
  rcases compared with _ | _ | _ <;> cases positive <;> cases leftNullable <;>
    cases rightNullable <;> cases leftNull <;> cases rightNull <;> simp at hl hr <;> rfl

theorem evaluate_form_of_compared {positive : Bool} {type : DataType} {l r : Operand}
    {v w : Value} {t : Option Bool} (hl : evaluate reading b l.expr = .ok v)
    (hr : evaluate reading b r.expr = .ok w)
    (ht : evaluate reading b (values positive type l r) = .ok (Value.ofTruth t)) :
    evaluate reading b (form positive type l r) =
      .ok (Value.ofTruth (formTruth positive l.nullable r.nullable v.isNull w.isNull t)) := by
  unfold form formTruth
  cases l.nullable <;> cases r.nullable
  · exact ht
  · exact evaluate_connected ht (evaluate_tested hr)
  · exact evaluate_connected ht (evaluate_tested hl)
  · exact evaluate_connected
      (evaluate_connected ht (evaluate_connected (evaluate_tested hl) (evaluate_tested hr)))
      (evaluate_connected (evaluate_tested hl) (evaluate_tested hr))

/-- The outcome of a guarded comparison of operands with the values `v` and `w`, where
`agree` tells whether both or neither have lost a `NOT`. -/
def outcome (positive agree : Bool) (v w : Value) : Except EvalError Value :=
  if v.isNull || w.isNull then (Comparison.equality positive).apply .asValue v w
  else (Comparison.equality (positive == agree)).apply .asValue v w

theorem evaluate_values {positive : Bool} {type : DataType} {l r : Operand} {v w : Value}
    (hl : evaluate reading b l.expr = .ok v) (hr : evaluate reading b r.expr = .ok w) :
    evaluate reading b (values positive type l r) =
      (Comparison.equality (positive == (l.negated == r.negated))).apply reading v w := by
  rw [values, evaluate_comparison, hl, hr]
  rfl

theorem evaluate_form_of_ok {positive : Bool} {type : DataType} {l r : Operand} {v w : Value}
    (hl : evaluate reading b l.expr = .ok v) (hr : evaluate reading b r.expr = .ok w)
    (hv : v = .null → l.nullable = true) (hw : w = .null → r.nullable = true) :
    evaluate reading b (form positive type l r) =
      outcome positive (l.negated == r.negated) v w := by
  rw [← Value.isNull_eq_true_iff] at hv hw
  have hcompared : evaluate reading b (values positive type l r) = _ := evaluate_values hl hr
  unfold outcome
  generalize Comparison.equality (positive == (l.negated == r.negated)) = kind at hcompared ⊢
  cases hnull : v.isNull || w.isNull with
  | true =>
      obtain ⟨t, ht⟩ : ∃ t, kind.apply reading v w = .ok (Value.ofTruth t) :=
        kind.apply_eq_ok_of_isNull hnull
      rw [evaluate_form_of_compared hl hr (hcompared.trans ht), formTruth_eq positive t hv hw]
      simp [hnull, Comparison.apply, Value.ofTruth]
  | false =>
      have hne := hnull
      rw [Bool.or_eq_false_iff, Value.isNull_eq_false_iff, Value.isNull_eq_false_iff] at hne
      have hread : kind.apply reading v w = kind.apply .asValue v w :=
        kind.apply_of_ne_null hne.1 hne.2
      rw [hread] at hcompared
      cases happ : kind.apply .asValue v w with
      | error e => simpa using evaluate_form_error (hcompared.trans happ)
      | ok c =>
          obtain ⟨t, rfl⟩ := Comparison.exists_ofTruth_of_apply_eq_ok happ
          rw [evaluate_form_of_compared hl hr (hcompared.trans happ),
            formTruth_eq positive t hv hw]
          simp [hnull]

/-- A guarded comparison evaluates its operands from left to right and then has the
outcome for their values, under either reading. -/
theorem evaluate_form {positive : Bool} {type : DataType} {l r : Operand}
    (hl : evaluate reading b l.expr = .ok .null → l.nullable = true)
    (hr : evaluate reading b r.expr = .ok .null → r.nullable = true) :
    evaluate reading b (form positive type l r) = (do
      let v ← evaluate reading b l.expr
      let w ← evaluate reading b r.expr
      outcome positive (l.negated == r.negated) v w) := by
  cases hv : evaluate reading b l.expr with
  | error e =>
      have hvalues : evaluate reading b (values positive type l r) = .error e := by
        rw [values, evaluate, hv]
        rfl
      exact evaluate_form_error hvalues
  | ok v =>
      cases hw : evaluate reading b r.expr with
      | error e =>
          have hvalues : evaluate reading b (values positive type l r) = .error e := by
            rw [values, evaluate, hv, hw]
            rfl
          exact evaluate_form_error hvalues
      | ok w =>
          have hv' : v = .null → l.nullable = true := fun h => hl (h ▸ hv)
          have hw' : w = .null → r.nullable = true := fun h => hr (h ▸ hw)
          exact evaluate_form_of_ok hv hw hv' hw'

/-! ### Facts about the outcome -/

theorem outcome_ne_null (positive agree : Bool) (v w : Value) :
    outcome positive agree v w ≠ .ok .null := by
  intro h
  unfold outcome at h
  split at h
  · rename_i hnull
    simp [Comparison.apply, hnull] at h
  · rename_i hnull
    simp only [Comparison.apply, hnull] at h
    split at h
    · simp_all
    · split at h <;> simp at h

end TwoValued

end NullLogic
