import NullLogic.Evaluate
import NullLogic.Expr.Nodes
import NullLogic.Proofs.Outcome

/-!
# Operators reach the code that is made for them

`BinaryOp.compare` and `BinaryOp.calculate` end in an internal error exactly if they get an
operator of another group, with operands that they can do something with
(`compare_eq_internal_iff`, `calculate_eq_internal_iff`). `BinaryOp.apply` gives the comparisons
to the first. What it gives to the second is no comparison, no connective and not `COALESCE`, and
that leaves arithmetic.

So no expression evaluates to an internal error, be it well-typed or not
(`evaluate_ne_internal`). The induction over the tree carries `Handled`.
-/

namespace NullLogic

variable {reading : NullReading} {b : Bindings} {v w : Value} {reason : String}

theorem intResult_ne_internal (operation : Operation) (n : Option Int) :
    intResult operation n ≠ .error (.internal reason) := by
  cases n <;> simp [intResult]

/-! ### Operators out of their group -/

namespace BinaryOp

variable {op : BinaryOp}

theorem compare_eq_internal_iff :
    op.compare reading v w = .error (.internal reason) ↔
      op.isComparison = false ∧ (v.compare? w).isSome = true ∧
        reason = "not a comparison: " ++ op.longName := by
  cases hnull : v.isNull || w.isNull with
  | true =>
      -- the operator is not looked at closely, and a `NULL` is in no order
      have hnone : v.compare? w = none := by
        rw [Bool.or_eq_true, Value.isNull_eq_true_iff, Value.isNull_eq_true_iff] at hnull
        rcases hnull with rfl | rfl <;> simp
      unfold compare
      rw [if_pos hnull, hnone]
      refine iff_of_false ?_ (by simp)
      cases reading with
      | threeValued => simp
      | asValue => dsimp only; split <;> simp
  | false =>
      unfold compare
      rw [if_neg (by simp [hnull])]
      cases v.compare? w with
      | none => simp
      | some o =>
          cases op with
          | comparison kind => cases kind <;> simp [isComparison]
          | connective kind => cases kind <;> simp [isComparison, eq_comm]
          | coalesce => simp [isComparison, eq_comm]
          | arithmetic kind => cases kind <;> simp [isComparison, eq_comm]

theorem calculateInts_eq_internal_iff {m n : Int64} :
    op.calculateInts m n = .error (.internal reason) ↔
      op.isArithmetic = false ∧ reason = "not arithmetic: " ++ op.longName := by
  cases op with
  | arithmetic kind =>
      rw [calculateInts_arithmetic]
      refine iff_of_false ?_ (by simp [← Bool.not_eq_true])
      split
      · simp
      · exact intResult_ne_internal _ _
  | comparison kind => cases kind <;> simp [calculateInts, isArithmetic, eq_comm]
  | connective kind => cases kind <;> simp [calculateInts, isArithmetic, eq_comm]
  | coalesce => simp [calculateInts, isArithmetic, eq_comm]

theorem calculateFloats_eq_internal_iff {x y : Float} :
    op.calculateFloats x y = .error (.internal reason) ↔
      op.isArithmetic = false ∧ reason = "not arithmetic: " ++ op.longName := by
  cases op with
  | arithmetic kind => simp [calculateFloats_arithmetic, ← Bool.not_eq_true]
  | comparison kind => cases kind <;> simp [calculateFloats, isArithmetic, eq_comm]
  | connective kind => cases kind <;> simp [calculateFloats, isArithmetic, eq_comm]
  | coalesce => simp [calculateFloats, isArithmetic, eq_comm]

theorem calculate_eq_internal_iff :
    op.calculate v w = .error (.internal reason) ↔
      op.isArithmetic = false ∧ (v.toFloat?.isSome = true ∧ w.toFloat?.isSome = true) ∧
        reason = "not arithmetic: " ++ op.longName := by
  cases v <;> cases w <;>
    simp [calculate, Value.isNull, Value.toFloat?, calculateInts_eq_internal_iff,
      calculateFloats_eq_internal_iff]

end BinaryOp

/-! ### Operators -/

def EvalError.isInternal : EvalError → Bool
  | internal _ => true
  | _ => false

/-- The outcome is no internal error. -/
abbrev Handled {α : Type} (x : Except EvalError α) : Prop :=
  Meets (fun _ => True) (fun error => error.isInternal = false) x

theorem handled_iff {α : Type} {x : Except EvalError α} :
    Handled x ↔ ∀ reason, x ≠ .error (.internal reason) := by
  cases x with
  | ok a => simp [Handled, Meets]
  | error error => cases error <;> simp [Handled, Meets, EvalError.isInternal]

theorem UnaryOp.apply_handled (op : UnaryOp) (v : Value) : Handled (op.apply v) := by
  unfold UnaryOp.apply
  split
  · trivial
  · trivial
  · trivial
  · exact handled_iff.2 fun _ => intResult_ne_internal _ _
  · trivial
  · rfl

theorem Connective.evaluate_handled (kind : Connective) (v w : Value) :
    Handled (kind.evaluate v w) := by
  have htruth : ∀ u, Handled (kind.truth u) := by
    intro u
    cases u with
    | null => trivial
    | bool c => trivial
    | _ => rfl
  exact (htruth v).bind fun _ _ _ => (htruth w).bind fun _ _ _ => trivial

theorem BinaryOp.apply_handled (op : BinaryOp) (reading : NullReading) (v w : Value) :
    Handled (op.apply reading v w) := by
  unfold apply
  split
  · exact Connective.evaluate_handled _ v w
  · trivial
  · rename_i hconnective hcoalesce
    refine handled_iff.2 fun reason h => ?_
    cases hcomparison : op.isComparison with
    | true =>
        rw [if_pos hcomparison, compare_eq_internal_iff, hcomparison] at h
        simp at h
    | false =>
        -- connectives and `COALESCE` have been sorted out before
        have hlogical : op.isLogical = false := by
          rw [← Bool.not_eq_true, isLogical_iff]
          rintro ⟨kind, rfl⟩
          exact hconnective kind rfl
        have harithmetic : op.isArithmetic = true :=
          isArithmetic_of_others hcomparison hlogical hcoalesce
        rw [hcomparison, if_neg Bool.false_ne_true, calculate_eq_internal_iff, harithmetic] at h
        simp at h

theorem Like.apply_handled (subject pattern : Value) (escape : Option Value) :
    Handled (Like.apply subject pattern escape) := by
  unfold Like.apply
  dsimp only
  split
  · trivial
  · split
    · trivial
    · rfl

theorem isTaken_handled (reading : NullReading) (operand : Option Value) (test : Value) :
    Handled (isTaken reading operand test) := by
  cases operand with
  | none => trivial
  | some v => exact (BinaryOp.equal.apply_handled reading v test).map fun _ _ => trivial

/-! ### Expressions -/

theorem evaluateOption_handled {o : Option Expr}
    (h : ∀ c ∈ o.toList, Handled (evaluate reading b c)) :
    Handled (evaluateOption reading b o) := by
  cases o with
  | none => trivial
  | some c => exact (h c List.mem_cons_self).bind fun _ _ _ => trivial

theorem evaluateClauses_handled {operand : Option Value} {ks : List (Clause Expr)}
    (h : ∀ c ∈ Expr.clauseChildren ks, Handled (evaluate reading b c)) :
    Handled (evaluateClauses reading b operand ks) := by
  induction ks with
  | nil => trivial
  | cons k ks ih =>
      have hrest := ih fun c hc => h c (List.mem_append_right [k.test, k.result] hc)
      refine (h k.test ?_).bind fun t _ _ => (isTaken_handled reading operand t).bind ?_
      · simp [Expr.clauseChildren]
      · intro taken _ _
        cases taken with
        | false => exact hrest
        | true =>
            refine (h k.result ?_).bind fun _ _ _ => trivial
            simp [Expr.clauseChildren]

theorem evaluate_handled (reading : NullReading) (b : Bindings) (e : Expr) :
    Handled (evaluate reading b e) := by
  induction e using Expr.induction with
  | step e ih =>
      cases e with
      | constant value type => trivial
      | column source name type nullable =>
          rw [evaluate]
          cases b.column source name with
          | none => rfl
          | some v => trivial
      | parameter name type =>
          rw [evaluate]
          cases b.parameter name with
          | none => rfl
          | some v => trivial
      | unary op operand type =>
          exact (ih operand List.mem_cons_self).bind fun v _ _ => op.apply_handled v
      | binary op left right type =>
          refine (ih left List.mem_cons_self).bind fun v _ _ => ?_
          refine (ih right (List.mem_cons_of_mem left List.mem_cons_self)).bind fun w _ _ => ?_
          exact op.apply_handled reading v w
      | like subject pattern escape =>
          simp only [Expr.children, List.mem_cons] at ih
          refine (ih subject (.inl rfl)).bind fun s _ _ => ?_
          refine (ih pattern (.inr (.inl rfl))).bind fun p _ _ => ?_
          refine (evaluateOption_handled fun c hc => ih c (.inr (.inr hc))).bind fun o _ _ => ?_
          exact Like.apply_handled s p o
      | caseWhen operand clauses otherwise type =>
          simp only [Expr.children, List.mem_append] at ih
          refine (evaluateOption_handled fun c hc => ih c (.inl hc)).bind fun o _ _ => ?_
          refine (evaluateClauses_handled fun c hc => ih c (.inr (.inl hc))).bind fun r _ _ => ?_
          cases r with
          | some v => trivial
          | none =>
              refine (evaluateOption_handled fun c hc => ih c (.inr (.inr hc))).bind ?_
              exact fun _ _ _ => trivial
      | call name receiver args type => rfl
      | table name label => rfl
      | join kind source predicate => rfl

/-- No evaluation ends in an internal error, whatever the types of the operands. -/
theorem evaluate_ne_internal (reading : NullReading) (b : Bindings) (e : Expr) (reason : String) :
    evaluate reading b e ≠ .error (.internal reason) :=
  handled_iff.1 (evaluate_handled reading b e) reason

end NullLogic
