import NullLogic.Evaluate
import NullLogic.Proofs.Expr.Alike
import NullLogic.Proofs.Outcome

/-!
# Evaluating alike nodes

The main statement is `evaluate_keeps`: if the outcomes of the children are kept,
then so is that of the node. It relates evaluations under two readings of `NULL`
as well, provided that the node compares nothing with `NULL` (`NullFree`).
-/

namespace NullLogic

variable {faults : Prop}

/-! ### Where the reading does not matter -/

variable {reading reading' : NullReading} {b : Bindings}

theorem Comparison.apply_of_ne_null (kind : Comparison) {v w : Value} (hv : v ≠ .null)
    (hw : w ≠ .null) : kind.apply reading v w = kind.apply reading' v w := by
  rw [← Value.isNull_eq_false_iff] at hv hw
  simp [Comparison.apply, hv, hw]

/-- A branch is never taken because of one `NULL` alone. -/
theorem isTaken_of_ne_null {v w : Value} (h : v ≠ .null ∨ w ≠ .null) :
    isTaken reading (some v) w = isTaken reading' (some v) w := by
  have taken : ∀ r, (v.isNull || w.isNull) = true → isTaken r (some v) w = .ok false := by
    intro r hnull
    have hboth : (v.isNull && w.isNull) = false := by
      rwa [Bool.and_eq_false_iff, Value.isNull_eq_false_iff, Value.isNull_eq_false_iff]
    cases r <;> simp [isTaken_some, Comparison.apply, hnull, hboth, Comparison.holdsOfNull, Except.map]
  cases hnull : v.isNull || w.isNull with
  | true => rw [taken reading hnull, taken reading' hnull]
  | false =>
      rw [Bool.or_eq_false_iff, Value.isNull_eq_false_iff, Value.isNull_eq_false_iff] at hnull
      rw [isTaken_some, isTaken_some, Comparison.equal.apply_of_ne_null hnull.1 hnull.2]

/-- A comparison on top has no `NULL` operand, and no test of a `CASE` meets its
operand with both being `NULL`. -/
def NullFree (reading : NullReading) (b : Bindings) : Expr → Prop
  | .binary (.comparison _) left right _ =>
      evaluate reading b left ≠ .ok .null ∧ evaluate reading b right ≠ .ok .null
  | .caseWhen (some operand) clauses _ _ =>
      evaluate reading b operand ≠ .ok .null ∨
        ∀ clause ∈ clauses, evaluate reading b clause.test ≠ .ok .null
  | _ => True

theorem ne_null_of_evaluate {e : Expr} {v : Value} (h : evaluate reading b e ≠ .ok .null)
    (hv : evaluate reading b e = .ok v) : v ≠ .null := by
  intro hnull
  rw [hnull] at hv
  exact h hv

/-! ### The outcome of a node from those of its children -/

/-- The outcome of the one expression is kept by the other under the other reading. -/
abbrev KeepsUnder (faults : Prop) (reading reading' : NullReading) (b : Bindings)
    (e f : Expr) : Prop :=
  Keeps faults (evaluate reading b e) (evaluate reading' b f)

theorem evaluateOption_keeps {u v : Option Expr}
    (h : Option.Rel (KeepsUnder faults reading reading' b) u v) :
    Keeps faults (evaluateOption reading b u) (evaluateOption reading' b v) := by
  cases h with
  | none => exact Keeps.refl _
  | some h => exact h.bind fun v _ => Keeps.refl _

theorem evaluateClauses_keeps {operand : Option Value} {ks ls : List (Clause Expr)}
    (h : List.Forall₂ (Clause.Alike (KeepsUnder faults reading reading' b)) ks ls)
    (htaken : ∀ k ∈ ks, ∀ t, evaluate reading b k.test = .ok t →
      isTaken reading operand t = isTaken reading' operand t) :
    Keeps faults (evaluateClauses reading b operand ks)
      (evaluateClauses reading' b operand ls) := by
  induction h with
  | nil => exact Keeps.refl _
  | @cons k l ks ls hk _ ih =>
      have hrest := ih fun k' hk' => htaken k' (List.mem_cons_of_mem k hk')
      refine hk.test.bind fun t ht => ?_
      rw [htaken k List.mem_cons_self t ht]
      refine (Keeps.refl _).bind fun taken _ => ?_
      cases taken with
      | true => exact hk.result.bind fun v _ => Keeps.refl _
      | false => exact hrest

theorem evaluate_keeps {e f : Expr} (h : e.Alike (KeepsUnder faults reading reading' b) f)
    (hread : reading = reading' ∨ NullFree reading b e) :
    KeepsUnder faults reading reading' b e f := by
  cases h with
  | constant value type => exact Keeps.refl _
  | column source name type nullable => exact Keeps.refl _
  | parameter name type => exact Keeps.refl _
  | call name type hu hxs => exact Keeps.refl _
  | table name label => exact Keeps.refl _
  | join kind hx hx' => exact Keeps.refl _
  | unary op type hx => exact hx.bind fun v _ => Keeps.refl _
  | like hx hx' hu =>
      exact hx.bind fun s _ => hx'.bind fun p _ => (evaluateOption_keeps hu).bind fun c _ =>
        Keeps.refl _
  | binary op type hx hx' =>
      refine hx.bind fun v hv => hx'.bind fun w hw => keeps_of_eq ?_
      rcases hread with rfl | hfree
      · rfl
      · cases op with
        | comparison kind =>
            have hv' : v ≠ .null := ne_null_of_evaluate hfree.1 hv
            have hw' : w ≠ .null := ne_null_of_evaluate hfree.2 hw
            rw [BinaryOp.apply_comparison, BinaryOp.apply_comparison]
            exact kind.apply_of_ne_null hv' hw'
        | _ => rfl
  | @caseWhen type u v u' v' xs ys hu hxs hu' =>
      refine (evaluateOption_keeps hu).bind fun o ho => ?_
      have htaken : ∀ k ∈ xs, ∀ t, evaluate reading b k.test = .ok t →
          isTaken reading o t = isTaken reading' o t := by
        intro k hk t ht
        rcases hread with rfl | hfree
        · rfl
        · cases u with
          | none =>
              obtain rfl : none = o := by simpa [evaluateOption] using ho
              rfl
          | some operand =>
              obtain ⟨w, hw, rfl⟩ : ∃ w, evaluate reading b operand = .ok w ∧ some w = o := by
                simpa [evaluateOption, bind_eq_ok_iff, pure, Except.pure] using ho
              refine isTaken_of_ne_null (hfree.imp ?_ ?_)
              · exact fun hne => ne_null_of_evaluate hne hw
              · exact fun hne => ne_null_of_evaluate (hne k hk) ht
      refine (evaluateClauses_keeps hxs htaken).bind fun r _ => ?_
      cases r with
      | none => exact (evaluateOption_keeps hu').bind fun d _ => Keeps.refl _
      | some value => exact Keeps.refl _

end NullLogic
