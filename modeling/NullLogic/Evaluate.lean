import NullLogic.Bindings
import NullLogic.Semantics

/-!
# Evaluation

`evaluate reading b e` is the value of `e` for one assignment `b` of values, with
comparisons reading `NULL` as `reading` says. It is what an expression means, and
so what must be kept when an expression takes the place of another.

Operands are evaluated from left to right before their operator, and the first
error is the result. Only `CASE` is lazy: tests are evaluated up to the first
branch that is taken, and of the results only the one needed. Calls, tables and
joins have no value.
-/

namespace NullLogic

variable (reading : NullReading) (b : Bindings)

mutual

def evaluate : Expr → Except EvalError Value
  | .constant value _ => .ok value
  | .column source name _ _ =>
      match b.column source name with
      | some value => .ok value
      | none => .error (.unboundColumn source name)
  | .parameter name _ =>
      match b.parameter name with
      | some value => .ok value
      | none => .error (.unboundParameter name)
  | .unary op operand _ => do
      let v ← evaluate operand
      op.apply v
  | .binary op left right _ => do
      let v ← evaluate left
      let w ← evaluate right
      op.apply reading v w
  | .like subject pattern escape => do
      let s ← evaluate subject
      let p ← evaluate pattern
      let c ← evaluateOption escape
      Like.apply s p c
  | .caseWhen operand clauses otherwise _ => do
      let v ← evaluateOption operand
      match ← evaluateClauses v clauses with
      | some result => return result
      | none => return (← evaluateOption otherwise).getD .null
  | .call _ _ _ _ => .error .call
  | .table _ _ => .error .relation
  | .join _ _ _ => .error .relation

def evaluateOption : Option Expr → Except EvalError (Option Value)
  | none => .ok none
  | some e => do
      let v ← evaluate e
      return some v

/-- The result of the first branch that is taken, if one is. -/
def evaluateClauses (operand : Option Value) :
    List (Clause Expr) → Except EvalError (Option Value)
  | [] => .ok none
  | ⟨test, result⟩ :: clauses => do
      let t ← evaluate test
      if ← isTaken reading operand t then
        let v ← evaluate result
        return some v
      else
        evaluateClauses operand clauses

end

theorem evaluate_comparison (kind : Comparison) (left right : Expr) (type : DataType) :
    evaluate reading b (.binary (.comparison kind) left right type) = (do
      let v ← evaluate reading b left
      let w ← evaluate reading b right
      kind.apply reading v w) := by
  simp only [evaluate, BinaryOp.apply_comparison]

end NullLogic
