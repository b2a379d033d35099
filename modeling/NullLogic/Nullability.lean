import NullLogic.Expr.Basic

/-!
# Nullability

`Expr.nullable e` tells whether `e` might be `NULL` once its equalities are
two-valued, judging by the tree alone. Parameters might be, columns if they are
declared so. Equalities, null tests and relations never are. `COALESCE` is
nullable if both operands are, a `CASE` if one of its results is or if it may
have none; its operand and tests do not matter. Everything else is nullable as
soon as one operand is.
-/

namespace NullLogic

namespace Expr

mutual

def nullable : Expr → Bool
  | constant value _ => value.isNull
  | column _ _ _ nullable => nullable
  | parameter _ _ => true
  | unary (.test _) _ _ => false
  | unary _ operand _ => nullable operand
  | binary (.comparison .equal) _ _ _ => false
  | binary (.comparison .notEqual) _ _ _ => false
  | binary .coalesce left right _ => nullable left && nullable right
  | binary _ left right _ => nullable left || nullable right
  | like subject pattern escape => nullable subject || nullable pattern || nullableOption escape
  | call _ receiver args _ => nullableOption receiver || nullableList args
  | caseWhen _ clauses otherwise _ =>
      nullableResults clauses || otherwise.isNone || nullableOption otherwise
  | table _ _ => false
  | join _ _ _ => false

def nullableOption : Option Expr → Bool
  | none => false
  | some e => nullable e

def nullableList : List Expr → Bool
  | [] => false
  | e :: es => nullable e || nullableList es

def nullableResults : List (Clause Expr) → Bool
  | [] => false
  | ⟨_, result⟩ :: clauses => nullable result || nullableResults clauses

end

theorem nullableOption_eq (o : Option Expr) : nullableOption o = o.any nullable := by
  cases o <;> rfl

theorem nullableList_eq (es : List Expr) : nullableList es = es.any nullable := by
  induction es with
  | nil => rfl
  | cons e es ih => simp [nullableList, ih]

theorem nullableResults_eq (clauses : List (Clause Expr)) :
    nullableResults clauses = clauses.any fun clause => clause.result.nullable := by
  induction clauses with
  | nil => rfl
  | cons clause clauses ih => simp [nullableResults, ih]

end Expr

end NullLogic
