import NullLogic.Checked

/-!
# Simplifying boolean structure

`simplify` removes double negations, moves a `NOT` into connectives, null tests
and comparisons, and folds Boolean constants in connectives and null tests of the
constant `NULL`. It works from the leaves up: `node` applies the rules to a node
whose children are simple already, and follows up on the nodes that the rules
make.

A negated comparison becomes the complementary comparison only if `flip` is set.
That is right where comparisons are two-valued.
-/

namespace NullLogic

namespace Simplify

/-- The test of `operand`, as a node of type `type` if no rule applies. A truth value
is `NULL` exactly when its negation is. -/
def nullTest (kind : NullTest) (operand : Expr) (type : DataType) : Expr :=
  match operand with
  | .constant .null _ => .constant (.bool (kind.holds true)) .boolean
  | .unary .not inner _ => nullTest kind inner .boolean
  | operand => .unary (.test kind) operand type

/-- What is left of a connective with a Boolean constant. The constant on the left
is considered first. -/
def absorb? (kind : Connective) (left right : Expr) : Option Expr :=
  match left.bool?, right.bool? with
  | some b, _ => some (if b = kind.absorbing then left else right)
  | none, some b => some (if b = kind.absorbing then right else left)
  | none, none => none

/-- A connective made by a rule. -/
def connect (kind : Connective) (left right : Expr) : Except BuildError Expr := do
  let whole ← Checked.binary (.connective kind) left right
  return (absorb? kind left right).getD whole

/-- The negation of `operand`, as a node of type `type` if no rule applies. -/
def negate (flip : Bool) (operand : Expr) (type : DataType) : Except BuildError Expr :=
  match operand with
  | .constant (.bool b) _ => .ok (.constant (.bool !b) .boolean)
  | .unary .not inner _ => .ok inner
  | .unary (.test kind) inner _ => .ok (nullTest kind.complement inner .boolean)
  | .binary (.connective kind) left right _ => do
      let _ ← Checked.not left
      let left ← negate flip left .boolean
      let _ ← Checked.not right
      let right ← negate flip right .boolean
      connect kind.dual left right
  | .binary (.comparison kind) left right type' =>
      if flip then Checked.binaryAs (.comparison kind.complement) left right type'
      else .ok (.unary .not (.binary (.comparison kind) left right type') type)
  | operand => .ok (.unary .not operand type)

/-- Of the operators that are no connectives, those that have a complement are negated. -/
theorem negate_binary (flip : Bool) {op : BinaryOp} (h : op.isLogical = false) (left right : Expr)
    (type' type : DataType) :
    negate flip (.binary op left right type') type =
      match if flip then op.complement? else none with
      | some op' => Checked.binaryAs op' left right type'
      | none => .ok (.unary .not (.binary op left right type') type) := by
  cases op with
  | connective kind => simp [← Bool.not_eq_true] at h
  | comparison kind => cases flip <;> simp [negate, BinaryOp.complement?_comparison]
  | coalesce => cases flip <;> rfl
  | arithmetic kind =>
      cases flip with
      | false => rfl
      | true => cases kind <;> rfl

/-- The rules at a node with simple children. -/
def node (flip : Bool) (e : Expr) : Except BuildError Expr :=
  match e with
  | .unary .not operand type => negate flip operand type
  | .unary (.test kind) operand type => .ok (nullTest kind operand type)
  | .binary (.connective kind) left right type =>
      .ok ((absorb? kind left right).getD (.binary (.connective kind) left right type))
  | e => .ok e

/-- The simplified expression, or why a node that it needs cannot be built. -/
def tree (flip : Bool) (e : Expr) : Except BuildError Expr :=
  e.fold fun e results => do
    let news ← results.mapM id
    node flip (e.refill news)

theorem tree_eq (flip : Bool) (e : Expr) :
    tree flip e = (do
      let news ← e.children.mapM (tree flip)
      node flip (e.refill news)) := by
  rw [tree, Expr.fold_eq]
  simp only [List.mapM_map]
  rfl

end Simplify

def simplify (flip : Bool) (e : Expr) : Except PassError Expr :=
  (Simplify.tree flip e).mapError (PassError.simplify e)

end NullLogic
