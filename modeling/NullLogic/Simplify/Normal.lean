import NullLogic.Expr.Nodes
import NullLogic.Simplify

/-!
# Simple expressions

`Redex flip e` says that the node `e` has a shape that simplifying takes away, and
`IsNormal flip` that no node has one. The shapes are listed here by themselves:
what the rules make of them is not asked. A negated comparison is among them only
if `flip` is set.
-/

namespace NullLogic

namespace Simplify

inductive Redex (flip : Bool) : Expr → Prop where
  | notConstant (b : Bool) (s t : DataType) :
      Redex flip (.unary .not (.constant (.bool b) s) t)
  | notNot (e : Expr) (s t : DataType) :
      Redex flip (.unary .not (.unary .not e s) t)
  | notTest (kind : NullTest) (e : Expr) (s t : DataType) :
      Redex flip (.unary .not (.unary (.test kind) e s) t)
  | notConnective (kind : Connective) (l r : Expr) (s t : DataType) :
      Redex flip (.unary .not (.binary (.connective kind) l r s) t)
  | notComparison (kind : Comparison) (l r : Expr) (s t : DataType) (h : flip = true) :
      Redex flip (.unary .not (.binary (.comparison kind) l r s) t)
  | testNot (kind : NullTest) (e : Expr) (s t : DataType) :
      Redex flip (.unary (.test kind) (.unary .not e s) t)
  | testNull (kind : NullTest) (s t : DataType) :
      Redex flip (.unary (.test kind) (.constant .null s) t)
  | constantLeft (kind : Connective) (b : Bool) (r : Expr) (s t : DataType) :
      Redex flip (.binary (.connective kind) (.constant (.bool b) s) r t)
  | constantRight (kind : Connective) (l : Expr) (b : Bool) (s t : DataType) :
      Redex flip (.binary (.connective kind) l (.constant (.bool b) s) t)

def IsNormal (flip : Bool) (e : Expr) : Prop :=
  e.Everywhere fun n => ¬ Redex flip n

theorem isNormal_iff (flip : Bool) (e : Expr) :
    IsNormal flip e ↔ ¬ Redex flip e ∧ ∀ c ∈ e.children, IsNormal flip c :=
  Expr.everywhere_iff _ e

end Simplify

end NullLogic
