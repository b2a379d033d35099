import NullLogic.Bindings
import NullLogic.Checked
import NullLogic.Expr.Nodes

/-!
# Well-typed expressions

`Checked.again` makes a node anew from its parts by the checked function for its
kind. An expression is `WellTyped` if this gives every node back, types included,
so if it could have been built by these functions alone, `Checked.binaryAs` left
out. Nodes that are only `OperandsChecked` may have another type than they are given anew.

A value `Fits` a type if a column of that type may hold it. `NULL` fits all types,
and numbers fit any numeric type, since an expression of a floating type may have
the value of an integer operand. `Bindings.Fit e` says this of the values that
`e` reads.
-/

namespace NullLogic

namespace Checked

def again : Expr → Except BuildError Expr
  | .constant value type => constant value type
  | .column source name type nullable => column source name type nullable
  | .parameter name type => parameter name type
  | .unary op operand _ => unary op operand
  | .binary op left right _ => binary op left right
  | .like subject pattern escape => like subject pattern escape
  | .call name receiver args type => call name receiver args type
  | .caseWhen operand clauses otherwise _ => caseWhen operand clauses otherwise
  | .table name label => table name label
  | .join kind source predicate => join kind source predicate

end Checked

namespace Expr

/-- The node passes the checks and has the type that follows from its operands. -/
def IsChecked (e : Expr) : Prop :=
  Checked.again e = .ok e

instance : DecidablePred IsChecked := fun e =>
  match h : Checked.again e with
  | .ok e' => decidable_of_iff (e' = e) (by simp [IsChecked, h])
  | .error _ => isFalse (by simp [IsChecked, h])

/-- The operands pass the checks, the shape of a join's predicate aside. -/
def OperandsChecked (e : Expr) : Prop :=
  ∀ cause, Checked.again e = .error cause → ∃ predicate, cause = .joinPredicate predicate

def WellTyped (e : Expr) : Prop :=
  Everywhere IsChecked e

instance (e : Expr) : Decidable e.WellTyped :=
  inferInstanceAs (Decidable (Everywhere IsChecked e))

theorem wellTyped_iff (e : Expr) :
    e.WellTyped ↔ e.IsChecked ∧ ∀ c ∈ e.children, c.WellTyped :=
  everywhere_iff IsChecked e

end Expr

/-! ### Values of a type -/

def Value.Fits (v : Value) (t : DataType) : Prop :=
  match v with
  | null => True
  | bool _ => t = .boolean
  | int _ => t.isNumeric = true
  | float _ => t.isNumeric = true
  | string _ => t.isText = true

instance (v : Value) (t : DataType) : Decidable (v.Fits t) := by
  cases v <;> simp only [Value.Fits] <;> infer_instance

@[simp] theorem Value.fits_null (t : DataType) : Value.null.Fits t := trivial

/-- What the node reads has a value of the type that the node is declared to have. -/
def Bindings.FitNode (b : Bindings) : Expr → Prop
  | .column source name type _ => ∀ v, b.column source name = some v → v.Fits type
  | .parameter name type => ∀ v, b.parameter name = some v → v.Fits type
  | _ => True

instance (b : Bindings) : DecidablePred b.FitNode
  | .column source name type _ =>
      inferInstanceAs (Decidable (∀ v, b.column source name = some v → v.Fits type))
  | .parameter name type =>
      inferInstanceAs (Decidable (∀ v, b.parameter name = some v → v.Fits type))
  | .constant _ _ | .unary _ _ _ | .binary _ _ _ _ | .like _ _ _ | .call _ _ _ _
  | .caseWhen _ _ _ _ | .table _ _ | .join _ _ _ => isTrue trivial

def Bindings.Fit (b : Bindings) (e : Expr) : Prop :=
  e.Everywhere b.FitNode

instance (b : Bindings) (e : Expr) : Decidable (b.Fit e) :=
  inferInstanceAs (Decidable (e.Everywhere b.FitNode))

/-- A constant of some type holds a value of that type. -/
theorem Value.fits_of_isValidFor {v : Value} {t : DataType} (h : v.isValidFor t = true) :
    v.Fits t := by
  cases v with
  | null => trivial
  | _ => simp_all [Value.isValidFor, Value.Fits, DataType.isNumeric]

end NullLogic
