import NullLogic.Simplify
import NullLogic.TwoValued

/-!
# Optimizing

`optimize` takes the two-valued form of an expression and simplifies it. Under
relational nulls the expression itself is simplified, without the rule that
replaces a negated comparison by its complement. The `Options` tell which of this
is done.
-/

namespace NullLogic

structure Options where
  /-- Comparisons keep the three-valued meaning they have in the database. -/
  useRelationalNulls : Bool := false
  /-- The two-valued form is not simplified. -/
  skipSimplification : Bool := false
deriving DecidableEq

def optimize (options : Options) (e : Expr) : Except PassError Expr := do
  let e' ← if options.useRelationalNulls then pure e else twoValued e
  if options.skipSimplification then return e'
  else simplify (!options.useRelationalNulls) e'

theorem optimize_default (e : Expr) :
    optimize {} e = (do
      let e' ← twoValued e
      simplify true e') := rfl

theorem optimize_relational (skip : Bool) (e : Expr) :
    optimize ⟨true, skip⟩ e = if skip then .ok e else simplify false e := by
  cases skip <;> rfl

end NullLogic
