import NullLogic.Checked
import NullLogic.Nullability

/-!
# Making equalities two-valued

`twoValued` replaces every equality and inequality that might meet a `NULL` by an
expression that spells out what it means for `NULL` to be a value equal to itself
only. The result, read with three-valued comparisons, has the value that the
expression has when `NULL` is read as a value, and its equalities are never
unknown.

An operand that begins with `NOT` gives the `NOT` up to the operator: of two
truth values, one equals the negation of the other exactly when they differ.
What is left of the operands is compared by the resulting operator, and `guarded`
adds the null tests that depend on which operands might be `NULL`.

A comparison that needs none of this stays as it is, and so does all of the tree
around the comparisons. There is no two-valued form if a join has a predicate
that is not a conjunction of equalities, or if the replacement of a comparison
does not pass the checks on operand types; the first such node is the error.
-/

namespace NullLogic

namespace TwoValued

/-- An operand of a comparison, in two-valued form and without a leading `NOT`. -/
structure Operand where
  expr : Expr
  negated : Bool
  nullable : Bool

/-- The operand `e`, whose two-valued form is `e'`. -/
def operand (e e' : Expr) : Operand :=
  match e' with
  | .unary .not inner _ => ⟨inner, true, e.nullable⟩
  | e' => ⟨e', false, e.nullable⟩

/-- The comparison `values` of two operands, corrected for those that might be
`NULL`; `positive` tells an equality from an inequality. -/
def guarded (positive : Bool) (values : Expr) (l r : Operand) : Except BuildError Expr :=
  match positive, l.nullable, r.nullable with
  | _, false, false => return values
  | true, true, false => do Checked.and values (← Checked.isNotNull l.expr)
  | true, false, true => do Checked.and values (← Checked.isNotNull r.expr)
  | true, true, true => do
      let bothValid ← Checked.and (← Checked.isNotNull l.expr) (← Checked.isNotNull r.expr)
      let bothNull ← Checked.and (← Checked.isNull l.expr) (← Checked.isNull r.expr)
      Checked.or (← Checked.and values bothValid) bothNull
  | false, true, false => do Checked.or values (← Checked.isNull l.expr)
  | false, false, true => do Checked.or values (← Checked.isNull r.expr)
  | false, true, true => do
      let eitherNull ← Checked.or (← Checked.isNull l.expr) (← Checked.isNull r.expr)
      let eitherValid ← Checked.or (← Checked.isNotNull l.expr) (← Checked.isNotNull r.expr)
      Checked.and (← Checked.or values eitherNull) eitherValid

/-- The replacement of a comparison of type `type`. -/
def expand (positive : Bool) (l r : Operand) (type : DataType) : Except BuildError Expr := do
  let kind := Comparison.equality (positive == (l.negated == r.negated))
  let values ← Checked.binaryAs (.comparison kind) l.expr r.expr type
  guarded positive values l r

/-- Whether the operand `e` can be compared as it stands. -/
def isSettled (e : Expr) (o : Operand) : Bool :=
  !o.negated && !o.nullable && o.expr = e

/-- The two-valued form of the equality or inequality of `left` and `right`, whose
two-valued forms are `left'` and `right'`. -/
def comparison (positive : Bool) (left right : Expr) (type : DataType) (left' right' : Expr) :
    Except PassError Expr :=
  let whole := Expr.binary (.comparison (.equality positive)) left right type
  let l := operand left left'
  let r := operand right right'
  if isSettled left l && isSettled right r then .ok whole
  else (expand positive l r type).mapError (PassError.comparison whole)

/-- The two-valued form of a node, from those of its children. -/
def node (e : Expr) (news : List Expr) : Except PassError Expr :=
  match e, news with
  | .binary (.comparison .equal) left right type, [left', right'] =>
      comparison true left right type left' right'
  | .binary (.comparison .notEqual) left right type, [left', right'] =>
      comparison false left right type left' right'
  | e, news => .ok (e.refill news)

/-- A join is looked at before what is below it. -/
def joinCheck : Expr → Except PassError Unit
  | .join _ _ predicate =>
      if predicate.isEquiPredicate then .ok () else .error (.joinPredicate predicate)
  | _ => .ok ()

end TwoValued

def twoValued (e : Expr) : Except PassError Expr :=
  e.fold fun e results => do
    TwoValued.joinCheck e
    let news ← results.mapM id
    TwoValued.node e news

theorem twoValued_eq (e : Expr) :
    twoValued e = (do
      TwoValued.joinCheck e
      let news ← e.children.mapM twoValued
      TwoValued.node e news) := by
  rw [twoValued, Expr.fold_eq]
  simp only [List.mapM_map]
  rfl

end NullLogic
