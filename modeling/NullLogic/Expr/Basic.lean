import NullLogic.Operator
import NullLogic.Value

/-!
# Expressions

An `Expr` is a tree over columns, parameters and constants. Every node that
computes a value carries the type of its result, except `LIKE`, which is always
Boolean. Tables and joins are nodes as well; they have no value, and report the
type `null`.

Nothing here asks whether a node makes sense. The functions of
`NullLogic.Checked` build only nodes whose operand types fit.

`isEquiPredicate` recognises the predicates that a join may have: equalities, and
conjunctions of such.
-/

namespace NullLogic

/-- A branch `WHEN test THEN result`. -/
structure Clause (α : Type) where
  test : α
  result : α
deriving DecidableEq

inductive JoinKind where
  | inner | left
deriving DecidableEq

inductive Expr where
  | constant (value : Value) (type : DataType)
  | column (source name : String) (type : DataType) (nullable : Bool)
  | parameter (name : String) (type : DataType)
  | unary (op : UnaryOp) (operand : Expr) (type : DataType)
  | binary (op : BinaryOp) (left right : Expr) (type : DataType)
  | like (subject pattern : Expr) (escape : Option Expr)
  | call (name : String) (receiver : Option Expr) (args : List Expr) (type : DataType)
  | caseWhen (operand : Option Expr) (clauses : List (Clause Expr)) (otherwise : Option Expr)
      (type : DataType)
  | table (name : String) (label : Option String)
  | join (kind : JoinKind) (source predicate : Expr)

namespace Expr

def dataType : Expr → DataType
  | constant _ type => type
  | column _ _ type _ => type
  | parameter _ type => type
  | unary _ _ type => type
  | binary _ _ _ type => type
  | like _ _ _ => .boolean
  | call _ _ _ type => type
  | caseWhen _ _ _ type => type
  | table _ _ => .null
  | join _ _ _ => .null

/-- The kind of a node as messages name it; an operator is its own kind. -/
def kind : Expr → String
  | constant _ _ => "constant"
  | column _ _ _ _ => "column"
  | parameter _ _ => "parameter"
  | unary op _ _ => op.name
  | binary op _ _ _ => op.name
  | like _ _ _ => "like"
  | call _ _ _ _ => "function"
  | caseWhen _ _ _ _ => "case"
  | table _ _ => "table"
  | join _ _ _ => "join"

/-! ### Looking at a node -/

def value? : Expr → Option Value
  | constant value _ => some value
  | _ => none

/-- The truth value of a constant that holds one. -/
def bool? (e : Expr) : Option Bool :=
  e.value?.bind Value.toBool?

def isNullConstant : Expr → Bool
  | constant value _ => value.isNull
  | _ => false

/-- The operand of `op`, if that is the operator on top. -/
def operand? (op : UnaryOp) : Expr → Option Expr
  | unary op' operand _ => if op' = op then some operand else none
  | _ => none

def isTable : Expr → Bool
  | table _ _ => true
  | _ => false

/-- Whether this is an equality or a conjunction of equalities. -/
def isEquiPredicate : Expr → Bool
  | binary (.comparison .equal) _ _ _ => true
  | binary (.connective .and) left right _ => left.isEquiPredicate && right.isEquiPredicate
  | _ => false

@[simp] theorem bool?_constant (value : Value) (type : DataType) :
    (constant value type).bool? = value.toBool? := rfl

theorem bool?_eq_some_iff (e : Expr) (b : Bool) :
    e.bool? = some b ↔ ∃ type, e = constant (.bool b) type := by
  cases e <;> simp [bool?, value?]

theorem isNullConstant_iff (e : Expr) :
    e.isNullConstant = true ↔ ∃ type, e = constant .null type := by
  cases e <;> simp [isNullConstant]

theorem operand?_eq_some_iff (op : UnaryOp) (e x : Expr) :
    e.operand? op = some x ↔ ∃ type, e = unary op x type := by
  cases e with
  | unary op' operand type =>
      by_cases h : op' = op <;> simp [operand?, h]
  | _ => simp [operand?]

end Expr

end NullLogic
