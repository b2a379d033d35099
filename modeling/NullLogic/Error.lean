import NullLogic.Expr.Equality
import NullLogic.Expr.Text

/-!
# What can go wrong

Three activities fail, each for causes of its own: putting a node together
(`BuildError`), evaluating an expression (`EvalError`), and making one two-valued
or simple (`PassError`). An error holds what it is about; `message` puts
it into words.

The passes build nodes, so a `PassError` may have a `BuildError` as its cause.
`PassError.trail` is what a report says below the message: the expression at
which the pass stopped, and the cause.
-/

namespace NullLogic

/-- The forms whose operands have to be of certain types. -/
inductive Operation where
  | unary (op : UnaryOp)
  | binary (op : BinaryOp)
  | like
  | caseWhen
deriving DecidableEq

def Operation.name : Operation → String
  | unary op => op.name
  | binary op => op.name
  | like => "like"
  | caseWhen => "case"

/-- Operands of these types do not fit the operation. -/
def operandTypesMessage (operation : Operation) (types : List DataType) : String :=
  "invalid operand types for '" ++ operation.name ++ "': " ++ DataType.textAll types

/-! ### Building -/

inductive BuildError where
  | operandTypes (operation : Operation) (types : List DataType)
  | valueType (value : Value) (type : DataType)
  | joinPredicate (predicate : Expr)
  | joinedNonTable (joined : Expr)
  | childCount (kind : String) (expected actual : Nat)
deriving DecidableEq

def BuildError.message : BuildError → String
  | operandTypes operation types => operandTypesMessage operation types
  | valueType value type => "literal " ++ value.text ++ " is not a valid " ++ type.text
  | joinPredicate predicate => "unexpected join predicate shape: " ++ predicate.text
  | joinedNonTable joined => "internal error: join of non-table " ++ joined.kind
  | childCount kind expected actual =>
      "expected " ++ toString expected ++ " children for " ++ kind ++ ", but got " ++
        toString actual

/-! ### Evaluating -/

inductive EvalError where
  /-- An operator has reached code that was not made for it. -/
  | internal (reason : String)
  | operandTypes (operation : Operation) (types : List DataType)
  | unboundColumn (source name : String)
  | unboundParameter (name : String)
  | call
  | relation
  | overflow (operation : Operation)
  | divisionByZero
deriving DecidableEq

/-- A column is named with its table here, also where the table has no name. -/
def EvalError.message : EvalError → String
  | internal reason => "internal error: " ++ reason
  | operandTypes operation types => operandTypesMessage operation types
  | unboundColumn source name => "no value bound for '" ++ source ++ "." ++ name ++ "'"
  | unboundParameter name => "no value bound for '@" ++ name ++ "'"
  | call => "unable to evaluate functions"
  | relation => "unable to evaluate relational expressions"
  | overflow operation => "arithmetic overflow in '" ++ operation.name ++ "'"
  | divisionByZero => "division by zero"

/-! ### Passes -/

inductive PassError where
  | joinPredicate (predicate : Expr)
  /-- The two-valued form of a comparison cannot be built. -/
  | comparison (whole : Expr) (cause : BuildError)
  /-- A node of the simplified expression cannot be built. -/
  | simplify (whole : Expr) (cause : BuildError)
deriving DecidableEq

def PassError.message : PassError → String
  | joinPredicate predicate =>
      "join predicate must be an equality or a conjunction of equalities, but was '" ++
        predicate.text ++ "'"
  | comparison _ _ => "failed to rewrite null semantics"
  | simplify _ _ => "failed to simplify expression"

/-- The remark a pass makes where it stops, and what stopped it. -/
def PassError.trail : PassError → Option (String × BuildError)
  | joinPredicate _ => none
  | comparison whole cause => some ("comparison: " ++ whole.text, cause)
  | simplify whole cause => some ("expression: " ++ whole.text, cause)

end NullLogic
