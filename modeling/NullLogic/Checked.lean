import NullLogic.Error
import NullLogic.Expr.Children
import NullLogic.Typing

/-!
# Nodes with checked operands

Each function of the namespace `Checked` makes a node of one kind, with the type
that follows from the operands, or says why it makes none. Operands are checked
by their types alone and are taken as they are; `binaryAs` checks them too and
carries the type it is told.

`Expr.withChildren` replaces the children of a node and only asks for the right
number of them.
-/

namespace NullLogic

namespace Checked

def constant (value : Value) (type : DataType) : Except BuildError Expr :=
  if value.isValidFor type then .ok (.constant value type)
  else .error (.valueType value type)

def column (source name : String) (type : DataType) (nullable : Bool) :
    Except BuildError Expr :=
  .ok (.column source name type nullable)

def parameter (name : String) (type : DataType) : Except BuildError Expr :=
  .ok (.parameter name type)

def unary (op : UnaryOp) (operand : Expr) : Except BuildError Expr :=
  match op.resultType? operand.dataType with
  | some type => .ok (.unary op operand type)
  | none => .error (.operandTypes (.unary op) [operand.dataType])

def binary (op : BinaryOp) (left right : Expr) : Except BuildError Expr :=
  match op.resultType? left.dataType right.dataType with
  | some type => .ok (.binary op left right type)
  | none => .error (.operandTypes (.binary op) [left.dataType, right.dataType])

/-- The operands are checked as by `binary`, but the result is declared to be of
the given type. -/
def binaryAs (op : BinaryOp) (left right : Expr) (type : DataType) : Except BuildError Expr :=
  match op.resultType? left.dataType right.dataType with
  | some _ => .ok (.binary op left right type)
  | none => .error (.operandTypes (.binary op) [left.dataType, right.dataType])

def like (subject pattern : Expr) (escape : Option Expr) : Except BuildError Expr :=
  let types := (subject :: pattern :: escape.toList).map Expr.dataType
  if types.all DataType.isString then .ok (.like subject pattern escape)
  else .error (.operandTypes .like types)

def call (name : String) (receiver : Option Expr) (args : List Expr) (type : DataType) :
    Except BuildError Expr :=
  .ok (.call name receiver args type)

/-- What the tests of a `CASE` are compared with, or have to be in its absence. -/
def testType (operand : Option Expr) : DataType :=
  (operand.map Expr.dataType).getD .boolean

def resultTypes (clauses : List (Clause Expr)) (otherwise : Option Expr) : List DataType :=
  clauses.map (fun clause => clause.result.dataType) ++ (otherwise.map Expr.dataType).toList

/-- The tests are checked in order, then the results together. -/
def caseWhen (operand : Option Expr) (clauses : List (Clause Expr)) (otherwise : Option Expr) :
    Except BuildError Expr := do
  if clauses.isEmpty then
    throw (.operandTypes .caseWhen [])
  let expected := testType operand
  let misfit? := clauses.find? fun clause =>
    (expected.commonType? clause.test.dataType).isNone
  if let some clause := misfit? then
    throw (.operandTypes .caseWhen [expected, clause.test.dataType])
  match DataType.commonTypeOfAll? (resultTypes clauses otherwise) with
  | some type => return .caseWhen operand clauses otherwise type
  | none => throw (.operandTypes .caseWhen (resultTypes clauses otherwise))

def table (name : String) (label : Option String) : Except BuildError Expr :=
  .ok (.table name label)

def join (kind : JoinKind) (source predicate : Expr) : Except BuildError Expr :=
  if !source.isTable then .error (.joinedNonTable source)
  else if !predicate.isEquiPredicate then .error (.joinPredicate predicate)
  else .ok (.join kind source predicate)

/-! ### Shorthands -/

def bool (b : Bool) : Except BuildError Expr :=
  constant (.bool b) .boolean

def not (operand : Expr) : Except BuildError Expr :=
  unary .not operand

def isNull (operand : Expr) : Except BuildError Expr :=
  unary .isNull operand

def isNotNull (operand : Expr) : Except BuildError Expr :=
  unary .isNotNull operand

def negate (operand : Expr) : Except BuildError Expr :=
  unary .negate operand

def equal (left right : Expr) : Except BuildError Expr :=
  binary .equal left right

def notEqual (left right : Expr) : Except BuildError Expr :=
  binary .notEqual left right

def and (left right : Expr) : Except BuildError Expr :=
  binary .and left right

def or (left right : Expr) : Except BuildError Expr :=
  binary .or left right

def coalesce (left right : Expr) : Except BuildError Expr :=
  binary .coalesce left right

end Checked

/-- The node with other children. Their types are not looked at. -/
def Expr.withChildren (e : Expr) (news : List Expr) : Except BuildError Expr :=
  if e.children.length = news.length then .ok (e.refill news)
  else .error (.childCount e.kind e.children.length news.length)

theorem Expr.withChildren_children (e : Expr) : e.withChildren e.children = .ok e := by
  simp [withChildren]

end NullLogic
