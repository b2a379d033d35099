import NullLogic.Operator
import NullLogic.DataType

/-!
# Types of operators

`UnaryOp.resultType?` and `BinaryOp.resultType?` give the type of an operator's
result from the types of its operands, and `none` where the operator is not
defined on them. `commonTypeOfAll?` is the type that the alternatives of a
`CASE` have in common.
-/

namespace NullLogic

def UnaryOp.resultType? (op : UnaryOp) (t : DataType) : Option DataType :=
  match op with
  | .not => if t.isBoolean then some .boolean else none
  | .test _ => some .boolean
  | .negate => if t.isNumeric || t = .null then some t else none

def BinaryOp.resultType? (op : BinaryOp) (s t : DataType) : Option DataType :=
  match op with
  | .comparison _ => (s.commonType? t).map fun _ => .boolean
  | .connective _ => if s.isBoolean && t.isBoolean then some .boolean else none
  | .coalesce => s.commonType? t
  | .arithmetic _ => (s.commonType? t).filter fun u => u.isNumeric || u = .null

/-- The type of the result depends on the group of the operator alone. The operators of the
last case are arithmetic, by `BinaryOp.isArithmetic_of_others`. -/
theorem BinaryOp.resultType?_eq (op : BinaryOp) (s t : DataType) :
    op.resultType? s t =
      if op.isLogical then if s.isBoolean && t.isBoolean then some .boolean else none
      else if op.isComparison then (s.commonType? t).map fun _ => .boolean
      else if op = coalesce then s.commonType? t
      else (s.commonType? t).filter fun u => u.isNumeric || u = .null := by
  cases op <;> simp [resultType?]

namespace DataType

/-- The types are met from the left, beginning with the type that gives way to all. -/
def commonTypeOfAll? (types : List DataType) : Option DataType :=
  types.foldlM commonType? null

@[simp] theorem commonTypeOfAll?_nil : commonTypeOfAll? [] = some null := rfl

theorem commonTypeOfAll?_cons (t : DataType) (types : List DataType) :
    commonTypeOfAll? (t :: types) = types.foldlM commonType? t := by
  simp [commonTypeOfAll?]

end DataType

end NullLogic
