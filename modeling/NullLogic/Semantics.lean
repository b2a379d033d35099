import NullLogic.Error
import NullLogic.Like

/-!
# The meaning of operators

What each operator makes of values. `NULL` in an operand makes the result `NULL`,
with these exceptions: null tests tell whether it is there, `COALESCE` passes
over it, a connective is decided by an absorbing operand, and comparisons depend
on how `NULL` is read.

Under `NullReading.threeValued` a comparison with `NULL` is unknown, that is
`NULL`. Under `NullReading.asValue` it is true or false: `NULL` is a value equal
to itself only, and neither less nor greater than anything.

Arithmetic on integers is exact or refused; as soon as one operand is a number
of double precision, it is done in double precision.

`BinaryOp.apply` sends comparisons to `BinaryOp.compare` and arithmetic to
`BinaryOp.calculate`. Either looks at the operator again and has an internal error for
those that it is not made for. `Comparison.apply` and `Arithmetic.apply` say what they
come to for the others, by group and without such a case; `apply_comparison` and
`apply_arithmetic` are the equations to calculate with.
-/

namespace NullLogic

inductive NullReading where
  | threeValued | asValue
deriving DecidableEq

/-- The integer, if it has 64 bits. -/
def bounded (n : Int) : Option Int :=
  if Int64.minValue.toInt ≤ n ∧ n ≤ Int64.maxValue.toInt then some n else none

/-- The value of an exact result, or else the overflow of the operation. -/
def intResult (operation : Operation) : Option Int → Except EvalError Value
  | some n => .ok (.int (Int64.ofInt n))
  | none => .error (.overflow operation)

/-! ### Unary operators -/

def UnaryOp.apply : UnaryOp → Value → Except EvalError Value
  | .test kind, v => .ok (.bool (kind.holds v.isNull))
  | _, .null => .ok .null
  | .not, .bool b => .ok (.bool !b)
  | .negate, .int n => intResult (.unary .negate) (bounded (-n.toInt))
  | .negate, .float x => .ok (.float (-x))
  | op, v => .error (.operandTypes (.unary op) [v.dataType])

/-! ### Comparisons -/

/-- What `BinaryOp.compare` comes to for a comparison. -/
def Comparison.apply (kind : Comparison) (reading : NullReading) (v w : Value) :
    Except EvalError Value :=
  if v.isNull || w.isNull then
    match reading with
    | .threeValued => .ok .null
    | .asValue => .ok (.bool (kind.holdsOfNull (v.isNull && w.isNull)))
  else
    match v.compare? w with
    | some o => .ok (.bool (kind.holds o))
    | none =>
        .error (.operandTypes (.binary (.comparison kind)) [v.dataType, w.dataType])

namespace BinaryOp

/-- The outcome of an operator that is a comparison. An operator that is none is noticed
only where there is an order to ask about. -/
def compare (op : BinaryOp) (reading : NullReading) (v w : Value) : Except EvalError Value :=
  if v.isNull || w.isNull then
    match reading with
    | .threeValued => .ok .null
    | .asValue =>
        match op with
        | equal => .ok (.bool (v.isNull && w.isNull))
        | notEqual => .ok (.bool !(v.isNull && w.isNull))
        | _ => .ok (.bool false)
  else
    match v.compare? w with
    | none => .error (.operandTypes (.binary op) [v.dataType, w.dataType])
    | some o =>
        match op with
        | equal => .ok (.bool (o == .eq))
        | notEqual => .ok (.bool (o != .eq))
        | less => .ok (.bool (o == .lt))
        | lessEqual => .ok (.bool (o != .gt))
        | greater => .ok (.bool (o == .gt))
        | greaterEqual => .ok (.bool (o != .lt))
        | op => .error (.internal ("not a comparison: " ++ op.longName))

theorem compare_comparison (kind : Comparison) (reading : NullReading) (v w : Value) :
    (comparison kind).compare reading v w = kind.apply reading v w := by
  unfold compare Comparison.apply
  split
  · cases reading with
    | threeValued => rfl
    | asValue => cases kind <;> rfl
  · cases v.compare? w with
    | none => rfl
    | some o => cases kind <;> rfl

end BinaryOp

/-! ### Connectives -/

/-- An unknown truth value is `NULL`. -/
def Value.ofTruth : Option Bool → Value
  | none => .null
  | some b => .bool b

def Connective.truth (kind : Connective) : Value → Except EvalError (Option Bool)
  | .null => .ok none
  | .bool b => .ok (some b)
  | v => .error (.operandTypes (.binary (.connective kind)) [v.dataType])

/-- Both operands have to be truth values, also where one decides. -/
def Connective.evaluate (kind : Connective) (v w : Value) : Except EvalError Value := do
  let p ← kind.truth v
  let q ← kind.truth w
  return Value.ofTruth (kind.apply p q)

/-! ### Arithmetic -/

namespace Arithmetic

/-- Whether a zero on the right has no result. -/
def divides : Arithmetic → Bool
  | divide | modulo => true
  | _ => false

/-- The exact result for integers, if it is in range. Division truncates towards
zero, and the remainder has the sign of the dividend; there is a remainder only
where the quotient is in range. -/
def onInts (kind : Arithmetic) (a b : Int) : Option Int :=
  match kind with
  | add => bounded (a + b)
  | subtract => bounded (a - b)
  | multiply => bounded (a * b)
  | divide => bounded (a.tdiv b)
  | modulo => (bounded (a.tdiv b)).map fun _ => a.tmod b

def onFloats (kind : Arithmetic) (x y : Float) : Float :=
  match kind with
  | add => x + y
  | subtract => x - y
  | multiply => x * y
  | divide => x / y
  | modulo => Binary64.remainder x y

/-- What `BinaryOp.calculate` comes to for an arithmetic operator. -/
def apply (kind : Arithmetic) (v w : Value) : Except EvalError Value :=
  if v.isNull || w.isNull then .ok .null
  else
    match v, w with
    | .int a, .int b =>
        if kind.divides && b = 0 then .error .divisionByZero
        else intResult (.binary (.arithmetic kind)) (kind.onInts a.toInt b.toInt)
    | v, w =>
        match v.toFloat?, w.toFloat? with
        | some x, some y => .ok (.float (kind.onFloats x y))
        | _, _ => .error (.operandTypes (.binary (.arithmetic kind)) [v.dataType, w.dataType])

end Arithmetic

namespace BinaryOp

/-- The outcome of an operator that is arithmetic, on integers. -/
def calculateInts (op : BinaryOp) (a b : Int64) : Except EvalError Value :=
  match op with
  | add => intResult (.binary op) (bounded (a.toInt + b.toInt))
  | subtract => intResult (.binary op) (bounded (a.toInt - b.toInt))
  | multiply => intResult (.binary op) (bounded (a.toInt * b.toInt))
  | divide =>
      if b = 0 then .error .divisionByZero
      else intResult (.binary op) (bounded (a.toInt.tdiv b.toInt))
  | modulo =>
      if b = 0 then .error .divisionByZero
      else intResult (.binary op) ((bounded (a.toInt.tdiv b.toInt)).map fun _ =>
        a.toInt.tmod b.toInt)
  | op => .error (.internal ("not arithmetic: " ++ op.longName))

/-- The outcome of an operator that is arithmetic, in double precision. -/
def calculateFloats (op : BinaryOp) (x y : Float) : Except EvalError Value :=
  match op with
  | add => .ok (.float (x + y))
  | subtract => .ok (.float (x - y))
  | multiply => .ok (.float (x * y))
  | divide => .ok (.float (x / y))
  | modulo => .ok (.float (Binary64.remainder x y))
  | op => .error (.internal ("not arithmetic: " ++ op.longName))

/-- The outcome of an operator that is arithmetic. An operator that is not is noticed only
where there are two numbers. -/
def calculate (op : BinaryOp) (v w : Value) : Except EvalError Value :=
  if v.isNull || w.isNull then .ok .null
  else
    match v, w with
    | .int a, .int b => op.calculateInts a b
    | v, w =>
        match v.toFloat?, w.toFloat? with
        | some x, some y => op.calculateFloats x y
        | _, _ => .error (.operandTypes (.binary op) [v.dataType, w.dataType])

theorem calculateInts_arithmetic (kind : Arithmetic) (a b : Int64) :
    (arithmetic kind).calculateInts a b =
      if kind.divides && b = 0 then .error .divisionByZero
      else intResult (.binary (.arithmetic kind)) (kind.onInts a.toInt b.toInt) := by
  cases kind <;> simp [calculateInts, Arithmetic.divides, Arithmetic.onInts]

theorem calculateFloats_arithmetic (kind : Arithmetic) (x y : Float) :
    (arithmetic kind).calculateFloats x y = .ok (.float (kind.onFloats x y)) := by
  cases kind <;> rfl

theorem calculate_arithmetic (kind : Arithmetic) (v w : Value) :
    (arithmetic kind).calculate v w = kind.apply v w := by
  simp only [calculate, Arithmetic.apply, calculateInts_arithmetic, calculateFloats_arithmetic]

/-! ### All binary operators -/

def apply (op : BinaryOp) (reading : NullReading) (v w : Value) : Except EvalError Value :=
  match op with
  | connective kind => kind.evaluate v w
  | coalesce => .ok (if v.isNull then w else v)
  | op => if op.isComparison then op.compare reading v w else op.calculate v w

variable (reading : NullReading) (v w : Value)

@[simp] theorem apply_comparison (kind : Comparison) :
    (comparison kind).apply reading v w = kind.apply reading v w := by
  simp [apply, compare_comparison]

@[simp] theorem apply_connective (kind : Connective) :
    (connective kind).apply reading v w = kind.evaluate v w := rfl

@[simp] theorem apply_coalesce :
    coalesce.apply reading v w = .ok (if v.isNull then w else v) := rfl

@[simp] theorem apply_arithmetic (kind : Arithmetic) :
    (arithmetic kind).apply reading v w = kind.apply v w := by
  simp [apply, calculate_arithmetic]

end BinaryOp

/-! ### Patterns -/

namespace Like

/-- The escape character that a value declares: a text of that one character. -/
def escapeOf? : Value → Option Char
  | .string s =>
      match s.toList with
      | [c] => some c
      | _ => none
  | _ => none

/-- The outcome of `LIKE` for operands of the right kinds. -/
def outcome? (subject pattern : Value) (escape : Option Value) : Option Bool :=
  match subject, pattern, escape with
  | .string s, .string p, none => some (holds s p none)
  | .string s, .string p, some e => (escapeOf? e).map fun c => holds s p (some c)
  | _, _, _ => none

def apply (subject pattern : Value) (escape : Option Value) : Except EvalError Value :=
  let operands := subject :: pattern :: escape.toList
  if operands.any Value.isNull then .ok .null
  else
    match outcome? subject pattern escape with
    | some b => .ok (.bool b)
    | none => .error (.operandTypes .like (operands.map Value.dataType))

end Like

/-! ### Branches -/

/-- Whether a branch of a `CASE` is taken: its test equals the operand, or is true
where there is no operand. -/
def isTaken (reading : NullReading) (operand : Option Value) (test : Value) :
    Except EvalError Bool :=
  match operand with
  | some v => (BinaryOp.equal.compare reading v test).map (· = .bool true)
  | none => .ok (test = .bool true)

theorem isTaken_some (reading : NullReading) (v test : Value) :
    isTaken reading (some v) test =
      (Comparison.equal.apply reading v test).map fun outcome => decide (outcome = .bool true) := by
  rw [← BinaryOp.compare_comparison]
  rfl

end NullLogic
