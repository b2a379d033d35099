/-!
# Operators

A unary operator is `NOT`, a null test or the sign of a number. A binary
operator is a comparison, a connective, `COALESCE` or an arithmetic operation;
these groups are types of their own, so that what is said of comparisons, such
as `Comparison.complement`, is total. What looks at all binary operators alike, such
as `BinaryOp.isComparison` and `BinaryOp.complement?`, lists them one by one.

The `name` of an operator identifies it in errors, its `symbol` is how it is
written between two operands.
-/

namespace NullLogic

inductive NullTest where
  | isNull | isNotNull
deriving DecidableEq

inductive UnaryOp where
  | not
  | test (kind : NullTest)
  | negate
deriving DecidableEq

inductive Comparison where
  | equal | notEqual | less | lessEqual | greater | greaterEqual
deriving DecidableEq

inductive Connective where
  | and | or
deriving DecidableEq

inductive Arithmetic where
  | add | subtract | multiply | divide | modulo
deriving DecidableEq

inductive BinaryOp where
  | comparison (kind : Comparison)
  | connective (kind : Connective)
  | coalesce
  | arithmetic (kind : Arithmetic)
deriving DecidableEq

/-! ### Null tests -/

namespace NullTest

def complement : NullTest → NullTest
  | isNull => isNotNull
  | isNotNull => isNull

@[simp] theorem complement_complement (k : NullTest) : k.complement.complement = k := by
  cases k <;> rfl

/-- The outcome of the test on a value of which only is known whether it is `NULL`. -/
def holds : NullTest → Bool → Bool
  | isNull, null => null
  | isNotNull, null => !null

theorem holds_complement (k : NullTest) (null : Bool) :
    k.complement.holds null = !k.holds null := by
  cases k <;> cases null <;> rfl

end NullTest

namespace UnaryOp

@[match_pattern] abbrev isNull : UnaryOp := test .isNull

@[match_pattern] abbrev isNotNull : UnaryOp := test .isNotNull

def name : UnaryOp → String
  | not => "not"
  | isNull => "is_null"
  | isNotNull => "is_not_null"
  | negate => "negate"

end UnaryOp

/-! ### Comparisons -/

namespace Comparison

/-- The comparison that holds of two values exactly when this one does not. -/
def complement : Comparison → Comparison
  | equal => notEqual
  | notEqual => equal
  | less => greaterEqual
  | lessEqual => greater
  | greater => lessEqual
  | greaterEqual => less

@[simp] theorem complement_complement (k : Comparison) : k.complement.complement = k := by
  cases k <;> rfl

/-- The outcome of the comparison of two values in the given order. -/
def holds : Comparison → Ordering → Bool
  | equal, o => o == .eq
  | notEqual, o => o != .eq
  | less, o => o == .lt
  | lessEqual, o => o != .gt
  | greater, o => o == .gt
  | greaterEqual, o => o != .lt

theorem holds_complement (k : Comparison) (o : Ordering) :
    k.complement.holds o = !k.holds o := by
  cases k <;> cases o <;> rfl

/-- The outcome of the comparison of `NULL` with something, for readings in which
`NULL` is a value equal to itself only; `both` tells whether both sides are. -/
def holdsOfNull : Comparison → Bool → Bool
  | equal, both => both
  | notEqual, both => !both
  | _, _ => false

/-- Equality or its complement. -/
def equality (positive : Bool) : Comparison :=
  if positive then equal else notEqual

theorem equality_inj {p q : Bool} : equality p = equality q ↔ p = q := by
  cases p <;> cases q <;> simp [equality]

@[simp] theorem complement_equality (positive : Bool) :
    (equality positive).complement = equality !positive := by
  cases positive <;> rfl

def name : Comparison → String
  | equal => "eq"
  | notEqual => "neq"
  | less => "lt"
  | lessEqual => "lte"
  | greater => "gt"
  | greaterEqual => "gte"

def symbol : Comparison → String
  | equal => "="
  | notEqual => "<>"
  | less => "<"
  | lessEqual => "<="
  | greater => ">"
  | greaterEqual => ">="

end Comparison

/-! ### Connectives -/

namespace Connective

def dual : Connective → Connective
  | and => or
  | or => and

@[simp] theorem dual_dual (k : Connective) : k.dual.dual = k := by
  cases k <;> rfl

/-- The operand that decides the connective, whatever the other one is. -/
def absorbing : Connective → Bool
  | and => false
  | or => true

@[simp] theorem absorbing_dual (k : Connective) : k.dual.absorbing = !k.absorbing := by
  cases k <;> rfl

/-- Three-valued truth: the absorbing value decides, otherwise an unknown operand
makes the result unknown. -/
def apply (k : Connective) : Option Bool → Option Bool → Option Bool
  | some p, some q => if p = k.absorbing then some p else some q
  | some p, none => if p = k.absorbing then some p else none
  | none, some q => if q = k.absorbing then some q else none
  | none, none => none

def name : Connective → String
  | and => "logical_and"
  | or => "logical_or"

def symbol : Connective → String
  | and => "AND"
  | or => "OR"

end Connective

namespace Arithmetic

def name : Arithmetic → String
  | add => "add"
  | subtract => "sub"
  | multiply => "mul"
  | divide => "div"
  | modulo => "mod"

def symbol : Arithmetic → String
  | add => "+"
  | subtract => "-"
  | multiply => "*"
  | divide => "/"
  | modulo => "%"

end Arithmetic

namespace BinaryOp

@[match_pattern] abbrev equal : BinaryOp := comparison .equal

@[match_pattern] abbrev notEqual : BinaryOp := comparison .notEqual

@[match_pattern] abbrev less : BinaryOp := comparison .less

@[match_pattern] abbrev lessEqual : BinaryOp := comparison .lessEqual

@[match_pattern] abbrev greater : BinaryOp := comparison .greater

@[match_pattern] abbrev greaterEqual : BinaryOp := comparison .greaterEqual

@[match_pattern] abbrev and : BinaryOp := connective .and

@[match_pattern] abbrev or : BinaryOp := connective .or

@[match_pattern] abbrev add : BinaryOp := arithmetic .add

@[match_pattern] abbrev subtract : BinaryOp := arithmetic .subtract

@[match_pattern] abbrev multiply : BinaryOp := arithmetic .multiply

@[match_pattern] abbrev divide : BinaryOp := arithmetic .divide

@[match_pattern] abbrev modulo : BinaryOp := arithmetic .modulo

def name : BinaryOp → String
  | comparison kind => kind.name
  | connective kind => kind.name
  | coalesce => "coalesce"
  | arithmetic kind => kind.name

/-- `COALESCE` is written as a call, with this name in front. -/
def symbol : BinaryOp → String
  | comparison kind => kind.symbol
  | connective kind => kind.symbol
  | coalesce => "COALESCE"
  | arithmetic kind => kind.symbol

/-- The name of the operator in internal errors. -/
def longName : BinaryOp → String
  | equal => "Equal"
  | notEqual => "NotEqual"
  | less => "LessThan"
  | lessEqual => "LessThanOrEqual"
  | greater => "GreaterThan"
  | greaterEqual => "GreaterThanOrEqual"
  | and => "AndAlso"
  | or => "OrElse"
  | coalesce => "Coalesce"
  | add => "Add"
  | subtract => "Subtract"
  | multiply => "Multiply"
  | divide => "Divide"
  | modulo => "Modulo"

/-! ### Groups of operators -/

def isComparison : BinaryOp → Bool
  | equal | notEqual | less | lessEqual | greater | greaterEqual => true
  | _ => false

def isLogical : BinaryOp → Bool
  | and | or => true
  | _ => false

def isArithmetic : BinaryOp → Bool
  | add | subtract | multiply | divide | modulo => true
  | _ => false

/-- The operator with the opposite outcome, for comparisons. -/
def complement? : BinaryOp → Option BinaryOp
  | equal => some notEqual
  | notEqual => some equal
  | less => some greaterEqual
  | lessEqual => some greater
  | greater => some lessEqual
  | greaterEqual => some less
  | _ => none

@[simp] theorem isComparison_iff (op : BinaryOp) :
    op.isComparison = true ↔ ∃ kind, op = comparison kind := by
  cases op with
  | comparison kind => cases kind <;> simp [isComparison]
  | connective kind => cases kind <;> simp [isComparison]
  | coalesce => simp [isComparison]
  | arithmetic kind => cases kind <;> simp [isComparison]

@[simp] theorem isLogical_iff (op : BinaryOp) :
    op.isLogical = true ↔ ∃ kind, op = connective kind := by
  cases op with
  | comparison kind => cases kind <;> simp [isLogical]
  | connective kind => cases kind <;> simp [isLogical]
  | coalesce => simp [isLogical]
  | arithmetic kind => cases kind <;> simp [isLogical]

@[simp] theorem isArithmetic_iff (op : BinaryOp) :
    op.isArithmetic = true ↔ ∃ kind, op = arithmetic kind := by
  cases op with
  | comparison kind => cases kind <;> simp [isArithmetic]
  | connective kind => cases kind <;> simp [isArithmetic]
  | coalesce => simp [isArithmetic]
  | arithmetic kind => cases kind <;> simp [isArithmetic]

/-- An operator that is in none of the other groups is arithmetic. -/
theorem isArithmetic_of_others {op : BinaryOp} (hcomparison : op.isComparison = false)
    (hlogical : op.isLogical = false) (hcoalesce : op ≠ coalesce) : op.isArithmetic = true := by
  rw [← Bool.not_eq_true] at hcomparison hlogical
  cases op <;> simp_all

theorem complement?_comparison (kind : Comparison) :
    (comparison kind).complement? = some (comparison kind.complement) := by
  cases kind <;> rfl

theorem isSome_complement? (op : BinaryOp) : op.complement?.isSome = op.isComparison := by
  cases op with
  | comparison kind => cases kind <;> rfl
  | connective kind => cases kind <;> rfl
  | coalesce => rfl
  | arithmetic kind => cases kind <;> rfl

theorem complement?_eq_some_iff {op op' : BinaryOp} :
    op.complement? = some op' ↔
      ∃ kind : Comparison, op = comparison kind ∧ op' = comparison kind.complement := by
  constructor
  · intro h
    obtain ⟨kind, rfl⟩ : ∃ kind, op = comparison kind := by
      rw [← isComparison_iff, ← isSome_complement?, h]
      rfl
    rw [complement?_comparison] at h
    exact ⟨kind, rfl, (Option.some.inj h).symm⟩
  · rintro ⟨kind, rfl, rfl⟩
    exact complement?_comparison kind

end BinaryOp

end NullLogic
