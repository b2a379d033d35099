import NullLogic.DataType
import NullLogic.Decimal.Layout

/-!
# Values

A `Value` is what a constant holds and what an expression evaluates to: a truth
value, an integer of 64 bits, a double precision number, a text, or `null`.

`Value.order` is a total order on all values, by kind first. `Value.same` is the
equality that belongs to it, under which both zeros are one number; equality of
the type `Value` keeps them apart.

`Value.compare?` is how the comparison operators relate two values. It is
defined only on values of one kind and between the two kinds of numbers, an
integer being rounded to double precision first, and never on `null`.
-/

namespace NullLogic

inductive Value where
  | null
  | bool (b : Bool)
  | int (n : Int64)
  | float (x : Float)
  | string (s : String)
deriving DecidableEq

namespace Value

def isNull : Value → Bool
  | null => true
  | _ => false

@[simp] theorem isNull_eq_true_iff (v : Value) : v.isNull = true ↔ v = null := by
  cases v <;> simp [isNull]

theorem isNull_eq_false_iff (v : Value) : v.isNull = false ↔ v ≠ null := by
  cases v <;> simp [isNull]

def toBool? : Value → Option Bool
  | bool b => some b
  | _ => none

@[simp] theorem toBool?_eq_some_iff (v : Value) (b : Bool) :
    v.toBool? = some b ↔ v = bool b := by
  cases v <;> simp [toBool?]

/-- The value of a number in double precision. -/
def toFloat? : Value → Option Float
  | int n => some n.toFloat
  | float x => some x
  | _ => none

/-! ### Types -/

/-- The type of a constant that holds the value and has been given no other. -/
def dataType : Value → DataType
  | null => .null
  | bool _ => .boolean
  | int _ => .int64
  | float _ => .float64
  | string _ => .utf8

/-- Whether a constant of type `t` may hold the value. -/
def isValidFor (v : Value) (t : DataType) : Bool :=
  match v with
  | null => true
  | bool _ => t = .boolean
  | int _ => t.isInteger
  | float _ => t.isFloating
  | string _ => t.isText

/-! ### Orders -/

def kindRank : Value → Nat
  | null => 0
  | bool _ => 1
  | int _ => 2
  | float _ => 3
  | string _ => 4

def order : Value → Value → Ordering
  | bool a, bool b => compare a b
  | int a, int b => compare a.toInt b.toInt
  | float x, float y => compare (Binary64.rank x) (Binary64.rank y)
  | string s, string t => compare s t
  | v, w => compare v.kindRank w.kindRank

def same (v w : Value) : Bool :=
  v.order w == .eq

def compare? : Value → Value → Option Ordering
  | bool a, bool b => some (compare a b)
  | int a, int b => some (compare a.toInt b.toInt)
  | float x, float y => some (compare (Binary64.rank x) (Binary64.rank y))
  | int a, float y => some (compare (Binary64.rank a.toFloat) (Binary64.rank y))
  | float x, int b => some (compare (Binary64.rank x) (Binary64.rank b.toFloat))
  | string s, string t => some (compare s t)
  | _, _ => none

@[simp] theorem compare?_null_left (v : Value) : compare? null v = none := by
  cases v <;> rfl

@[simp] theorem compare?_null_right (v : Value) : compare? v null = none := by
  cases v <;> rfl

/-! ### Text -/

/-- Numbers are positional from `0.0001` up to sixteen digits before the point,
and whole ones end in `.0`. -/
def floatLayout : Decimal.Layout :=
  ⟨-4, 15, ".0"⟩

/-- A quote inside a text is written twice. -/
def doubleQuotes : List Char → List Char
  | [] => []
  | c :: cs => if c = '\'' then c :: c :: doubleQuotes cs else c :: doubleQuotes cs

def text : Value → String
  | null => "NULL"
  | bool true => "TRUE"
  | bool false => "FALSE"
  | int n => toString n.toInt
  | float x => floatLayout.float x
  | string s => "'" ++ String.ofList (doubleQuotes s.toList) ++ "'"

end Value

end NullLogic
