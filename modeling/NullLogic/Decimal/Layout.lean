import NullLogic.Binary64
import NullLogic.Decimal.Shortest

/-!
# Decimal text

A `Layout` fixes how the digits of a number are written: positionally while the
power of ten of the first digit lies between `least` and `most`, with a mark at
the end of whole numbers, and in scientific form otherwise.

`Layout.float` writes a double precision number with the fewest digits that
read back as the same number.
-/

namespace NullLogic

namespace Decimal

namespace Numeral

/-- The digits, the most significant one first. -/
def digits (n : Numeral) : List Char :=
  Nat.toDigits 10 n.coefficient

/-- The power of ten of the first digit. -/
def leading (n : Numeral) : Int :=
  n.exponent + n.digits.length - 1

end Numeral

structure Layout where
  least : Int
  most : Int
  /-- What follows the last digit of a whole number. -/
  wholeMark : String

namespace Layout

def zeros (count : Int) : List Char :=
  List.replicate count.toNat '0'

def positional (layout : Layout) (n : Numeral) : String :=
  if 0 ≤ n.exponent then
    String.ofList (n.digits ++ zeros n.exponent) ++ layout.wholeMark
  else if 0 ≤ n.leading then
    let whole := (n.leading + 1).toNat
    String.ofList (n.digits.take whole) ++ "." ++ String.ofList (n.digits.drop whole)
  else
    "0." ++ String.ofList (zeros (-n.leading - 1) ++ n.digits)

/-- One digit before the point, and no point without digits after it. -/
def scientific (n : Numeral) : String :=
  let tail := n.digits.drop 1
  let mark := if tail.isEmpty then "" else "."
  String.ofList (n.digits.take 1) ++ mark ++ String.ofList tail ++ "e" ++ toString n.leading

def numeral (layout : Layout) (n : Numeral) : String :=
  if layout.least ≤ n.leading ∧ n.leading ≤ layout.most then layout.positional n
  else scientific n

/-- The size of a finite number other than zero. The number below a power of two
is nearer than the one above it, unless both have the least exponent. -/
def magnitudeOf (x : Float) : Magnitude :=
  ⟨Binary64.significand x, Binary64.exponent x,
    Binary64.fraction x = 0 && 1 < Binary64.biasedExponent x⟩

def unsigned (layout : Layout) (x : Float) : String :=
  if Binary64.magnitude x = Binary64.infinity then "inf"
  else if Binary64.magnitude x = 0 then "0" ++ layout.wholeMark
  else layout.numeral (magnitudeOf x).shortest

def float (layout : Layout) (x : Float) : String :=
  if Binary64.isNaN x then "NaN"
  else if Binary64.isNegative x then "-" ++ layout.unsigned x
  else layout.unsigned x

end Layout

end Decimal

end NullLogic
