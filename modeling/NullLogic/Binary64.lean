/-!
# Double precision numbers by their bits

A finite number is `± significand * 2 ^ exponent` with a natural significand
below `2 ^ 53`. `significand`, `exponent` and `isNegative` read these parts off
the bits, and `ofParts` puts them together again.

`rank` is an integer key of the total order on numbers in which both zeros are
one point and NaN, of which there is a single one, lies above infinity. It is
the order of comparisons; `Float` itself compares NaN with nothing.

`remainder` is the exact remainder of the division that truncates towards zero.
-/

namespace NullLogic

namespace Binary64

/-- The bits below the sign bit. -/
def magnitude (x : Float) : Nat :=
  x.toBits.toNat % Nat.pow 2 63

def isNegative (x : Float) : Bool :=
  Nat.pow 2 63 ≤ x.toBits.toNat

/-- The magnitude of infinity; above it lies NaN alone. -/
def infinity : Nat :=
  2047 * Nat.pow 2 52

def nan : Float :=
  Float.ofBits 0x7FF8000000000000

def isNaN (x : Float) : Bool :=
  infinity < magnitude x

/-! ### The total order -/

def rank (x : Float) : Int :=
  if isNaN x then (Nat.pow 2 63 : Nat)
  else if isNegative x then -(magnitude x : Int)
  else magnitude x

/-! ### Parts of a finite number -/

/-- The eleven exponent bits. -/
def biasedExponent (x : Float) : Nat :=
  magnitude x / Nat.pow 2 52

def fraction (x : Float) : Nat :=
  magnitude x % Nat.pow 2 52

/-- A number whose exponent bits are zero has no leading one. -/
def significand (x : Float) : Nat :=
  if biasedExponent x = 0 then fraction x else Nat.pow 2 52 + fraction x

def exponent (x : Float) : Int :=
  (max (biasedExponent x) 1 : Int) - 1075

/-- The number `± m * 2 ^ q`, for `m < 2 ^ 53` and `-1074 ≤ q`. The significand
is moved up as far as its width and the least exponent allow; after that the
exponent bits count the steps above the least exponent, and the leading one of
a significand of full width carries into them. -/
def ofParts (negative : Bool) (m : Nat) (q : Int) : Float :=
  let steps := (q + 1074).toNat
  let shift := if m = 0 then steps else min (52 - m.log2) steps
  let sign := if negative then Nat.pow 2 63 else 0
  Float.ofBits (sign + (steps - shift) * Nat.pow 2 52 + m * Nat.pow 2 shift).toUInt64

/-! ### Remainder -/

/-- The remainder of `x` by `y` has the sign of `x`. An infinite dividend or a
zero divisor has none; an infinite divisor leaves the dividend. -/
def remainder (x y : Float) : Float :=
  if isNaN x || isNaN y || magnitude x = infinity || magnitude y = 0 then nan
  else if magnitude y = infinity then x
  else
    let q := min (exponent x) (exponent y)
    let scaled (z : Float) : Nat := significand z * Nat.pow 2 (exponent z - q).toNat
    ofParts (isNegative x) (scaled x % scaled y) q

end Binary64

end NullLogic
