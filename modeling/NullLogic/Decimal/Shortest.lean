/-!
# The shortest decimal of a binary number

`Magnitude` is a positive number `m * 2 ^ q` of a binary format together with
the knowledge whether the gap below it is half the gap above it. The reals that
round to it form an interval, which reaches half way to either neighbour and
contains its ends exactly when `m` is even.

`Magnitude.shortest` is the decimal with the fewest digits in that interval. It
tries one grid `10 ^ p` after the other, from coarse to fine: if a grid meets
the interval at all, then at one of the two grid points around the number, so
`onGrid?` looks only at these. Of two hits the nearer one is taken, and half
way between them the upper one.
-/

namespace NullLogic

namespace Decimal

/-- The decimal `coefficient * 10 ^ exponent`. -/
structure Numeral where
  coefficient : Nat
  exponent : Int
deriving DecidableEq

structure Magnitude where
  m : Nat
  q : Int
  /-- The next smaller number is only half as far away as the next larger one. -/
  narrowBelow : Bool

namespace Magnitude

/-- Quarters of `2 ^ q` times this, over `gridDenominator`, are grid steps. -/
def gridNumerator (x : Magnitude) (p : Int) : Nat :=
  Nat.pow 2 (x.q - 2).toNat * Nat.pow 10 (-p).toNat

def gridDenominator (x : Magnitude) (p : Int) : Nat :=
  Nat.pow 2 (2 - x.q).toNat * Nat.pow 10 p.toNat

/-- The lower end of the rounding interval, in quarters of `2 ^ q`. -/
def low (x : Magnitude) : Nat :=
  4 * x.m - if x.narrowBelow then 1 else 2

/-- The upper end of the rounding interval, in quarters of `2 ^ q`. -/
def high (x : Magnitude) : Nat :=
  4 * x.m + 2

/-- Whether `k * 10 ^ p` rounds to the number. -/
def readsBack (x : Magnitude) (p : Int) (k : Nat) : Bool :=
  let lo := x.low * x.gridNumerator p
  let hi := x.high * x.gridNumerator p
  let point := k * x.gridDenominator p
  if x.m % 2 = 0 then lo ≤ point && point ≤ hi else lo < point && point < hi

/-- The point of the grid `10 ^ p` next to the number that rounds to it. -/
def onGrid? (x : Magnitude) (p : Int) : Option Nat :=
  let exact := 4 * x.m * x.gridNumerator p
  let k := exact / x.gridDenominator p
  match x.readsBack p k, x.readsBack p (k + 1) with
  | true, true =>
      if 2 * exact < (2 * k + 1) * x.gridDenominator p then some k else some (k + 1)
  | true, false => some k
  | false, true => some (k + 1)
  | false, false => none

/-- A power of ten above the number, by less than three places. -/
def top (x : Magnitude) : Int :=
  (x.q + x.m.log2 + 1) * 30103 / 100000 + 2

/-- All digits of the number. -/
def exact (x : Magnitude) : Numeral :=
  ⟨x.m * Nat.pow 2 x.q.toNat * Nat.pow 5 (-x.q).toNat, min x.q 0⟩

/-- Seventeen digits always suffice for double precision, so the grids tried
here reach far enough for it; beyond them the exact decimal is taken. -/
def shortest (x : Magnitude) : Numeral :=
  ((List.range 22).findSome? fun (i : Nat) =>
    (x.onGrid? (x.top - i)).map fun k => ⟨k, x.top - i⟩).getD x.exact

end Magnitude

end Decimal

end NullLogic
