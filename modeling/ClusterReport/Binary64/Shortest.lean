/-
**The shortest decimal of a binary number.**

Among the decimals that a correctly rounding reader takes back to a given finite number, the
shortest has the fewest digits, and of those it lies nearest to the number.  The search walks the
decimal grids from one digit up to seventeen and tests, on each, the two neighbours of the number;
everything is exact arithmetic on natural numbers.

Main definitions:

* `ClusterReport.Binary64.Digits` — decimal digits with the exponent of the first one;
* `ClusterReport.Binary64.ReadBack` — the interval of ratios that round to a given magnitude;
* `ClusterReport.Binary64.shortest` — the shortest digits that read back.
-/

import ClusterReport.Binary64.Basic

set_option relaxedAutoImplicit false
set_option autoImplicit false

namespace ClusterReport.Binary64

/-- Decimal digits `d₀.d₁d₂… × 10 ^ exponent`, without zeros at the end. -/
structure Digits where
  digits : List Char
  exponent : Int
deriving DecidableEq

/-- Which of two equally near decimals is taken. -/
inductive Tie where
  | up
  | even
deriving DecidableEq

/-! ### The interval that reads back -/

/-- The ratios that round to a magnitude, in quarters of a unit; the ends belong to it when the
magnitude's significand is even. -/
structure ReadBack where
  low : Nat
  high : Nat
  closed : Bool

/-- The interval around a magnitude: half a spacing to either side, and a quarter below a power of
two, where the spacing halves. -/
def ReadBack.of (units : Nat) : ReadBack :=
  let step := spacing units
  let lowerGap := if 1 < step && units = Nat.pow 2 52 * step then step else 2 * step
  ⟨4 * units - lowerGap, 4 * units + 2 * step, units / step % 2 = 0⟩

/-! ### Decimal grids -/

/-- A decimal grid laid over a magnitude: the magnitude is `num / den` points, and a quarter of a
unit is `quarter / (4 * den)` points. -/
structure Grid where
  num : Nat
  den : Nat
  quarter : Nat

/-- The grid of the multiples of `10 ^ exponent`. -/
def Grid.of (units : Nat) (exponent : Int) : Grid :=
  let fine := Nat.pow 10 (-exponent).toNat
  let coarse := Nat.pow 10 exponent.toNat
  ⟨units * fine, unitsPerOne * coarse, fine⟩

def Grid.contains (g : Grid) (r : ReadBack) (point : Nat) : Bool :=
  let place := point * (4 * g.den)
  if r.closed then r.low * g.quarter ≤ place && place ≤ r.high * g.quarter
  else r.low * g.quarter < place && place < r.high * g.quarter

/-- The neighbouring grid point of the magnitude that reads back, the nearer one if both do. -/
def Grid.pick? (g : Grid) (r : ReadBack) (tie : Tie) : Option Nat :=
  let below := g.num / g.den
  let twice := 2 * (g.num % g.den)
  match g.contains r below, g.contains r (below + 1) with
  | false, false => none
  | true, false => some below
  | false, true => some (below + 1)
  | true, true =>
    if twice < g.den then some below
    else if g.den < twice then some (below + 1)
    else match tie with
      | .up => some (below + 1)
      | .even => some (below + below % 2)

/-! ### The search -/

/-- The exponent of the first decimal digit of a positive magnitude. -/
def leadingExponent (units : Nat) : Int :=
  ((Nat.toDigits 10 (units * Nat.pow 10 340 / unitsPerOne)).length : Int) - 341

/-- A grid point as digits, without zeros at the end. -/
def Digits.ofPoint (point : Nat) (exponent : Int) : Digits :=
  let all := Nat.toDigits 10 point
  ⟨(all.reverse.dropWhile (· = '0')).reverse, exponent + all.length - 1⟩

/-- The shortest digits that read back as the positive magnitude. -/
def shortest (tie : Tie) (units : Nat) : Digits :=
  let leading := leadingExponent units
  let interval := ReadBack.of units
  let onGrid (places : Nat) : Option Digits :=
    let exponent := leading - places
    ((Grid.of units exponent).pick? interval tie).map (Digits.ofPoint · exponent)
  ((List.range 17).findSome? onGrid).getD ⟨['0'], 0⟩

end ClusterReport.Binary64
