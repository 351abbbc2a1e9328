import ScriptHost.Numeric.Binary64

/-!
# The shortest decimal that reads back

A double stands for all the reals that round to it, an interval around its value.  It is written as
the decimal with the fewest digits inside this interval.

* `Interval.of` is the interval: half way to the two neighbours, ends included if the significand is
  even, because a tie between two doubles goes to the even one.
* `Interval.pick` looks at one grid of decimals, the multiples of a power of ten, and takes the
  neighbour of the value on that grid which lies in the interval; of two, the nearer one, and the
  larger one of a tie.
* `shortest` goes from coarse grids to fine ones, one digit more each time, and takes the first hit.
  Seventeen digits always suffice.

All of it is exact arithmetic on natural numbers.  `Binary64.display` writes the digits without an
exponent and without a fraction that is zero.
-/

set_option autoImplicit false

namespace ScriptHost

/-- The decimal number `coefficient * 10 ^ exponent`. -/
structure Decimal where
  coefficient : Nat
  exponent : Int
  deriving DecidableEq, Repr

namespace Decimal

/-- The reals that round to a number, as numerators over one denominator. -/
structure Interval where
  /-- The lower end. -/
  low : Nat
  /-- The number itself. -/
  value : Nat
  /-- The upper end. -/
  high : Nat
  /-- The common denominator. -/
  den : Nat
  /-- Whether the ends belong to the interval. -/
  closed : Bool
  deriving DecidableEq, Repr

namespace Interval

/-- The interval of the absolute value of a finite double.  In units of a quarter of its last place
the number is four times its significand. -/
def of (x : Binary64) : Interval :=
  let m := x.significand
  let unit := x.scale - 2
  let times := 1 <<< unit.toNat
  { low := (if x.isNarrowBelow then 4 * m - 1 else 4 * m - 2) * times
    value := 4 * m * times
    high := (4 * m + 2) * times
    den := 1 <<< (-unit).toNat
    closed := m % 2 = 0 }

/-- The interval with `10 ^ exponent` as the unit. -/
def rescale (i : Interval) (exponent : Int) : Interval :=
  let times := Nat.pow 10 (-exponent).toNat
  { i with
    low := i.low * times
    value := i.value * times
    high := i.high * times
    den := i.den * Nat.pow 10 exponent.toNat }

/-- Whether the natural number `n` lies in the interval. -/
def contains (i : Interval) (n : Nat) : Bool :=
  if i.closed then i.low ≤ n * i.den && n * i.den ≤ i.high
  else i.low < n * i.den && n * i.den < i.high

/-- The natural number in the interval that is nearest to its value, if one of the two neighbours of
the value lies in it.  A tie goes up. -/
def pick (i : Interval) : Option Nat :=
  let below := i.value / i.den
  let above := below + 1
  match i.contains below, i.contains above with
  | true, true =>
    if above * i.den - i.value ≤ i.value - below * i.den then some above else some below
  | true, false => some below
  | false, true => some above
  | false, false => none

/-- The number of decimal digits of the value before the point; for a value below one, minus the
number of zeros after the point. -/
def magnitude (i : Interval) : Int :=
  if i.den ≤ i.value then ((Nat.toDigits 10 (i.value / i.den)).length : Int)
  else 1 - ((Nat.toDigits 10 ((i.den - 1) / i.value)).length : Int)

/-- The first hit on the grids of `digits`, `digits + 1`, … digits, over `grids` of them. -/
def search (i : Interval) (digits : Nat) : Nat → Option Decimal
  | 0 => none
  | grids + 1 =>
    let exponent := i.magnitude - digits
    match (i.rescale exponent).pick with
    | some n => some ⟨n, exponent⟩
    | none => search i (digits + 1) grids

end Interval

/-- The decimal with the fewest digits that reads back as the double `x`, which has to be finite and
not zero. -/
def shortest (x : Binary64) : Decimal :=
  ((Interval.of x).search 1 17).getD ⟨0, 0⟩

/-- The number without an exponent: all of its digits, a point if there is a fraction, and no zero at
the end of the fraction. -/
def positional (d : Decimal) : String :=
  if 0 ≤ d.exponent then toString (d.coefficient * Nat.pow 10 d.exponent.toNat)
  else
    let places := (-d.exponent).toNat
    let unit := Nat.pow 10 places
    let whole := d.coefficient / unit
    let digits := Nat.toDigits 10 (d.coefficient % unit)
    let padded := List.replicate (places - digits.length) '0' ++ digits
    let fraction := (padded.reverse.dropWhile (· = '0')).reverse
    if fraction = [] then toString whole else toString whole ++ "." ++ String.ofList fraction

end Decimal

/-- The text of a number: its shortest decimal, without an exponent. -/
def Binary64.display (x : Binary64) : String :=
  let sign := if x.isNegative then "-" else ""
  if x.isNaN then "NaN"
  else if x.isInfinite then sign ++ "inf"
  else if x.isZero then sign ++ "0"
  else sign ++ (Decimal.shortest x).positional

end ScriptHost
