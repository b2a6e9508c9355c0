/-
**The fewest digits that read back.**

A floating-point number stands for all reals that round to it.  On each decimal grid the two
neighbours of the number are tried; the coarsest grid with a neighbour that rounds to the number
gives the digits, the nearer neighbour if both do.

Main definitions:

* `Decimal.shortest` — digits and power of ten of a positive number given by its parts.
-/

import ApiContract.Decimal.Binary

set_option autoImplicit false

namespace ApiContract.Decimal

/-- The reals that round to a number, in quarters of its last place: lower end, number, upper
end. -/
structure Interval where
  /-- The lower end. -/
  low : Nat
  /-- The number itself. -/
  value : Nat
  /-- The upper end. -/
  high : Nat
  /-- Whether the ends belong to it. -/
  closed : Bool

/-- The interval of `mantissa * 2 ^ exponent`: half a place to both sides, and only a quarter down
where the places below are half as wide; the ends belong to it if the mantissa is even. -/
def interval (mantissa : Nat) (exponent : Int) : Interval :=
  { low :=
      if mantissa = leadingBit ∧ -1074 < exponent then 4 * mantissa - 1 else 4 * mantissa - 2
    value := 4 * mantissa
    high := 4 * mantissa + 2
    closed := mantissa % 2 = 0 }

/-- Whether `a / b` lies in the interval. -/
def Interval.contains (i : Interval) (a b : Nat) : Bool :=
  if i.closed then i.low * b ≤ a && a ≤ i.high * b else i.low * b < a && a < i.high * b

/-- The neighbours of the number on the grid of multiples of `10 ^ power` that round to it, the
nearer one first, as multiples.  The interval is in units of `2 ^ unit`. -/
def onGrid? (i : Interval) (unit power : Int) : Option Nat :=
  let up := Nat.pow 2 unit.toNat * Nat.pow 10 (-power).toNat
  let down := Nat.pow 2 (-unit).toNat * Nat.pow 10 power.toNat
  let below := i.value * up / down
  let above := below + 1
  let inside (d : Nat) : Bool := d ≠ 0 && i.contains (d * down) up
  let lower := i.value * up - below * down
  let upper := above * down - i.value * up
  let nearer := if lower < upper then below
    else if upper < lower then above
    else if below % 2 = 0 then below else above
  let farther := if nearer = below then above else below
  if inside nearer then some nearer else if inside farther then some farther else none

/-- Move trailing zeros of the digits into the power. -/
def withoutZeros : Nat → Nat → Int → Nat × Int
  | 0, digits, power => (digits, power)
  | n + 1, digits, power =>
    if digits % 10 = 0 ∧ digits ≠ 0 then withoutZeros n (digits / 10) (power + 1)
    else (digits, power)

/-- The fewest digits that read back as `mantissa * 2 ^ exponent`, with the power of ten that
they are to be multiplied by. -/
def shortest (mantissa : Nat) (exponent : Int) : Nat × Int :=
  let size : Int := ((Nat.log2 mantissa : Int) + exponent) * 1233 / 4096
  let i := interval mantissa exponent
  let grids : List Int := (List.range 24).map fun n : Nat => size + 3 - (n : Int)
  match grids.findSome? fun power => (onGrid? i (exponent - 2) power).map fun d => (d, power) with
  | some (digits, power) => withoutZeros 20 digits power
  | none => (mantissa, 0)

end ApiContract.Decimal
