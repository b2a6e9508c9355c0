/-
**Texts of floating-point numbers.**

The digits are the fewest that read back.  How they are laid out is a decision of the format: which
powers of ten are written out with zeros, and whether an integer is marked by `.0`.

Main definitions:

* `Decimal.Layout` — the decisions of a format;
* `Decimal.render` — the text of a finite number in a format;
* `Decimal.inJson` — the format of JSON texts;
* `Decimal.positional` — the format of messages, which never has an exponent;
* `Decimal.inMessage` — the text of any number in a message.
-/

import ApiContract.Decimal.Shortest

set_option autoImplicit false

namespace ApiContract.Decimal

/-- How digits are laid out. -/
structure Layout where
  /-- Whether a number whose first digit stands for `10 ^ e` is written without exponent. -/
  isPositional : Int → Bool
  /-- Whether `.0` marks a number without fraction. -/
  marksIntegers : Bool

/-- JSON writes exponents from `-5` to `15` out with zeros and marks integers by `.0`. -/
def inJson : Layout := ⟨fun e => -5 ≤ e && e < 16, true⟩

/-- Messages write every number out and leave integers unmarked. -/
def positional : Layout := ⟨fun _ => true, false⟩

/-- Digits with a point so that the first one stands for `10 ^ e`. -/
def Layout.pointed (l : Layout) (digits : List Char) (e : Int) : List Char :=
  if e < 0 then ['0', '.'] ++ List.replicate (-e - 1).toNat '0' ++ digits
  else
    let whole := e.toNat + 1
    if digits.length ≤ whole then
      digits ++ List.replicate (whole - digits.length) '0' ++
        (if l.marksIntegers then ['.', '0'] else [])
    else digits.take whole ++ ['.'] ++ digits.drop whole

/-- Digits with a point after the first one and an exponent. -/
def scientific (digits : List Char) (e : Int) : List Char :=
  digits.take 1 ++ (if digits.length = 1 then [] else '.' :: digits.drop 1) ++
    ['e', if e < 0 then '-' else '+'] ++ Nat.toDigits 10 e.natAbs

/-- The text of a finite number. -/
def render (l : Layout) (x : Float) : String :=
  let p := parts x
  let (digits, power) := if p.mantissa = 0 then (0, 0) else shortest p.mantissa p.exponent
  let ds := Nat.toDigits 10 digits
  let e : Int := power + ds.length - 1
  String.ofList ((if p.negative then ['-'] else []) ++
    (if l.isPositional e then l.pointed ds e else scientific ds e))

/-- The text of any number in a message. -/
def inMessage (x : Float) : String :=
  if x.isNaN then "NaN"
  else if x.isInf then (if x < 0 then "-inf" else "inf")
  else render positional x

end ApiContract.Decimal
