/-
**Decimal numbers as binary floating point, and back to parts.**

Main definitions:

* `Decimal.ofParts` — the floating-point number nearest to digits times a power of ten, ties to
  even, and infinity beyond the largest one;
* `Decimal.Parts`, `Decimal.parts` — a finite number as an integer times a power of two;
* `Decimal.toNearest` — the floating-point number nearest to an integer.
-/

set_option autoImplicit false

namespace ApiContract.Decimal

/-! ### The layout of bits -/

/-- The leading bit of a mantissa, which normal numbers do not store. -/
def leadingBit : Nat := Nat.pow 2 52

/-- The bit of the sign. -/
def signBit : Nat := Nat.pow 2 63

/-- The bits of infinity. -/
def infinityBits : Nat := 2047 * leadingBit

/-! ### To floating point -/

/-- The quotient of two numbers rounded to the nearest integer, ties to even. -/
def roundedQuotient (num den : Nat) : Nat :=
  let q := num / den
  let r := num % den
  if 2 * r < den then q
  else if den < 2 * r then q + 1
  else if q % 2 = 0 then q else q + 1

/-- `num / den` scaled by a power of two, as a new quotient. -/
def scaledQuotient (num den : Nat) (power : Int) : Nat × Nat :=
  if power ≥ 0 then (num * Nat.pow 2 power.toNat, den)
  else (num, den * Nat.pow 2 (-power).toNat)

/-- The bits of the non-negative floating-point number nearest to a positive quotient, ties to
even. -/
def bitsOfQuotient (num den : Nat) : Nat :=
  let guess : Int := max ((Nat.log2 num : Int) - Nat.log2 den - 52) (-1074)
  let quotientAt (unit : Int) : Nat × Nat := scaledQuotient num den (-unit)
  let unit : Int :=
    let p := quotientAt guess
    if p.1 / p.2 < leadingBit ∧ -1074 < guess then guess - 1 else guess
  let p := quotientAt unit
  let m := roundedQuotient p.1 p.2
  let (m, unit) := if m = 2 * leadingBit then (leadingBit, unit + 1) else (m, unit)
  if m < leadingBit then m
  else
    let biased := unit + 1075
    if biased ≥ 2047 then infinityBits else biased.toNat * leadingBit + (m - leadingBit)

/-- The number with given bits and sign. -/
def withSign (negative : Bool) (bits : Nat) : Float :=
  Float.ofBits (UInt64.ofNat (if negative then signBit + bits else bits))

/-- The floating-point number nearest to `digits * 10 ^ exponent`, ties to even. -/
def ofParts (negative : Bool) (digits : Nat) (exponent : Int) : Float :=
  let size : Int := (Nat.toDigits 10 digits).length
  if digits = 0 then withSign negative 0
  else if 400 < size + exponent then withSign negative infinityBits
  else if size + exponent < -400 then withSign negative 0
  else if exponent ≥ 0 then
    withSign negative (bitsOfQuotient (digits * Nat.pow 10 exponent.toNat) 1)
  else withSign negative (bitsOfQuotient digits (Nat.pow 10 (-exponent).toNat))

/-- The floating-point number nearest to a natural number. -/
def ofNat (n : Nat) : Float := ofParts false n 0

/-- The floating-point number nearest to an integer. -/
def toNearest (n : Int) : Float := ofParts (n < 0) n.natAbs 0

/-! ### From floating point -/

/-- A finite floating-point number: its sign, and its size as `mantissa * 2 ^ exponent`. -/
structure Parts where
  /-- Whether the sign bit is set. -/
  negative : Bool
  /-- An integer below `2 ^ 53`. -/
  mantissa : Nat
  /-- The power of two, at least `-1074`. -/
  exponent : Int
  deriving DecidableEq, Repr

/-- The parts of a finite number; of the others nothing is promised. -/
def parts (x : Float) : Parts :=
  let bits := x.toBits.toNat
  let fraction := bits % leadingBit
  let biased : Nat := bits / leadingBit % 2048
  let negative := bits / signBit = 1
  if biased = 0 then ⟨negative, fraction, -1074⟩
  else ⟨negative, leadingBit + fraction, (biased : Int) - 1075⟩

end ApiContract.Decimal
