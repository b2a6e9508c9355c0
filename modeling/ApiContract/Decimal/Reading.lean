/-
**Reading numbers from text.**

Main definitions:

* `Decimal.digitsValue?` — the number that digits stand for;
* `Decimal.readInt64?` — an integer of 64 bits with an optional sign;
* `Decimal.readFloat?` — a decimal number with optional sign, fraction and exponent, or the name of
  an infinity or of not-a-number.
-/

import ApiContract.Decimal.Binary
import ApiContract.Text.Basic

set_option autoImplicit false

namespace ApiContract.Decimal

/-- The value of digits in a base. -/
def valueIn? (base : Nat) (cs : List Char) : Option Nat :=
  if cs = [] then none
  else cs.foldl (fun acc c =>
    match acc, Text.hexValue? c with
    | some n, some d => if d < base then some (n * base + d) else none
    | _, _ => none) (some 0)

/-- The value of decimal digits. -/
def digitsValue? (cs : List Char) : Option Nat := valueIn? 10 cs

/-- Split a leading sign off; `true` for minus. -/
def splitSign : List Char → Bool × List Char
  | '-' :: cs => (true, cs)
  | '+' :: cs => (false, cs)
  | cs => (false, cs)

/-- An integer of 64 bits, with an optional sign. -/
def readInt64? (cs : List Char) : Option Int :=
  let (negative, ds) := splitSign cs
  match digitsValue? ds with
  | none => none
  | some n =>
    if negative then (if n ≤ Nat.pow 2 63 then some (-(n : Int)) else none)
    else if n < Nat.pow 2 63 then some n else none

/-- The exponent of a decimal number: nothing, or `e` with an optional sign and digits. -/
def readExponent? : List Char → Option Int
  | [] => some 0
  | c :: cs =>
    if c = 'e' ∨ c = 'E' then
      let (negative, ds) := splitSign cs
      (digitsValue? ds).map fun n => if negative then -(n : Int) else n
    else none

/-- A decimal number without sign: digits with at most one point among or beside them, then an
exponent. -/
def readUnsigned? (negative : Bool) (cs : List Char) : Option Float :=
  let whole := cs.takeWhile Text.isDigit
  let rest := cs.dropWhile Text.isDigit
  let (fraction, rest) :=
    match rest with
    | '.' :: r => (r.takeWhile Text.isDigit, r.dropWhile Text.isDigit)
    | r => ([], r)
  match digitsValue? (whole ++ fraction), readExponent? rest with
  | some digits, some e => some (ofParts negative digits (e - fraction.length))
  | _, _ => none

/-- A decimal number, or one of the words for infinity and not-a-number in any case. -/
def readFloat? (cs : List Char) : Option Float :=
  let (negative, ds) := splitSign cs
  match String.ofList (ds.map Text.lowerAscii) with
  | "inf" | "infinity" => some (withSign negative infinityBits)
  | "nan" => some (withSign negative (infinityBits + leadingBit / 2))
  | _ => readUnsigned? negative ds

end ApiContract.Decimal
