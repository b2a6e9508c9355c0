/-
**Formats of strings.**

Main definitions:

* `Format.isUuid`, `Format.isDate`, `Format.isTime`, `Format.isEmail` — the formats that are
  checked;
* `Format.accepts` — whether a string has a format; every string has an unknown format.
-/

import ApiContract.Decimal.Reading
import ApiContract.Text.Category

set_option autoImplicit false

namespace ApiContract.Format

open Text

/-! ### Identifiers -/

/-- Hexadecimal digits in groups of given sizes with hyphens between them. -/
def isHexGroups : List Nat → List Char → Bool
  | [], cs => cs.isEmpty
  | [n], cs => cs.length = n && cs.all fun c => (hexValue? c).isSome
  | n :: m :: ns, cs =>
    (cs.take n).length = n && (cs.take n).all (fun c => (hexValue? c).isSome) &&
      match cs.drop n with
      | '-' :: rest => isHexGroups (m :: ns) rest
      | _ => false

/-- The sizes of the groups of an identifier with hyphens. -/
def uuidGroups : List Nat := [8, 4, 4, 4, 12]

/-- What an identifier begins with that names its scheme, in any case. -/
def uuidScheme : List Char := "urn:uuid:".toList

/-- An identifier of 32 hexadecimal digits: without hyphens, with hyphens, and the latter also in
braces or after its scheme. -/
def isUuid (cs : List Char) : Bool :=
  isHexGroups [32] cs || isHexGroups uuidGroups cs ||
    (match cs with
     | '\x7b' :: rest => rest.getLast? = some '\x7d' && isHexGroups uuidGroups rest.dropLast
     | _ => false) ||
    ((cs.take uuidScheme.length).map lowerAscii = uuidScheme &&
      isHexGroups uuidGroups (cs.drop uuidScheme.length))

/-! ### Dates -/

/-- The number of days of a month. -/
def daysIn (year : Int) (month : Nat) : Nat :=
  if month = 2 then
    if year % 4 = 0 ∧ (year % 100 ≠ 0 ∨ year % 400 = 0) then 29 else 28
  else if month = 4 ∨ month = 6 ∨ month = 9 ∨ month = 11 then 30
  else 31

/-- Whether a day exists; years are limited. -/
def isDay (year : Int) (month day : Nat) : Bool :=
  -262143 ≤ year && year ≤ 262142 && 1 ≤ month && month ≤ 12 && 1 ≤ day && day ≤ daysIn year month

/-- A number of between one and a limit of digits, and what follows it. -/
def numberUpTo? (limit : Nat) (cs : List Char) : Option (Nat × List Char) :=
  let ds := (cs.take limit).takeWhile isDigit
  (Decimal.digitsValue? ds).map fun n => (n, cs.drop ds.length)

/-- A year: with a sign it may have any number of digits, else at most four. -/
def year? (cs : List Char) : Option (Int × List Char) :=
  let signed (negative : Bool) (rest : List Char) : Option (Int × List Char) :=
    match numberUpTo? rest.length rest with
    | some (n, rest) => if n < Nat.pow 2 31 then some (if negative then -n else n, rest) else none
    | none => none
  match cs with
  | '-' :: rest => signed true rest
  | '+' :: rest => signed false rest
  | _ => (numberUpTo? 4 cs).map fun r => (r.1, r.2)

/-- A number of one or two digits after a hyphen, with blanks between them. -/
def hyphenated? : List Char → Option (Nat × List Char)
  | '-' :: cs => numberUpTo? 2 (cs.dropWhile isBlank)
  | _ => none

/-- A date: year, month and day with hyphens between them; each may have blanks before it. -/
def isDate (cs : List Char) : Bool :=
  match year? (cs.dropWhile isBlank) with
  | none => false
  | some (y, rest) =>
    match hyphenated? rest with
    | none => false
    | some (m, rest) =>
      match hyphenated? rest with
      | some (d, []) => isDay y m d
      | _ => false

/-! ### Points in time -/

/-- A number of an exact count of digits, and what follows it. -/
def exactly? (count : Nat) (cs : List Char) : Option (Nat × List Char) :=
  let ds := cs.take count
  if ds.length = count && ds.all isDigit then
    (Decimal.digitsValue? ds).map fun n => (n, cs.drop count)
  else none

/-- A number of two digits after a sign, and what follows it. -/
def after? (sign : Char) : List Char → Option (Nat × List Char)
  | c :: cs => if c = sign then exactly? 2 cs else none
  | [] => none

/-- What follows the fraction of a second, if there is one; a point needs a digit. -/
def skipFraction? : List Char → Option (List Char)
  | '.' :: cs =>
    match cs with
    | c :: _ => if isDigit c then some (cs.dropWhile isDigit) else none
    | [] => none
  | cs => some cs

/-- The difference to universal time: the letter for none, or a sign, hours and minutes. -/
def isOffset : List Char → Bool
  | ['Z'] => true
  | ['z'] => true
  | c :: cs =>
    if c = '+' || c = '-' || c.toNat = 0x2212 then
      match exactly? 2 cs with
      | some (h, rest) =>
        match after? ':' rest with
        | some (m, []) => h ≤ 23 && m ≤ 59
        | _ => false
      | none => false
    else false
  | [] => false

/-- A time of day with its difference to universal time; a minute may have a leap second. -/
def isClock (cs : List Char) : Bool :=
  match exactly? 2 cs with
  | none => false
  | some (h, rest) =>
    match after? ':' rest with
    | none => false
    | some (m, rest) =>
      match after? ':' rest with
      | none => false
      | some (s, rest) =>
        match skipFraction? rest with
        | some rest => h ≤ 23 && m ≤ 59 && s ≤ 60 && isOffset rest
        | none => false

/-- A point in time: a date with four digits for the year, a letter or a space, and a time. -/
def isTime (cs : List Char) : Bool :=
  match exactly? 4 cs with
  | none => false
  | some (y, rest) =>
    match after? '-' rest with
    | none => false
    | some (m, rest) =>
      match after? '-' rest with
      | some (d, c :: rest) =>
        isDay y m d && (c = 't' || c = 'T' || c = ' ') && isClock rest
      | _ => false

/-! ### Addresses -/

/-- An address: text before the first `@`, and a point after it. -/
def isEmail (cs : List Char) : Bool :=
  match cutAt ['@'] cs with
  | some (before, after) => !before.isEmpty && after.contains '.'
  | none => false

/-- Whether a string has a format; every string has an unknown format. -/
def accepts (format : String) (s : String) : Bool :=
  match format with
  | "uuid" => isUuid s.toList
  | "date" => isDate s.toList
  | "date-time" => isTime s.toList
  | "email" => isEmail s.toList
  | _ => true

end ApiContract.Format
