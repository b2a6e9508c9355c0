/-
**Words of settings text.**

A value that is neither quoted nor bracketed is a word: a truth value, a number, a date or a time.

Main definitions:

* `Toml.Scalar` — the value of a word or of a quoted text;
* `Toml.Scalar.ofWord?` — the value of a word;
* `Toml.isMoment` — whether a word is a date, a time, or both.
-/

import ApiContract.Decimal.Reading

set_option autoImplicit false

namespace ApiContract.Toml

open Text

/-- A value without parts. -/
inductive Scalar where
  /-- A text. -/
  | text (s : String)
  /-- A truth value. -/
  | bool (b : Bool)
  /-- An integer of 64 bits. -/
  | integer (n : Int)
  /-- A floating-point number. -/
  | float (x : Float)
  /-- A date, a time, or both, as it is written. -/
  | moment (s : String)

/-! ### Numbers -/

/-- The digits of a number in which single underscores may stand between digits. -/
def digits? (isDigit : Char → Bool) (cs : List Char) : Option (List Char) :=
  let groups := fields '_' cs
  if groups.all fun g => g ≠ [] && g.all isDigit then some groups.flatten else none

/-- The digits of a decimal number; more than one of them do not begin with a zero. -/
def wholeDigits? (cs : List Char) : Option (List Char) :=
  match digits? isDigit cs with
  | some ('0' :: _ :: _) => none
  | ds => ds

/-- The integer of digits in a base that is a power of two. -/
def basedInteger? (base : Nat) (cs : List Char) : Option Int :=
  match digits? (fun c => (hexValue? c).any (· < base)) cs with
  | none => none
  | some ds =>
    match Decimal.valueIn? base ds with
    | some n => if n < Nat.pow 2 63 then some n else none
    | none => none

/-- The integer that a word is. -/
def integer? : List Char → Option Int
  | '0' :: 'x' :: cs => basedInteger? 16 cs
  | '0' :: 'o' :: cs => basedInteger? 8 cs
  | '0' :: 'b' :: cs => basedInteger? 2 cs
  | cs =>
    let (negative, ds) := Decimal.splitSign cs
    match wholeDigits? ds with
    | some ds => Decimal.readInt64? (if negative then '-' :: ds else ds)
    | none => none

/-- The exponent of a number with its mark, without underscores. -/
def exponent? : List Char → Option (List Char)
  | 'e' :: cs | 'E' :: cs =>
    match cs with
    | '-' :: ds => (digits? isDigit ds).map fun ds => 'e' :: '-' :: ds
    | '+' :: ds => (digits? isDigit ds).map ('e' :: ·)
    | ds => (digits? isDigit ds).map ('e' :: ·)
  | _ => none

/-- Whether a character is the mark of an exponent. -/
def isExponentMark (c : Char) : Bool := c = 'e' || c = 'E'

/-- A fraction with its point and an optional exponent, or an exponent alone, without
underscores. -/
def fraction? : List Char → Option (List Char)
  | '.' :: cs =>
    let fraction := cs.takeWhile fun c => !isExponentMark c
    match digits? isDigit fraction, cs.drop fraction.length with
    | some ds, [] => some ('.' :: ds)
    | some ds, rest => (exponent? rest).map fun e => '.' :: ds ++ e
    | none, _ => none
  | cs => exponent? cs

/-- Whether a number is greater than all finite ones. -/
def isPositiveInfinity (x : Float) : Bool := x > 0 && x == x + x

/-- The floating-point number that a word is.  A number that is written with digits is not too
large; it may be too small. -/
def float? (cs : List Char) : Option Float :=
  let (negative, ds) := Decimal.splitSign cs
  if ds = "inf".toList ∨ ds = "nan".toList then Decimal.readFloat? cs
  else
    let whole := ds.takeWhile fun c => !(c = '.' || isExponentMark c)
    match wholeDigits? whole, fraction? (ds.drop whole.length) with
    | some w, some f =>
      match Decimal.readUnsigned? negative (w ++ f) with
      | some x => if isPositiveInfinity x then none else some x
      | none => none
    | _, _ => none

/-! ### Dates and times -/

/-- The number of two digits. -/
def twoDigits? (a b : Char) : Option Nat := Decimal.digitsValue? [a, b]

/-- Whether two characters are a number in a range. -/
def areBetween (least most : Nat) (a b : Char) : Bool :=
  isDigit a && isDigit b && (twoDigits? a b).any fun n => least ≤ n && n ≤ most

/-- The number of days of a month. -/
def daysOf (year month : Nat) : Nat :=
  if month = 2 then if year % 4 = 0 ∧ (year % 100 ≠ 0 ∨ year % 400 = 0) then 29 else 28
  else if month = 4 ∨ month = 6 ∨ month = 9 ∨ month = 11 then 30
  else 31

/-- What follows a date at the beginning of a text. -/
def afterDate? : List Char → Option (List Char)
  | y :: y' :: y'' :: y''' :: '-' :: m :: m' :: '-' :: d :: d' :: rest =>
    if [y, y', y'', y'''].all isDigit && areBetween 1 12 m m' then
      match Decimal.digitsValue? [y, y', y'', y'''], twoDigits? m m' with
      | some year, some month => if areBetween 1 (daysOf year month) d d' then some rest else none
      | _, _ => none
    else none
  | _ => none

/-- What follows a time of day at the beginning of a text. -/
def afterTime? : List Char → Option (List Char)
  | h :: h' :: ':' :: m :: m' :: ':' :: s :: s' :: rest =>
    if areBetween 0 23 h h' && areBetween 0 59 m m' && areBetween 0 60 s s' then
      match rest with
      | '.' :: c :: cs => if isDigit c then some (cs.dropWhile isDigit) else none
      | '.' :: [] => none
      | rest => some rest
    else none
  | _ => none

/-- Whether a text is a distance from universal time. -/
def isOffset : List Char → Bool
  | ['Z'] | ['z'] => true
  | [sign, h, h', ':', m, m'] =>
    (sign = '+' || sign = '-') && areBetween 0 23 h h' && areBetween 0 59 m m'
  | _ => false

/-- Whether a character separates a date from a time. -/
def separatesTime (c : Char) : Bool := c = 'T' || c = 't' || c = ' '

/-- Whether a word is a date, a time, or both. -/
def isMoment (cs : List Char) : Bool :=
  match afterDate? cs with
  | some [] => true
  | some (c :: rest) =>
    separatesTime c &&
      (match afterTime? rest with
      | some [] => true
      | some offset => isOffset offset
      | none => false)
  | none => afterTime? cs = some []

/-! ### Words -/

/-- The value of a word. -/
def Scalar.ofWord? (cs : List Char) : Option Scalar :=
  if cs = "true".toList then some (.bool true)
  else if cs = "false".toList then some (.bool false)
  else if isMoment cs then some (.moment (String.ofList cs))
  else ((float? cs).map Scalar.float).or ((integer? cs).map Scalar.integer)

end ApiContract.Toml
