/-
**Scalars of markup text.**

What a scalar stands for depends on how it is written: only plain text can be a number, a truth
value or null, unless a tag says otherwise.

Main definitions:

* `Yaml.Scalar` — text, style and tag;
* `Yaml.Scalar.isNull?`, `Yaml.Scalar.bool?`, `Yaml.Scalar.natural?`, `Yaml.Scalar.float?` —
  readings of a scalar as a value of a known kind;
* `Yaml.Scalar.atom?` — the value of a scalar of unknown kind.
-/

import ApiContract.Decimal.Reading
import ApiContract.Tree

set_option autoImplicit false

namespace ApiContract.Yaml

/-- How a scalar is written. -/
inductive Style where
  | plain | singleQuoted | doubleQuoted | literal | folded
  deriving DecidableEq

/-- A scalar. -/
structure Scalar where
  /-- Its text. -/
  text : String
  /-- How it is written. -/
  style : Style
  /-- Its tag, in full. -/
  tag : Option String

namespace Scalar

/-! ### Tags -/

/-- The tag of truth values. -/
def boolTag : String := "tag:yaml.org,2002:bool"

/-- The tag of integers. -/
def intTag : String := "tag:yaml.org,2002:int"

/-- The tag of floating-point numbers. -/
def floatTag : String := "tag:yaml.org,2002:float"

/-- The tag of null. -/
def nullTag : String := "tag:yaml.org,2002:null"

/-- The name of a local tag, without its exclamation mark. -/
def localTag? (s : Scalar) : Option String :=
  match s.tag with
  | none => none
  | some t =>
    match t.toList with
    | '!' :: name => some (String.ofList name)
    | _ => none

/-! ### Texts of values -/

/-- The texts of null. -/
def isNullText (s : String) : Bool := s = "null" || s = "Null" || s = "NULL" || s = "~"

/-- The truth value of a text. -/
def boolOf? (s : String) : Option Bool :=
  if s = "true" ∨ s = "True" ∨ s = "TRUE" then some true
  else if s = "false" ∨ s = "False" ∨ s = "FALSE" then some false
  else none

/-- The text without a plus sign at its begin. -/
def withoutPlus : List Char → List Char
  | '+' :: cs => cs
  | cs => cs

/-- Whether a text is made of digits but has a zero too many at its begin. -/
def hasLeadingZero (cs : List Char) : Bool :=
  match (match cs with | '-' :: r => r | '+' :: r => r | r => r) with
  | '0' :: c :: r => (c :: r).all Text.isDigit
  | _ => false

/-- The natural number of a text in one of the bases ten, and with a mark sixteen, eight and two. -/
def naturalOf? (cs : List Char) : Option Nat :=
  match withoutPlus cs with
  | '0' :: 'x' :: r => Decimal.valueIn? 16 r
  | '0' :: 'o' :: r => Decimal.valueIn? 8 r
  | '0' :: 'b' :: r => Decimal.valueIn? 2 r
  | r => if hasLeadingZero cs then none else Decimal.digitsValue? r

/-- The magnitude of a text that stands for a number with a minus sign. -/
def negativeOf? (cs : List Char) : Option Nat :=
  match cs with
  | '-' :: '0' :: 'x' :: r => Decimal.valueIn? 16 r
  | '-' :: '0' :: 'o' :: r => Decimal.valueIn? 8 r
  | '-' :: '0' :: 'b' :: r => Decimal.valueIn? 2 r
  | '-' :: r => if hasLeadingZero cs then none else Decimal.digitsValue? r
  | _ => none

/-- The floating-point number of a text: a finite decimal, or one of the dotted words. -/
def floatOf? (s : String) : Option Float :=
  let cs := s.toList
  let positive := String.ofList (withoutPlus cs)
  if positive = ".inf" ∨ positive = ".Inf" ∨ positive = ".INF" then some (1.0 / 0.0)
  else if s = "-.inf" ∨ s = "-.Inf" ∨ s = "-.INF" then some (-1.0 / 0.0)
  else if s = ".nan" ∨ s = ".NaN" ∨ s = ".NAN" then some (0.0 / 0.0)
  else match cs with
    | '+' :: '+' :: _ => none
    | '+' :: '-' :: _ => none
    | _ =>
      match Decimal.readFloat? (withoutPlus cs) with
      | some x => if x.isFinite then some x else none
      | none => none

/-! ### Readings -/

/-- Whether a scalar may be read as a value of the kind of a tag: it is plain, or a literal block
with that tag. -/
def mayBe (s : Scalar) (tag : String) : Bool :=
  s.style = .plain || (s.style = .literal && s.tag = some tag)

/-- Whether a scalar stands for a missing value: it is plain, and empty or a text of null.  A tag
other than that of null makes any text a value; under the tag of null, text that is not null stands
for nothing. -/
def isNull? (s : Scalar) : Option Bool :=
  if s.style ≠ .plain then some false
  else match s.tag with
    | none => some (s.text = "" || isNullText s.text)
    | some t =>
      if t ≠ nullTag then some false
      else if isNullText s.text then some true
      else none

/-- Whether a scalar is what stands where nothing is written. -/
def isEmpty (s : Scalar) : Bool := s.style = .plain && s.text = ""

/-- The truth value of a scalar. -/
def bool? (s : Scalar) : Option Bool := if s.mayBe boolTag then boolOf? s.text else none

/-- The natural number of a scalar, if it fits 64 bits. -/
def natural? (s : Scalar) : Option Nat :=
  if s.mayBe intTag then
    match naturalOf? s.text.toList with
    | some n => if n < Nat.pow 2 64 then some n else none
    | none => none
  else none

/-- The floating-point number of a scalar. -/
def float? (s : Scalar) : Option Float := if s.mayBe floatTag then floatOf? s.text else none

/-- The integer of a text, if it fits 64 bits; an integer that does not fit is an error. -/
def integerAtom (cs : List Char) : Except Unit (Option Atom) :=
  match naturalOf? cs with
  | some n =>
    if n < Nat.pow 2 64 then .ok (some (.number (.int n)))
    else if n < Nat.pow 2 128 then .error ()
    else .ok none
  | none =>
    match negativeOf? cs with
    | some n =>
      if n ≤ Nat.pow 2 63 then .ok (some (.number (.int (-(n : Int)))))
      else if n ≤ Nat.pow 2 127 then .error ()
      else .ok none
    | none => .ok none

/-- The value of plain text: null, a truth value, an integer, a decimal number, or a text. -/
def plainAtom? (s : String) : Option Atom :=
  if s = "" ∨ isNullText s then some .null
  else match boolOf? s with
    | some b => some (.bool b)
    | none =>
      match integerAtom s.toList with
      | .error () => none
      | .ok (some a) => some a
      | .ok none =>
        if hasLeadingZero s.toList then some (.text s)
        else match floatOf? s with
          | some x => some (.number (.float x))
          | none => some (.text s)

/-- The value of a scalar of unknown kind; none for one whose text does not fit its tag, for an
integer that does not fit 64 bits, and for a local tag. -/
def atom? (s : Scalar) : Option Atom :=
  match s.tag with
  | none => if s.style = .plain then plainAtom? s.text else some (.text s.text)
  | some t =>
    if s.localTag?.isSome then none
    else if t = boolTag then (boolOf? s.text).map .bool
    else if t = intTag then
      match integerAtom s.text.toList with
      | .ok a => a
      | .error () => none
    else if t = floatTag then (floatOf? s.text).map fun x => .number (.float x)
    else if t = nullTag then (if isNullText s.text then some .null else none)
    else some (.text s.text)

end Scalar

end ApiContract.Yaml
