/-
**Named classes of characters.**

A class can be named by a property of characters: a general category, a script, or one of a few
other properties.  Names are compared without regard to case, blanks, underscores and hyphens.

Main definitions:

* `Pattern.foldedName` — a name as it is compared;
* `Pattern.propertyClass?`, `Pattern.propertyValueClass?` — the class of a property;
* `Pattern.asciiClass?` — the class of one of the names in double brackets.
-/

import ApiContract.Pattern.Basic
import ApiContract.Text.CaseOrbit
import ApiContract.Text.Script

set_option autoImplicit false

namespace ApiContract.Pattern

open Text

/-- The name without separators, in lower case, and without `is` at its begin. -/
def foldedName (cs : List Char) : String :=
  let kept := (cs.filter fun c => !(c = ' ' || c = '_' || c = '-') && c.toNat < 0x80).map lowerAscii
  match kept with
  | 'i' :: 's' :: rest => if rest = ['c'] then "isc" else String.ofList rest
  | _ => String.ofList kept

/-- The general categories by their folded names, and what is in them. -/
def categories : List (List String × List Category) :=
  [(["l", "letter"], [.Lu, .Ll, .Lt, .Lm, .Lo]),
   (["lc", "casedletter"], [.Lu, .Ll, .Lt]),
   (["lu", "uppercaseletter"], [.Lu]),
   (["ll", "lowercaseletter"], [.Ll]),
   (["lt", "titlecaseletter"], [.Lt]),
   (["lm", "modifierletter"], [.Lm]),
   (["lo", "otherletter"], [.Lo]),
   (["m", "mark", "combiningmark"], [.Mn, .Mc, .Me]),
   (["mn", "nonspacingmark"], [.Mn]),
   (["mc", "spacingmark"], [.Mc]),
   (["me", "enclosingmark"], [.Me]),
   (["n", "number"], [.Nd, .Nl, .No]),
   (["nd", "decimalnumber", "digit"], [.Nd]),
   (["nl", "letternumber"], [.Nl]),
   (["no", "othernumber"], [.No]),
   (["p", "punctuation", "punct"], [.Pc, .Pd, .Ps, .Pe, .Pi, .Pf, .Po]),
   (["pc", "connectorpunctuation"], [.Pc]),
   (["pd", "dashpunctuation"], [.Pd]),
   (["ps", "openpunctuation"], [.Ps]),
   (["pe", "closepunctuation"], [.Pe]),
   (["pi", "initialpunctuation"], [.Pi]),
   (["pf", "finalpunctuation"], [.Pf]),
   (["po", "otherpunctuation"], [.Po]),
   (["s", "symbol"], [.Sm, .Sc, .Sk, .So]),
   (["sm", "mathsymbol"], [.Sm]),
   (["sc", "currencysymbol"], [.Sc]),
   (["sk", "modifiersymbol"], [.Sk]),
   (["so", "othersymbol"], [.So]),
   (["z", "separator"], [.Zs, .Zl, .Zp]),
   (["zs", "spaceseparator"], [.Zs]),
   (["zl", "lineseparator"], [.Zl]),
   (["zp", "paragraphseparator"], [.Zp]),
   (["c", "other"], [.Cc, .Cf, .Cs, .Co, .Cn]),
   (["cc", "control", "cntrl"], [.Cc]),
   (["cf", "format"], [.Cf]),
   (["cs", "surrogate"], [.Cs]),
   (["co", "privateuse"], [.Co]),
   (["cn", "unassigned"], [.Cn])]

/-- The class of a general category, given by its folded name. -/
def categoryClass? (name : String) : Option CharClass :=
  match name with
  | "any" => some fun _ => true
  | "assigned" => some fun c => Category.ofChar c ≠ .Cn
  | "ascii" => some fun c => c.toNat < 0x80
  | _ =>
    (categories.find? fun k => k.1.contains name).map fun k c => k.2.contains (Category.ofChar c)

/-- The class of a script, given by its folded name or code. -/
def scriptClass? (name : String) : Option CharClass :=
  let code :=
    match name with
    | "qaac" => some "Copt"
    | "qaai" => some "Zinh"
    | _ =>
      (Script.names.find? fun (long, short) => long == name || lowerCased short == name).map
        Prod.snd
  code.map fun code c => Script.ofChar c = code

/-- Hexadecimal digits in their narrow and wide forms. -/
def isHexDigit (c : Char) : Bool :=
  (hexValue? c).isSome || inRanges [(0xFF10, 0xFF19), (0xFF21, 0xFF26), (0xFF41, 0xFF46)] c.toNat

/-- The class of a property that characters have or have not, given by its folded name. -/
def binaryClass? (name : String) : Option CharClass :=
  match name with
  | "alpha" | "alphabetic" => some isAlphabetic
  | "lower" | "lowercase" => some isLower
  | "upper" | "uppercase" => some isUpper
  | "space" | "whitespace" | "wspace" => some isBlank
  | "hex" | "hexdigit" => some isHexDigit
  | "ahex" | "asciihexdigit" => some fun c => (hexValue? c).isSome
  | "joinc" | "joincontrol" => some fun c => c.toNat = 0x200C || c.toNat = 0x200D
  | "grext" | "graphemeextend" => some isExtending
  | _ => none

/-- The class of a property given by its name alone. -/
def propertyClass? (cs : List Char) : Option CharClass :=
  let name := foldedName cs
  match binaryClass? name with
  | some p => some p
  | none =>
    match categoryClass? name with
    | some p => some p
    | none => scriptClass? name

/-- The class of a property with a value. -/
def propertyValueClass? (property value : List Char) : Option CharClass :=
  match foldedName property with
  | "gc" | "generalcategory" => categoryClass? (foldedName value)
  | "sc" | "script" => scriptClass? (foldedName value)
  | _ => none

/-- Whether a character is an ASCII letter or digit, or an underscore. -/
def isAsciiWordChar (c : Char) : Bool := c.isAlphanum || c = '_'

/-- White space of one byte. -/
def isAsciiSpace (c : Char) : Bool := (9 ≤ c.toNat && c.toNat ≤ 13) || c = ' '

/-- The class of a name in double brackets. -/
def asciiClass? (name : String) : Option CharClass :=
  match name with
  | "alnum" => some Char.isAlphanum
  | "alpha" => some Char.isAlpha
  | "ascii" => some fun c => c.toNat < 0x80
  | "blank" => some fun c => c = ' ' || c = '\t'
  | "cntrl" => some fun c => c.toNat < 0x20 || c.toNat = 0x7F
  | "digit" => some isDigit
  | "graph" => some fun c => 0x21 ≤ c.toNat && c.toNat ≤ 0x7E
  | "lower" => some Char.isLower
  | "print" => some fun c => 0x20 ≤ c.toNat && c.toNat ≤ 0x7E
  | "punct" => some fun c => 0x21 ≤ c.toNat && c.toNat ≤ 0x7E && !c.isAlphanum
  | "space" => some isAsciiSpace
  | "upper" => some Char.isUpper
  | "word" => some isAsciiWordChar
  | "xdigit" => some fun c => (hexValue? c).isSome
  | _ => none

end ApiContract.Pattern
