/-
**The elements of written patterns.**

What an element stands for depends on the flags that hold where it stands.  Without the Unicode
flag an element may not match anything but ASCII characters.

Main definitions:

* `Pattern.Flags` — the flags;
* `Pattern.Flags.folded`, `Pattern.Flags.negated?` — a class closed under case, and its complement;
* `Pattern.Element`, `Pattern.escape?` — what an escape stands for.
-/

import ApiContract.Pattern.Property

set_option autoImplicit false

namespace ApiContract.Pattern

open Text

/-- The flags that hold at a place of a pattern. -/
structure Flags where
  /-- Case makes no difference. -/
  ignoresCase : Bool := false
  /-- Begin and end may be those of a line. -/
  multiLine : Bool := false
  /-- A point stands for line feeds too. -/
  pointMatchesAll : Bool := false
  /-- Classes go beyond ASCII. -/
  unicode : Bool := true
  /-- A carriage return may end a line. -/
  carriageReturns : Bool := false
  /-- Blanks and comments in the pattern are passed over. -/
  ignoresBlanks : Bool := false
  deriving Inhabited

/-- Pass blanks and comments; a comment ends with its line. -/
def skipBlanks (inComment : Bool) : List Char → List Char
  | [] => []
  | c :: cs =>
    if inComment then skipBlanks (c ≠ '\n') cs
    else if isBlank c then skipBlanks false cs
    else if c = '#' then skipBlanks true cs
    else c :: cs

namespace Flags

/-- What is left after blanks and comments, where these are passed over. -/
def skip (f : Flags) (cs : List Char) : List Char :=
  if f.ignoresBlanks then skipBlanks false cs else cs

/-- The class with the other cases of its characters, where case makes no difference. -/
def folded (f : Flags) (p : CharClass) : CharClass :=
  if !f.ignoresCase then p
  else if f.unicode then fun c => (caseOrbit c.toNat).any fun n => p (Char.ofNat n)
  else fun c => p c || p c.toLower || p c.toUpper

/-- The complement of a class if `negated`, else the class; a complement goes beyond ASCII. -/
def negated? (f : Flags) (negated : Bool) (p : CharClass) : Option CharClass :=
  if !negated then some p else if f.unicode then some fun c => !p c else none

/-- The class of one character. -/
def single? (f : Flags) (c : Char) : Option CharClass :=
  if f.unicode || c.toNat < 0x80 then some (· == c) else none

/-- Decimal digits. -/
def isDigitChar (f : Flags) : CharClass :=
  if f.unicode then fun c => Category.ofChar c = .Nd else isDigit

/-- White space. -/
def isSpaceChar (f : Flags) : CharClass := if f.unicode then isBlank else isAsciiSpace

/-- Characters of words. -/
def isWordChar (f : Flags) : CharClass := if f.unicode then Text.isWordChar else isAsciiWordChar

/-- The class of a point. -/
def point? (f : Flags) : Option CharClass :=
  if !f.unicode then none
  else if f.pointMatchesAll then some fun _ => true
  else if f.carriageReturns then some fun c => c ≠ '\n' && c ≠ '\r'
  else some fun c => c ≠ '\n'

/-- The condition at the sign for the begin. -/
def start (f : Flags) : Condition :=
  if f.multiLine then .lineStart f.carriageReturns else .textStart

/-- The condition at the sign for the end. -/
def stop (f : Flags) : Condition := if f.multiLine then .lineEnd f.carriageReturns else .textEnd

end Flags

/-! ### Escapes -/

/-- What an escape stands for. -/
inductive Element where
  /-- A character. -/
  | literal (c : Char)
  /-- A condition. -/
  | condition (t : Condition)
  /-- A class, with the estimated size of its code. -/
  | class (p : CharClass) (weight : Nat)

/-- The characters that a backslash leaves as they are: all of ASCII but letters, digits and angle
brackets. -/
def isEscapable (c : Char) : Bool :=
  c.toNat < 0x80 && !c.isAlphanum && c ≠ '<' && c ≠ '>'

/-- The characters that stand for a control character after a backslash. -/
def controlOf? : Char → Option Char
  | 'a' => some (Char.ofNat 0x07)
  | 'f' => some (Char.ofNat 0x0C)
  | 't' => some '\t'
  | 'n' => some '\n'
  | 'r' => some '\r'
  | 'v' => some (Char.ofNat 0x0B)
  | _ => none

/-- The character of a number. -/
def charOf? (n : Nat) : Option Char := if n.isValidChar then some (Char.ofNat n) else none

/-- The number of a given count of hexadecimal digits. -/
def hexDigits? (f : Flags) : Nat → Nat → List Char → Option (Nat × List Char)
  | 0, n, cs => some (n, cs)
  | left + 1, n, cs =>
    match f.skip cs with
    | [] => none
    | c :: cs =>
      match hexValue? c with
      | some d => hexDigits? f left (n * 16 + d) cs
      | none => none

/-- The hexadecimal digits up to a closing brace, and what follows the brace. -/
def bracedHex? (cs : List Char) : Option (Nat × List Char) :=
  let ds := cs.takeWhile fun c => c ≠ '\x7d'
  match cs.drop ds.length with
  | [] => none
  | _ :: rest =>
    if ds = [] then none
    else (ds.foldl (fun n c =>
      match n, hexValue? c with
      | some n, some d => some (n * 16 + d)
      | _, _ => none) (some 0)).map fun n => (n, rest)

/-- The text without what is passed over. -/
def withoutBlanks (f : Flags) : Nat → List Char → List Char
  | 0, cs => cs
  | fuel + 1, cs =>
    match f.skip cs with
    | [] => []
    | c :: cs => c :: withoutBlanks f fuel cs

/-- The character of an escape by number, after the letter for its kind. -/
def hexEscape? (f : Flags) (kind : Char) (cs : List Char) : Option (Char × List Char) :=
  let read :=
    match f.skip cs with
    | '\x7b' :: rest =>
      bracedHex? (if f.ignoresBlanks then withoutBlanks f rest.length rest else rest)
    | rest => hexDigits? f (if kind = 'x' then 2 else if kind = 'u' then 4 else 8) 0 rest
  match read with
  | some (n, rest) => (charOf? n).map fun c => (c, f.skip rest)
  | none => none

/-- The estimated size of the code of a class of many characters. -/
def largeClass : Nat := 45000

/-- The class of a property escape, after its letter. -/
def propertyEscape? (f : Flags) (isNegated : Bool) (cs : List Char) :
    Option (Element × List Char) :=
  let finish (p : Option CharClass) (rest : List Char) : Option (Element × List Char) :=
    if !f.unicode then none
    else match p with
      | some p => (f.negated? isNegated (f.folded p)).map fun p => (.class p largeClass, rest)
      | none => none
  match f.skip cs with
  | [] => none
  | '\x7b' :: rest =>
    let name := rest.takeWhile fun c => c ≠ '\x7d'
    match rest.drop name.length with
    | [] => none
    | _ :: rest =>
      match cutAt ['!', '='] name with
      | some (property, value) =>
        finish ((propertyValueClass? property value).map fun p c => !p c) rest
      | none =>
        match cutAt [':'] name, cutAt ['='] name with
        | some (property, value), _ => finish (propertyValueClass? property value) rest
        | none, some (property, value) => finish (propertyValueClass? property value) rest
        | none, none => finish (propertyClass? name) rest
  | c :: rest => if c = '\\' then none else finish (propertyClass? [c]) (f.skip rest)

/-- The condition of a name in braces after the escape for the ends of words. -/
def namedBoundary? (f : Flags) (name : String) : Option Condition :=
  match name with
  | "start" => some (.wordStart f.isWordChar)
  | "end" => some (.wordEnd f.isWordChar)
  | "start-half" => some (.noWordBefore f.isWordChar)
  | "end-half" => some (.noWordAfter f.isWordChar)
  | _ => none

/-- The condition for the ends of words, where a name in braces may follow.  Braces that do not
begin with a letter or a hyphen are a repetition. -/
def boundary? (f : Flags) (cs : List Char) : Option (Element × List Char) :=
  let plain : Option (Element × List Char) := some (.condition (.boundary f.isWordChar), cs)
  match cs with
  | '\x7b' :: rest =>
    match f.skip rest with
    | [] => none
    | c :: r =>
      if c.isAlpha || c = '-' then
        let body := if f.ignoresBlanks then withoutBlanks f r.length (c :: r) else c :: r
        let name := body.takeWhile fun c => c.isAlpha || c = '-'
        match body.drop name.length with
        | '\x7d' :: rest =>
          (namedBoundary? f (String.ofList name)).map fun t => (.condition t, rest)
        | _ => none
      else plain
  | _ => plain

/-- What an escape stands for, after its backslash. -/
def escape? (f : Flags) : List Char → Option (Element × List Char)
  | [] => none
  | c :: cs =>
    let perl (p : CharClass) (weight : Nat) : Option (Element × List Char) :=
      some (.class p weight, cs)
    let complement (p : CharClass) (weight : Nat) : Option (Element × List Char) :=
      (f.negated? true p).map fun p => (.class p weight, cs)
    let literal (c : Char) : Option (Element × List Char) := some (.literal c, cs)
    let condition (t : Condition) : Option (Element × List Char) := some (.condition t, cs)
    if isDigit c then none
    else if c = 'x' || c = 'u' || c = 'U' then
      (hexEscape? f c cs).map fun r => (.literal r.1, r.2)
    else if isEscapable c then literal c
    else match c with
      | 'p' => propertyEscape? f false cs
      | 'P' => propertyEscape? f true cs
      | 'd' => perl f.isDigitChar 7000
      | 's' => perl f.isSpaceChar 1000
      | 'w' => perl f.isWordChar largeClass
      | 'D' => complement f.isDigitChar 7000
      | 'S' => complement f.isSpaceChar 1000
      | 'W' => complement f.isWordChar largeClass
      | 'A' => condition .textStart
      | 'z' => condition .textEnd
      | 'b' => boundary? f cs
      | 'B' => condition (.noBoundary f.isWordChar)
      | '<' => condition (.wordStart f.isWordChar)
      | '>' => condition (.wordEnd f.isWordChar)
      | _ => (controlOf? c).bind literal

end ApiContract.Pattern
