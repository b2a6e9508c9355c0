/-
**Reading written patterns.**

A pattern is read from left to right with a stack of open groups.  Flags that are set in a group
hold to its end.  What is nested too deeply, or would need too much code, is no pattern.

Main definitions:

* `Pattern.Parsed` — a pattern with its depth and the estimated size of its code;
* `Pattern.Fault` — why a text is no pattern;
* `Pattern.parse` — the pattern that a text stands for.
-/

import ApiContract.Decimal.Reading
import ApiContract.Pattern.Bracket

set_option autoImplicit false

namespace ApiContract.Pattern

open Text

/-- A pattern over characters and places. -/
abbrev Written := Pattern CharClass Condition

/-- A pattern that has been read. -/
structure Parsed where
  /-- The pattern. -/
  pattern : Written
  /-- How deep its parts are nested. -/
  depth : Nat
  /-- The estimated size of its code. -/
  weight : Nat

/-- A part of a sequence. -/
inductive Part where
  /-- A pattern. -/
  | pattern (p : Parsed)
  /-- Flags, which match nothing and cannot be repeated. -/
  | flags

/-- Why a text is no pattern. -/
inductive Fault where
  /-- It is not written correctly. -/
  | malformed
  /-- It would need too much code. -/
  | tooLarge
  deriving DecidableEq

namespace Parsed

/-- Nothing. -/
def empty : Parsed := ⟨.empty, 0, 0⟩

/-- The estimated size of the code of one step. -/
def stepWeight : Nat := 32

/-- The pattern of a part. -/
def ofPart : Part → Parsed
  | .pattern p => p
  | .flags => empty

/-- A sequence or a choice of several patterns is one level deeper than they are. -/
def gathered (join : List Written → Written) : List Parsed → Parsed
  | [] => empty
  | [p] => p
  | ps =>
    ⟨join (ps.map pattern), (ps.map depth).foldl max 0 + 1,
      (ps.map weight).foldl (· + ·) stepWeight⟩

/-- A class. -/
def ofClass (p : CharClass) (weight : Nat) : Parsed := ⟨.char p, 0, weight⟩

/-- A condition. -/
def ofCondition (t : Condition) : Parsed := ⟨.place t, 0, stepWeight⟩

/-- A character. -/
def ofChar? (f : Flags) (c : Char) : Option Parsed :=
  (f.single? c).map fun p => ofClass (f.folded p) (stepWeight * c.utf8Size)

/-- A repeated pattern. -/
def repeated (p : Parsed) (least : Nat) (most : Option Nat) : Parsed :=
  ⟨.rep least most p.pattern, p.depth + 1,
    p.weight * (match most with | some n => max n 1 | none => least + 1) + stepWeight⟩

end Parsed

/-! ### Groups -/

/-- A group that is being read, everything in reverse. -/
structure Group where
  /-- The choices before the last bar. -/
  choices : List Parsed
  /-- The parts after it. -/
  parts : List Part

namespace Group

/-- A group in which nothing has been read. -/
def start : Group := ⟨[], []⟩

/-- The sequence after the last bar. -/
def sequence (g : Group) : Parsed := .gathered seqOf (g.parts.reverse.map Parsed.ofPart)

/-- What the group stands for. -/
def close (g : Group) : Parsed := .gathered altOf (g.sequence :: g.choices).reverse

/-- Add a part. -/
def add (g : Group) (p : Part) : Group := { g with parts := p :: g.parts }

/-- Begin another choice. -/
def bar (g : Group) : Group := ⟨g.sequence :: g.choices, []⟩

/-- Repeat the last part. -/
def repeatLast? (g : Group) (least : Nat) (most : Option Nat) : Option Group :=
  match g.parts with
  | .pattern p :: ps => some { g with parts := .pattern (p.repeated least most) :: ps }
  | _ => none

end Group

/-- The state of reading. -/
structure Reading where
  /-- The flags that hold here. -/
  flags : Flags
  /-- The innermost group. -/
  group : Group
  /-- The groups around it with the flags that hold in them. -/
  outer : List (Group × Flags)
  /-- The names of groups so far. -/
  names : List (List Char)

namespace Reading

/-- Add a pattern. -/
def add (r : Reading) (p : Parsed) : Reading := { r with group := r.group.add (.pattern p) }

/-- Begin a group. -/
def openGroup (r : Reading) (f : Flags) : Reading :=
  { r with flags := f, group := .start, outer := (r.group, r.flags) :: r.outer }

/-- End a group; the flags are those around it. -/
def closeGroup? (r : Reading) : Option Reading :=
  match r.outer with
  | [] => none
  | (g, f) :: outer =>
    let p := r.group.close
    some { r with
      flags := f, group := g.add (.pattern { p with depth := p.depth + 1 }), outer := outer }

/-! ### Flags and names -/

/-- Set the flag of a letter. -/
def setFlag? (f : Flags) (on : Bool) : Char → Option Flags
  | 'i' => some { f with ignoresCase := on }
  | 'm' => some { f with multiLine := on }
  | 's' => some { f with pointMatchesAll := on }
  | 'U' => some f
  | 'u' => some { f with unicode := on }
  | 'R' => some { f with carriageReturns := on }
  | 'x' => some { f with ignoresBlanks := on }
  | _ => none

/-- Read flags up to a colon or a closing parenthesis: each letter once, at most one hyphen, and a
letter after the hyphen. -/
def flagsFrom? (f : Flags) (on : Bool) (seen : List Char) :
    List Char → Option (Flags × List Char × List Char)
  | [] => none
  | c :: cs =>
    if c = ':' || c = ')' then
      if seen.head? = some '-' then none else some (f, seen, c :: cs)
    else if c ∈ seen then none
    else if c = '-' then flagsFrom? f false (c :: seen) cs
    else match setFlag? f on c with
      | some f => flagsFrom? f on (c :: seen) cs
      | none => none

/-- Whether a name of a group may have a character in it. -/
def isNameChar (first : Bool) (c : Char) : Bool :=
  if first then c = '_' || isAlphabetic c
  else c = '_' || c = '.' || c = '[' || c = ']' || isAlphanumeric c

/-- Whether characters are the name of a group. -/
def isGroupName : List Char → Bool
  | [] => false
  | c :: cs => isNameChar true c && cs.all (isNameChar false)

/-- Begin a group with a name, after its opening bracket. -/
def named? (r : Reading) (cs : List Char) : Option (Reading × List Char) :=
  let name := cs.takeWhile fun c => c ≠ '>'
  match cs.drop name.length with
  | [] => none
  | _ :: rest =>
    if isGroupName name && !r.names.contains name then
      some ({ r with names := name :: r.names }.openGroup r.flags, rest)
    else none

/-- Read what follows an opening parenthesis. -/
def group? (r : Reading) (cs : List Char) : Option (Reading × List Char) :=
  match r.flags.skip cs with
  | '?' :: '=' :: _ => none
  | '?' :: '!' :: _ => none
  | '?' :: '<' :: '=' :: _ => none
  | '?' :: '<' :: '!' :: _ => none
  | '?' :: 'P' :: '<' :: rest => r.named? rest
  | '?' :: '<' :: rest => r.named? rest
  | '?' :: rest =>
    match flagsFrom? r.flags true [] rest with
    | some (f, _, ':' :: rest) => some (r.openGroup f, rest)
    | some (f, seen, ')' :: rest) =>
      if seen = [] then none
      else some ({ r with flags := f, group := r.group.add .flags }, rest)
    | _ => none
  | rest => some (r.openGroup r.flags, rest)

/-! ### Repetitions -/

/-- Pass a question mark, which asks for few repetitions. -/
def skipLazy : List Char → List Char
  | '?' :: cs => cs
  | cs => cs

/-- Read decimal digits, between which blanks may be passed over. -/
def digitsFrom (f : Flags) : Nat → List Char → List Char × List Char
  | 0, cs => ([], cs)
  | fuel + 1, cs =>
    match cs with
    | c :: rest =>
      if isDigit c then
        let r := digitsFrom f fuel (f.skip rest)
        (c :: r.1, r.2)
      else ([], cs)
    | [] => ([], [])

/-- A number with blanks around it, which fits 32 bits; `some none` where no digit stands. -/
def count? (f : Flags) (cs : List Char) : Option (Option Nat × List Char) :=
  let (ds, rest) := digitsFrom f cs.length (cs.dropWhile isBlank)
  let rest := f.skip (rest.dropWhile isBlank)
  if ds = [] then some (none, rest)
  else match Decimal.digitsValue? ds with
    | some n => if n < Nat.pow 2 32 then some (some n, rest) else none
    | none => none

/-- Read the numbers of a repetition after an opening brace. -/
def counted? (r : Reading) (cs : List Char) : Option (Reading × List Char) :=
  let f := r.flags
  let finish (least : Nat) (most : Option Nat) (rest : List Char) : Option (Reading × List Char) :=
    if most.all fun m => least ≤ m then
      (r.group.repeatLast? least most).map fun g => ({ r with group := g }, skipLazy (f.skip rest))
    else none
  match f.skip cs with
  | [] => none
  | cs =>
    match count? f cs with
    | some (some n, '\x7d' :: rest) => finish n (some n) rest
    | some (some n, ',' :: rest) =>
      match f.skip rest with
      | '\x7d' :: rest => finish n none rest
      | rest =>
        match count? f rest with
        | some (some m, '\x7d' :: rest) => finish n (some m) rest
        | _ => none
    | _ => none

/-! ### Steps -/

/-- Read an element. -/
def element? (r : Reading) (e : Element) : Option Reading :=
  match e with
  | .literal c => (Parsed.ofChar? r.flags c).map r.add
  | .condition t => some (r.add (.ofCondition t))
  | .class p weight => some (r.add (.ofClass p weight))

/-- Read what begins with a character. -/
def step? (r : Reading) (c : Char) (cs : List Char) : Option (Reading × List Char) :=
  let repetition (least : Nat) (most : Option Nat) : Option (Reading × List Char) :=
    (r.group.repeatLast? least most).map fun g => ({ r with group := g }, skipLazy cs)
  match c with
  | '(' => r.group? cs
  | ')' => r.closeGroup?.map fun r => (r, cs)
  | '|' => some ({ r with group := r.group.bar }, cs)
  | '[' =>
    (bracket? r.flags cs).map fun b => (r.add ⟨.char b.1.contains, b.1.depth, b.1.weight⟩, b.2)
  | '?' => repetition 0 (some 1)
  | '*' => repetition 0 none
  | '+' => repetition 1 none
  | '\x7b' => r.counted? cs
  | '\\' =>
    match escape? r.flags cs with
    | some (e, rest) => (r.element? e).map fun r => (r, rest)
    | none => none
  | '.' => r.flags.point?.map fun p => (r.add (.ofClass p 400), cs)
  | '^' => some (r.add (.ofCondition r.flags.start), cs)
  | '$' => some (r.add (.ofCondition r.flags.stop), cs)
  | c => (r.element? (.literal c)).map fun r => (r, cs)

/-- Read what is left; every step passes at least one character. -/
def readAll? : Nat → Reading → List Char → Option Parsed
  | 0, _, _ => none
  | fuel + 1, r, cs =>
    match r.flags.skip cs with
    | [] => if r.outer.isEmpty then some r.group.close else none
    | c :: cs =>
      match r.step? c cs with
      | some (r, rest) => readAll? fuel r rest
      | none => none

end Reading

/-- The greatest depth of a pattern. -/
def maxDepth : Nat := 250

/-- The greatest size of the code of a pattern. -/
def maxWeight : Nat := 10 * Nat.pow 2 20

/-- The pattern that a text stands for. -/
def parse (s : String) : Except Fault Written :=
  let cs := s.toList
  match Reading.readAll? (cs.length + 1) ⟨{}, .start, [], []⟩ cs with
  | none => .error .malformed
  | some p =>
    if maxDepth < p.depth then .error .malformed
    else if maxWeight < p.weight then .error .tooLarge
    else .ok p.pattern

end ApiContract.Pattern
