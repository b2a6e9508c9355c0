/-
**Blocks of text.**

A block begins with a header: its kind, and in either order an indentation and what happens to the
line ends at its end.  Its lines are indented alike; in a folded block, one line feed between two
lines that do not begin with a blank becomes a space.

Main definitions:

* `Yaml.BlockHeader`, `Yaml.blockHeader?` — the header;
* `Yaml.blockIndent?` — the indentation of a block that does not give it;
* `Yaml.blockText?` — the text of a block.
-/

import ApiContract.Text.Basic
import ApiContract.Yaml.Cursor

set_option autoImplicit false

namespace ApiContract.Yaml

/-- What happens to the line ends at the end of a block. -/
inductive Chomping where
  /-- All are dropped. -/
  | strip
  /-- The first one is kept. -/
  | clip
  /-- All are kept. -/
  | keep
  deriving DecidableEq

/-- The header of a block. -/
structure BlockHeader where
  /-- What happens to the line ends at its end. -/
  chomping : Chomping
  /-- How far it is indented beyond what is around it, if that is given. -/
  increment : Option Nat

/-- What a sign in a header means. -/
def chompingOf? : Char → Option Chomping
  | '+' => some .keep
  | '-' => some .strip
  | _ => none

/-- A sign in a header, if one stands here. -/
def chompingAt (k : Cursor) : Chomping × Cursor :=
  match k.peek.bind chompingOf? with
  | some c => (c, k.next)
  | none => (.clip, k)

/-- A digit in a header, if one stands here; zero is an error. -/
def incrementAt? (k : Cursor) : Option (Option Nat × Cursor) :=
  match k.peek with
  | some c =>
    if Text.isDigit c then
      if c = '0' then none else some (some (c.toNat - '0'.toNat), k.next)
    else some (none, k)
  | none => some (none, k)

/-- The header at the cursor, after the sign for the kind, with the rest of its line. -/
def blockHeader? (k : Cursor) : Option (BlockHeader × Cursor) :=
  if (k.peek.bind chompingOf?).isSome then
    let (chomping, k) := chompingAt k
    match incrementAt? k with
    | some (increment, k) => k.endLine?.map fun k => (⟨chomping, increment⟩, k)
    | none => none
  else
    match incrementAt? k with
    | some (increment, k) =>
      let (chomping, k) := if increment.isSome then chompingAt k else (.clip, k)
      k.endLine?.map fun k => (⟨chomping, increment⟩, k)
    | none => none

/-- The largest column that spaces reach on the empty lines at the begin of a block and on the
line after them; a tab among these spaces is an error. -/
def reachFrom (column widest : Nat) : List Char → Option Nat
  | [] => some (max widest column)
  | c :: cs =>
    if c = ' ' then reachFrom (column + 1) widest cs
    else if c = '\t' then none
    else if isBreak c then reachFrom 0 (max widest column) cs
    else some (max widest column)

/-- The indentation of a block that does not give it, where `outer` columns are the least. -/
def blockIndent? (outer : Nat) (k : Cursor) : Option Nat :=
  (reachFrom k.place.column 0 k.rest).map fun n => max n (max outer 1)

/-- A block that is being read, everything in reverse. -/
structure Block where
  /-- The lines so far. -/
  text : List Char
  /-- The end of the last line. -/
  last : List Char
  /-- The ends of the empty lines after it. -/
  more : List Char
  /-- Whether the last line begins with a blank. -/
  blankLine : Bool

/-- Begin a line, whose first character is given. -/
def Block.beginLine (b : Block) (isFolded : Bool) (c : Char) : Block :=
  let folds := isFolded && b.last = ['\n'] && !b.blankLine && !isBlank c
  let gap :=
    if folds then (if b.more = [] then [' '] else b.more) else b.more ++ b.last
  ⟨gap ++ b.text, [], [], isBlank c⟩

/-- The text of a block that has ended. -/
def Block.finish (b : Block) (chomping : Chomping) : String :=
  let tail :=
    match chomping with
    | .strip => []
    | .clip => b.last
    | .keep => b.more ++ b.last
  String.ofList (tail ++ b.text).reverse

/-- Read the lines of a block; `inLine` says that a line has begun. -/
def blockFrom (isFolded : Bool) (indent : Nat) (inLine : Bool) (b : Block) (place : Place) :
    List Char → Option (Block × Cursor)
  | [] => some (b, ⟨[], place⟩)
  | c :: cs =>
    if inLine then
      if isBreak c then
        blockFrom isFolded indent false { b with last := [c] } (place.after c) cs
      else blockFrom isFolded indent true { b with text := c :: b.text } (place.after c) cs
    else if c = ' ' && place.column < indent then
      blockFrom isFolded indent false b (place.after c) cs
    else if c = '\t' && place.column < indent then none
    else if isBreak c then
      blockFrom isFolded indent false { b with more := c :: b.more } (place.after c) cs
    else if place.column = indent then
      let b := b.beginLine isFolded c
      blockFrom isFolded indent true { b with text := c :: b.text } (place.after c) cs
    else some (b, ⟨c :: cs, place⟩)

/-- The text of a block after the sign for its kind, where `outer` is the column after that of the
structure around it. -/
def blockText? (isFolded : Bool) (outer : Nat) (k : Cursor) : Option (String × Cursor) :=
  match blockHeader? k with
  | none => none
  | some (header, k) =>
    let indent :=
      match header.increment with
      | some n => some (outer - 1 + n)
      | none => blockIndent? outer k
    match indent with
    | none => none
    | some indent =>
      (blockFrom isFolded indent false ⟨[], [], [], false⟩ k.place k.rest).map fun r =>
        (r.1.finish header.chomping, r.2)

end ApiContract.Yaml
