/-
**Classes in brackets.**

A class in brackets is a union of characters, ranges, named classes and further classes in brackets.
Unions may be joined by the signs for intersection, difference and symmetric difference, all of one
precedence and from left to right.

Main definitions:

* `Pattern.Members` — a class with the depth of its brackets and the estimated size of its code;
* `Pattern.Level`, `Pattern.bracket?` — the class of brackets and all brackets inside them.
-/

import ApiContract.Pattern.Element

set_option autoImplicit false

namespace ApiContract.Pattern

/-- A class, with how deep brackets are nested in it and the estimated size of its code. -/
structure Members where
  /-- The characters. -/
  contains : CharClass
  /-- How deep brackets, unions and operations are nested. -/
  depth : Nat
  /-- The estimated size of the code. -/
  weight : Nat

/-- A union that is being read. -/
structure Union where
  /-- The characters so far. -/
  members : Members
  /-- The number of its items. -/
  count : Nat

/-- The empty union. -/
def Union.empty : Union := ⟨⟨fun _ => false, 0, 0⟩, 0⟩

/-- Add an item. -/
def Union.add (u : Union) (m : Members) : Union :=
  ⟨⟨fun c => u.members.contains c || m.contains c, max u.members.depth m.depth,
    u.members.weight + m.weight⟩, u.count + 1⟩

/-- The class of a union; a union of two or more items is one level deeper. -/
def Union.close (u : Union) : Members :=
  if u.count < 2 then u.members else { u.members with depth := u.members.depth + 1 }

/-- What joins two unions. -/
inductive Join where
  | intersection | difference | symmetricDifference

/-- Whether a character is in the joined class. -/
def Join.apply : Join → Bool → Bool → Bool
  | .intersection, a, b => a && b
  | .difference, a, b => a && !b
  | .symmetricDifference, a, b => a != b

/-- Brackets that have not been closed. -/
structure Level where
  /-- Whether they stand for the complement. -/
  isNegated : Bool
  /-- What stands before the last sign that joins unions. -/
  pending : Option (Join × Members)
  /-- The union that is being read. -/
  union : Union

/-- The class of what has been read at a level. -/
def Level.joined (f : Flags) (l : Level) : Members :=
  let right := l.union.close
  match l.pending with
  | none => right
  | some (j, left) =>
    let p := f.folded left.contains
    let q := f.folded right.contains
    ⟨fun c => j.apply (p c) (q c), max left.depth right.depth + 1, left.weight + right.weight⟩

/-- Read a sign that joins unions. -/
def Level.join (f : Flags) (l : Level) (j : Join) : Level :=
  { l with pending := some (j, l.joined f), union := .empty }

/-- The class of a level that is closed. -/
def Level.close? (f : Flags) (l : Level) : Option Members :=
  let m := l.joined f
  (f.negated? l.isNegated (f.folded m.contains)).map fun p =>
    ⟨p, m.depth + 1, m.weight + if l.isNegated then 600 else 0⟩

/-- The estimated size of the code of a range. -/
def rangeWeight (lo hi : Char) : Nat := if hi.toNat < 0x80 then 40 else if lo = hi then 64 else 300

/-- A character as a class. -/
def literalMembers? (f : Flags) (c : Char) : Option Members :=
  (f.single? c).map fun p => ⟨p, 0, rangeWeight c c⟩

/-- Hyphens at the begin of brackets, which stand for themselves. -/
def leadingHyphens (f : Flags) : Nat → Union → List Char → Union × List Char
  | 0, u, cs => (u, cs)
  | fuel + 1, u, cs =>
    match cs with
    | '-' :: rest => leadingHyphens f fuel (u.add ⟨(· == '-'), 0, 40⟩) (f.skip rest)
    | _ => (u, cs)

/-- The level that an opening bracket begins, and what follows: a circumflex for the complement,
then hyphens or a closing bracket that stand for themselves. -/
def openLevel (f : Flags) (cs : List Char) : Level × List Char :=
  let cs := f.skip cs
  let (isNegated, cs) :=
    match cs with
    | '^' :: rest => (true, f.skip rest)
    | _ => (false, cs)
  let (u, cs) := leadingHyphens f cs.length .empty cs
  match cs with
  | ']' :: rest =>
    if u.count = 0 then (⟨isNegated, none, u.add ⟨(· == ']'), 0, 40⟩⟩, f.skip rest)
    else (⟨isNegated, none, u⟩, cs)
  | _ => (⟨isNegated, none, u⟩, cs)

/-- The named class whose colon stands here, and what follows it; none if no such class does. -/
def namedClassAt? (f : Flags) (cs : List Char) : Option (Option Members × List Char) :=
  match cs with
  | ':' :: rest =>
    let (isNegated, body) :=
      match rest with
      | '^' :: r => (true, r)
      | r => (false, r)
    let name := body.takeWhile fun c => c ≠ ':'
    match body.drop name.length with
    | ':' :: ']' :: rest =>
      (asciiClass? (String.ofList name)).map fun p =>
        ((f.negated? isNegated (f.folded p)).map fun p => ⟨p, 0, 60⟩, rest)
    | _ => none
  | _ => none

/-- The element that stands here. -/
def elementAt? (f : Flags) : List Char → Option (Element × List Char)
  | [] => none
  | '\\' :: rest => escape? f rest
  | c :: rest => some (.literal c, rest)

/-- The character or the class that an element is. -/
def Element.members? (f : Flags) : Element → Option Members
  | .literal c => literalMembers? f c
  | .condition _ => none
  | .class p weight => some ⟨p, 0, weight⟩

/-- The range between two characters. -/
def range? (f : Flags) (lo hi : Element) : Option Members :=
  match lo, hi with
  | .literal a, .literal b =>
    if a ≤ b && (f.unicode || b.toNat < 0x80) then
      some ⟨fun c => a ≤ c && c ≤ b, 0, rangeWeight a b⟩
    else none
  | _, _ => none

/-- Read an item: a class, a character or a range. -/
def item? (f : Flags) (cs : List Char) : Option (Members × List Char) :=
  match elementAt? f cs with
  | none => none
  | some (first, rest) =>
    let rest := f.skip rest
    match rest with
    | [] => none
    | '-' :: after =>
      let next := (f.skip after).head?
      if next = some ']' || next = some '-' then (first.members? f).map fun m => (m, rest)
      else
        match elementAt? f (f.skip after) with
        | some (last, rest) => (range? f first last).map fun m => (m, rest)
        | none => none
    | _ => (first.members? f).map fun m => (m, rest)

/-- Read what stands inside brackets; the levels are the open brackets, the innermost first. -/
def bracketFrom? (f : Flags) : Nat → Level → List Level → List Char → Option (Members × List Char)
  | 0, _, _, _ => none
  | fuel + 1, level, outer, cs =>
    match f.skip cs with
    | [] => none
    | '[' :: rest =>
      match namedClassAt? f rest with
      | some (some m, rest) =>
        bracketFrom? f fuel { level with union := level.union.add m } outer rest
      | some (none, _) => none
      | none =>
        let (inner, rest) := openLevel f rest
        bracketFrom? f fuel inner (level :: outer) rest
    | ']' :: rest =>
      match level.close? f, outer with
      | none, _ => none
      | some m, [] => some (m, rest)
      | some m, l :: ls => bracketFrom? f fuel { l with union := l.union.add m } ls rest
    | '&' :: '&' :: rest => bracketFrom? f fuel (level.join f .intersection) outer rest
    | '-' :: '-' :: rest => bracketFrom? f fuel (level.join f .difference) outer rest
    | '~' :: '~' :: rest => bracketFrom? f fuel (level.join f .symmetricDifference) outer rest
    | c :: rest =>
      match item? f (c :: rest) with
      | some (m, rest) => bracketFrom? f fuel { level with union := level.union.add m } outer rest
      | none => none

/-- The class of brackets after the opening one, and what follows the closing one. -/
def bracket? (f : Flags) (cs : List Char) : Option (Members × List Char) :=
  let (level, rest) := openLevel f cs
  bracketFrom? f (cs.length + 1) level [] rest

end ApiContract.Pattern
