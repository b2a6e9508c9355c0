/-
**Ordered trees of a document.**

A document is read into a tree of lists and maps over leaves before it is given a type.  Maps keep
the order and the repetitions of their entries; a key that is no leaf is only known to be there.
Written documents are trees over atoms.

Main definitions:

* `Tree` — lists and maps over leaves of any type;
* `Tree.mapLeaves?` — a tree with its leaves replaced;
* `Atom` — the leaves of a written document: null, Booleans, numbers and texts;
* `Tree.compact` — the text of a tree over atoms in the interchange format, without blanks;
* `Json.toTree`, `Json.readTree?`, `Json.ofTree?` — values as trees, and trees as values.
-/

import ApiContract.Decimal.Layout
import ApiContract.Json.Basic
import ApiContract.Text.Basic

set_option autoImplicit false

namespace ApiContract

/-- A document as a tree. -/
inductive Tree (α : Type) where
  /-- A leaf. -/
  | leaf (value : α)
  /-- A list. -/
  | list (items : List (Tree α))
  /-- A map with its entries in order; a key that is no leaf is `none`. -/
  | map (entries : List (Option α × Tree α))
  deriving Inhabited

/-- A leaf of a written document. -/
inductive Atom where
  | null
  | bool (b : Bool)
  | number (n : Json.Number)
  | text (s : String)
  deriving Inhabited

/-- The text that an atom is. -/
def Atom.text? : Atom → Option String
  | .text s => some s
  | _ => none

namespace Tree

section

variable {α β : Type}

mutual

/-- The depth of a tree: that of a leaf is zero. -/
def depth : Tree α → Nat
  | .leaf _ => 0
  | .list items => itemDepth items + 1
  | .map entries => entryDepth entries + 1

/-- The greatest depth of items. -/
def itemDepth : List (Tree α) → Nat
  | [] => 0
  | t :: ts => max (depth t) (itemDepth ts)

/-- The greatest depth of the values of entries. -/
def entryDepth : List (Option α × Tree α) → Nat
  | [] => 0
  | (_, t) :: es => max (depth t) (entryDepth es)

end

variable (f : α → Option β)

/-- A key with its leaf replaced; none for a leaf that has no replacement. -/
def mapKey? : Option α → Option (Option β)
  | none => some none
  | some k => (f k).map some

mutual

/-- A tree with its leaves replaced; none if one has no replacement. -/
def mapLeaves? : Tree α → Option (Tree β)
  | .leaf l => (f l).map .leaf
  | .list items => (mapItems? items).map .list
  | .map entries => (mapEntries? entries).map .map

/-- Items with their leaves replaced. -/
def mapItems? : List (Tree α) → Option (List (Tree β))
  | [] => some []
  | t :: ts =>
    match mapLeaves? t, mapItems? ts with
    | some u, some us => some (u :: us)
    | _, _ => none

/-- Entries with their leaves replaced. -/
def mapEntries? : List (Option α × Tree α) → Option (List (Option β × Tree β))
  | [] => some []
  | (k, t) :: es =>
    match mapKey? f k, mapLeaves? t, mapEntries? es with
    | some k, some u, some us => some ((k, u) :: us)
    | _, _, _ => none

end

end

/-! ### Leaves and maps over atoms -/

/-- The tree of a text. -/
def text (s : String) : Tree Atom := .leaf (.text s)

/-- The tree of a truth value. -/
def bool (b : Bool) : Tree Atom := .leaf (.bool b)

/-- The tree of a natural number. -/
def nat (n : Nat) : Tree Atom := .leaf (.number (.int n))

/-- The tree of a floating-point number; an infinity and not-a-number have no form but null. -/
def float (x : Float) : Tree Atom :=
  if x.isFinite then .leaf (.number (.float x)) else .leaf .null

/-- The tree of a map with names for keys. -/
def record (fields : List (String × Tree Atom)) : Tree Atom :=
  .map (fields.map fun f => (some (.text f.1), f.2))

/-! ### Text -/

/-- A character inside quotation marks: the mark, the backslash and control characters are
escaped. -/
def escapedChar (c : Char) : List Char :=
  if c = '"' then ['\\', '"']
  else if c = '\\' then ['\\', '\\']
  else if 0x20 ≤ c.toNat then [c]
  else if c.toNat = 8 then ['\\', 'b']
  else if c.toNat = 12 then ['\\', 'f']
  else if c = '\n' then ['\\', 'n']
  else if c = '\r' then ['\\', 'r']
  else if c = '\t' then ['\\', 't']
  else ['\\', 'u', '0', '0', Text.hexDigit (c.toNat / 16), Text.hexDigit (c.toNat % 16)]

/-- A text inside quotation marks. -/
def quotedText (s : String) : List Char := '"' :: s.toList.flatMap escapedChar ++ ['"']

/-- The characters of a number; an infinity and not-a-number have no form but null. -/
def numberText : Json.Number → List Char
  | .int n => (toString n).toList
  | .float x => if x.isFinite then (Decimal.render Decimal.inJson x).toList else "null".toList

/-- The characters of an atom. -/
def atomText : Atom → List Char
  | .null => "null".toList
  | .bool true => "true".toList
  | .bool false => "false".toList
  | .number n => numberText n
  | .text s => quotedText s

/-- The characters of a key; only texts are keys. -/
def keyText : Option Atom → List Char
  | some (.text s) => quotedText s
  | _ => "null".toList

mutual

/-- The characters of a tree, without blanks. -/
def chars : Tree Atom → List Char
  | .leaf a => atomText a
  | .list items => '[' :: itemChars items ++ [']']
  | .map entries => '\x7b' :: entryChars entries ++ ['\x7d']

/-- The characters of the items of a list, with commas between them. -/
def itemChars : List (Tree Atom) → List Char
  | [] => []
  | [t] => chars t
  | t :: u :: ts => chars t ++ ',' :: itemChars (u :: ts)

/-- The characters of the entries of a map, with commas between them. -/
def entryChars : List (Option Atom × Tree Atom) → List Char
  | [] => []
  | [(k, t)] => keyText k ++ ':' :: chars t
  | (k, t) :: e :: es => keyText k ++ ':' :: chars t ++ ',' :: entryChars (e :: es)

end

/-- The text of a tree, without blanks. -/
def compact (t : Tree Atom) : String := String.ofList (chars t)

end Tree

namespace Json

mutual

/-- The tree of a value. -/
def toTree : Json → Tree Atom
  | .null => .leaf .null
  | .bool b => .leaf (.bool b)
  | .number n => .leaf (.number n)
  | .string s => .leaf (.text s)
  | .array items => .list (itemTrees items)
  | .object members => .map (memberTrees members)

/-- The trees of the items of an array. -/
def itemTrees : List Json → List (Tree Atom)
  | [] => []
  | v :: vs => toTree v :: itemTrees vs

/-- The entries for the members of an object. -/
def memberTrees : List (String × Json) → List (Option Atom × Tree Atom)
  | [] => []
  | (k, v) :: ms => (some (.text k), toTree v) :: memberTrees ms

end

/-- The text of a value, without blanks. -/
def compact (v : Json) : String := v.toTree.compact

/-- The value of an atom; an infinity and not-a-number are null. -/
def ofAtom : Atom → Json
  | .null => .null
  | .bool b => .bool b
  | .number (.int n) => .number (.int n)
  | .number (.float x) => if x.isFinite then .number (.float x) else .null
  | .text s => .string s

section

variable {α : Type} (atom? : α → Option Atom) (key? : α → Option String)

mutual

/-- The value that a tree stands for, where the leaves and the keys are read by given functions. -/
def readTree? : Tree α → Option Json
  | .leaf l => (atom? l).map ofAtom
  | .list items => (readItems? items).map .array
  | .map entries => (readEntries? [] entries).map .object

/-- The values of the items of a list. -/
def readItems? : List (Tree α) → Option (List Json)
  | [] => some []
  | t :: ts =>
    match readTree? t, readItems? ts with
    | some v, some vs => some (v :: vs)
    | _, _ => none

/-- The members that the entries of a map add to an object. -/
def readEntries? (members : List (String × Json)) :
    List (Option α × Tree α) → Option (List (String × Json))
  | [] => some members
  | (k, t) :: es =>
    match k.bind key?, readTree? t with
    | some name, some v => readEntries? (insertMember members name v) es
    | _, _ => none

end

end

/-- The value that a tree over atoms stands for, if all its keys are texts. -/
def ofTree? : Tree Atom → Option Json := readTree? some Atom.text?

end Json

end ApiContract
