/-
**Reading markup text from left to right.**

A text is read with one kind of line feed: a carriage return, the pair of both and the next-line
character all count as a line feed.  A cursor is what is left of the text, with the place reached.

Main definitions:

* `Yaml.normalized?` — a text with line feeds only, if all its characters are allowed;
* `Yaml.Place`, `Yaml.Cursor` — line, column and index, and what is left to read;
* `Yaml.Cursor.span` — the characters of a class, and what follows them.
-/

set_option autoImplicit false

namespace ApiContract.Yaml

/-! ### Characters -/

/-- Whether a character may occur in a text: tab, line ends and what is neither a control
character, a surrogate, a byte order mark nor a non-character. -/
def isAllowed (c : Char) : Bool :=
  let n := c.toNat
  n == 0x09 || n == 0x0A || n == 0x0D || (0x20 ≤ n && n ≤ 0x7E) || n == 0x85 ||
    (0xA0 ≤ n && n ≤ 0xD7FF) || (0xE000 ≤ n && n ≤ 0xFFFD && n != 0xFEFF) || 0x10000 ≤ n

/-- Every kind of line end as a line feed. -/
def withLineFeeds : List Char → List Char
  | [] => []
  | '\r' :: '\n' :: cs => '\n' :: withLineFeeds cs
  | c :: cs => (if c = '\r' ∨ c.toNat = 0x85 then '\n' else c) :: withLineFeeds cs

/-- The text as it is read; none for a text with a character that is not allowed. -/
def normalized? (cs : List Char) : Option (List Char) :=
  if cs.all isAllowed then some (withLineFeeds cs) else none

/-- A blank within a line. -/
def isBlank (c : Char) : Bool := c = ' ' || c = '\t'

/-- A character that ends a line. -/
def isBreak (c : Char) : Bool := c = '\n' || c.toNat = 0x2028 || c.toNat = 0x2029

/-- Whether what follows, a character or the end of the text, separates tokens. -/
def separates : Option Char → Bool
  | none => true
  | some c => isBlank c || isBreak c

/-- The characters of names. -/
def isNameChar (c : Char) : Bool :=
  ('0' ≤ c && c ≤ '9') || ('A' ≤ c && c ≤ 'Z') || ('a' ≤ c && c ≤ 'z') || c = '_' || c = '-'

/-- Whether three equal characters stand alone. -/
def isMarkOf (c : Char) (cs : List Char) : Bool :=
  cs.take 3 == [c, c, c] && separates (cs.drop 3).head?

/-- Whether the mark for the begin or the end of a document stands here. -/
def isDocumentMark (cs : List Char) : Bool := isMarkOf '-' cs || isMarkOf '.' cs

/-! ### Places -/

/-- A place in a text. -/
structure Place where
  /-- The number of lines before. -/
  line : Nat
  /-- The number of characters before on the line. -/
  column : Nat
  /-- The number of characters before. -/
  index : Nat

/-- The begin of a text. -/
def Place.first : Place := ⟨0, 0, 0⟩

/-- The place after a character. -/
def Place.after (p : Place) (c : Char) : Place :=
  if isBreak c then ⟨p.line + 1, 0, p.index + 1⟩ else ⟨p.line, p.column + 1, p.index + 1⟩

/-- What is left of a text. -/
structure Cursor where
  /-- The characters that are left. -/
  rest : List Char
  /-- The place of the first of them. -/
  place : Place

namespace Cursor

/-- The next character. -/
def peek (k : Cursor) : Option Char := k.rest.head?

/-- Whether a character comes next. -/
def isAt (k : Cursor) (c : Char) : Bool := k.rest.head? == some c

/-- Whether a separator or the end of the text comes next. -/
def isAtSeparator (k : Cursor) : Bool := separates k.peek

/-- Whether a line or the text ends here. -/
def isAtLineEnd (k : Cursor) : Bool :=
  match k.rest with
  | [] => true
  | c :: _ => isBreak c

/-- Pass a character. -/
def next (k : Cursor) : Cursor :=
  match k.rest with
  | [] => k
  | c :: cs => ⟨cs, k.place.after c⟩

/-- The characters of a class at the begin of a list, and the cursor after them. -/
def spanList (p : Char → Bool) (place : Place) : List Char → List Char × Cursor
  | [] => ([], ⟨[], place⟩)
  | c :: cs =>
    if p c then
      let s := spanList p (place.after c) cs
      (c :: s.1, s.2)
    else ([], ⟨c :: cs, place⟩)

/-- The characters of a class, and the cursor after them. -/
def span (p : Char → Bool) (k : Cursor) : List Char × Cursor := spanList p k.place k.rest

/-- Pass the characters of a class. -/
def skipWhile (p : Char → Bool) (k : Cursor) : Cursor := (k.span p).2

/-- Pass a comment, if one stands here. -/
def skipComment (k : Cursor) : Cursor :=
  if k.isAt '#' then k.skipWhile fun c => !isBreak c else k

/-- Pass what may stand at the end of a line; none if something else stands there. -/
def endLine? (k : Cursor) : Option Cursor :=
  let k := (k.skipWhile isBlank).skipComment
  if k.isAtLineEnd then some k.next else none

end Cursor

end ApiContract.Yaml
