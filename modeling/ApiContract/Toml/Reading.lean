/-
**Settings text.**

A settings text is a list of lines: headers of tables, and names with values.

Main definitions:

* `Toml.name?`, `Toml.value?` — a dotted name and a value at the beginning of a text;
* `Toml.Line`, `Toml.line?` — a line;
* `Toml.read?` — the table that a text is.
-/

import ApiContract.Toml.Quoted
import ApiContract.Toml.Table

set_option autoImplicit false

namespace ApiContract.Toml

open Text

/-- The number of names in a dotted name, and of brackets inside each other, must be less. -/
def nestingLimit : Nat := 80

/-- What follows the blanks at the beginning of a text. -/
def skipBlanks (cs : List Char) : List Char := cs.dropWhile isBlank

/-! ### Names -/

/-- The characters of names without quotation marks. -/
def isNameChar (c : Char) : Bool :=
  ('a' ≤ c && c ≤ 'z') || ('A' ≤ c && c ≤ 'Z') || isDigit c || c = '_' || c = '-'

/-- A name without dots at the beginning of a text. -/
def simpleName? (cs : List Char) : Option (String × List Char) :=
  match cs with
  | '"' :: _ | '\'' :: _ => quotedName? cs
  | _ =>
    let name := cs.takeWhile isNameChar
    if name = [] then none else some (String.ofList name, cs.drop name.length)

/-- The parts of a dotted name, fewer than there is room for: those before the last one, and the
last one. -/
def nameWithin? : Nat → List Char → Option (List String × String × List Char)
  | 0, _ => none
  | room + 1, cs =>
    match simpleName? (skipBlanks cs) with
    | none => none
    | some (part, rest) =>
      match skipBlanks rest with
      | '.' :: rest =>
        (nameWithin? room rest).map fun (path, last, rest) => (part :: path, last, rest)
      | rest => some ([], part, rest)

/-- A dotted name at the beginning of a text. -/
def name? (cs : List Char) : Option (List String × String × List Char) :=
  nameWithin? (nestingLimit - 1) cs

/-! ### Values -/

/-- What follows the blanks, ends of lines and comments at the beginning of a text. -/
def skipLines? (inComment : Bool) : List Char → Option (List Char)
  | [] => some []
  | '\n' :: cs => skipLines? false cs
  | '\r' :: '\n' :: cs => skipLines? false cs
  | c :: cs =>
    if inComment then if isCommentChar c then skipLines? true cs else none
    else if c = '#' then skipLines? true cs
    else if isBlank c then skipLines? false cs
    else some (c :: cs)

/-- The characters of words. -/
def isWordChar (c : Char) : Bool :=
  ('a' ≤ c && c ≤ 'z') || ('A' ≤ c && c ≤ 'Z') || isDigit c || "_+-.:".toList.contains c

/-- The word at the beginning of a text.  A date takes a time in after one space. -/
def splitWord (cs : List Char) : List Char × List Char :=
  let word := cs.takeWhile isWordChar
  let rest := cs.drop word.length
  match rest with
  | ' ' :: c :: more =>
    if afterDate? word = some [] ∧ isDigit c then
      let time := (c :: more).takeWhile isWordChar
      (word ++ ' ' :: time, (c :: more).drop time.length)
    else (word, rest)
  | _ => (word, rest)

/-- A value without parts at the beginning of a text. -/
def scalar? (cs : List Char) : Option (Value × List Char) :=
  match cs with
  | '"' :: _ | '\'' :: _ => (quoted? cs).map fun (s, rest) => (.scalar (.text s), rest)
  | _ =>
    let (word, rest) := splitWord cs
    (Scalar.ofWord? word).map fun s => (.scalar s, rest)

mutual

/-- A value at the beginning of a text, where `room` bounds the brackets inside each other. -/
def valueWithin? : Nat → Nat → List Char → Option (Value × List Char)
  | 0, _, _ => none
  | fuel + 1, room, cs =>
    match cs with
    | '[' :: rest =>
      match room with
      | 0 => none
      | room + 1 => (itemsWithin? fuel room [] rest).map fun (vs, rest) => (.array vs, rest)
    | '\x7b' :: rest =>
      match room with
      | 0 => none
      | room + 1 =>
        match skipBlanks rest with
        | '\x7d' :: rest => some (.inline [], rest)
        | rest => (entriesWithin? fuel room [] rest).map fun (t, rest) => (.inline t, rest)
    | _ => scalar? cs

/-- The items of a list up to its closing bracket; those so far are collected in reverse. -/
def itemsWithin? : Nat → Nat → List Value → List Char → Option (List Value × List Char)
  | 0, _, _, _ => none
  | fuel + 1, room, collected, cs =>
    match skipLines? false cs with
    | none => none
    | some (']' :: rest) => some (collected.reverse, rest)
    | some rest =>
      match valueWithin? fuel room rest with
      | none => none
      | some (v, rest) =>
        match skipLines? false rest with
        | some (',' :: rest) => itemsWithin? fuel room (v :: collected) rest
        | some (']' :: rest) => some ((v :: collected).reverse, rest)
        | _ => none

/-- The entries of a table in one line up to its closing brace. -/
def entriesWithin? : Nat → Nat → Table → List Char → Option (Table × List Char)
  | 0, _, _, _ => none
  | fuel + 1, room, t, cs =>
    match name? cs with
    | some (path, name, '=' :: rest) =>
      match valueWithin? fuel room (skipBlanks rest) with
      | none => none
      | some (v, rest) =>
        match Table.add? name v path t, skipBlanks rest with
        | some t, ',' :: rest => entriesWithin? fuel room t rest
        | some t, '\x7d' :: rest => some (t, rest)
        | _, _ => none
    | _ => none

end

/-- A value at the beginning of a text. -/
def value? (cs : List Char) : Option (Value × List Char) :=
  valueWithin? (2 * cs.length + 1) (nestingLimit - 1) cs

/-! ### Lines -/

/-- A line. -/
inductive Line where
  /-- It is empty, or holds a comment alone. -/
  | blank
  /-- It begins a table. -/
  | header (h : Table.Header)
  /-- It gives a name a value. -/
  | assignment (a : Table.Assignment)

/-- What follows the end of a line, before which blanks and a comment may stand. -/
def lineEnd? (cs : List Char) : Option (List Char) :=
  let rest := match skipBlanks cs with
    | '#' :: comment => comment.dropWhile isCommentChar
    | rest => rest
  if rest = [] then some [] else newline? rest

/-- The header at the beginning of a text, after its first bracket. -/
def header? (cs : List Char) : Option (Table.Header × List Char) :=
  match cs with
  | '[' :: cs =>
    match name? cs with
    | some (path, name, ']' :: ']' :: rest) => some (⟨path, name, true⟩, rest)
    | _ => none
  | cs =>
    match name? cs with
    | some (path, name, ']' :: rest) => some (⟨path, name, false⟩, rest)
    | _ => none

/-- The line at the beginning of a text, without the blanks before it. -/
def line? (cs : List Char) : Option (Line × List Char) :=
  match cs with
  | [] => some (.blank, [])
  | '#' :: _ | '\n' :: _ | '\r' :: _ => (lineEnd? cs).map fun rest => (.blank, rest)
  | '[' :: cs =>
    match header? cs with
    | some (h, rest) => (lineEnd? rest).map fun rest => (.header h, rest)
    | none => none
  | cs =>
    match name? cs with
    | some (path, name, '=' :: rest) =>
      match value? (skipBlanks rest) with
      | some (v, rest) => (lineEnd? rest).map fun rest => (.assignment ⟨path, name, v⟩, rest)
      | none => none
    | _ => none

/-- The lines of a text. -/
def linesWithin? : Nat → List Char → Option (List Line)
  | 0, _ => some []
  | fuel + 1, cs =>
    match skipBlanks cs with
    | [] => some []
    | cs =>
      match line? cs with
      | some (l, rest) => (linesWithin? fuel rest).map (l :: ·)
      | none => none

/-! ### Texts -/

/-- Add lines to a table: the assignments are those under a header, and `under` adds them. -/
def assemble? (under : List Table.Assignment → Option Table) (as : List Table.Assignment) :
    List Line → Option Table
  | [] => under as.reverse
  | .blank :: lines => assemble? under as lines
  | .assignment a :: lines => assemble? under (a :: as) lines
  | .header h :: lines =>
    match under as.reverse with
    | some t => assemble? (t.section? h) [] lines
    | none => none

/-- The mark of the order of bytes. -/
def byteOrderMark : Char := '\ufeff'

/-- The table that a text is; a mark of the order of bytes may stand before it. -/
def read? (s : String) : Option Table :=
  let cs := match s.toList with
    | [] => []
    | c :: cs => if c = byteOrderMark then cs else c :: cs
  match linesWithin? (cs.length + 1) cs with
  | some lines => assemble? (Table.addAll? []) [] lines
  | none => none

end ApiContract.Toml
