/-
**Quoted text in settings.**

Text stands in double quotation marks, where a backslash begins an escape, or in single ones, where
it stands for itself.  Three marks enclose text of several lines.

Main definitions:

* `Toml.isCommentChar`, `Toml.newline?` — the characters of lines and the ends of lines;
* `Toml.basic?`, `Toml.literal?` — text in one line, after its opening mark;
* `Toml.basicBlock?`, `Toml.literalBlock?` — text of several lines, after its opening marks;
* `Toml.quoted?` — quoted text of any kind.
-/

import ApiContract.Text.Basic

set_option autoImplicit false

namespace ApiContract.Toml

open Text

/-! ### Characters -/

/-- Whether a character is a blank. -/
def isBlank (c : Char) : Bool := c = ' ' || c = '\t'

/-- Whether a character may stand in a line. -/
def isCommentChar (c : Char) : Bool := c = '\t' || (' ' ≤ c && c.toNat ≠ 127)

/-- What follows an end of a line. -/
def newline? : List Char → Option (List Char)
  | '\n' :: cs => some cs
  | '\r' :: '\n' :: cs => some cs
  | _ => none

/-- The text without an end of a line at its beginning. -/
def withoutNewline (cs : List Char) : List Char := (newline? cs).getD cs

/-! ### Escapes -/

/-- The character that a letter stands for after a backslash. -/
def escaped? : Char → Option Char
  | 'b' => some '\x08'
  | 't' => some '\t'
  | 'n' => some '\n'
  | 'f' => some '\x0c'
  | 'r' => some '\r'
  | '"' => some '"'
  | '\\' => some '\\'
  | _ => none

/-- The character with a code in hexadecimal digits. -/
def codedChar? (cs : List Char) : Option Char :=
  let code := cs.foldl (fun acc c =>
    match acc, hexValue? c with
    | some n, some d => some (n * 16 + d)
    | _, _ => none) (some 0)
  match code with
  | some n => if n.isValidChar then some (Char.ofNat n) else none
  | none => none

/-! ### One line -/

/-- Text in double quotation marks; the characters so far are collected in reverse. -/
def basic? (collected : List Char) : List Char → Option (String × List Char)
  | [] => none
  | '"' :: cs => some (String.ofList collected.reverse, cs)
  | '\\' :: 'u' :: a :: b :: c :: d :: cs =>
    match codedChar? [a, b, c, d] with
    | some x => basic? (x :: collected) cs
    | none => none
  | '\\' :: 'U' :: a :: b :: c :: d :: e :: f :: g :: h :: cs =>
    match codedChar? [a, b, c, d, e, f, g, h] with
    | some x => basic? (x :: collected) cs
    | none => none
  | '\\' :: c :: cs =>
    match escaped? c with
    | some x => basic? (x :: collected) cs
    | none => none
  | c :: cs => if c ≠ '\\' ∧ isCommentChar c then basic? (c :: collected) cs else none

/-- Text in single quotation marks; the characters so far are collected in reverse. -/
def literal? (collected : List Char) : List Char → Option (String × List Char)
  | [] => none
  | '\'' :: cs => some (String.ofList collected.reverse, cs)
  | c :: cs => if isCommentChar c then literal? (c :: collected) cs else none

/-! ### Several lines -/

/-- What follows a backslash that joins lines. -/
inductive Gap where
  /-- Nothing of it is being skipped. -/
  | none
  /-- Blanks up to the end of the line are being skipped. -/
  | line
  /-- Blanks and ends of lines are being skipped. -/
  | lines
  deriving DecidableEq

/-- Text of several lines in three double quotation marks.  One or two further marks before the
closing ones belong to the text.  A backslash at the end of a line joins it to the next text. -/
def basicBlock? (gap : Gap) (collected : List Char) : List Char → Option (String × List Char)
  | [] => .none
  | c :: cs =>
    if gap ≠ .none ∧ isBlank c then basicBlock? gap collected cs
    else if c = '\r' then
      match cs with
      | '\n' :: cs =>
        if gap = .none then basicBlock? .none ('\n' :: collected) cs
        else basicBlock? .lines collected cs
      | _ => .none
    else if c = '\n' then
      if gap = .none then basicBlock? .none ('\n' :: collected) cs
      else basicBlock? .lines collected cs
    else if gap = .line then .none
    else if c = '"' then
      match cs with
      | '"' :: '"' :: '"' :: '"' :: rest =>
        some (String.ofList ('"' :: '"' :: collected).reverse, rest)
      | '"' :: '"' :: '"' :: rest => some (String.ofList ('"' :: collected).reverse, rest)
      | '"' :: '"' :: rest => some (String.ofList collected.reverse, rest)
      | _ => basicBlock? .none ('"' :: collected) cs
    else if c = '\\' then
      match cs with
      | 'u' :: a :: b :: c :: d :: rest =>
        match codedChar? [a, b, c, d] with
        | some x => basicBlock? .none (x :: collected) rest
        | .none => .none
      | 'U' :: a :: b :: c :: d :: e :: f :: g :: h :: rest =>
        match codedChar? [a, b, c, d, e, f, g, h] with
        | some x => basicBlock? .none (x :: collected) rest
        | .none => .none
      | x :: rest =>
        if isBlank x then basicBlock? .line collected rest
        else if x = '\n' then basicBlock? .lines collected rest
        else if x = '\r' then
          match rest with
          | '\n' :: rest => basicBlock? .lines collected rest
          | _ => .none
        else match escaped? x with
          | some y => basicBlock? .none (y :: collected) rest
          | .none => .none
      | [] => .none
    else if isCommentChar c then basicBlock? .none (c :: collected) cs
    else .none

/-- Text of several lines in three single quotation marks.  One or two further marks before the
closing ones belong to the text. -/
def literalBlock? (collected : List Char) : List Char → Option (String × List Char)
  | [] => none
  | '\'' :: '\'' :: '\'' :: '\'' :: '\'' :: cs =>
    some (String.ofList ('\'' :: '\'' :: collected).reverse, cs)
  | '\'' :: '\'' :: '\'' :: '\'' :: cs => some (String.ofList ('\'' :: collected).reverse, cs)
  | '\'' :: '\'' :: '\'' :: cs => some (String.ofList collected.reverse, cs)
  | '\r' :: '\n' :: cs => literalBlock? ('\n' :: collected) cs
  | c :: cs =>
    if c = '\n' ∨ isCommentChar c then literalBlock? (c :: collected) cs else none

/-! ### Any kind -/

/-- Quoted text of any kind with what follows it. -/
def quoted? : List Char → Option (String × List Char)
  | '"' :: '"' :: '"' :: cs => basicBlock? .none [] (withoutNewline cs)
  | '"' :: cs => basic? [] cs
  | '\'' :: '\'' :: '\'' :: cs => literalBlock? [] (withoutNewline cs)
  | '\'' :: cs => literal? [] cs
  | _ => none

/-- Quoted text in one line with what follows it. -/
def quotedName? : List Char → Option (String × List Char)
  | '"' :: cs => basic? [] cs
  | '\'' :: cs => literal? [] cs
  | _ => none

end ApiContract.Toml
