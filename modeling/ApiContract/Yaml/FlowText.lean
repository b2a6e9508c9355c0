/-
**Plain and quoted text.**

Main definitions:

* `Yaml.plainText?` — text without quotation marks, which ends before anything that could begin
  another token;
* `Yaml.quotedText?` — text between single or double quotation marks.
-/

import ApiContract.Text.Basic
import ApiContract.Yaml.Folding

set_option autoImplicit false

namespace ApiContract.Yaml

/-! ### Plain text -/

/-- The characters that end plain text inside brackets. -/
def isFlowEnd (c : Char) : Bool :=
  c = ',' || c = '[' || c = ']' || c = '\x7b' || c = '\x7d'

/-- Where plain text is. -/
structure PlainContext where
  /-- Whether the text is inside brackets. -/
  inFlow : Bool
  /-- The least column of the lines that continue the text, outside brackets. -/
  indent : Nat

/-- Read plain text; `gap` says that a blank or a line end has just been read. -/
def plainFrom (x : PlainContext) (gap : Bool) (f : Folding) (place : Place) :
    List Char → Option (Folding × Cursor)
  | [] => some (f, ⟨[], place⟩)
  | c :: cs =>
    if isBlank c then
      if f.broken && place.column < x.indent && c = '\t' then none
      else plainFrom x true (f.blank c) (place.after c) cs
    else if isBreak c then plainFrom x true (f.lineEnd c) (place.after c) cs
    else if gap && ((!x.inFlow && place.column < x.indent) || c = '#' ||
        (place.column = 0 && isDocumentMark (c :: cs))) then
      some (f, ⟨c :: cs, place⟩)
    else if x.inFlow && c = ':' && (cs.head?.any fun d => isFlowEnd d || d = '?') then none
    else if (c = ':' && separates cs.head?) || (x.inFlow && isFlowEnd c) then
      some (f, ⟨c :: cs, place⟩)
    else plainFrom x false (f.push c) (place.after c) cs

/-- Plain text, whether it was followed by the end of a line, and the cursor after it. -/
def plainText? (x : PlainContext) (k : Cursor) : Option (String × Bool × Cursor) :=
  (plainFrom x false .start k.place k.rest).map fun r =>
    (String.ofList r.1.text.reverse, r.1.broken, r.2)

/-! ### Quoted text -/

/-- What the characters of quoted text belong to. -/
inductive QuotedMode where
  /-- To the text itself. -/
  | text
  /-- To an escape. -/
  | escape
  /-- To the digits of an escape, of which some are missing. -/
  | digits (missing value : Nat)

/-- The character of an escape. -/
def escapedChar? : Char → Option Char
  | '0' => some (Char.ofNat 0)
  | 'a' => some (Char.ofNat 7)
  | 'b' => some (Char.ofNat 8)
  | 't' => some '\t'
  | '\t' => some '\t'
  | 'n' => some '\n'
  | 'v' => some (Char.ofNat 0x0B)
  | 'f' => some (Char.ofNat 0x0C)
  | 'r' => some '\r'
  | 'e' => some (Char.ofNat 0x1B)
  | ' ' => some ' '
  | '"' => some '"'
  | '/' => some '/'
  | '\\' => some '\\'
  | 'N' => some (Char.ofNat 0x85)
  | '_' => some (Char.ofNat 0xA0)
  | 'L' => some (Char.ofNat 0x2028)
  | 'P' => some (Char.ofNat 0x2029)
  | _ => none

/-- The number of digits of an escape by number. -/
def escapeLength? : Char → Option Nat
  | 'x' => some 2
  | 'u' => some 4
  | 'U' => some 8
  | _ => none

/-- Read text after its opening mark, up to its closing mark. -/
def quotedFrom (mark : Char) (mode : QuotedMode) (f : Folding) (place : Place) :
    List Char → Option (Folding × Cursor)
  | [] => none
  | c :: cs =>
    match mode with
    | .escape =>
      if isBreak c then quotedFrom mark .text f.join (place.after c) cs
      else match escapeLength? c with
        | some n => quotedFrom mark (.digits n 0) f (place.after c) cs
        | none =>
          match escapedChar? c with
          | some d => quotedFrom mark .text (f.push d) (place.after c) cs
          | none => none
    | .digits missing value =>
      match Text.hexValue? c with
      | none => none
      | some d =>
        let n := value * 16 + d
        if missing ≠ 1 then quotedFrom mark (.digits (missing - 1) n) f (place.after c) cs
        else if n.isValidChar then
          quotedFrom mark .text (f.push (Char.ofNat n)) (place.after c) cs
        else none
    | .text =>
      if isBlank c then quotedFrom mark .text (f.blank c) (place.after c) cs
      else if isBreak c then quotedFrom mark .text (f.lineEnd c) (place.after c) cs
      else if place.column = 0 && isDocumentMark (c :: cs) then none
      else if c = mark then
        match cs with
        | d :: ds =>
          if mark = '\'' ∧ d = '\'' then
            quotedFrom mark .text (f.push '\'') ((place.after c).after d) ds
          else some (f.close, ⟨d :: ds, place.after c⟩)
        | [] => some (f.close, ⟨[], place.after c⟩)
      else if c = '\\' ∧ mark = '"' then quotedFrom mark .escape f.close (place.after c) cs
      else quotedFrom mark .text (f.push c) (place.after c) cs

/-- The text between a quotation mark, which stands at the cursor, and its closing mark. -/
def quotedText? (k : Cursor) : Option (String × Cursor) :=
  match k.rest with
  | [] => none
  | mark :: cs =>
    (quotedFrom mark .text .start (k.place.after mark) cs).map fun r =>
      (String.ofList r.1.text.reverse, r.2)

end ApiContract.Yaml
