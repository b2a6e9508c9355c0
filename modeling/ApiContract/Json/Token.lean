/-
**Tokens of JSON text.**

A text is read character by character; each character may end a token, begin one, or both.

Main definitions:

* `Json.Token` — punctuation and atoms;
* `Json.tokens?` — the tokens of a text.
-/

import ApiContract.Decimal.Reading
import ApiContract.Tree

set_option autoImplicit false

namespace ApiContract.Json

/-- A token. -/
inductive Token where
  | openObject | closeObject | openArray | closeArray | comma | colon
  | atom (a : Atom)
  deriving Inhabited

/-- What the characters read last belong to.  Characters of an unfinished token are collected in
reverse. -/
inductive Mode where
  /-- Between tokens. -/
  | between
  /-- In a word. -/
  | word (collected : List Char)
  /-- In a number. -/
  | number (collected : List Char)
  /-- In a text. -/
  | text (collected : List Char)
  /-- After a backslash in a text. -/
  | escape (collected : List Char)
  /-- In the digits of an escape; `left` of them are missing.  The escape may have to pair with a
  leading surrogate before it. -/
  | digits (collected : List Char) (leading : Option Nat) (left value : Nat)
  /-- After a leading surrogate, which a trailing one must follow. -/
  | half (collected : List Char) (leading : Nat)
  /-- After a leading surrogate and a backslash. -/
  | halfEscape (collected : List Char) (leading : Nat)

/-! ### Numbers -/

/-- The largest integer of 64 bits. -/
def maxNatural : Nat := Nat.pow 2 64 - 1

/-- Append digits to a number as long as it fits 64 bits; the digits that are left over. -/
def takeDigits (n : Nat) : List Char → Nat × List Char
  | [] => (n, [])
  | c :: cs =>
    let m := n * 10 + (c.toNat - '0'.toNat)
    if m ≤ maxNatural then takeDigits m cs else (n, c :: cs)

/-- A number of at most 64 bits times a power of ten, by powers of ten of at most 308; none for one
that is too large.  Two divisions leave nothing of such a number, so three steps are enough. -/
def scaled? : Nat → Float → Int → Option Float
  | 0, _, _ => none
  | steps + 1, x, e =>
    if e.natAbs ≤ 308 then
      let y := if 0 ≤ e then x * Decimal.ofParts false 1 e else x / Decimal.ofParts false 1 (-e)
      if y.isInf then none else some y
    else if x == 0 then some x
    else if 0 ≤ e then none
    else scaled? steps (x / Decimal.ofParts false 1 308) (e + 308)

/-- A floating-point number of at most 64 bits of digits and a power of ten. -/
def floatOf? (negative : Bool) (digits : Nat) (e : Int) : Option Number :=
  (scaled? 3 (Decimal.ofNat digits) e).map fun x => .float (if negative then -x else x)

/-- The exponent part of a number: nothing, or `e` with an optional sign and digits. -/
def exponent? (cs : List Char) : Option Int :=
  match cs with
  | [] => some 0
  | c :: rest => if c = 'e' ∨ c = 'E' then Decimal.readExponent? (c :: rest) else none

/-- The number that characters stand for: an integer where it has neither fraction nor exponent and
fits 64 bits, else floating point.  Minus zero is floating point. -/
def numberOf? (cs : List Char) : Option Number :=
  let (negative, body) :=
    match cs with
    | '-' :: r => (true, r)
    | r => (false, r)
  let whole := body.takeWhile Text.isDigit
  let rest := body.dropWhile Text.isDigit
  let startsWell :=
    match whole with
    | [] => false
    | ['0'] => true
    | c :: _ => c != '0'
  if !startsWell then none
  else
    let (n, beyond) := takeDigits 0 whole
    match rest with
    | [] =>
      if beyond ≠ [] then floatOf? negative n beyond.length
      else if !negative then some (.int n)
      else if n = 0 ∨ Nat.pow 2 63 < n then floatOf? true n 0
      else some (.int (-(n : Int)))
    | '.' :: r =>
      let fraction := r.takeWhile Text.isDigit
      let (m, unread) := takeDigits n fraction
      if fraction = [] then none
      else match exponent? (r.dropWhile Text.isDigit) with
        | some e =>
          floatOf? negative m (e + beyond.length - (fraction.length - unread.length : Nat))
        | none => none
    | r =>
      match exponent? r with
      | some e => floatOf? negative n (e + beyond.length)
      | none => none

/-- The atom of a word. -/
def wordOf? (cs : List Char) : Option Atom :=
  match String.ofList cs with
  | "null" => some .null
  | "true" => some (.bool true)
  | "false" => some (.bool false)
  | _ => none

/-! ### The steps -/

/-- White space between tokens. -/
def isSpace (c : Char) : Bool := c = ' ' || c = '\n' || c = '\t' || c = '\r'

/-- The characters that a number may hold after its first one. -/
def isNumberChar (c : Char) : Bool :=
  Text.isDigit c || c = '.' || c = 'e' || c = 'E' || c = '+' || c = '-'

/-- Read a character that stands between tokens. -/
def begin? (c : Char) : Option (List Token × Mode) :=
  if isSpace c then some ([], .between)
  else if c = '"' then some ([], .text [])
  else if c = '-' || Text.isDigit c then some ([], .number [c])
  else if 'a' ≤ c && c ≤ 'z' then some ([], .word [c])
  else match c with
    | ',' => some ([.comma], .between)
    | ':' => some ([.colon], .between)
    | '[' => some ([.openArray], .between)
    | ']' => some ([.closeArray], .between)
    | '\x7b' => some ([.openObject], .between)
    | '\x7d' => some ([.closeObject], .between)
    | _ => none

/-- The character that a one-letter escape stands for. -/
def escaped? : Char → Option Char
  | '"' => some '"'
  | '\\' => some '\\'
  | '/' => some '/'
  | 'b' => some (Char.ofNat 8)
  | 'f' => some (Char.ofNat 12)
  | 'n' => some '\n'
  | 'r' => some '\r'
  | 't' => some '\t'
  | _ => none

/-- End an escape of four digits. -/
def endDigits? (collected : List Char) (leading : Option Nat) (n : Nat) : Option Mode :=
  let isTrailing := 0xDC00 ≤ n && n < 0xE000
  match leading with
  | some high =>
    if isTrailing then
      some (.text (Char.ofNat (0x10000 + (high - 0xD800) * 1024 + (n - 0xDC00)) :: collected))
    else none
  | none =>
    if isTrailing then none
    else if 0xD800 ≤ n && n < 0xDC00 then some (.half collected n)
    else some (.text (Char.ofNat n :: collected))

/-- Read a character: the tokens that it ends, and what it belongs to. -/
def step? (mode : Mode) (c : Char) : Option (List Token × Mode) :=
  match mode with
  | .between => begin? c
  | .word cs =>
    if 'a' ≤ c && c ≤ 'z' then some ([], .word (c :: cs))
    else match wordOf? cs.reverse, begin? c with
      | some a, some (ts, m) => some (.atom a :: ts, m)
      | _, _ => none
  | .number cs =>
    if isNumberChar c then some ([], .number (c :: cs))
    else match numberOf? cs.reverse, begin? c with
      | some n, some (ts, m) => some (.atom (.number n) :: ts, m)
      | _, _ => none
  | .text cs =>
    if c = '"' then some ([.atom (.text (String.ofList cs.reverse))], .between)
    else if c = '\\' then some ([], .escape cs)
    else if c.toNat < 0x20 then none
    else some ([], .text (c :: cs))
  | .escape cs =>
    if c = 'u' then some ([], .digits cs none 4 0)
    else (escaped? c).map fun d => ([], .text (d :: cs))
  | .digits cs leading left value =>
    match Text.hexValue? c with
    | none => none
    | some d =>
      if left = 1 then (endDigits? cs leading (value * 16 + d)).map fun m => ([], m)
      else some ([], .digits cs leading (left - 1) (value * 16 + d))
  | .half cs high => if c = '\\' then some ([], .halfEscape cs high) else none
  | .halfEscape cs high => if c = 'u' then some ([], .digits cs (some high) 4 0) else none

/-- The token that the end of the text ends. -/
def finish? : Mode → Option (List Token)
  | .between => some []
  | .word cs => (wordOf? cs.reverse).map fun a => [.atom a]
  | .number cs => (numberOf? cs.reverse).map fun n => [.atom (.number n)]
  | _ => none

/-- The tokens of a text, after those already read. -/
def tokensFrom? (mode : Mode) (read : Array Token) : List Char → Option (List Token)
  | [] => (finish? mode).map fun ts => read.toList ++ ts
  | c :: cs =>
    match step? mode c with
    | some (ts, m) => tokensFrom? m (read ++ ts) cs
    | none => none

/-- The tokens of a text. -/
def tokens? (cs : List Char) : Option (List Token) := tokensFrom? .between #[] cs

end ApiContract.Json
