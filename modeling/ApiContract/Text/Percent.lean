/-
**Percent escapes.**

`%` with two hexadecimal digits stands for a byte; any other `%` stands for itself.  Text whose
bytes are no UTF-8 after the replacement is kept as it was.  In the components of a query, a form
or a cookie `+` stands for a space; in a path segment it does not.

Main definitions:

* `Percent.unescape` — the bytes that a text stands for;
* `Percent.decodeSegment` — the text of a path segment;
* `Percent.decodeComponent` — the text of a name or value of a query, form or cookie;
* `Percent.pairs` — the names and values of a query, form or cookie.
-/

import ApiContract.Text.Category
import ApiContract.Text.Utf8

set_option autoImplicit false

namespace ApiContract.Percent

open Text (hexValue?)

/-- The bytes that a text stands for. -/
def unescape : List Char → List UInt8
  | [] => []
  | c :: cs =>
    if c = '%' then
      match cs with
      | a :: b :: rest =>
        match hexValue? a, hexValue? b with
        | some x, some y => UInt8.ofNat (16 * x + y) :: unescape rest
        | _, _ => String.utf8EncodeChar c ++ unescape (a :: b :: rest)
      | rest => String.utf8EncodeChar c ++ unescape rest
    else String.utf8EncodeChar c ++ unescape cs

/-- The text with its escapes replaced, or as it was where that gives no text. -/
def decode (cs : List Char) : List Char := (Utf8.decode? (unescape cs)).getD cs

/-- The text of a path segment. -/
def decodeSegment (s : String) : String := String.ofList (decode s.toList)

/-- The text with a space for each `+`. -/
def spaced (cs : List Char) : List Char := cs.map fun c => if c = '+' then ' ' else c

/-- The text of a name or a value in a query, a form or a cookie. -/
def decodeComponent (s : String) : String := String.ofList (decode (spaced s.toList))

/-- The name and the value of one `name=value`; without `=` the value is empty. -/
def pairOf (cs : List Char) : String × String :=
  let name := cs.takeWhile (· ≠ '=')
  let value := (cs.dropWhile (· ≠ '=')).drop 1
  (decodeComponent (String.ofList name), decodeComponent (String.ofList value))

/-- The names and values between separators, in order; blank pieces are skipped. -/
def pairs (separator : Char) (s : String) : List (String × String) :=
  (((Text.fields separator s.toList).map Text.trimmed).filter (· ≠ [])).map pairOf

end ApiContract.Percent
