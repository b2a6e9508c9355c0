/-
**Headers.**

A message has headers: names with values.  The case of a name makes no difference.  A name may have
several values; they stand together where the name first came.

Main definitions:

* `Http.Headers` — the headers of a message, with `Headers.add`, `Headers.values` and
  `Headers.first?`;
* `Http.Headers.toList` — the headers as pairs, in order;
* `Http.Headers.text?` — the text of a value that is readable.
-/

import ApiContract.Dict
import ApiContract.Http.Token
import ApiContract.Text.Utf8

set_option autoImplicit false

namespace ApiContract.Http

/-- The headers of a message: names in lower case, each with its values. -/
abbrev Headers := Dict (List (List UInt8))

namespace Headers

/-! ### Names and values -/

/-- The number of bytes of the longest name. -/
def maxNameLength : Nat := 65535

/-- Whether a text may be a name. -/
def isName (s : String) : Bool := isToken s && s.utf8ByteSize ≤ maxNameLength

/-- Whether a byte may stand in a value. -/
def isValueByte (b : UInt8) : Bool := (32 ≤ b && b ≠ 127) || b = 9

/-- Whether bytes may be a value. -/
def isValue (bytes : List UInt8) : Bool := bytes.all isValueByte

/-- Whether a byte can be read. -/
def isReadable (b : UInt8) : Bool := (32 ≤ b && b < 127) || b = 9

/-- The text of a value; none if some of it cannot be read. -/
def text? (value : List UInt8) : Option String :=
  if value.all isReadable then some (String.ofList (value.map fun b => Char.ofNat b.toNat))
  else none

/-! ### Look-up -/

/-- Add a value to a name. -/
def add (h : Headers) (name : String) (value : List UInt8) : Headers :=
  let key := Text.lowerCased name
  Dict.insert h key ((Dict.get? h key).getD [] ++ [value])

/-- The headers with given names and values; none if one of them may not be. -/
def ofList? (fields : List (String × List UInt8)) : Option Headers :=
  if fields.all fun f => isName f.1 && isValue f.2 then
    some (fields.foldl (fun h f => h.add f.1 f.2) [])
  else none

/-- The values of a name. -/
def values (h : Headers) (name : String) : List (List UInt8) :=
  (Dict.get? h (Text.lowerCased name)).getD []

/-- The readable values of a name. -/
def texts (h : Headers) (name : String) : List String := (h.values name).filterMap text?

/-- The first value of a name. -/
def first? (h : Headers) (name : String) : Option (List UInt8) := (h.values name).head?

/-- The media type of the content, if it can be read. -/
def contentType? (h : Headers) : Option String := (h.first? "content-type").bind text?

/-- The names with one value each, in order. -/
def toList (h : Headers) : List (String × List UInt8) :=
  h.flatMap fun f => f.2.map fun value => (f.1, value)

end Headers

end ApiContract.Http
