/-
**Tokens.**

Methods, header names and the parts of a media type are words over one set of ASCII characters.

Main definitions:

* `Http.isTokenChar`, `Http.isToken`.
-/

import ApiContract.Text.Basic

set_option autoImplicit false

namespace ApiContract.Http

/-- The characters of tokens. -/
def isTokenChar (c : Char) : Bool :=
  ('a' ≤ c && c ≤ 'z') || ('A' ≤ c && c ≤ 'Z') || Text.isDigit c ||
    "!#$%&'*+-.^_|~".toList.contains c || c.toNat = 0x60

/-- A non-empty word of token characters. -/
def isToken (s : String) : Bool := s ≠ "" && s.toList.all isTokenChar

end ApiContract.Http
