/-
**What is left to libraries.**

Patterns are given to a library for regular expressions, and the bytes of bodies to a reader of
JSON.  Which patterns the one accepts, what it finds in texts, and in which words both complain, is
theirs to say; whatever they say is a parameter of all that is checked with their help.

Main definitions:

* `Libraries` — what libraries say.
-/

set_option autoImplicit false

namespace ApiContract

/-- What libraries say. -/
class Libraries where
  /-- Which texts a pattern is found in, or why it is not accepted. -/
  compilePattern (pattern : String) : Except String (String → Bool)
  /-- What is wrong with bytes that are no JSON text. -/
  jsonError (bytes : List UInt8) : String

end ApiContract
