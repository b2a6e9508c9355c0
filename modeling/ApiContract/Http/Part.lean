/-
**Parts of an exchange.**

Main definitions:

* `Part` — the two messages of an exchange, with what they and their bodies are called.
-/

set_option autoImplicit false

namespace ApiContract

/-- The two messages of an exchange. -/
inductive Part where
  | request | response
  deriving DecidableEq, Repr

namespace Part

/-- The name of a message. -/
def name : Part → String
  | request => "request"
  | response => "response"

/-- What the body of a message is called in paths. -/
def bodyPath : Part → String
  | request => "body"
  | response => "response body"

end Part

end ApiContract
