/-
**Patterns as they are read and matched here.**

What libraries say, as far as it can be said here: patterns are read by `Pattern.parse`, and errors
are named without the place where they are.
-/

import ApiContract.Libraries
import ApiContract.Pattern.Parser

set_option autoImplicit false

namespace ApiContract

/-- The text of a fault. -/
def Pattern.Fault.message : Pattern.Fault → String
  | .malformed => "regex parse error"
  | .tooLarge =>
    "Compiled regex exceeds size limit of " ++ toString Pattern.maxWeight ++ " bytes."

/-- The libraries in which patterns are those that are read here. -/
instance Libraries.standard : Libraries where
  compilePattern p :=
    match Pattern.parse p with
    | .ok w => .ok fun text => w.occursIn text.toList
    | .error fault => .error fault.message
  jsonError _ := "expected value"

end ApiContract
