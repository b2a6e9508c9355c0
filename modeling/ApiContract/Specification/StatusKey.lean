/-
**Response keys.**

Responses are documented under a status code, under a range such as `4XX`, or under `default`.

Main definitions:

* `StatusKey.rangeOf` — the range of a status code;
* `StatusKey.resolve` — the documented key of a status code: the exact code, else its range in any
  case, else `default`;
* `StatusKey.isValid` — whether a text may be a response key.
-/

import ApiContract.Text.Basic

set_option autoImplicit false

namespace ApiContract.StatusKey

/-- The range of a status code. -/
def rangeOf (status : Nat) : String := toString (status / 100) ++ "XX"

/-- The documented key that a status code falls under. -/
def resolve (keys : List String) (status : Nat) : Option String :=
  (keys.find? (· == toString status)).or
    ((keys.find? (Text.equalIgnoringCase · (rangeOf status))).or (keys.find? (· == "default")))

/-- Whether a text may be a response key: `default`, or a digit from 1 to 5 with two more digits
or two letters x. -/
def isValid (key : String) : Bool :=
  key == "default" ||
    match key.toList with
    | [a, b, c] =>
      ('1' ≤ a && a ≤ '5') &&
        ((Text.isDigit b && Text.isDigit c) || ((b == 'x' || b == 'X') && (c == 'x' || c == 'X')))
    | _ => false

end ApiContract.StatusKey
