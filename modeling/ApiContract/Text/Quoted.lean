/-
**Quoted text.**

Messages show a text between quotation marks, with an escape for the mark itself, the backslash,
the usual control characters and every character without a shape of its own.

Main definitions:

* `Text.quote` — the quoted form of a text.
-/

import ApiContract.Text.Category

set_option autoImplicit false

namespace ApiContract.Text

/-- One character between quotation marks. -/
def quotedChar (c : Char) : List Char :=
  if c = '"' then ['\\', '"']
  else if c = '\\' then ['\\', '\\']
  else if c = '\t' then ['\\', 't']
  else if c = '\n' then ['\\', 'n']
  else if c = '\r' then ['\\', 'r']
  else if c = Char.ofNat 0 then ['\\', '0']
  else if isShown c then [c]
  else ['\\', 'u', '\x7b'] ++ hexadecimal c.toNat ++ ['\x7d']

/-- A text between quotation marks. -/
def quote (s : String) : String := String.ofList ('"' :: s.toList.flatMap quotedChar ++ ['"'])

end ApiContract.Text
