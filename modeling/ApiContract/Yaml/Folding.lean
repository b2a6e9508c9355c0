/-
**Folded lines.**

Text that runs over several lines is put together from its pieces.  Blanks within a line are kept.
Between two lines, one line feed becomes a space, and of more line feeds the first one is dropped.

Main definitions:

* `Yaml.Folding` — the text so far with the blanks and line ends that follow it;
* `Yaml.Folding.gap` — what the blanks and line ends come to if more text follows.
-/

import ApiContract.Yaml.Cursor

set_option autoImplicit false

namespace ApiContract.Yaml

/-- Text that is being read, everything in reverse. -/
structure Folding where
  /-- The text up to the last character that is not blank. -/
  text : List Char
  /-- The blanks after it on its line. -/
  blanks : List Char
  /-- Whether its line has ended. -/
  broken : Bool
  /-- The end of its line. -/
  first : List Char
  /-- The ends of the empty lines after its line. -/
  more : List Char

namespace Folding

/-- Nothing has been read. -/
def start : Folding := ⟨[], [], false, [], []⟩

/-- Read a blank; blanks at the begin of a line do not count. -/
def blank (f : Folding) (c : Char) : Folding :=
  if f.broken then f else { f with blanks := c :: f.blanks }

/-- Read the end of a line. -/
def lineEnd (f : Folding) (c : Char) : Folding :=
  if f.broken then { f with more := c :: f.more }
  else { f with blanks := [], broken := true, first := [c] }

/-- Go on with the next line without a space. -/
def join (f : Folding) : Folding := { f with blanks := [], broken := true, first := [], more := [] }

/-- What the blanks and line ends come to if more text follows, in reverse. -/
def gap (f : Folding) : List Char :=
  if f.broken then
    if f.first = ['\n'] then (if f.more = [] then [' '] else f.more)
    else f.more ++ f.first
  else f.blanks

/-- The text is about to go on: the gap before it belongs to it. -/
def close (f : Folding) : Folding := ⟨f.gap ++ f.text, [], false, [], []⟩

/-- Read a character that is not blank. -/
def push (f : Folding) (c : Char) : Folding := ⟨c :: (f.gap ++ f.text), [], false, [], []⟩

end Folding

end ApiContract.Yaml
