/-
**Filters of a log.**

A filter is a list of directives between commas.  A directive says how detailed events may be, for
all events or for some: those of a target, and those in a span with given fields, which stand in
brackets and braces.

Main definitions:

* `Filter.isLevel` — whether a text is a level;
* `Filter.isField` — whether a text is a field, by its name or with a value;
* `Filter.State`, `Filter.State.next?` — the parts of a directive;
* `Filter.isDirective`, `Filter.isValid` — whether texts are directives and filters.
-/

import ApiContract.Decimal.Reading
import ApiContract.Pattern.Parser
import ApiContract.Text.Category

set_option autoImplicit false

namespace ApiContract.Filter

/-- Whether a text is a level: a name in any case, a number up to five, or nothing at all. -/
def isLevel (cs : List Char) : Bool :=
  let digits := match cs with | '+' :: ds => ds | ds => ds
  cs = [] || (Decimal.digitsValue? digits).any (· ≤ 5) ||
    ["error", "warn", "info", "debug", "trace", "off"].any
      (Text.equalIgnoringCase (String.ofList cs))

/-- Whether a text is a value of a field: a truth value, a number or a pattern. -/
def isFieldValue (cs : List Char) : Bool :=
  (Decimal.readFloat? cs).isSome ||
    (match Pattern.parse (String.ofList cs) with
    | .ok _ => true
    | .error _ => false)

/-- Whether a text is a field. -/
def isField (cs : List Char) : Bool :=
  cs ≠ [] &&
    (match Text.fields '=' cs with
    | _ :: value :: _ => isFieldValue value
    | _ => true)

/-- Where in a directive a character stands. -/
inductive State where
  /-- At the beginning. -/
  | start
  /-- In a level or a target. -/
  | levelOrTarget
  /-- In the name of a span. -/
  | span
  /-- In a field that begins at a position. -/
  | field (position : Nat)
  /-- After the fields. -/
  | fields
  /-- After the span. -/
  | afterSpan
  /-- In a level that begins at a position. -/
  | level (position : Nat)
  deriving DecidableEq

/-- The part of a text between two positions. -/
def part (text : List Char) (start stop : Nat) : List Char := (text.drop start).take (stop - start)

/-- Whether a level or a target may begin with a character. -/
def beginsTarget (c : Char) : Bool := c = '-' || c = ':' || c = '_' || Text.isAlphanumeric c

/-- Read the character at a position of a directive. -/
def State.next? (text : List Char) (i : Nat) (c : Char) : State → Option State
  | .start => if c = '[' then some .span else if beginsTarget c then some .levelOrTarget else none
  | .levelOrTarget =>
    some (if c = '=' then .level (i + 1) else if c = '[' then .span else .levelOrTarget)
  | .span => some (if c = ']' then .afterSpan else if c = '\x7b' then .field (i + 1) else .span)
  | .field p =>
    if c = '\x7d' then if isField (part text p i) then some .fields else none
    else some (.field p)
  | .fields => if c = ']' then some .afterSpan else none
  | .afterSpan => if c = '=' then some (.level (i + 1)) else none
  | .level p => some (.level p)

/-- Whether a directive may end. -/
def State.isFinal (text : List Char) : State → Bool
  | .levelOrTarget | .afterSpan => true
  | .level p => isLevel (text.drop p)
  | _ => false

/-- Whether characters from a position on end a directive. -/
def endsDirective (text : List Char) (s : State) (i : Nat) : List Char → Bool
  | [] => s.isFinal text
  | c :: cs =>
    match s.next? text i c with
    | some s => endsDirective text s (i + 1) cs
    | none => false

/-- Whether a text is a directive.  Blanks at its ends are passed over, but positions in it are
counted as if there were none. -/
def isDirective (text : List Char) : Bool := endsDirective text .start 0 (Text.trimmed text)

/-- Whether a text is a filter. -/
def isValid (s : String) : Bool :=
  (Text.fields ',' s.toList).all fun cs => cs = [] || isDirective cs

end ApiContract.Filter
