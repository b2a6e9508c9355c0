/-
**Path templates.**

A template such as `/files/` followed by a placeholder is a `/`, then segments between further
`/`.  A segment is made of literal text and of placeholders in braces, and two placeholders never
touch.

Main definitions:

* `Template.Part`, `Template.Segment` — the parts of a segment;
* `Template.parse` — the segments of a template, or why it is malformed;
* `Template.print` — the template with given segments;
* `Template.params` — the placeholder names of a template, in order;
* `Template.specificity` — the order in which templates are tried: fewer placeholders first, then
  longer templates, then by bytes.
-/

import ApiContract.Text.Basic
import ApiContract.Text.Quoted

set_option autoImplicit false

namespace ApiContract.Template

/-- One part of a segment. -/
inductive Part where
  /-- Text that stands for itself. -/
  | literal (text : String)
  /-- A placeholder with its name. -/
  | param (name : String)
  deriving DecidableEq, Repr

/-- The parts of a segment, in order. -/
abbrev Segment := List Part

/-- Why a template is malformed. -/
inductive Fault where
  /-- The template does not begin with `/`. -/
  | noLeadingSlash
  /-- A closing brace stands outside a placeholder. -/
  | unbalanced
  /-- A placeholder is not closed within its segment. -/
  | unclosed
  /-- A placeholder has no name. -/
  | emptyName
  /-- An opening brace stands in a name. -/
  | nested
  /-- Two placeholders touch. -/
  | adjacent
  deriving DecidableEq, Repr

/-- The text of a fault. -/
def Fault.message : Fault → String
  | .noLeadingSlash => "must start with '/'"
  | .unbalanced => "unbalanced '\x7d'"
  | .unclosed => "unclosed '\x7b'"
  | .emptyName => "empty placeholder name"
  | .nested => "nested '\x7b'"
  | .adjacent => "adjacent placeholders"

/-- A malformed template with the first fault found in it. -/
structure Error where
  /-- The template. -/
  template : String
  /-- Its fault. -/
  fault : Fault
  deriving DecidableEq, Repr

/-- The text of an error. -/
def Error.message (e : Error) : String :=
  "invalid path template " ++ Text.quote e.template ++ ": " ++ e.fault.message

/-! ### Reading -/

/-- The literal part for the characters collected in reverse; none for no characters. -/
def literalPart (collected : List Char) : List Part :=
  if collected = [] then [] else [.literal (String.ofList collected.reverse)]

mutual

/-- Read a segment outside braces.  The literal text so far is collected in reverse; `touching`
says that a placeholder stands directly before it. -/
def readLiteral (touching : Bool) (collected : List Char) : List Char → Except Fault Segment
  | [] => .ok (literalPart collected)
  | c :: cs =>
    if c = '\x7d' then .error .unbalanced
    else if c = '\x7b' then
      match readName (touching && collected = []) [] cs with
      | .ok parts => .ok (literalPart collected ++ parts)
      | .error e => .error e
    else readLiteral touching (c :: collected) cs

/-- Read a segment inside braces.  The name so far is collected in reverse; `touching` says that
another placeholder ends directly before this one. -/
def readName (touching : Bool) (collected : List Char) : List Char → Except Fault Segment
  | [] => .error .unclosed
  | c :: cs =>
    if c = '\x7d' then
      if collected = [] then .error .emptyName
      else if '\x7b' ∈ collected then .error .nested
      else if touching then .error .adjacent
      else match readLiteral true [] cs with
        | .ok parts => .ok (.param (String.ofList collected.reverse) :: parts)
        | .error e => .error e
    else readName touching (c :: collected) cs

end

/-- The parts of one segment. -/
def parseSegment (cs : List Char) : Except Fault Segment := readLiteral false [] cs

/-- The segments with the given texts, or the first fault. -/
def parseSegments : List (List Char) → Except Fault (List Segment)
  | [] => .ok []
  | cs :: rest =>
    match parseSegment cs with
    | .error e => .error e
    | .ok segment =>
      match parseSegments rest with
      | .error e => .error e
      | .ok segments => .ok (segment :: segments)

/-- The segments of a template given as characters. -/
def parseChars : List Char → Except Fault (List Segment)
  | '/' :: [] => .ok []
  | '/' :: rest => parseSegments (Text.fields '/' rest)
  | _ => .error .noLeadingSlash

/-- The segments of a template. -/
def parse (template : String) : Except Error (List Segment) :=
  match parseChars template.toList with
  | .ok segments => .ok segments
  | .error fault => .error ⟨template, fault⟩

/-! ### Printing -/

/-- The characters of a part. -/
def Part.chars : Part → List Char
  | .literal text => text.toList
  | .param name => '\x7b' :: name.toList ++ ['\x7d']

/-- The characters of a segment. -/
def segmentChars (segment : Segment) : List Char := segment.flatMap Part.chars

/-- The characters of a template: a `/` before each segment, and `/` alone for none. -/
def chars : List Segment → List Char
  | [] => ['/']
  | segments => segments.flatMap fun segment => '/' :: segmentChars segment

/-- The template with the given segments. -/
def print (segments : List Segment) : String := String.ofList (chars segments)

/-! ### Names and order -/

/-- The name of a placeholder. -/
def Part.name? : Part → Option String
  | .param name => some name
  | .literal _ => none

/-- The placeholder names of parsed segments, in order. -/
def names (segments : List Segment) : List String := segments.flatten.filterMap Part.name?

/-- The placeholder names of a template, in order. -/
def params (template : String) : Except Error (List String) :=
  match parse template with
  | .ok segments => .ok (names segments)
  | .error e => .error e

/-- The number of opening braces of a template. -/
def braceCount (template : String) : Nat := template.toList.count '\x7b'

/-- The order in which templates are tried: fewer placeholders first, then longer templates, then
by bytes. -/
def specificity (a b : String) : Ordering :=
  (compare (braceCount a) (braceCount b)).then
    ((compare b.utf8ByteSize a.utf8ByteSize).then (compare a b))

/-- Whether the first template is tried before the second, or they are one template. -/
def precedes (a b : String) : Bool := specificity a b != .gt

end ApiContract.Template
