/-
**Matching one segment in a single pass.**

The parts of a segment are matched from left to right.  A literal must stand at the current
position, a placeholder before a literal takes the shortest non-empty text up to that literal, and
a placeholder at the end takes all that is left.  Positions are counted in bytes when the first
character of a placeholder's text is stepped over, so a placeholder before a literal takes no text
that begins with a character of several bytes.

Main definitions:

* `Template.matchSegment?` — the texts taken by the placeholders of a segment;
* `Template.matchSegments?` — the same for all segments of a template.
-/

import ApiContract.Path.Template

set_option autoImplicit false

namespace ApiContract.Template

/-- Whether a character is a single byte. -/
def isSingleByte (c : Char) : Bool := c.toNat < 128

/-- The texts that the placeholders take when the parts are matched against a whole text. -/
def matchSegment? : List Part → List Char → Option (List (List Char))
  | [], [] => some []
  | [], _ :: _ => none
  | .literal text :: parts, cs =>
    match text.toList.isPrefixOf? cs with
    | some rest => matchSegment? parts rest
    | none => none
  | .param _ :: [], cs => if cs = [] then none else some [cs]
  | .param _ :: .literal text :: parts, cs =>
    match cs with
    | [] => none
    | c :: rest =>
      if isSingleByte c then
        match Text.cutAt text.toList rest with
        | some (before, _) =>
          (matchSegment? (.literal text :: parts) (rest.drop before.length)).map
            ((c :: before) :: ·)
        | none => none
      else none
  | .param _ :: .param _ :: _, _ => none

/-- The texts that the placeholders of a template take when its segments are matched one by one
against the segments of a path. -/
def matchSegments? : List Segment → List (List Char) → Option (List (List Char))
  | [], [] => some []
  | segment :: segments, cs :: rest =>
    match matchSegment? segment cs with
    | none => none
    | some taken => (matchSegments? segments rest).map (taken ++ ·)
  | _, _ => none

end ApiContract.Template
