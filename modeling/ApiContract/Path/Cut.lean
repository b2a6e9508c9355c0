/-
**Cutting a path along a template.**

A path is a template with every placeholder replaced by a non-empty text free of slashes.  The
texts are found by search, the shortest first from left to right.

Main definitions:

* `Cut.Step` — one step of a template: a character, or a placeholder;
* `Cut.stepsOf` — the steps of the segments of a template;
* `Cut.first?` — the texts that fill the placeholders, shortest first.

Main results:

* `Cut.first?_nil`, `Cut.first?_char`, `Cut.first?_hole` — the steps of the search.
-/

import ApiContract.Path.Template

set_option autoImplicit false

namespace ApiContract.Cut

/-- One step of a template. -/
inductive Step where
  /-- A character that must stand as it is. -/
  | char (c : Char)
  /-- A placeholder. -/
  | hole
  deriving DecidableEq, Repr

/-- The steps of a part. -/
def partSteps : Template.Part → List Step
  | .literal text => text.toList.map .char
  | .param _ => [.hole]

/-- The steps of a template: a slash before every segment, and a slash alone for no segment. -/
def stepsOf : List Template.Segment → List Step
  | [] => [.char '/']
  | segments => segments.flatMap fun segment => .char '/' :: segment.flatMap partSteps

/-- Try the non-empty slash-free beginnings of a text, the shortest first, each with what
`continue?` makes of the rest; `taken` is the beginning so far. -/
def shortest (continue? : List Char → Option (List (List Char))) (taken : List Char) :
    List Char → Option (List (List Char))
  | [] => none
  | c :: cs =>
    if c = '/' then none
    else match continue? cs with
      | some texts => some ((taken ++ [c]) :: texts)
      | none => shortest continue? (taken ++ [c]) cs

/-- The texts that fill the placeholders when the steps take up a whole text, shortest first from
left to right. -/
def first? : List Step → List Char → Option (List (List Char))
  | [], cs => if cs = [] then some [] else none
  | .char _ :: _, [] => none
  | .char a :: steps, c :: cs => if a = c then first? steps cs else none
  | .hole :: steps, cs => shortest (first? steps) [] cs

theorem first?_nil (cs : List Char) : first? [] cs = if cs = [] then some [] else none := by
  simp [first?]

theorem first?_char (a c : Char) (steps : List Step) (cs : List Char) :
    first? (.char a :: steps) (c :: cs) = if a = c then first? steps cs else none := by
  simp [first?]

theorem first?_hole (steps : List Step) (cs : List Char) :
    first? (.hole :: steps) cs = shortest (first? steps) [] cs := by
  simp [first?]

end ApiContract.Cut
