/-
**Path prefixes.**

Main definitions:

* `Path.stripPrefix` — what is left of a path after a prefix that ends at a segment boundary;
* `Path.segments` — the texts between the slashes of a path;
* `Path.normalizeBase` — a base path with one leading and no trailing slash;
* `Path.withoutTrailingSlashes`.
-/

import ApiContract.Text.Basic

set_option autoImplicit false

namespace ApiContract.Path

/-- What is left of a path after a prefix, given as characters. -/
def stripPrefixChars (path head : List Char) : Option (List Char) :=
  if head = [] then some path
  else match head.isPrefixOf? path with
    | some [] => some ['/']
    | some ('/' :: rest) => some ('/' :: rest)
    | _ => none

/-- What is left of a path after a prefix that ends where a segment ends; nothing left is the root
path, and the empty prefix leaves every path as it is. -/
def stripPrefix (path head : String) : Option String :=
  (stripPrefixChars path.toList head.toList).map String.ofList

/-- The segments of a path that begins with a slash; the root path has none. -/
def segments : List Char → Option (List (List Char))
  | '/' :: [] => some []
  | '/' :: rest => some (Text.fields '/' rest)
  | _ => none

/-- Whether a character is a slash. -/
def isSlash (c : Char) : Bool := c = '/'

/-- A text without its trailing slashes. -/
def withoutTrailingSlashes (s : String) : String :=
  String.ofList (Text.trimRight isSlash s.toList)

/-- A base path with exactly one leading slash and no trailing one beside it. -/
def normalizeBase (s : String) : String :=
  String.ofList ('/' :: Text.trimEnds isSlash s.toList)

end ApiContract.Path
