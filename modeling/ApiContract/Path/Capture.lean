/-
**The pattern that a template is matched by.**

A literal stands for itself, and a placeholder is a group of one or more characters other than
slashes: a lazy group if something follows it in its segment, a greedy one if it is the last part.

Main definitions:

* `Capture.Piece`, `Capture.piecesOf` — the pattern of a template;
* `Capture.text` — the text of a pattern, in which the characters that mean something else are
  escaped.
-/

import ApiContract.Path.Template

set_option autoImplicit false

namespace ApiContract.Capture

open Template (Segment)

/-- A piece of a pattern. -/
inductive Piece where
  /-- A character that stands for itself. -/
  | char (c : Char)
  /-- One or more characters other than slashes, as many as possible or as few as possible. -/
  | group (greedy : Bool)
  deriving DecidableEq, Repr

/-- The pieces of a segment: only its last part is a greedy group. -/
def segmentPieces : Segment → List Piece
  | [] => []
  | .literal text :: parts => text.toList.map .char ++ segmentPieces parts
  | .param _ :: parts => .group parts.isEmpty :: segmentPieces parts

/-- The pattern of a template: a slash before every segment, and a slash alone for no segment. -/
def piecesOf : List Segment → List Piece
  | [] => [.char '/']
  | segments => segments.flatMap fun segment => .char '/' :: segmentPieces segment

/-- The characters that stand for themselves only behind a backslash. -/
def specialChars : List Char := "\\.+*?()|[]\x7b\x7d^$#&-~".toList

/-- The characters of a piece. -/
def Piece.chars : Piece → List Char
  | .char c => if c ∈ specialChars then ['\\', c] else [c]
  | .group true => "([^/]+)".toList
  | .group false => "([^/]+?)".toList

/-- The text of a pattern for whole texts. -/
def text (pieces : List Piece) : String :=
  String.ofList ('^' :: pieces.flatMap Piece.chars ++ ['$'])

/-- A point stands for any character, so that it is escaped. -/
example : text (piecesOf [[.param "name", .literal ".", .param "ext"]]) =
    "^/([^/]+?)\\.([^/]+)$" := by decide

end ApiContract.Capture
