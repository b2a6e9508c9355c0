/-
**Values of JSON text.**

The tokens of a text are put together from left to right on a stack of unfinished lists and maps,
which may be at most 127 deep.

Main definitions:

* `Json.tree?` — the tree of a text, with the entries of maps in order;
* `Json.parse?` — the value of a text.
-/

import ApiContract.Json.Token
import ApiContract.Text.Utf8

set_option autoImplicit false

namespace ApiContract.Json

/-- An unfinished list or map, with its parts in reverse. -/
inductive Frame where
  /-- A list. -/
  | list (items : List (Tree Atom))
  /-- A map, with the key whose value comes next. -/
  | map (entries : List (Option Atom × Tree Atom)) (key : Atom)

/-- What may come next. -/
inductive Expect where
  /-- A value. -/
  | value
  /-- The first item of a list, or its end. -/
  | itemOrEnd
  /-- A comma, or the end of the list or map. -/
  | commaOrEnd
  /-- The first key of a map, or its end. -/
  | keyOrEnd
  /-- A key. -/
  | key
  /-- A colon. -/
  | colon
  /-- Nothing: the text is complete. -/
  | nothing (result : Tree Atom)

/-- The greatest number of lists and maps inside each other. -/
def maxDepth : Nat := 127

/-- A finished value goes to the list or map around it. -/
def place (v : Tree Atom) : List Frame → List Frame × Expect
  | [] => ([], .nothing v)
  | .list items :: frames => (.list (v :: items) :: frames, .commaOrEnd)
  | .map entries key :: frames => (.map ((some key, v) :: entries) key :: frames, .commaOrEnd)

/-- Begin a list or a map. -/
def enter? (frame : Frame) (next : Expect) (stack : List Frame) : Option (List Frame × Expect) :=
  if stack.length < maxDepth then some (frame :: stack, next) else none

/-- Read a token where a value may begin. -/
def beginValue? (stack : List Frame) : Token → Option (List Frame × Expect)
  | .atom a => some (place (.leaf a) stack)
  | .openArray => enter? (.list []) .itemOrEnd stack
  | .openObject => enter? (.map [] .null) .keyOrEnd stack
  | _ => none

/-- End the innermost list or map. -/
def leave? : List Frame → Token → Option (List Frame × Expect)
  | .list items :: frames, .closeArray => some (place (.list items.reverse) frames)
  | .map entries _ :: frames, .closeObject => some (place (.map entries.reverse) frames)
  | _, _ => none

/-- Read a key. -/
def readKey? : List Frame → Token → Option (List Frame × Expect)
  | .map entries _ :: frames, .atom (.text s) => some (.map entries (.text s) :: frames, .colon)
  | _, _ => none

/-- Read a token. -/
def advance? (stack : List Frame) (expect : Expect) (t : Token) : Option (List Frame × Expect) :=
  match expect, t with
  | .value, t => beginValue? stack t
  | .itemOrEnd, .closeArray => leave? stack .closeArray
  | .itemOrEnd, t => beginValue? stack t
  | .commaOrEnd, .comma =>
    match stack with
    | .list _ :: _ => some (stack, .value)
    | .map _ _ :: _ => some (stack, .key)
    | [] => none
  | .commaOrEnd, t => leave? stack t
  | .keyOrEnd, .closeObject => leave? stack .closeObject
  | .keyOrEnd, t => readKey? stack t
  | .key, t => readKey? stack t
  | .colon, .colon => some (stack, .value)
  | _, _ => none

/-- The tree of the tokens that are left. -/
def assemble? (stack : List Frame) (expect : Expect) : List Token → Option (Tree Atom)
  | [] =>
    match expect with
    | .nothing result => some result
    | _ => none
  | t :: ts =>
    match advance? stack expect t with
    | some (stack, expect) => assemble? stack expect ts
    | none => none

/-- The tree of a text. -/
def tree? (cs : List Char) : Option (Tree Atom) :=
  match tokens? cs with
  | some ts => assemble? [] .value ts
  | none => none

/-- The value of a text. -/
def parse? (cs : List Char) : Option Json :=
  match tree? cs with
  | some t => ofTree? t
  | none => none

/-- The value of the text that bytes stand for. -/
def ofBytes? (bs : List UInt8) : Option Json :=
  match Utf8.decode? bs with
  | some cs => parse? cs
  | none => none

end ApiContract.Json
