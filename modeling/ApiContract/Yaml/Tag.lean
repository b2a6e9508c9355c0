/-
**Tags, anchors and directives.**

A tag is a handle with a suffix; what the handle stands for is set by directives at the begin of the
document.

Main definitions:

* `Yaml.anchorName?` — the name of an anchor or of a reference to one;
* `Yaml.Tag`, `Yaml.tag?` — a tag as it is written;
* `Yaml.Directive`, `Yaml.directive?` — a directive;
* `Yaml.Handles` — what the handles of a document stand for.
-/

import ApiContract.Dict
import ApiContract.Text.Basic
import ApiContract.Text.Utf8
import ApiContract.Yaml.Cursor

set_option autoImplicit false

namespace ApiContract.Yaml

/-! ### Anchors -/

/-- The name after the sign for an anchor or for a reference; it is followed by a separator or by
one of a few signs. -/
def anchorName? (k : Cursor) : Option (String × Cursor) :=
  let (name, after) := k.next.span isNameChar
  let ends := after.isAtSeparator ||
    (after.peek.any fun c => c ∈ ['?', ':', ',', ']', '\x7d', '%', '@', Char.ofNat 0x60])
  if name ≠ [] && ends then some (String.ofList name, after) else none

/-! ### Tags -/

/-- A tag as it is written. -/
structure Tag where
  /-- The handle; empty for a tag in full. -/
  handle : String
  /-- What follows the handle. -/
  suffix : String

/-- The characters of a tag, apart from those that stand only in a tag in full. -/
def isTagChar (c : Char) : Bool :=
  isNameChar c || c ∈ [';', '/', '?', ':', '@', '&', '=', '+', '$', '.', '%', '!', '~', '*', '\'',
    '(', ')']

/-- The characters of a tag in full. -/
def isFullTagChar (c : Char) : Bool := isTagChar c || c = ',' || c = '[' || c = ']'

/-- The bytes of the characters of a tag, where a percent sign and two digits are a byte. -/
def tagBytes? : List Char → Option (List UInt8)
  | [] => some []
  | '%' :: a :: b :: cs =>
    match Text.hexValue? a, Text.hexValue? b, tagBytes? cs with
    | some x, some y, some bs => some (UInt8.ofNat (x * 16 + y) :: bs)
    | _, _, _ => none
  | c :: cs => if c = '%' then none else (tagBytes? cs).map fun bs => Utf8.encode [c] ++ bs

/-- The text of the characters of a tag. -/
def tagText? (cs : List Char) : Option String :=
  match tagBytes? cs with
  | some bs => (Utf8.decode? bs).map String.ofList
  | none => none

/-- The handle at the cursor: an exclamation mark, name characters, and the second exclamation mark
if there is one. -/
def handleAt? (k : Cursor) : Option (List Char × Cursor) :=
  if k.isAt '!' then
    let (name, after) := k.next.span isNameChar
    if after.isAt '!' then some ('!' :: name ++ ['!'], after.next) else some ('!' :: name, after)
  else none

/-- The tag at the cursor; inside brackets a comma may follow it directly. -/
def tag? (inFlow : Bool) (k : Cursor) : Option (Tag × Cursor) :=
  let read : Option (Tag × Cursor) :=
    if k.next.isAt '<' then
      let (cs, after) := k.next.next.span isFullTagChar
      if cs ≠ [] && after.isAt '>' then (tagText? cs).map fun s => (⟨"", s⟩, after.next) else none
    else
      match handleAt? k with
      | none => none
      | some (handle, after) =>
        let (cs, stop) := after.span isTagChar
        if 2 ≤ handle.length && handle.getLast? = some '!' then
          if cs = [] then none else (tagText? cs).map fun s => (⟨String.ofList handle, s⟩, stop)
        else if handle = ['!'] && cs = [] then some (⟨"", "!"⟩, stop)
        else (tagText? cs).map fun s => (⟨"!", String.ofList (handle.drop 1) ++ s⟩, stop)
  match read with
  | some (t, after) =>
    if after.isAtSeparator || (inFlow && after.isAt ',') then some (t, after) else none
  | none => none

/-! ### Directives -/

/-- A directive at the begin of a document. -/
inductive Directive where
  /-- The version of the format. -/
  | version (major minor : Nat)
  /-- What a handle stands for. -/
  | handle (name text : String)

/-- A number of at most nine digits at the cursor. -/
def versionNumber? (k : Cursor) : Option (Nat × Cursor) :=
  let (ds, after) := k.span Text.isDigit
  if ds = [] || 9 < ds.length then none
  else some (ds.foldl (fun n c => n * 10 + (c.toNat - '0'.toNat)) 0, after)

/-- The version at the cursor. -/
def versionAt? (k : Cursor) : Option (Directive × Cursor) :=
  match versionNumber? k with
  | none => none
  | some (major, k) =>
    if k.isAt '.' then
      (versionNumber? k.next).map fun r => (.version major r.1, r.2)
    else none

/-- The handle at the cursor with what it stands for. -/
def handleMeaningAt? (k : Cursor) : Option (Directive × Cursor) :=
  match handleAt? k with
  | none => none
  | some (handle, k) =>
    if handle ≠ ['!'] && handle.getLast? ≠ some '!' then none
    else if !(k.peek.any isBlank) then none
    else
      let (cs, after) := (k.skipWhile isBlank).span isFullTagChar
      if cs ≠ [] && after.isAtSeparator then
        (tagText? cs).map fun s => (.handle (String.ofList handle) s, after)
      else none

/-- The directive at the cursor, with the rest of its line. -/
def directive? (k : Cursor) : Option (Directive × Cursor) :=
  let (name, after) := k.next.span isNameChar
  let value := after.skipWhile isBlank
  let read :=
    if !after.isAtSeparator then none
    else if name = "YAML".toList then versionAt? value
    else if name = "TAG".toList then handleMeaningAt? value
    else none
  match read with
  | some (d, k) => k.endLine?.map fun k => (d, k)
  | none => none

/-- What the handles of a document stand for. -/
abbrev Handles := Dict String

/-- What handles stand for if nothing else is said. -/
def Handles.standard : Handles := [("!", "!"), ("!!", "tag:yaml.org,2002:")]

/-- What the handles stand for after directives: the version may be given once and is 1.1 or 1.2,
and each handle may be given once. -/
def Handles.ofDirectives? (ds : List Directive) : Option Handles :=
  let versions := ds.filterMap fun
    | .version major minor => some (major, minor)
    | .handle _ _ => none
  let handles := ds.filterMap fun
    | .handle name text => some (name, text)
    | .version _ _ => none
  let names := handles.map Prod.fst
  if versions.length ≤ 1 && (versions.all fun v => v.1 = 1 && (v.2 = 1 || v.2 = 2)) &&
      names.eraseDups.length = names.length then
    some (handles ++ standard)
  else none

/-- The full form of a tag; none if its handle stands for nothing. -/
def Tag.full? (t : Tag) (handles : Handles) : Option String :=
  if t.handle = "" then some t.suffix
  else (handles.get? t.handle).map fun text => text ++ t.suffix

end ApiContract.Yaml
