/-
**Markup documents as data of known types.**

The type that is wanted decides what a scalar stands for: every scalar can be read as text, and what
is left out can be read as an empty list or map.

Main definitions:

* the instance of `Readable` for the leaves of markup documents;
* `Yaml.read?` — a text as data of a known type.
-/

import ApiContract.Document.Readable
import ApiContract.Yaml.Document

set_option autoImplicit false

namespace ApiContract.Yaml

/-- The scalar that a leaf is. -/
def Leaf.scalar? : Leaf → Option Scalar
  | .scalar s => some s
  | .unreadable => none

/-- The name of a choice: the name of a local tag before a missing value, else the text. -/
def Scalar.choice? (s : Scalar) : Option String :=
  match s.localTag? with
  | some name =>
    if s.style = .plain && (s.text = "" || isNullText s.text) then some name else none
  | none => some s.text

/-- The scalars of markup text have the type that is wanted. -/
instance : Readable Leaf where
  isNull? l := l.scalar?.bind fun s => s.isNull?
  text? l := l.scalar?.map Scalar.text
  bool? l := l.scalar?.bind Scalar.bool?
  nat? l := l.scalar?.bind Scalar.natural?
  float? l := l.scalar?.bind Scalar.float?
  atom? l := l.scalar?.bind Scalar.atom?
  isEmpty l := l.scalar?.any Scalar.isEmpty
  label? l := l.scalar?.map fun s => .name s.text
  choice? l := l.scalar?.bind Scalar.choice?
  isStructural := false

/-- A text as data of a known type.  A text without a document is an empty record. -/
def read? {β : Type} (read : Tree Leaf → Option β) (cs : List Char) : Option β :=
  match tree? cs with
  | none => none
  | some none => read (.map [])
  | some (some t) => read t

end ApiContract.Yaml
