/-
**Reading a tree as data of known types.**

Trees over different leaves are read by the same rules.  They differ in what a single leaf may stand
for: in markup text the type that is wanted decides, elsewhere the leaf has a type of its own.

Main definitions:

* `Readable` — leaves that can be read;
* `Tree.text?`, `Tree.bool?`, `Tree.nat?`, `Tree.float?`, `Tree.json?` — trees as simple values;
* `Tree.optional?`, `Tree.list?`, `Tree.dict?` — trees as values that may be missing, as lists and
  as dictionaries;
* `Tree.record?`, `Tree.choice?` — trees as records with named fields, and as one of several names.
-/

import ApiContract.Dict
import ApiContract.Tree

set_option autoImplicit false

namespace ApiContract

/-- The name of a field or of a choice, or its position. -/
inductive Label where
  | name (s : String)
  | position (n : Nat)

/-- Leaves that can be read. -/
class Readable (α : Type) where
  /-- Whether a leaf stands for a missing value; none if it stands for nothing at all. -/
  isNull? : α → Option Bool
  /-- The text of a leaf. -/
  text? : α → Option String
  /-- The truth value of a leaf. -/
  bool? : α → Option Bool
  /-- The natural number of a leaf. -/
  nat? : α → Option Nat
  /-- The floating-point number of a leaf. -/
  float? : α → Option Float
  /-- The value of a leaf of unknown type. -/
  atom? : α → Option Atom
  /-- Whether a leaf may be read as an empty list, dictionary or record. -/
  isEmpty : α → Bool
  /-- The label of a field. -/
  label? : α → Option Label
  /-- The name of a choice. -/
  choice? : α → Option String
  /-- Whether a list can be read as a record, and a map with one entry as a choice. -/
  isStructural : Bool

/-- The atoms of written documents have types of their own. -/
instance : Readable Atom where
  isNull? a := some (match a with | .null => true | _ => false)
  text? := Atom.text?
  bool? a := match a with | .bool b => some b | _ => none
  nat? a := match a with | .number (.int n) => n.toNat? | _ => none
  float? a := match a with | .number n => some n.toFloat | _ => none
  atom? := some
  isEmpty _ := false
  label? a :=
    match a with
    | .text s => some (.name s)
    | .number (.int n) => n.toNat?.map .position
    | _ => none
  choice? := Atom.text?
  isStructural := true

namespace Tree

variable {α β : Type} [Readable α]

/-! ### Simple values -/

/-- The text of a tree. -/
def text? : Tree α → Option String
  | .leaf l => Readable.text? l
  | _ => none

/-- The truth value of a tree. -/
def bool? : Tree α → Option Bool
  | .leaf l => Readable.bool? l
  | _ => none

/-- The natural number of a tree. -/
def nat? : Tree α → Option Nat
  | .leaf l => Readable.nat? l
  | _ => none

/-- The floating-point number of a tree. -/
def float? : Tree α → Option Float
  | .leaf l => Readable.float? l
  | _ => none

/-- The value of a tree of unknown type. -/
def json? (t : Tree α) : Option Json := Json.readTree? Readable.atom? Readable.text? t

/-- The tree with values of unknown type for leaves. -/
def atoms? (t : Tree α) : Option (Tree Atom) := t.mapLeaves? Readable.atom?

/-! ### Values that may be missing, lists and dictionaries -/

/-- A value that may be missing. -/
def optional? (read : Tree α → Option β) (t : Tree α) : Option (Option β) :=
  match t with
  | .leaf l =>
    match Readable.isNull? l with
    | none => none
    | some true => some none
    | some false => (read t).map some
  | _ => (read t).map some

/-- The values of the items of a list. -/
def each? (read : Tree α → Option β) : List (Tree α) → Option (List β)
  | [] => some []
  | t :: ts =>
    match read t, each? read ts with
    | some v, some vs => some (v :: vs)
    | _, _ => none

/-- The values of a list. -/
def list? (read : Tree α → Option β) : Tree α → Option (List β)
  | .leaf l => if Readable.isEmpty l then some [] else none
  | .list items => each? read items
  | .map _ => none

/-- The entries of a map added to a dictionary. -/
def entries? (read : Tree α → Option β) (d : Dict β) :
    List (Option α × Tree α) → Option (Dict β)
  | [] => some d
  | (k, t) :: es =>
    match k.bind Readable.text?, read t with
    | some key, some v => entries? read (d.insert key v) es
    | _, _ => none

/-- The values of a dictionary. -/
def dict? (read : Tree α → Option β) : Tree α → Option (Dict β)
  | .leaf l => if Readable.isEmpty l then some [] else none
  | .list _ => none
  | .map entries => entries? read [] entries

/-! ### Records and choices -/

/-- The name that a label stands for, among known names; a label that stands for none of them is
passed over. -/
def named? (names : List String) : Label → Option String
  | .name s => if s ∈ names then some s else none
  | .position n => names[n]?

/-- The fields of a record among the entries of a map, added to those already found.  Other entries
are passed over; a field that occurs twice is an error. -/
def fields? (names : List String) (found : Dict (Tree α)) :
    List (Option α × Tree α) → Option (Dict (Tree α))
  | [] => some found
  | (k, t) :: es =>
    match k.bind Readable.label? with
    | none => none
    | some label =>
      match named? names label with
      | none => fields? names found es
      | some name =>
        if found.contains name then none else fields? names (found ++ [(name, t)]) es

/-- The fields of a record with known field names. -/
def record? (names : List String) : Tree α → Option (Dict (Tree α))
  | .leaf l => if Readable.isEmpty l then some [] else none
  | .list items =>
    if Readable.isStructural α && items.length ≤ names.length then some (names.zip items) else none
  | .map entries => fields? names [] entries

/-- A name that stands where one of several names is wanted: a leaf, or a map with one entry whose
value is missing. -/
def choice? (names : List String) : Tree α → Option String
  | .leaf l => Readable.choice? l
  | .map [(some k, .leaf l)] =>
    if Readable.isStructural α then
      match Readable.label? k, Readable.isNull? l with
      | some label, some true => named? names label
      | _, _ => none
    else none
  | _ => none

end Tree

namespace Dict

variable {α β : Type}

/-- Read a field that must be there. -/
def required? (d : Dict (Tree α)) (name : String) (read : Tree α → Option β) : Option β :=
  match d.get? name with
  | some t => read t
  | none => none

/-- Read a field that has a default. -/
def orElse? (d : Dict (Tree α)) (name : String) (default : β) (read : Tree α → Option β) :
    Option β :=
  match d.get? name with
  | some t => read t
  | none => some default

/-- Read a field that may be missing. -/
def optional? [Readable α] (d : Dict (Tree α)) (name : String) (read : Tree α → Option β) :
    Option (Option β) :=
  d.orElse? name none (Tree.optional? read)

end Dict

end ApiContract
