/-
**Coverage.**

A coordinate is a documented response: a path template, a method and a response key.  A table of
coverage says of each coordinate whether an exchange has checked it.  Its coordinates stand in
order.

Main definitions:

* `Coordinate` — a documented response, with its order;
* `Coverage` — a table of coverage;
* `Coverage.insert`, `Coverage.mark` — add a coordinate, check a coordinate;
* `Coverage.get?` — whether a coordinate is checked, if it is there;
* `Specification.coordinates`, `Coverage.load` — the coordinates of a specification, none checked.
-/

import ApiContract.Specification.Basic

set_option autoImplicit false

namespace ApiContract

/-! ### Coordinates -/

/-- A documented response. -/
structure Coordinate where
  /-- The path template. -/
  template : String
  /-- The method. -/
  method : TrackedMethod
  /-- The response key. -/
  key : String
  deriving DecidableEq, Repr

namespace Coordinate

/-- Coordinates are in order of their templates, then of their methods, then of their keys. -/
def order (a b : Coordinate) : Ordering :=
  (compare a.template b.template).then
    ((compare a.method.index b.method.index).then (compare a.key b.key))

/-- The text of a coordinate. -/
def text (c : Coordinate) : String := c.method.name ++ " " ++ c.template ++ ": " ++ c.key

end Coordinate

/-- The response key of a server that failed. -/
def internalErrorKey : String := "500"

/-- The coordinates of the operations of a resource; those of servers that failed only if they are
asked for. -/
def Resource.coordinates (r : Resource) (internalErrors : Bool) : List Coordinate :=
  r.operations.flatMap fun o =>
    match TrackedMethod.ofMethod? o.1 with
    | none => []
    | some method =>
      (o.2.responses.keys.filter fun key => internalErrors || key ≠ internalErrorKey).map
        fun key => ⟨r.template, method, key⟩

/-- The coordinates of a specification. -/
def Specification.coordinates (s : Specification) (internalErrors : Bool) : List Coordinate :=
  s.resources.flatMap (·.coordinates internalErrors)

/-! ### Tables -/

/-- A table of coverage: coordinates in order, each with whether it is checked. -/
structure Coverage where
  /-- The rows. -/
  rows : List (Coordinate × Bool)

namespace Coverage

/-- The table without coordinates. -/
def empty : Coverage := ⟨[]⟩

/-- Add an unchecked row where it belongs; a coordinate that is there stays as it is. -/
def insertRow (c : Coordinate) : List (Coordinate × Bool) → List (Coordinate × Bool)
  | [] => [(c, false)]
  | row :: rows =>
    match c.order row.1 with
    | .lt => (c, false) :: row :: rows
    | .eq => row :: rows
    | .gt => row :: insertRow c rows

/-- Add an unchecked coordinate. -/
def insert (t : Coverage) (c : Coordinate) : Coverage := ⟨insertRow c t.rows⟩

/-- The table with given coordinates, none checked. -/
def ofList (cs : List Coordinate) : Coverage := cs.foldl insert empty

/-- The table of a specification. -/
def load (s : Specification) (internalErrors : Bool) : Coverage :=
  ofList (s.coordinates internalErrors)

/-- Whether a coordinate is checked, if it is there. -/
def get? (t : Coverage) (c : Coordinate) : Option Bool := t.rows.lookup c

/-- Whether a coordinate is there. -/
def contains (t : Coverage) (c : Coordinate) : Bool := (t.get? c).isSome

/-- Whether a coordinate is there and checked. -/
def isChecked (t : Coverage) (c : Coordinate) : Bool := (t.get? c).getD false

/-- Check a coordinate if it is there; the answer says whether it is. -/
def mark (t : Coverage) (c : Coordinate) : Bool × Coverage :=
  (t.contains c, ⟨t.rows.map fun row => if row.1 = c then (row.1, true) else row⟩)

/-- The response keys under a template and a method, in order. -/
def keys (t : Coverage) (template : String) (method : TrackedMethod) : List String :=
  (t.rows.filter fun row => row.1.template = template ∧ row.1.method = method).map (·.1.key)

/-- The coordinate under a template and a method that a status falls under. -/
def resolve? (t : Coverage) (template : String) (method : TrackedMethod) (status : Nat) :
    Option Coordinate :=
  (StatusKey.resolve (t.keys template method) status).map fun key => ⟨template, method, key⟩

/-- Whether there is a coordinate under a template. -/
def hasTemplate (t : Coverage) (template : String) : Bool :=
  t.rows.any (·.1.template = template)

/-- The coordinates that are not checked, in order. -/
def unchecked (t : Coverage) : List Coordinate :=
  (t.rows.filter fun row => !row.2).map Prod.fst

/-- The number of coordinates. -/
def size (t : Coverage) : Nat := t.rows.length

/-- The number of coordinates that are checked. -/
def checkedCount (t : Coverage) : Nat := (t.rows.filter Prod.snd).length

end Coverage

end ApiContract
