/-
**Tables of settings.**

A table gives values to names.  Headers and dotted names build tables up piece by piece, under
rules: no name is given two values, and a table that is written in one place is not continued in
another.

Main definitions:

* `Toml.Value`, `Toml.Table` — values, and tables of named values;
* `Toml.Table.add?` — give a dotted name a value;
* `Toml.Table.within?` — change the table under a header;
* `Toml.Table.section?` — add the table of a header, or one more table to a list of tables.
-/

import ApiContract.Dict
import ApiContract.Toml.Scalar

set_option autoImplicit false

namespace ApiContract.Toml

/-- How a table came to be. -/
inductive Origin where
  /-- It has a header of its own. -/
  | header
  /-- It is on the way to a table with a header. -/
  | implied
  /-- It is on the way to a dotted name. -/
  | dotted
  deriving DecidableEq

/-- A value. -/
inductive Value where
  /-- A value without parts. -/
  | scalar (s : Scalar)
  /-- A list of values. -/
  | array (items : List Value)
  /-- A table that is written in one line. -/
  | inline (entries : List (String × Value))
  /-- A table that may be continued. -/
  | table (origin : Origin) (entries : List (String × Value))
  /-- A list of tables, of which the last one may be continued. -/
  | tables (earlier : List (List (String × Value))) (last : List (String × Value))

/-- A table: names with values, in order. -/
abbrev Table := Dict Value

namespace Table

/-- Give a dotted name a value.  Tables on the way to it must be such that came to be like this. -/
def add? (name : String) (v : Value) : List String → Table → Option Table
  | [], t => if Dict.contains t name then none else some (t ++ [(name, v)])
  | k :: path, t =>
    match Dict.get? t k with
    | none => (add? name v path []).map fun u => Dict.insert t k (.table .dotted u)
    | some (.table origin u) =>
      if origin = .header ∨ (path = [] ∧ origin ≠ .dotted) then none
      else (add? name v path u).map fun u => Dict.insert t k (.table origin u)
    | some (.tables earlier last) =>
      if path = [] then none
      else (add? name v path last).map fun u => Dict.insert t k (.tables earlier u)
    | some _ => none

/-- Change the table under the names of a header; tables that are not there are implied. -/
def within? (change? : Table → Option Table) : List String → Table → Option Table
  | [], t => change? t
  | k :: path, t =>
    match Dict.get? t k with
    | none => (within? change? path []).map fun u => Dict.insert t k (.table .implied u)
    | some (.table origin u) =>
      (within? change? path u).map fun u => Dict.insert t k (.table origin u)
    | some (.tables earlier last) =>
      (within? change? path last).map fun u => Dict.insert t k (.tables earlier u)
    | some _ => none

/-- A dotted name with its value: the names before the last one, the last one, and the value. -/
structure Assignment where
  /-- The names before the last one. -/
  path : List String
  /-- The last name. -/
  name : String
  /-- The value. -/
  value : Value

/-- Make assignments, one after the other. -/
def addAll? (t : Table) (as : List Assignment) : Option Table :=
  as.foldlM (fun t a => add? a.name a.value a.path t) t

/-- Give a name the table of a header with its assignments.  Of what is there already, only an
implied table is continued. -/
def open? (name : String) (as : List Assignment) (t : Table) : Option Table :=
  match Dict.get? t name with
  | none => (addAll? [] as).map fun u => Dict.insert t name (.table .header u)
  | some (.table .implied u) =>
    (addAll? u as).map fun u => Dict.insert t name (.table .header u)
  | some _ => none

/-- Add a table with its assignments to the list of tables that a name has. -/
def append? (name : String) (as : List Assignment) (t : Table) : Option Table :=
  match Dict.get? t name with
  | none => (addAll? [] as).map fun u => Dict.insert t name (.tables [] u)
  | some (.tables earlier last) =>
    (addAll? [] as).map fun u => Dict.insert t name (.tables (earlier ++ [last]) u)
  | some _ => none

/-- A header: the names before the last one, the last one, and whether it adds to a list. -/
structure Header where
  /-- The names before the last one. -/
  path : List String
  /-- The last name. -/
  name : String
  /-- Whether it adds a table to a list. -/
  repeated : Bool

/-- Add the assignments under a header. -/
def section? (t : Table) (h : Header) (as : List Assignment) : Option Table :=
  within? ((if h.repeated then append? else open?) h.name as) h.path t

end Table

end ApiContract.Toml
