/-
**Operations for paths of requests.**

The operation for a path is looked for among the templates that declare the method, segment by
segment, under one prefix after the other.  Of several templates that match under a prefix, the
first one in the order of specificity counts.

Main definitions:

* `OperationMatch` — an operation with the texts of its path parameters;
* `Specification.findOperation?` — the operation for a method and a path.
-/

import ApiContract.Path.Prefix
import ApiContract.Path.SegmentMatch
import ApiContract.Specification.Basic
import ApiContract.Text.Percent

set_option autoImplicit false

namespace ApiContract

/-- An operation with the texts that a path gives to its parameters. -/
structure OperationMatch where
  /-- The path template. -/
  template : String
  /-- The operation. -/
  endpoint : Endpoint
  /-- The path parameters with their decoded texts. -/
  params : Dict String

namespace Specification

/-- The texts of the placeholders of a template, by name; of one name the last text counts. -/
def decodedParams (segments : List Template.Segment) (texts : List (List Char)) : Dict String :=
  Dict.ofList
    ((Template.names segments).zip (texts.map fun cs => Percent.decodeSegment (String.ofList cs)))

/-- The match of the segments of a path with a resource that declares a method. -/
def matchResource? (method : Http.Method) (path : List (List Char)) (r : Resource) :
    Option OperationMatch :=
  match r.operation? method, Template.parse r.template with
  | some endpoint, .ok segments =>
    (Template.matchSegments? segments path).map fun texts =>
      ⟨r.template, endpoint, decodedParams segments texts⟩
  | _, _ => none

/-- The match that counts of two: the new one only if its template comes before the other. -/
def preferred (best : Option OperationMatch) (new : OperationMatch) : Option OperationMatch :=
  match best with
  | some old => if Template.specificity old.template new.template = .gt then some new else best
  | none => some new

/-- The match that counts for what is left of a path after a prefix. -/
def matchRest? (s : Specification) (method : Http.Method) (rest : String) :
    Option OperationMatch :=
  match Path.segments rest.toList with
  | some path => (s.resources.filterMap (matchResource? method path)).foldl preferred none
  | none => none

/-- The operation for a method and a path: under the first prefix with a match. -/
def findOperation? (s : Specification) (method : Http.Method) (path : String) :
    Option OperationMatch :=
  s.bases.findSome? fun base => (Path.stripPrefix path base).bind (s.matchRest? method)

end Specification

end ApiContract
