/-
**Route matching.**

All templates are tried on a path, in order of specificity, whatever their methods are.  Under the
first prefix that leaves a matching rest, the first matching template counts.

Main definitions:

* `Route` — a template prepared for matching, with `Route.compile`;
* `Router` — templates in matching order with the prefixes to strip;
* `Router.build`, `Router.matchPath`.
-/

import ApiContract.Dict
import ApiContract.Libraries
import ApiContract.Path.Capture
import ApiContract.Path.Cut
import ApiContract.Path.Prefix

set_option autoImplicit false

namespace ApiContract

variable [Libraries]

/-- A template prepared for matching. -/
structure Route where
  /-- The template. -/
  template : String
  /-- Its steps. -/
  steps : List Cut.Step
  /-- Its placeholder names, in order. -/
  names : List String

/-- Why a template makes no route. -/
inductive Route.Fault where
  /-- It is malformed. -/
  | malformed (fault : Template.Fault)
  /-- Its pattern is not accepted, which may be too large. -/
  | refused (error : String)

/-- The text of a fault. -/
def Route.Fault.message : Route.Fault → String
  | .malformed fault => fault.message
  | .refused error => error

/-- Why no router can be built. -/
structure Route.Error where
  /-- The template. -/
  template : String
  /-- Its fault. -/
  fault : Route.Fault

/-- The text of the error. -/
def Route.Error.message (e : Route.Error) : String :=
  "could not compile route for " ++ Text.quote e.template ++ ": " ++ e.fault.message

/-- Prepare a template.  Its pattern must be one that is accepted. -/
def Route.compile (template : String) : Except Route.Error Route :=
  match Template.parse template with
  | .error e => .error ⟨template, .malformed e.fault⟩
  | .ok segments =>
    match Libraries.compilePattern (Capture.text (Capture.piecesOf segments)) with
    | .error e => .error ⟨template, .refused e⟩
    | .ok _ => .ok ⟨template, Cut.stepsOf segments, Template.names segments⟩

/-- Prepare templates, in their order; the first faulty one is the error. -/
def Route.compileAll : List String → Except Route.Error (List Route)
  | [] => .ok []
  | template :: templates =>
    match Route.compile template with
    | .error e => .error e
    | .ok route =>
      match Route.compileAll templates with
      | .error e => .error e
      | .ok routes => .ok (route :: routes)

/-- The texts that a path gives to the placeholders of a route. -/
def Route.cut? (route : Route) (path : String) : Option (List (List Char)) :=
  Cut.first? route.steps path.toList

/-- Routes in the order in which they are tried, with the prefixes to strip before. -/
structure Router where
  /-- The routes, in matching order. -/
  routes : List Route
  /-- The prefixes, in the order in which they are tried. -/
  prefixes : List String

/-- A path matched by a template. -/
structure RouteMatch where
  /-- The template. -/
  template : String
  /-- The prefix that was stripped. -/
  base : String
  /-- The placeholders with their texts, as they stand in the path. -/
  params : Dict String

namespace Router

/-- The router for templates under prefixes. -/
def build (templates : List String) (prefixes : List String) : Except Route.Error Router :=
  match Route.compileAll templates with
  | .error e => .error e
  | .ok routes =>
    .ok ⟨routes.mergeSort fun a b => Template.precedes a.template b.template, prefixes⟩

/-- The placeholders of a template with the texts they take; the last text of a name counts. -/
def bindings (names : List String) (texts : List (List Char)) : Dict String :=
  Dict.ofList (names.zip (texts.map String.ofList))

/-- The first route that matches the rest of a path after a prefix. -/
def matchRest (router : Router) (base rest : String) : Option RouteMatch :=
  router.routes.findSome? fun route =>
    (route.cut? rest).map fun texts => ⟨route.template, base, bindings route.names texts⟩

/-- The first match under the first prefix with a match. -/
def matchPath (router : Router) (path : String) : Option RouteMatch :=
  router.prefixes.findSome? fun base =>
    match Path.stripPrefix path base with
    | some rest => router.matchRest base rest
    | none => none

/-- The templates, in matching order. -/
def templates (router : Router) : List String := router.routes.map Route.template

end Router

end ApiContract
