/-
**Problems of interface descriptions.**

A document that can be read may still break the rules of its format.  All problems are found, in
the order of the document.

Main definitions:

* `Site` — an operation by its method and its path template;
* `Problem` — a broken rule, with `Problem.message`;
* `Document.problems` — the problems of a document.
-/

import ApiContract.Document.Component
import ApiContract.Libraries
import ApiContract.Path.Template
import ApiContract.Specification.StatusKey
import ApiContract.Text.Quoted
import ApiContract.Validation.Violation

set_option autoImplicit false

namespace ApiContract

variable [Libraries]

/-- An operation, by its method and its path template. -/
structure Site where
  /-- The method. -/
  method : Http.Method
  /-- The path template. -/
  template : String
  deriving DecidableEq

/-- The text of a site. -/
def Site.label (s : Site) : String := s.method.name ++ " " ++ s.template

/-- What a schema with a pattern belongs to. -/
inductive PatternSite where
  /-- A parameter of an operation. -/
  | parameter (site : Site) (name : String)
  /-- A schema that the document names. -/
  | component (name : String)
  deriving DecidableEq

/-- The text of what a schema belongs to. -/
def PatternSite.label : PatternSite → String
  | .parameter site name => site.label ++ ": parameter " ++ name
  | .component name => "components.schemas." ++ name

/-- A broken rule. -/
inductive Problem where
  /-- The version of the format is not one that can be read. -/
  | unsupportedFormat (version : String)
  /-- The title is empty. -/
  | noTitle
  /-- The version is empty. -/
  | noVersion
  /-- A path template is malformed. -/
  | malformedTemplate (e : Template.Error)
  /-- An operation has no response. -/
  | noResponse (site : Site)
  /-- A response has a key that stands for no status. -/
  | responseKey (site : Site) (key : String)
  /-- A parameter lacks its name or its location. -/
  | incompleteParameter (site : Site)
  /-- A path parameter is no placeholder of the template. -/
  | strayPathParameter (site : Site) (name : String)
  /-- A path parameter is not required. -/
  | optionalPathParameter (site : Site) (name : String)
  /-- A pattern is malformed, or too large. -/
  | invalidPattern (site : PatternSite) (pattern fault : String)
  /-- A placeholder of the template is no path parameter. -/
  | undeclaredPlaceholder (site : Site) (name : String)

/-- The text of a problem. -/
def Problem.message : Problem → String
  | .unsupportedFormat v => "unsupported openapi version " ++ Text.quote v
  | .noTitle => "info.title is required"
  | .noVersion => "info.version is required"
  | .malformedTemplate e => e.message
  | .noResponse s => s.label ++ ": at least one response is required"
  | .responseKey s key => s.label ++ ": invalid response key " ++ Text.quote key
  | .incompleteParameter s => s.label ++ ": parameters need both name and in"
  | .strayPathParameter s name =>
    s.label ++ ": path parameter " ++ Text.quote name ++ " does not appear in the template"
  | .optionalPathParameter s name =>
    s.label ++ ": path parameter " ++ Text.quote name ++ " must be required"
  | .invalidPattern s p fault =>
    s.label ++ ": invalid pattern " ++ Text.quote p ++ ": " ++ fault
  | .undeclaredPlaceholder s name =>
    s.label ++ ": template parameter " ++ Text.quote name ++ " is not declared"

/-! ### Finding problems -/

/-- The problems of the patterns in a schema. -/
def patternProblems (site : PatternSite) (schema : Schema) : List Problem :=
  (schema.walk.filterMap Schema.pattern).filterMap fun p =>
    match Libraries.compilePattern p with
    | .error fault => some (.invalidPattern site p fault)
    | .ok _ => none

/-- The problems of a path parameter under a template with given placeholders. -/
def pathParameterProblems (site : Site) (names : List String) (p : Parameter) : List Problem :=
  if p.location ≠ some .path then []
  else if p.name ∉ names then [.strayPathParameter site p.name]
  else if p.required then []
  else [.optionalPathParameter site p.name]

/-- The problems of a parameter. -/
def parameterProblems (site : Site) (names : List String) (p : Parameter) : List Problem :=
  if p.name = "" ∨ p.location = none then [.incompleteParameter site]
  else
    pathParameterProblems site names p ++
      p.schema.toList.flatMap (patternProblems (.parameter site p.name))

/-- The parameters that an operation declares, those of its path first: references stand for their
components, and those that lead nowhere are passed over. -/
def declaredParameters (components : Components) (item : PathItem) (o : Operation) :
    List Parameter :=
  (item.parameters ++ o.parameters).filterMap (Parameter.target? components)

/-- The problems of the responses of an operation. -/
def responseProblems (site : Site) (o : Operation) : List Problem :=
  (if o.responses = [] then [.noResponse site] else []) ++
    (o.responses.keys.filter fun key => !StatusKey.isValid key).map (.responseKey site)

/-- The problems of an operation under a template with given placeholders. -/
def operationProblems (components : Components) (names : List String) (item : PathItem)
    (site : Site) (o : Operation) : List Problem :=
  let declared := declaredParameters components item o
  responseProblems site o ++ declared.flatMap (parameterProblems site names) ++
    (names.filter fun name =>
      !declared.any fun p => p.location = some .path && p.name = name).map
        (.undeclaredPlaceholder site)

/-- The problems of a path. -/
def pathProblems (components : Components) (template : String) (item : PathItem) : List Problem :=
  match Template.params template with
  | .error e => [.malformedTemplate e]
  | .ok names =>
    item.operations.flatMap fun o => operationProblems components names item ⟨o.1, template⟩ o.2

/-- The problems of what stands before the paths. -/
def Document.headProblems (d : Document) : List Problem :=
  (if "3.".toList.isPrefixOf d.format.toList then [] else [.unsupportedFormat d.format]) ++
    (if d.info.title = "" then [.noTitle] else []) ++
    (if d.info.version = "" then [.noVersion] else [])

/-- The problems of a document, in order. -/
def Document.problems (d : Document) : List Problem :=
  d.headProblems ++ d.paths.flatMap (fun p => pathProblems d.components p.1 p.2) ++
    d.components.schemas.flatMap fun s => patternProblems (.component s.1) s.2

end ApiContract
