/-
**References to components.**

Parameters, request bodies and responses may be references to components of the same kind.  A
reference names one component; what that component holds is not looked at again.

Main definitions:

* `ComponentKind` — the kinds of components that are not schemas;
* `ComponentKind.named?` — the component that a reference names;
* `Parameter.target?`, `RequestBody.target?`, `Response.target?` — what stands for a parameter, a
  body or a response: itself, or the component that it refers to;
* `Document.schemaRoots` — the schemas of a document that are in no other schema;
* `Document.missingSchemas` — the references to schemas that the document does not name.
-/

import ApiContract.Document.Basic

set_option autoImplicit false

namespace ApiContract

/-- The kinds of components that are not schemas. -/
inductive ComponentKind where
  | parameter | requestBody | response
  deriving DecidableEq, Repr

namespace ComponentKind

/-- What a component of the kind is called. -/
def name : ComponentKind → String
  | parameter => "parameter"
  | requestBody => "request body"
  | response => "response"

/-- How references to components of the kind begin. -/
def referenceStart : ComponentKind → String
  | parameter => "#/components/parameters/"
  | requestBody => "#/components/requestBodies/"
  | response => "#/components/responses/"

/-- The component that a reference names. -/
def named? {α : Type} (kind : ComponentKind) (components : Dict α) (reference : String) :
    Option α :=
  match kind.referenceStart.toList.isPrefixOf? reference.toList with
  | some name => Dict.get? components (String.ofList name)
  | none => none

end ComponentKind

/-! ### What a reference stands for -/

/-- The parameter itself, or the component that it refers to. -/
def Parameter.target? (components : Components) (p : Parameter) : Option Parameter :=
  match p.reference with
  | none => some p
  | some r => ComponentKind.parameter.named? components.parameters r

/-- The body itself, or the component that it refers to. -/
def RequestBody.target? (components : Components) (b : RequestBody) : Option RequestBody :=
  match b.reference with
  | none => some b
  | some r => ComponentKind.requestBody.named? components.requestBodies r

/-- The response itself, or the component that it refers to. -/
def Response.target? (components : Components) (r : Response) : Option Response :=
  match r.reference with
  | none => some r
  | some s => ComponentKind.response.named? components.responses s

/-! ### Schemas of a document -/

/-- The schemas of content. -/
def contentSchemas (content : Dict MediaType) : List Schema :=
  content.values.filterMap MediaType.schema

/-- The schemas of a response: those of its content, then those of its headers. -/
def Response.schemas (r : Response) : List Schema :=
  contentSchemas r.content ++ r.headers.values.filterMap Header.schema

namespace Document

/-- The operations of all paths. -/
def operations (d : Document) : List Operation :=
  d.paths.values.flatMap fun item => item.operations.map Prod.snd

/-- The parameters that components, paths and operations declare. -/
def parameters (d : Document) : List Parameter :=
  d.components.parameters.values ++
    d.paths.values.flatMap fun item =>
      item.parameters ++ item.operations.flatMap fun o => o.2.parameters

/-- The request bodies that components and operations declare. -/
def requestBodies (d : Document) : List RequestBody :=
  d.components.requestBodies.values ++ d.operations.filterMap Operation.requestBody

/-- The responses that components and operations declare. -/
def responses (d : Document) : List Response :=
  d.components.responses.values ++ d.operations.flatMap fun o => o.responses.values

/-- The schemas that are in no other schema. -/
def schemaRoots (d : Document) : List Schema :=
  d.components.schemas.values ++ d.parameters.filterMap Parameter.schema ++
    d.requestBodies.flatMap (fun b => contentSchemas b.content) ++
    d.responses.flatMap Response.schemas

/-- All schemas, each before those inside it. -/
def schemas (d : Document) : List Schema := d.schemaRoots.flatMap Schema.walk

/-- The references to schemas that are not there, each once, in the order in which they come. -/
def missingSchemas (d : Document) : List String :=
  ((d.schemas.filterMap Schema.reference).filter fun r =>
    (d.components.schemas.lookup? r).isNone).foldl
      (fun seen r => if r ∈ seen then seen else seen ++ [r]) []

end Document

end ApiContract
