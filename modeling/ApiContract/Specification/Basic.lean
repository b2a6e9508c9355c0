/-
**Specifications.**

A specification is a document without problems, prepared for looking operations up: references to
components are replaced by what they stand for, and the addresses of servers are cut down to the
paths under which they serve.

Main definitions:

* `Endpoint` — an operation without references;
* `Resource` — a path template with its operations;
* `Specification` — a specification;
* `Specification.LoadError` — why a document makes no specification, with `LoadError.message`;
* `Specification.ofDocument` — the specification that a document describes;
* `Specification.operation?` — the operation declared for a template and a method.
-/

import ApiContract.Path.Prefix
import ApiContract.Specification.Problem

set_option autoImplicit false

namespace ApiContract

variable [Libraries]

/-- An operation without references to components. -/
structure Endpoint where
  /-- Its name. -/
  operationId : Option String
  /-- Whether it is deprecated. -/
  deprecated : Bool
  /-- Its parameters, those of its path among them. -/
  parameters : List Parameter
  /-- The body of its requests. -/
  requestBody : Option RequestBody
  /-- Its responses by status key. -/
  responses : Dict Response
  deriving Inhabited

/-- The documented response key that a status falls under. -/
def Endpoint.responseKey? (e : Endpoint) (status : Nat) : Option String :=
  StatusKey.resolve e.responses.keys status

/-- A path template with its operations. -/
structure Resource where
  /-- The template. -/
  template : String
  /-- The operations with their methods. -/
  operations : List (Http.Method × Endpoint)

/-- The operation for a method. -/
def Resource.operation? (r : Resource) (method : Http.Method) : Option Endpoint :=
  (r.operations.find? (·.1 = method)).map Prod.snd

/-- A specification. -/
structure Specification where
  /-- What the interface is called. -/
  title : String
  /-- Its version. -/
  version : String
  /-- The path prefixes under which it is served; the empty one is among them. -/
  bases : List String
  /-- The paths of its resources. -/
  resources : List Resource
  /-- What the document names. -/
  components : Components

namespace Specification

/-! ### Errors -/

/-- Why a document makes no specification. -/
inductive LoadError where
  /-- The text is not a document. -/
  | unreadable
  /-- The document breaks rules. -/
  | invalid (problems : List Problem)
  /-- There are references to schemas that the document does not name. -/
  | missingSchemas (references : List String)
  /-- A reference leads to no component. -/
  | missingComponent (template : String) (kind : ComponentKind) (reference : String)

/-- The text of an error. -/
def LoadError.message : LoadError → String
  | .unreadable => "unable to parse specification"
  | .invalid problems =>
    "specification is not valid: " ++ Text.joined "; " (problems.map Problem.message)
  | .missingSchemas rs =>
    "unable to build specification model: unresolvable schema reference(s): " ++
      Text.joined ", " rs
  | .missingComponent template kind r =>
    "unable to build specification model: " ++ template ++ ": unresolvable " ++ kind.name ++
      " reference " ++ r

/-! ### Servers -/

/-- The address of a server with its variables replaced by their values. -/
def serverAddress (s : Server) : List Char :=
  s.addressValues.foldl
    (fun cs v => Text.replaceAll ('\x7b' :: v.1.toList ++ ['\x7d']) v.2.value.toList cs)
    s.url.toList

/-- The path of a server: what follows the host in a full address, else the whole address. -/
def serverPath (s : Server) : List Char :=
  match Text.cutAt "://".toList (serverAddress s) with
  | some (_, rest) => rest.dropWhile fun c => c ≠ '/'
  | none => serverAddress s

/-- The path prefixes of servers, each once and without slashes at the end; the empty prefix comes
last if no server has it. -/
def basesOf (servers : List Server) : List String :=
  let bases := (servers.map fun s =>
    String.ofList (Text.trimRight Path.isSlash (serverPath s))).foldl
      (fun seen b => if b ∈ seen then seen else seen ++ [b]) []
  if "" ∈ bases then bases else bases ++ [""]

/-! ### Resolution -/

/-- The error for a reference that leads to no component. -/
def dangling (template : String) (kind : ComponentKind) (reference : Option String) : LoadError :=
  .missingComponent template kind (reference.getD "")

/-- Add a parameter to a list; one of the same name and location gives way. -/
def overriding (ps : List Parameter) (p : Parameter) : List Parameter :=
  ps.filter (fun q => !(q.name = p.name && q.location = p.location)) ++ [p]

/-- The parameters of an operation.  Those of the operation itself override those of its path. -/
def parametersOf (components : Components) (template : String) (item : PathItem) (o : Operation) :
    Except LoadError (List Parameter) := do
  let ps ← (item.parameters ++ o.parameters).mapM fun p =>
    match p.target? components with
    | some q => .ok q
    | none => .error (dangling template .parameter p.reference)
  return ps.foldl overriding []

/-- The body of an operation. -/
def bodyOf (components : Components) (template : String) (o : Operation) :
    Except LoadError (Option RequestBody) :=
  match o.requestBody with
  | none => .ok none
  | some b =>
    match b.target? components with
    | some c => .ok (some c)
    | none => .error (dangling template .requestBody b.reference)

/-- The responses of an operation. -/
def responsesOf (components : Components) (template : String) (o : Operation) :
    Except LoadError (Dict Response) :=
  o.responses.mapM fun p =>
    match p.2.target? components with
    | some r => .ok (p.1, r)
    | none => .error (dangling template .response p.2.reference)

/-- The endpoint of an operation. -/
def endpointOf (components : Components) (template : String) (item : PathItem) (o : Operation) :
    Except LoadError Endpoint := do
  let parameters ← parametersOf components template item o
  let body ← bodyOf components template o
  let responses ← responsesOf components template o
  return ⟨o.operationId, o.deprecated, parameters, body, responses⟩

/-- The resource of a path. -/
def resourceOf (components : Components) (template : String) (item : PathItem) :
    Except LoadError Resource := do
  let operations ← item.operations.mapM fun o => do
    let endpoint ← endpointOf components template item o.2
    return (o.1, endpoint)
  return ⟨template, operations⟩

/-- The specification of a document whose rules are not looked at. -/
def build (d : Document) : Except LoadError Specification :=
  match d.missingSchemas with
  | [] => do
    let resources ← d.paths.mapM fun p => resourceOf d.components p.1 p.2
    return ⟨d.info.title, d.info.version, basesOf d.servers, resources, d.components⟩
  | missing => .error (.missingSchemas missing)

/-- The specification that a document describes. -/
def ofDocument (d : Document) : Except LoadError Specification :=
  match d.problems with
  | [] => build d
  | problems => .error (.invalid problems)

/-! ### Operations -/

/-- The resource with a template. -/
def resource? (s : Specification) (template : String) : Option Resource :=
  s.resources.find? (·.template = template)

/-- The operation declared for a template and a method. -/
def operation? (s : Specification) (template : String) (method : Http.Method) : Option Endpoint :=
  (s.resource? template).bind (·.operation? method)

end Specification

end ApiContract
