/-
**Interface descriptions.**

A document describes an interface: the paths of its resources, the operations on them, the
parameters, bodies and responses of each operation.  Parameters, bodies and responses may be
references to components, which the document names.

Main definitions:

* `Document` — a document, with `Info`, `Server`, `PathItem`, `Operation`, `Parameter`,
  `RequestBody`, `Response`, `Header`, `MediaType` and `Components` as its parts;
* `PathItem.operations` — the operations on a path with their methods.
-/

import ApiContract.Document.Schema
import ApiContract.Http.Method

set_option autoImplicit false

namespace ApiContract

/-- What an interface is called. -/
structure Info where
  /-- Its title. -/
  title : String := ""
  /-- Its version. -/
  version : String := ""
  /-- A description. -/
  description : Option String := none
  deriving Inhabited

/-- A variable in the address of a server. -/
structure ServerVariable where
  /-- The value that stands for it. -/
  value : String
  /-- The values it may have. -/
  choices : List String := []
  deriving Inhabited

/-- A server. -/
structure Server where
  /-- Its address, with variables in braces. -/
  url : String
  /-- A description. -/
  description : Option String := none
  /-- The variables of its address with their values. -/
  addressValues : Dict ServerVariable := []
  deriving Inhabited

/-- Where a parameter stands in a request. -/
inductive Location where
  | query | path | header | cookie
  deriving DecidableEq

namespace Location

/-- The locations, in the order in which they are numbered. -/
def all : List Location := [.query, .path, .header, .cookie]

/-- The name of a location. -/
def name : Location → String
  | .query => "query"
  | .path => "path"
  | .header => "header"
  | .cookie => "cookie"

end Location

/-- A parameter, or a reference to one. -/
structure Parameter where
  /-- The component that it stands for. -/
  reference : Option String := none
  /-- Its name. -/
  name : String := ""
  /-- Where it stands. -/
  location : Option Location := none
  /-- Whether it must be present. -/
  required : Bool := false
  /-- Whether its value may be empty. -/
  allowEmptyValue : Bool := false
  /-- Whether each item of an array is a parameter of its own. -/
  explode : Option Bool := none
  /-- What its value must match. -/
  schema : Option Schema := none
  deriving Inhabited

/-- The content of a body in one media type. -/
structure MediaType where
  /-- What the content must match. -/
  schema : Option Schema := none
  deriving Inhabited

/-- The body of a request, or a reference to one. -/
structure RequestBody where
  /-- The component that it stands for. -/
  reference : Option String := none
  /-- Whether a request must have it. -/
  required : Bool := false
  /-- Its content in each media type. -/
  content : Dict MediaType := []
  deriving Inhabited

/-- A header of a response. -/
structure Header where
  /-- Whether a response must have it. -/
  required : Bool := false
  /-- What its value must match. -/
  schema : Option Schema := none
  deriving Inhabited

/-- A response, or a reference to one. -/
structure Response where
  /-- The component that it stands for. -/
  reference : Option String := none
  /-- A description. -/
  description : String := ""
  /-- Its headers. -/
  headers : Dict Header := []
  /-- Its content in each media type. -/
  content : Dict MediaType := []
  deriving Inhabited

/-- An operation. -/
structure Operation where
  /-- Its name. -/
  operationId : Option String := none
  /-- A summary. -/
  summary : Option String := none
  /-- Whether it is deprecated. -/
  deprecated : Bool := false
  /-- Its parameters. -/
  parameters : List Parameter := []
  /-- The body of its requests. -/
  requestBody : Option RequestBody := none
  /-- Its responses by status key. -/
  responses : Dict Response := []
  deriving Inhabited

/-- The operations on a path. -/
structure PathItem where
  get : Option Operation := none
  put : Option Operation := none
  post : Option Operation := none
  delete : Option Operation := none
  options : Option Operation := none
  head : Option Operation := none
  patch : Option Operation := none
  trace : Option Operation := none
  /-- The parameters of all operations. -/
  parameters : List Parameter := []
  deriving Inhabited

/-- The operations on a path with their methods. -/
def PathItem.operations (item : PathItem) : List (Http.Method × Operation) :=
  let slots : List (Http.Method × Option Operation) :=
    [(.get, item.get), (.head, item.head), (.put, item.put), (.post, item.post),
      (.delete, item.delete), (.patch, item.patch), (.options, item.options),
      (.trace, item.trace)]
  slots.filterMap fun slot => slot.2.map fun operation => (slot.1, operation)

/-- What a document names for use in many places. -/
structure Components where
  /-- The named schemas. -/
  schemas : Schemas := []
  /-- The named responses. -/
  responses : Dict Response := []
  /-- The named parameters. -/
  parameters : Dict Parameter := []
  /-- The named request bodies. -/
  requestBodies : Dict RequestBody := []
  deriving Inhabited

/-- A document that describes an interface. -/
structure Document where
  /-- The version of the format. -/
  format : String
  /-- What the interface is called. -/
  info : Info
  /-- Where it is served. -/
  servers : List Server := []
  /-- The paths of its resources. -/
  paths : Dict PathItem := []
  /-- What it names. -/
  components : Components := {}
  deriving Inhabited

end ApiContract
