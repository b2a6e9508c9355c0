/-
**Messages under a specification.**

A request or a response is checked against the operation that it belongs to.  A check does not stop
at the first finding.

Main definitions:

* `Inputs` — the texts of the parameters of a request, by location;
* `Specification.requestFindings`, `Specification.responseFindings` — what is wrong with a message;
* `Specification.checkRequest`, `Specification.checkResponse` — the same as a failure, none for a
  valid message;
* `Specification.requestReadings`, `Specification.responseReadings` — the texts that are read on the
  way;
* `Specification.checkRequest?`, `Specification.checkResponse?` — the result of a check if these
  texts have values.
-/

import ApiContract.Http.Message
import ApiContract.Specification.Basic
import ApiContract.Text.Percent
import ApiContract.Validation.Check
import ApiContract.Validation.Finding

set_option autoImplicit false

namespace ApiContract

variable [Libraries]

/-! ### Inputs -/

/-- The values of each name, in order. -/
def grouped (pairs : List (String × String)) : Dict (List String) :=
  pairs.foldl (fun d p => d.insert p.1 ((d.get? p.1).getD [] ++ [p.2])) []

/-- The texts that a request carries in its parameters. -/
structure Inputs where
  /-- The path parameters. -/
  path : Dict String
  /-- The values in the query, by name. -/
  query : Dict (List String)
  /-- The values in the cookies, by name. -/
  cookies : Dict (List String)
  /-- The headers. -/
  headers : Http.Headers

namespace Inputs

/-- The inputs of a request with given path parameters.  Of the cookies, the readable ones count. -/
def ofRequest (r : Http.Request) (params : Dict String) : Inputs where
  path := params
  query := grouped (Percent.pairs '&' (r.uri.query.getD ""))
  cookies := grouped ((r.headers.texts "cookie").flatMap (Percent.pairs ';'))
  headers := r.headers

/-- The texts of a parameter. -/
def texts (i : Inputs) (name : String) : Location → List String
  | .path => (Dict.get? i.path name).toList
  | .query => (i.query.get? name).getD []
  | .cookie => (i.cookies.get? name).getD []
  | .header => i.headers.texts name

end Inputs

namespace Specification

/-! ### Texts -/

/-- The violations of texts that are read as a schema says; without a schema, none. -/
def textViolations (s : Specification) (schema : Option Schema) (texts : List String) :
    List Violation :=
  match schema with
  | some t => s.components.schemas.violations t (s.components.schemas.coerce t texts)
  | none => []

/-- What is wrong with the texts of a parameter. -/
def parameterFindings (s : Specification) (inputs : Inputs) (p : Parameter) : List Finding :=
  match p.location with
  | none => []
  | some location =>
    match inputs.texts p.name location with
    | [] => if p.required then [.missingParameter location p.name] else []
    | texts => (s.textViolations p.schema texts).map (.parameter location p.name)

/-- What is wrong with the texts of a header.  The media type is not looked at here. -/
def headerFindings (s : Specification) (headers : Http.Headers) (h : String × Header) :
    List Finding :=
  if Text.equalIgnoringCase h.1 "content-type" then []
  else match headers.texts h.1 with
    | [] => if h.2.required then [.missingHeader h.1] else []
    | texts => (s.textViolations h.2.schema texts).map (.header h.1)

/-! ### Bodies -/

/-- What is wrong with a body of a declared media type. -/
def bodyFindings (s : Specification) (part : Part) (m : MediaType) (contentType : String)
    (body : List UInt8) : List Finding :=
  match Body.decode s.components.schemas m.schema contentType body with
  | .ok (.value v) =>
    match m.schema with
    | some t => (s.components.schemas.violations t v).map (.body part)
    | none => []
  | .ok .unstructured => []
  | .error (.unsupported t) => [.unsupported part t]
  | .error (.malformed e) => [.malformed part e]

/-- What is wrong with the content of a message, given the media types that are declared. -/
def contentFindings (s : Specification) (part : Part) (content : Dict MediaType)
    (headers : Http.Headers) (body : List UInt8) : List Finding :=
  match headers.contentType? with
  | none => [.missingContentType part]
  | some t =>
    match Body.negotiate? content t with
    | none => [.undeclaredContentType part t]
    | some (_, m) => s.bodyFindings part m t body

/-- What is wrong with the content of a request. -/
def requestBodyFindings (s : Specification) (b : RequestBody) (r : Http.Request) : List Finding :=
  if r.body = [] then if b.required then [.missingBody] else []
  else s.contentFindings .request b.content r.headers r.body

/-- What is wrong with the content of a response.  Without declared content, and in answer to the
method that asks for headers alone, it is not looked at; it may be empty without a media type. -/
def responseBodyFindings (s : Specification) (content : Dict MediaType) (method : Http.Method)
    (r : Http.Response) : List Finding :=
  if content = [] ∨ method = .head ∨ (r.headers.contentType? = none ∧ r.body = []) then []
  else s.contentFindings .response content r.headers r.body

/-! ### Messages -/

/-- What is wrong with a request, given the operation and the path parameters. -/
def requestFindings (s : Specification) (e : Endpoint) (r : Http.Request) (params : Dict String) :
    List Finding :=
  e.parameters.flatMap (s.parameterFindings (.ofRequest r params)) ++
    e.requestBody.toList.flatMap fun b => s.requestBodyFindings b r

/-- What is wrong with a response that is documented. -/
def documentedFindings (s : Specification) (documented : Response) (method : Http.Method)
    (r : Http.Response) : List Finding :=
  documented.headers.flatMap (s.headerFindings r.headers) ++
    s.responseBodyFindings documented.content method r

/-- What is wrong with a response, given the operation with its method and its path template. -/
def responseFindings (s : Specification) (e : Endpoint) (site : Site) (r : Http.Response) :
    List Finding :=
  match e.responseKey? r.status.code with
  | none => [.undocumentedStatus r.status.code site.method site.template]
  | some key =>
    match Dict.get? e.responses key with
    | some documented => s.documentedFindings documented site.method r
    | none => []

/-- The failure that findings make. -/
def failure? (findings : List Finding) : Option Failure :=
  Failure.ofIssues? (findings.map Finding.issue)

/-- What is wrong with a request; none for a valid one. -/
def checkRequest (s : Specification) (e : Endpoint) (r : Http.Request) (params : Dict String) :
    Option Failure :=
  failure? (s.requestFindings e r params)

/-- What is wrong with a response; none for a valid one. -/
def checkResponse (s : Specification) (e : Endpoint) (site : Site) (r : Http.Response) :
    Option Failure :=
  failure? (s.responseFindings e site r)

/-! ### Readings -/

/-- The texts of a parameter, if they are read. -/
def parameterReadings (inputs : Inputs) (p : Parameter) : List Reading :=
  match p.location with
  | none => []
  | some location => Reading.ofTexts p.schema (inputs.texts p.name location)

/-- The texts of a header, if they are read. -/
def headerReadings (headers : Http.Headers) (h : String × Header) : List Reading :=
  if Text.equalIgnoringCase h.1 "content-type" then []
  else Reading.ofTexts h.2.schema (headers.texts h.1)

/-- The texts that are read in the content of a message. -/
def contentReadings (s : Specification) (content : Dict MediaType) (headers : Http.Headers)
    (body : List UInt8) : List Reading :=
  match headers.contentType? with
  | none => []
  | some t =>
    match Body.negotiate? content t with
    | none => []
    | some (_, m) => Body.readings s.components.schemas m.schema t body

/-- The texts that the check of a request reads. -/
def requestReadings (s : Specification) (e : Endpoint) (r : Http.Request) (params : Dict String) :
    List Reading :=
  e.parameters.flatMap (parameterReadings (.ofRequest r params)) ++
    e.requestBody.toList.flatMap fun b =>
      if r.body = [] then [] else s.contentReadings b.content r.headers r.body

/-- The texts that the check of a response reads. -/
def responseReadings (s : Specification) (e : Endpoint) (site : Site) (r : Http.Response) :
    List Reading :=
  match (e.responseKey? r.status.code).bind (Dict.get? e.responses) with
  | none => []
  | some documented =>
    documented.headers.flatMap (headerReadings r.headers) ++
      if site.method = .head then [] else s.contentReadings documented.content r.headers r.body

/-- What is wrong with a request; none if the check does not come to an end. -/
def checkRequest? (s : Specification) (e : Endpoint) (r : Http.Request) (params : Dict String) :
    Option (Option Failure) :=
  if s.components.schemas.completes (s.requestReadings e r params) then
    some (s.checkRequest e r params)
  else none

/-- What is wrong with a response; none if the check does not come to an end. -/
def checkResponse? (s : Specification) (e : Endpoint) (site : Site) (r : Http.Response) :
    Option (Option Failure) :=
  if s.components.schemas.completes (s.responseReadings e site r) then
    some (s.checkResponse e site r)
  else none

end Specification

end ApiContract
