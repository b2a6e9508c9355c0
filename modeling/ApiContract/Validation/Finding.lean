/-
**Findings.**

A finding is what a check of a message against an operation comes upon.  It is told as an issue.

Main definitions:

* `Finding` — what is wrong with a message;
* `Finding.issue` — the issue that tells it.
-/

import ApiContract.Document.Basic
import ApiContract.Http.Part
import ApiContract.Validation.Body
import ApiContract.Validation.Issue
import ApiContract.Validation.Violation

set_option autoImplicit false

namespace ApiContract

/-- What is wrong with a message. -/
inductive Finding where
  /-- A parameter that must be present is not. -/
  | missingParameter (location : Location) (name : String)
  /-- A parameter does not match its schema. -/
  | parameter (location : Location) (name : String) (v : Violation)
  /-- A header that must be present is not. -/
  | missingHeader (name : String)
  /-- A header does not match its schema. -/
  | header (name : String) (v : Violation)
  /-- A body that must be present is not. -/
  | missingBody
  /-- There is a body, but no media type for it. -/
  | missingContentType (part : Part)
  /-- The media type of a body is not declared. -/
  | undeclaredContentType (part : Part) (contentType : String)
  /-- The media type of a body cannot be read. -/
  | unsupported (part : Part) (mediaType : String)
  /-- A body is not what its media type says. -/
  | malformed (part : Part) (m : Body.Malformation)
  /-- A body does not match its schema. -/
  | body (part : Part) (v : Violation)
  /-- The status is not documented. -/
  | undocumentedStatus (status : Nat) (method : Http.Method) (template : String)

namespace Finding

/-- The path of a parameter. -/
def parameterPath (location : Location) (name : String) : String := location.name ++ "." ++ name

/-- The path of a header. -/
def headerPath (name : String) : String := "header." ++ name

/-- The issue that tells a violation in a part with a path. -/
def ofViolation (kind : IssueKind) (root : String) (v : Violation) : Issue :=
  ⟨kind, v.location root, v.message⟩

/-- The issue that tells a finding. -/
def issue : Finding → Issue
  | .missingParameter l name =>
    ⟨.parameter, parameterPath l name, "missing required " ++ l.name ++ " parameter"⟩
  | .parameter l name v => ofViolation .parameter (parameterPath l name) v
  | .missingHeader name => ⟨.header, headerPath name, "missing required response header"⟩
  | .header name v => ofViolation .header (headerPath name) v
  | .missingBody => ⟨.body, Part.request.bodyPath, "request body is required"⟩
  | .missingContentType p => ⟨.contentType, p.bodyPath, "missing Content-Type header"⟩
  | .undeclaredContentType p t =>
    ⟨.contentType, p.bodyPath, p.name ++ " content type " ++ Text.quote t ++ " is not declared"⟩
  | .unsupported p t => ⟨.unsupportedMediaType, p.bodyPath, "unsupported media type " ++ t⟩
  | .malformed p m => ⟨.body, p.bodyPath, m.message⟩
  | .body p v => ofViolation .body p.bodyPath v
  | .undocumentedStatus n m t =>
    ⟨.status, "",
      "status " ++ toString n ++ " is not documented for " ++ m.name ++ " " ++ t⟩

end Finding

end ApiContract
