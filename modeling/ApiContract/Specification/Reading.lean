/-
**Specifications from text.**

Main definitions:

* `Document.ofBytes?` — the document that bytes are;
* `Specification.ofBytes` — the specification that bytes describe;
* `Specification.router` — the router for the paths of a specification.
-/

import ApiContract.Document.Reader
import ApiContract.Path.Route
import ApiContract.Specification.Lookup
import ApiContract.Text.Utf8
import ApiContract.Yaml.Reading

set_option autoImplicit false

namespace ApiContract

variable [Libraries]

/-- The document that bytes are. -/
def Document.ofBytes? (bytes : List UInt8) : Option Document :=
  (Utf8.decode? bytes).bind (Yaml.read? Document.ofTree?)

namespace Specification

/-- The specification that bytes describe. -/
def ofBytes (bytes : List UInt8) : Except LoadError Specification :=
  match Document.ofBytes? bytes with
  | some d => ofDocument d
  | none => .error .unreadable

/-- The router for the paths: under a given base path alone, or under the prefixes of the
servers. -/
def router (s : Specification) (base : Option String) : Except Route.Error Router :=
  Router.build (s.resources.map Resource.template)
    (match base with
    | some b => [Path.withoutTrailingSlashes b]
    | none => s.bases)

end Specification

end ApiContract
