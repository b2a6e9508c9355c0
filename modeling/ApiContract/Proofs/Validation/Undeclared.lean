/-
**What nothing declares makes no difference.**

A request is checked parameter by parameter.  Of the query and of the cookies nothing is looked at
but the values of the names that are declared, each name for itself, so that other pairs may come,
go, be repeated or stand anywhere.  All cookies stand in one header, and an endpoint may declare
that header as it is; then everything in it is declared.

Main definitions:

* `Http.Request.AgreesOn` — two requests agree on what an endpoint declares.

Main results:

* `Specification.texts_eq_of_agreesOn` — such requests have the same texts in each parameter;
* `Specification.checkRequest_eq_of_agreesOn` — **requests that agree on what is declared have the
  same issues**;
* `Specification.not_checkRequest_eq` — a header that holds all cookies may be declared.
-/

import ApiContract.Pattern.Library
import ApiContract.Proofs.Specification.Resolution
import ApiContract.Proofs.Validation.Inputs

set_option relaxedAutoImplicit false
set_option autoImplicit false

namespace ApiContract

namespace Http.Request

/-- **Two requests agree on what an endpoint declares**: in the body, in the headers but for the one
that holds the cookies, in the values of declared query parameters and cookies, and in that header
as well if it is a parameter. -/
structure AgreesOn (e : Endpoint) (r r' : Request) : Prop where
  body : r.body = r'.body
  headers : ∀ name, Text.lowerCased name ≠ "cookie" → r.headers.values name = r'.headers.values name
  query : ∀ p ∈ e.parameters, p.location = some .query →
    valuesOf r.queryPairs p.name = valuesOf r'.queryPairs p.name
  cookie : ∀ p ∈ e.parameters, p.location = some .cookie →
    valuesOf r.cookiePairs p.name = valuesOf r'.cookiePairs p.name
  cookieHeader : ∀ p ∈ e.parameters, p.location = some .header →
    Text.lowerCased p.name = "cookie" → r.headers.texts p.name = r'.headers.texts p.name

end Http.Request

namespace Specification

section

open Http (Request)

variable [Libraries] {s : Specification} {e : Endpoint} {r r' : Request} {params : Dict String}

/-- What is found wrong with a parameter depends on its texts alone. -/
theorem parameterFindings_congr {i i' : Inputs} {p : Parameter}
    (h : ∀ location, p.location = some location →
      i.texts p.name location = i'.texts p.name location) :
    s.parameterFindings i p = s.parameterFindings i' p := by
  unfold parameterFindings
  cases hlocation : p.location with
  | none => rfl
  | some location => simp only [h location hlocation]

omit [Libraries] in
/-- Requests that agree on what is declared have the same texts in each parameter. -/
theorem texts_eq_of_agreesOn (h : r.AgreesOn e r') {p : Parameter} (hp : p ∈ e.parameters)
    {location : Location} (hlocation : p.location = some location) :
    (Inputs.ofRequest r params).texts p.name location =
      (Inputs.ofRequest r' params).texts p.name location := by
  cases location with
  | path => rfl
  | query =>
      rw [Request.texts_query, Request.texts_query]
      exact h.query p hp hlocation
  | cookie =>
      rw [Request.texts_cookie, Request.texts_cookie]
      exact h.cookie p hp hlocation
  | header =>
      by_cases hcookie : Text.lowerCased p.name = "cookie"
      · exact h.cookieHeader p hp hlocation hcookie
      · exact congrArg (List.filterMap Http.Headers.text?) (h.headers p.name hcookie)

/-- They have the same content. -/
theorem requestBodyFindings_eq_of_agreesOn (h : r.AgreesOn e r') (b : RequestBody) :
    s.requestBodyFindings b r = s.requestBodyFindings b r' := by
  have htype : r.headers.contentType? = r'.headers.contentType? := by
    rw [Http.Headers.contentType?, Http.Headers.contentType?, Http.Headers.first?,
      Http.Headers.first?, h.headers "content-type" (by decide)]
  unfold requestBodyFindings contentFindings
  rw [h.body, htype]

/-- **Requests that agree on what is declared have the same issues**, in the same order. -/
theorem checkRequest_eq_of_agreesOn (h : r.AgreesOn e r') :
    s.checkRequest e r params = s.checkRequest e r' params := by
  have hparameters : ∀ p ∈ e.parameters,
      s.parameterFindings (.ofRequest r params) p = s.parameterFindings (.ofRequest r' params) p :=
    fun p hp => parameterFindings_congr fun _ hlocation => texts_eq_of_agreesOn h hp hlocation
  rw [checkRequest, checkRequest, requestFindings, requestFindings,
    List.flatMap_congr hparameters]
  simp only [requestBodyFindings_eq_of_agreesOn h]

end

/-! ### A request with other pairs -/

/-- An endpoint with a page number in the query and a session in the cookies. -/
def pagedEndpoint : Endpoint :=
  { operationId := none
    deprecated := false
    parameters :=
      [{ name := "page", location := some .query, schema := some { type := some (.one .integer) } },
        { name := "session", location := some .cookie, required := true }]
    requestBody := none
    responses := [("200", {})] }

/-- The specification with that endpoint alone. -/
def paged : Specification := ⟨"A", "1", [""], [⟨"/a", [(.get, pagedEndpoint)]⟩], {}⟩

/-- A request for a page that is no number. -/
def plainRequest : Http.Request :=
  { method := .get, uri := ⟨none, "", "/a", some "page=one"⟩
    headers := [("cookie", [Utf8.bytes "session=x"])] }

/-- The same with pairs that nothing declares. -/
def crowdedRequest : Http.Request :=
  { method := .get, uri := ⟨none, "", "/a", some "sort=a&page=on%65&Page"⟩
    headers := [("cookie", [Utf8.bytes "theme=dark", Utf8.bytes "a=b; session=x"])] }

theorem pairs_plainRequest :
    plainRequest.queryPairs = [("page", "one")] ∧
      plainRequest.cookiePairs = [("session", "x")] := by
  decide +kernel

theorem pairs_crowdedRequest :
    crowdedRequest.queryPairs = [("sort", "a"), ("page", "one"), ("Page", "")] ∧
      crowdedRequest.cookiePairs = [("theme", "dark"), ("a", "b"), ("session", "x")] := by
  decide +kernel

/-- Pairs that nothing declares change no issue. -/
theorem checkRequest_eq_of_agreesOn_crowded :
    plainRequest.AgreesOn pagedEndpoint crowdedRequest ∧
      paged.checkRequest pagedEndpoint plainRequest [] =
        paged.checkRequest pagedEndpoint crowdedRequest [] ∧
      paged.checkRequest pagedEndpoint plainRequest [] =
        some ⟨[⟨.parameter, "query.page", "expected integer, got string"⟩]⟩ := by
  have h : plainRequest.AgreesOn pagedEndpoint crowdedRequest := by
    constructor
    · rfl
    · intro name hname
      simp [plainRequest, crowdedRequest, Http.Headers.values, Dict.get?, Ne.symm hname]
    · rw [pairs_plainRequest.1, pairs_crowdedRequest.1]
      decide
    · rw [pairs_plainRequest.2, pairs_crowdedRequest.2]
      decide
    · decide
  exact ⟨h, checkRequest_eq_of_agreesOn h, by decide +kernel⟩

/-! ### A header that holds all cookies -/

/-- A header parameter that holds cookies, whichever they are. -/
def cookieParameter : Parameter := { name := "Cookie", location := some .header, required := true }

/-- A document with an operation that wants that header. -/
def cookieDocument : Document :=
  { format := "3.0.3"
    info := { title := "A", version := "1" }
    paths :=
      [("/a", { get := some { parameters := [cookieParameter], responses := [("200", {})] } })] }

/-- The endpoint of that document. -/
def cookieEndpoint : Endpoint :=
  { operationId := none
    deprecated := false
    parameters := [cookieParameter]
    requestBody := none
    responses := [("200", {})] }

/-- The specification of that document. -/
def cookied : Specification := ⟨"A", "1", [""], [⟨"/a", [(.get, cookieEndpoint)]⟩], {}⟩

theorem ofDocument_cookieDocument : ofDocument cookieDocument = .ok cookied := by
  have hleads : cookieDocument.Leads := by
    intro p hp o ho
    obtain rfl := List.mem_singleton.1 hp
    obtain rfl := List.mem_singleton.1 ho
    exact ⟨by decide, by decide, by decide⟩
  exact ofDocument_eq_ok_iff.2 ⟨rfl, by decide +kernel, hleads, rfl⟩

/-- A request without any headers. -/
def bareRequest : Http.Request := { method := .get, uri := ⟨none, "", "/a", none⟩ }

/-- The same with a cookie. -/
def cookieRequest : Http.Request :=
  { bareRequest with headers := [("cookie", [Utf8.bytes "x=1"])] }

/-- **Cookies that are not declared are not always ignored**: a header parameter may declare the
header that holds them. -/
theorem not_checkRequest_eq :
    ¬ ∀ (d : Document) (s : Specification) (e : Endpoint) (site : Site) (r r' : Http.Request)
      (params : Dict String), ofDocument d = .ok s →
      s.operation? site.template site.method = some e →
      (∀ name, Text.lowerCased name ≠ "cookie" → r.headers.values name = r'.headers.values name) →
      r.body = r'.body →
      (∀ p ∈ e.parameters, p.location = some .query →
        valuesOf r.queryPairs p.name = valuesOf r'.queryPairs p.name) →
      (∀ p ∈ e.parameters, p.location = some .cookie →
        valuesOf r.cookiePairs p.name = valuesOf r'.cookiePairs p.name) →
      s.checkRequest e r params = s.checkRequest e r' params := by
  intro hall
  have hsame : cookied.checkRequest cookieEndpoint bareRequest [] =
      cookied.checkRequest cookieEndpoint cookieRequest [] := by
    refine hall cookieDocument cookied cookieEndpoint ⟨.get, "/a"⟩ bareRequest cookieRequest []
      ofDocument_cookieDocument rfl (fun name hname => ?_) rfl ?_ ?_
    · simp [bareRequest, cookieRequest, Http.Headers.values, Dict.get?, Ne.symm hname]
    all_goals
      intro p hp hlocation
      obtain rfl := List.mem_singleton.1 hp
      cases hlocation
  have hmissing : cookied.checkRequest cookieEndpoint bareRequest [] =
      some ⟨[⟨.parameter, "header.Cookie", "missing required header parameter"⟩]⟩ := by
    decide +kernel
  have hvalid : cookied.checkRequest cookieEndpoint cookieRequest [] = none := by decide +kernel
  rw [hmissing, hvalid] at hsame
  cases hsame

end Specification

end ApiContract
