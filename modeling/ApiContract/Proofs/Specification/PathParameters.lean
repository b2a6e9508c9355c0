/-
**Path parameters are bound.**

The path parameters of an operation are placeholders of its template, for a document in which one is
not is rejected.  Whoever matches a path with a template binds a text to every placeholder, so that
a request whose path was matched lacks no path parameter of the operation.

Main definitions:

* `Endpoint.Binds` — texts are bound to all path parameters of an endpoint.

Main results:

* `Specification.Loads.mem_names` — **path parameters are placeholders**;
* `Specification.binds_of_matchPath`, `Specification.binds_of_findOperation?` — the router and the
  look-up bind them;
* `Specification.no_path_parameter_missing` — **no request whose path was matched lacks one**.
-/

import ApiContract.Pattern.Library
import ApiContract.Proofs.Specification.Agreement
import ApiContract.Proofs.Specification.Endpoint

set_option relaxedAutoImplicit false
set_option autoImplicit false

namespace ApiContract

open Cut (Step partSteps stepsOf Fills)

/-! ### Texts for path parameters -/

/-- Texts are bound to all path parameters of an endpoint. -/
def Endpoint.Binds (e : Endpoint) (params : Dict String) : Prop :=
  ∀ p ∈ e.parameters, p.location = some .path → p.name ∈ params.keys

namespace Specification

section

variable [Libraries] {s : Specification} {d : Document} {template : String} {item : PathItem}
  {o : Http.Method × Operation} {e : Endpoint} {segments : List Template.Segment}
  {texts : List (List Char)} {method : Http.Method} {r : Resource}

/-- A path parameter of a document without problems is a placeholder of its template. -/
theorem Declares.mem_names (h : Declares d template item o e) (hproblems : d.problems = [])
    (hsegments : Template.parse template = .ok segments) {p : Parameter} (hp : p ∈ e.parameters)
    (hpath : p.location = some .path) : p.name ∈ Template.names segments := by
  simp only [Document.problems, List.append_eq_nil_iff, List.flatMap_eq_nil_iff] at hproblems
  obtain ⟨names, hnames, hparameter⟩ := parameterProblems_of_pathProblems
    (hproblems.1.2 (template, item) h.mem_paths) h.mem_operations (h.mem_declaredParameters hp)
  rw [Template.params, hsegments] at hnames
  obtain rfl : Template.names segments = names := Except.ok.inj hnames
  unfold parameterProblems at hparameter
  split at hparameter
  · cases hparameter
  · by_contra hnot
    have hstray := (List.append_eq_nil_iff.1 hparameter).1
    rw [pathParameterProblems, if_neg (not_not_intro hpath), if_pos hnot] at hstray
    cases hstray

/-- **Path parameters are placeholders.** -/
theorem Loads.mem_names (hs : s.Loads) (hr : r ∈ s.resources)
    (he : r.operation? method = some e) (hsegments : Template.parse r.template = .ok segments)
    {p : Parameter} (hp : p ∈ e.parameters) (hpath : p.location = some .path) :
    p.name ∈ Template.names segments := by
  obtain ⟨d, -, hd⟩ := hs
  obtain ⟨item, op, hdeclares, -⟩ := exists_declares hd hr (Resource.mem_of_operation? he)
  exact hdeclares.mem_names (ofDocument_eq_ok_iff.1 hd).1 hsegments hp hpath

omit [Libraries] in
/-- As many texts as there are holes are bound to all names. -/
theorem keys_decodedParams (h : texts.length = (stepsOf segments).count .hole) {name : String} :
    name ∈ (decodedParams segments texts).keys ↔ name ∈ Template.names segments := by
  have hlength : (Template.names segments).length ≤
      (texts.map fun cs => Percent.decodeSegment (String.ofList cs)).length := by
    rw [List.length_map, h]
    exact Nat.le_of_eq Template.length_names
  rw [decodedParams, Dict.mem_keys_ofList, List.map_fst_zip hlength]

/-- **The texts of a filling are bound to all path parameters.** -/
theorem Loads.binds (hs : s.Loads) (hr : r ∈ s.resources) (he : r.operation? method = some e)
    (hsegments : Template.parse r.template = .ok segments) {cs : List Char}
    (hfills : Fills (stepsOf segments) texts cs) : e.Binds (decodedParams segments texts) := by
  intro p hp hpath
  exact (keys_decodedParams hfills.length_eq).2 (hs.mem_names hr he hsegments hp hpath)

/-- The router binds a text to every path parameter of the operation. -/
theorem binds_of_matchPath {base : Option String} {router : Router} {path : String}
    {m : RouteMatch} (hs : s.Loads) (hrouter : s.router base = .ok router)
    (hm : router.matchPath path = some m) (he : s.operation? m.template method = some e) :
    e.Binds (Contract.decodedParams m) := by
  have hserves := Router.serves_of_build hrouter
  obtain ⟨stripped, -, hstripped⟩ := List.exists_of_findSome?_eq_some hm
  split at hstripped
  · obtain ⟨segments, texts, hparse, htexts, hmatch, -⟩ := hserves.exists_segments hstripped
    obtain ⟨r, hr, htemplate, hoperation⟩ := hs.wellFormed.operation?_eq_some_iff.1 he
    rw [← htemplate] at hparse
    rw [hmatch, Contract.decodedParams_bindings]
    exact hs.binds hr hoperation hparse (Cut.fills_of_first? htexts)
  · cases hstripped

/-- The look-up binds a text to every path parameter of the operation. -/
theorem binds_of_findOperation? {path : String} {found : OperationMatch} (hs : s.Loads)
    (hfound : s.findOperation? method path = some found) : found.endpoint.Binds found.params := by
  obtain ⟨base, -, hbase⟩ := List.exists_of_findSome?_eq_some hfound
  obtain ⟨rest, -, hrest⟩ := Option.bind_eq_some_iff.1 hbase
  obtain ⟨r, hr, pieces, hp, hm⟩ := answers_of_matchRest? hrest
  obtain ⟨e, segments, texts, he, hparse, hmatch, rfl⟩ := matchResource?_eq_some_iff.1 hm
  have hfills := ((Template.exists_matchSegments?_iff (Template.wellFormed_of_parse hparse)).1
    ⟨pieces, hp, hmatch⟩).1
  exact hs.binds hr he hparse hfills

/-! ### Requests -/

/-- A parameter that is found missing is one of the endpoint, and it has no text. -/
theorem exists_parameter_of_missing {request : Http.Request} {params : Dict String}
    {l : Location} {name : String}
    (h : .missingParameter l name ∈ s.requestFindings e request params) :
    ∃ p ∈ e.parameters, p.location = some l ∧ p.name = name ∧
      (Inputs.ofRequest request params).texts name l = [] := by
  rw [requestFindings, List.mem_append] at h
  rcases h with h | h
  · obtain ⟨p, hp, h⟩ := List.mem_flatMap.1 h
    unfold parameterFindings at h
    split at h
    · cases h
    · rename_i location hlocation
      split at h
      · rename_i htexts
        split at h
        · cases List.mem_singleton.1 h
          exact ⟨p, hp, hlocation, rfl, htexts⟩
        · cases h
      · obtain ⟨x, -, hx⟩ := List.mem_map.1 h
        cases hx
  · -- the other findings are not about parameters
    obtain ⟨b, -, h⟩ := List.mem_flatMap.1 h
    exact ((foundIn_of_mem_requestBodyFindings h).kind.1 rfl).elim

/-- A request with texts for all path parameters lacks none. -/
theorem not_missing_of_binds {request : Http.Request} {params : Dict String}
    (h : e.Binds params) {failure : Failure} (hf : s.checkRequest e request params = some failure)
    {i : Issue} (hi : i ∈ failure.issues) : i.message ≠ "missing required path parameter" := by
  intro hmessage
  obtain ⟨f, hfinding, rfl⟩ := mem_failure?_iff.1 ⟨failure, hf, hi⟩
  obtain ⟨name, rfl⟩ := Finding.message_eq_missing_iff.1 hmessage
  obtain ⟨p, hp, hpath, rfl, htexts⟩ := exists_parameter_of_missing hfinding
  obtain ⟨text, htext⟩ :=
    Option.isSome_iff_exists.1 ((Dict.mem_keys_iff params p.name).1 (h p hp hpath))
  have hget : (Inputs.ofRequest request params).texts p.name .path = [text] := by
    rw [Inputs.texts, Inputs.ofRequest, htext, Option.toList_some]
  rw [hget] at htexts
  cases htexts

/-- **No request whose path was matched lacks a path parameter**, whether the router matched it,
with any base path, or the look-up. -/
theorem no_path_parameter_missing (hs : s.Loads) (method : Http.Method) (path : String) :
    (∀ base router m e, s.router base = .ok router → router.matchPath path = some m →
        s.operation? m.template method = some e →
          ∀ request failure, s.checkRequest e request (Contract.decodedParams m) = some failure →
            ∀ i ∈ failure.issues, i.message ≠ "missing required path parameter") ∧
      ∀ found, s.findOperation? method path = some found →
        ∀ request failure, s.checkRequest found.endpoint request found.params = some failure →
          ∀ i ∈ failure.issues, i.message ≠ "missing required path parameter" := by
  constructor
  · intro base router m e hrouter hm he request failure hf i hi
    exact not_missing_of_binds (binds_of_matchPath hs hrouter hm he) hf hi
  · intro found hfound request failure hf i hi
    exact not_missing_of_binds (binds_of_findOperation? hs hfound) hf hi

end

/-- Parameters of a path and of a query, both of which are required. -/
def demandedParameters : List Parameter :=
  [{ name := "name", location := some .path, required := true },
    { name := "page", location := some .query, required := true }]

/-- A document with a resource that needs both. -/
def demandingDocument : Document :=
  { format := "3.0.3"
    info := { title := "A", version := "1" }
    paths := [("/\x7bname\x7d.x",
      { get := some { parameters := demandedParameters, responses := [("200", {})] } })] }

/-- The operation of that resource. -/
def demandingEndpoint : Endpoint :=
  { operationId := none
    deprecated := false
    parameters := demandedParameters
    requestBody := none
    responses := [("200", {})] }

/-- The specification of that document. -/
def demanding : Specification :=
  ⟨"A", "1", [""], [⟨"/\x7bname\x7d.x", [(.get, demandingEndpoint)]⟩], {}⟩

/-- A request whose query lacks the page. -/
def pagelessRequest : Http.Request := { method := .get, uri := ⟨none, "", "/a.y.x", none⟩ }

/-- A request that lacks the parameter of the query does not lack that of the path. -/
theorem no_path_parameter_missing_demanding :
    demanding.Loads ∧ demanding.router none = .ok suffixedRouter ∧
      suffixedRouter.matchPath "/a.y.x" = some ⟨"/\x7bname\x7d.x", "", [("name", "a.y")]⟩ ∧
      ∃ failure,
        demanding.checkRequest demandingEndpoint pagelessRequest [("name", "a.y")] = some failure ∧
        failure.issues = [⟨.parameter, "query.page", "missing required query parameter"⟩] ∧
        ∀ i ∈ failure.issues, i.message ≠ "missing required path parameter" := by
  have hloads : demanding.Loads := ⟨demandingDocument, by decide, rfl⟩
  have hrouter : demanding.router none = .ok suffixedRouter := Router.build_singleton rfl [""]
  have hmatch : suffixedRouter.matchPath "/a.y.x" =
      some ⟨"/\x7bname\x7d.x", "", [("name", "a.y")]⟩ := rfl
  have hdecoded : Contract.decodedParams ⟨"/\x7bname\x7d.x", "", [("name", "a.y")]⟩ =
      [("name", "a.y")] := by decide +kernel
  have hfailure : demanding.checkRequest demandingEndpoint pagelessRequest [("name", "a.y")] =
      some ⟨[⟨.parameter, "query.page", "missing required query parameter"⟩]⟩ := by
    decide +kernel
  refine ⟨hloads, hrouter, hmatch, _, hfailure, rfl, fun i hi => ?_⟩
  rw [← hdecoded] at hfailure
  exact (no_path_parameter_missing hloads .get "/a.y.x").1 none suffixedRouter _ demandingEndpoint
    hrouter hmatch rfl pagelessRequest _ hfailure i hi

end Specification

end ApiContract
