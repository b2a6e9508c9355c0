/-
**When full coverage can be attained.**

Every exchange checks one coordinate at most, whatever came before it, so that all coordinates can
be checked exactly if each of them can be checked by some exchange.  This takes a request whose path
reaches the template, and a status that falls under the key.  A template that is covered by one that
comes before it is reached by no path; under a range whose codes are all documented falls no status.
Of such a request nothing has to be read but the texts in its path.

Main definitions:

* `Specification.ReadsPaths` — the texts in paths are read to the end;
* `Contract.Attainable` — some exchanges, all of which end, check all coordinates;
* `Contract.Reachable` — a request can reach a template;
* `Contract.Open` — a status falls under the key of a coordinate;
* `Specification.Shadowed` — a template that comes before covers a template.

Main results:

* `Contract.exists_ofSpecification_iff` — when there is a contract;
* `Contract.ends_bare` — an exchange without queries, headers and bodies ends;
* `Contract.attainable_iff_exists_checks` — coordinates can be checked one by one;
* `Contract.exists_checks_iff` — what it takes to check a coordinate;
* `Contract.attainable_iff_reachable` — **when full coverage can be attained**;
* `Contract.not_attainable_overlapping` — it cannot always be attained.
-/

import ApiContract.Pattern.Library
import ApiContract.Proofs.Http.Target
import ApiContract.Proofs.Path.Cover
import ApiContract.Proofs.Session.ResponseKey
import ApiContract.Proofs.Specification.KeyRange
import ApiContract.Proofs.Validation.Inputs

set_option relaxedAutoImplicit false
set_option autoImplicit false

namespace ApiContract

namespace Specification

/-- The path templates, in the order of the document. -/
def templates (s : Specification) : List String := s.resources.map Resource.template

/-- A template that comes before covers a template. -/
def Shadowed (s : Specification) (template : String) : Prop :=
  ∃ other ∈ s.templates, other ≠ template ∧ Template.precedes other template = true ∧
    Template.Covers other template

/-- No operation has two spellings of one response key. -/
def SpelledOnce (s : Specification) : Prop :=
  ∀ r ∈ s.resources, ∀ o ∈ r.operations, StatusKey.SpelledOnce o.2.responses.keys

/-- The texts in paths are read to the end: no path parameter has a schema that is an array of
itself. -/
def ReadsPaths (s : Specification) : Prop :=
  ∀ r ∈ s.resources, ∀ o ∈ r.operations, ∀ p ∈ o.2.parameters, p.location = some .path →
    ∀ t ∈ p.schema, s.components.schemas.Grounded t

instance (s : Specification) : Decidable s.SpelledOnce :=
  inferInstanceAs (Decidable (∀ r ∈ s.resources, ∀ o ∈ r.operations,
    StatusKey.SpelledOnce o.2.responses.keys))

end Specification

namespace Contract

/-- **Full coverage can be attained**: some exchanges can all be recorded, and then all coordinates
are checked. -/
def Attainable [Libraries] (c : Contract) : Prop :=
  ∃ (xs : List Http.Exchange) (s : Session), (∀ x ∈ xs, x.request.uri.IsTarget) ∧
    c.run? c.start (xs.map Call.record) = some s ∧
    ∀ k ∈ c.start.coverage.coordinates, s.coverage.isChecked k = true

/-- The path of some request reaches a template. -/
def Reachable (c : Contract) (template : String) : Prop :=
  ∃ u : Http.Uri, u.IsTarget ∧
    Template.Reaches c.specification.templates c.router.prefixes template u.path

/-- The key of a coordinate is open among the keys of its operation. -/
def Open (c : Contract) (k : Coordinate) : Prop :=
  ∀ e, c.specification.operation? k.template k.method.method = some e →
    StatusKey.Open e.responses.keys k.key

/-! ### One exchange for each coordinate -/

theorem foldl_after_record (xs ys : List Http.Exchange) :
    (xs.map Call.record).foldl Call.after ys = ys ++ xs := by
  induction xs generalizing ys with
  | nil => exact (List.append_nil ys).symm
  | cons x xs ih =>
      rw [List.map_cons, List.foldl_cons, ih]
      simp [Call.after]

/-- Items that are found one by one are found in one list. -/
theorem exists_list_of_forall_exists {α β : Type} {P : β → Prop} {R : β → α → Prop} {as : List α}
    (h : ∀ a ∈ as, ∃ b, P b ∧ R b a) :
    ∃ bs : List β, (∀ b ∈ bs, P b) ∧ ∀ a ∈ as, ∃ b ∈ bs, R b a := by
  induction as with
  | nil => exact ⟨[], by simp, by simp⟩
  | cons a as ih =>
      rw [List.forall_mem_cons] at h
      obtain ⟨b, hb, hr⟩ := h.1
      obtain ⟨bs, hbs, hall⟩ := ih h.2
      refine ⟨b :: bs, List.forall_mem_cons.2 ⟨hb, hbs⟩, List.forall_mem_cons.2 ⟨?_, ?_⟩⟩
      · exact ⟨b, List.mem_cons_self, hr⟩
      · intro a' ha'
        obtain ⟨b', hb', hr'⟩ := hall a' ha'
        exact ⟨b', List.mem_cons_of_mem _ hb', hr'⟩

/-- Exchanges are recorded one after the other exactly if each of them ends. -/
theorem run?_map_record_eq_some_iff [Libraries] {c : Contract} {xs : List Http.Exchange}
    {s : Session} : c.run? c.start (xs.map Call.record) = some s ↔
      (∀ x ∈ xs, c.Ends x) ∧ c.run c.start (xs.map Call.record) = s := by
  rw [run?_eq_some_iff rfl]
  simp

/-- All coordinates can be checked exactly if each of them can be. -/
theorem attainable_iff_exists_checks [Libraries] (c : Contract) :
    c.Attainable ↔ ∀ k ∈ c.start.coverage.coordinates,
      ∃ x : Http.Exchange, (x.request.uri.IsTarget ∧ c.Ends x) ∧ c.Checks x k := by
  have hrun : ∀ (xs : List Http.Exchange) (k : Coordinate),
      (c.run c.start (xs.map Call.record)).coverage.isChecked k = true ↔
        ∃ x ∈ xs, c.Checks x k := by
    intro xs k
    rw [(sumOf_run c (xs.map Call.record)).isChecked_iff, Call.sinceReset, foldl_after_record,
      List.nil_append]
    rfl
  constructor
  · rintro ⟨xs, s, hxs, hs, hall⟩ k hk
    obtain ⟨hends, rfl⟩ := run?_map_record_eq_some_iff.1 hs
    obtain ⟨x, hx, hchecks⟩ := (hrun xs k).1 (hall k hk)
    exact ⟨x, ⟨hxs x hx, hends x hx⟩, hchecks⟩
  · intro h
    obtain ⟨xs, hxs, hall⟩ := exists_list_of_forall_exists h
    have hs := run?_map_record_eq_some_iff.2 ⟨fun x hx => (hxs x hx).2, rfl⟩
    exact ⟨xs, _, fun x hx => (hxs x hx).1, hs, fun k hk => (hrun xs k).2 (hall k hk)⟩

/-! ### What it takes to check a coordinate -/

section

variable {c : Contract} {x : Http.Exchange} {k : Coordinate} {e : Endpoint}

/-- An exchange checks a coordinate if its path matches the template and its status falls under the
key, unless it is left out. -/
theorem checks_iff_matchPath [Libraries]
    (he : c.specification.operation? k.template k.method.method = some e) :
    c.Checks x k ↔
      (∃ m, c.router.matchPath x.request.uri.path = some m ∧ m.template = k.template) ∧
      x.request.method = k.method.method ∧
      StatusKey.resolve (c.start.coverage.keys k.template k.method) x.response.status.code =
        some k.key ∧
      ¬ (c.policy.internalErrors = false ∧
        e.responseKey? x.response.status.code = some internalErrorKey) := by
  constructor
  · intro h
    obtain ⟨reports, ho⟩ := exists_outcome_of_checks h
    obtain ⟨m, e', hm, he', hk, hnot, -⟩ := of_outcome_eq_checked ho
    obtain ⟨htemplate, hmethod, -, hresolve⟩ := of_coordinate? hk
    have hrequest := TrackedMethod.method_of_ofMethod? hmethod
    rw [← htemplate, ← hrequest, he] at he'
    obtain rfl := Option.some.inj he'
    exact ⟨⟨m, hm, htemplate.symm⟩, hrequest.symm, htemplate ▸ hresolve, hnot⟩
  · rintro ⟨⟨m, hm, htemplate⟩, hmethod, hresolve, hnot⟩
    have hk : coordinate? c.start.coverage m.template x.request.method x.response.status =
        some k := by
      rw [coordinate?, hmethod, TrackedMethod.ofMethod?_method, Option.bind_some, htemplate,
        Coverage.resolve?, hresolve]
      rfl
    have hleft : (!c.policy.internalErrors &&
        decide (e.responseKey? x.response.status.code = some internalErrorKey)) = false := by
      rw [← Bool.not_eq_true, Bool.and_eq_true, Bool.not_eq_true', decide_eq_true_eq]
      exact hnot
    rw [← htemplate, ← hmethod] at he
    rw [checks_iff]
    simp [outcome, hm, matchedOutcome, he, hleft, hk, Outcome.coordinate?]

end

section

variable [Libraries] {s : Specification} {policy : Policy} {c : Contract} {k : Coordinate}
  {template : String}

/-- The contract of a specification with a router. -/
theorem ofSpecification_of_router {router : Router}
    (h : s.router policy.normalBase = .ok router) :
    ofSpecification s policy = .ok ⟨s, policy.normal, router⟩ := by
  rw [ofSpecification, h]

/-- There is a router exactly if the patterns of all templates are accepted. -/
theorem exists_router_iff (base : Option String) :
    (∃ router, s.router base = .ok router) ↔
      ∀ template ∈ s.templates, Route.Accepted template :=
  Router.exists_build_iff

/-- There is a contract exactly if the patterns of all templates are accepted. -/
theorem exists_ofSpecification_iff :
    (∃ c, ofSpecification s policy = .ok c) ↔
      ∀ template ∈ s.templates, Route.Accepted template := by
  rw [← exists_router_iff policy.normalBase, ofSpecification]
  cases s.router policy.normalBase <;> simp

/-- The contract of a specification routes its templates. -/
theorem exists_serves (h : ofSpecification s policy = .ok c) :
    c.specification = s ∧ c.policy = policy.normal ∧
      c.router.Serves s.templates c.router.prefixes := by
  unfold ofSpecification at h
  split at h
  · rename_i router hrouter
    cases h
    have hserves := Router.serves_of_build hrouter
    exact ⟨rfl, rfl, hserves.prefixes_eq ▸ hserves⟩
  · cases h

theorem mem_coordinates_start_iff (h : ofSpecification s policy = .ok c) :
    k ∈ c.start.coverage.coordinates ↔ k ∈ s.coordinates policy.internalErrors := by
  obtain ⟨rfl, hpolicy, -⟩ := exists_serves h
  rw [Contract.start, Coverage.mem_coordinates_load, hpolicy]
  rfl

omit [Libraries] in
/-- The coordinates of a contract belong to operations. -/
theorem exists_operation_of_mem (hw : s.WellFormed) (hk : k ∈ s.coordinates policy.internalErrors) :
    ∃ r ∈ s.resources, r.template = k.template ∧ ∃ o ∈ r.operations,
      s.operation? k.template k.method.method = some o.2 := by
  obtain ⟨r, hr, htemplate, o, ho, hmethod, -, -⟩ := Specification.mem_coordinates_iff.1 hk
  refine ⟨r, hr, htemplate, o, ho, hw.operation?_eq_some_iff.2 ⟨r, hr, htemplate, ?_⟩⟩
  rw [TrackedMethod.method_of_ofMethod? hmethod]
  exact hw.operation?_of_mem hr ho

/-- An exchange with a target and a status alone. -/
def bare (method : Http.Method) (u : Http.Uri) (status : Http.Status) : Http.Exchange :=
  ⟨{ method := method, uri := u }, { status := status }⟩

omit [Libraries] in
/-- Without queries and headers no parameter has texts but one of the path. -/
theorem texts_bare {u : Http.Uri} (hquery : u.query = none) (method : Http.Method)
    (status : Http.Status) (params : Dict String) (name : String) {location : Location}
    (hlocation : location ≠ .path) :
    (Inputs.ofRequest (bare method u status).request params).texts name location = [] := by
  cases location with
  | path => exact absurd rfl hlocation
  | query =>
      have hpairs : (bare method u status).request.queryPairs = [] := by
        rw [Http.Request.queryPairs, bare, hquery]
        rfl
      rw [Http.Request.texts_query, hpairs]
      rfl
  | cookie => exact Http.Request.texts_cookie _ _ _
  | header => rfl

omit [Libraries] in
/-- Without headers nothing of a response is read. -/
theorem responseReadings_bare (s : Specification) (e : Endpoint) (site : Site)
    (method : Http.Method) (u : Http.Uri) (status : Http.Status) :
    s.responseReadings e site (bare method u status).response = [] := by
  rw [List.eq_nil_iff_forall_not_mem]
  intro r hr
  unfold Specification.responseReadings at hr
  split at hr
  · cases hr
  · rcases List.mem_append.1 hr with hr | hr
    · obtain ⟨header, -, hr⟩ := List.mem_flatMap.1 hr
      unfold Specification.headerReadings at hr
      split at hr
      · cases hr
      · exact absurd (Reading.mem_ofTexts_iff.1 hr).2.symm r.texts_ne_nil
    · split at hr <;> cases hr

/-- Without queries, headers and bodies nothing is read but the texts in the path. -/
theorem ends_bare (hpaths : c.policy.checkRequests = true → c.specification.ReadsPaths)
    {u : Http.Uri} (hquery : u.query = none) (method : Http.Method) (status : Http.Status) :
    c.Ends (bare method u status) := by
  intro r hr
  obtain ⟨m, k, e, -, -, he, hr⟩ := mem_readings_iff.1 hr
  obtain ⟨resource, hresource, -, he⟩ := Specification.exists_of_operation? he
  rw [responseReadings_bare, or_iff_left List.not_mem_nil, Specification.requestReadings,
    List.mem_append] at hr
  obtain ⟨hchecked, hr | hr⟩ := hr
  · obtain ⟨p, hp, hr⟩ := List.mem_flatMap.1 hr
    obtain ⟨hschema, location, hlocation, htexts⟩ := Specification.of_mem_parameterReadings hr
    by_cases hpath : location = .path
    · exact hpaths hchecked resource hresource _ (Resource.mem_of_operation? he) p hp
        (hpath ▸ hlocation) r.schema hschema
    · rw [texts_bare hquery _ _ _ _ hpath] at htexts
      exact absurd htexts.symm r.texts_ne_nil
  · simp [bare] at hr

/-- **What it takes to check a coordinate**: a request whose path reaches the template, and a status
that falls under the key. -/
theorem exists_checks_iff (hw : s.WellFormed) (honce : s.SpelledOnce)
    (hc : ofSpecification s policy = .ok c)
    (hpaths : policy.checkRequests = true → s.ReadsPaths)
    (hk : k ∈ s.coordinates policy.internalErrors) :
    (∃ x : Http.Exchange, (x.request.uri.IsTarget ∧ c.Ends x) ∧ c.Checks x k) ↔
      c.Reachable k.template ∧ c.Open k := by
  obtain ⟨rfl, hnormal, hserves⟩ := exists_serves hc
  have hpolicy : c.policy.internalErrors = policy.internalErrors := by rw [hnormal]; rfl
  obtain ⟨r, hr, htemplate, o, ho, he⟩ := exists_operation_of_mem hw hk
  -- the table has the keys of the operation, but for the one that may be left out
  have hmem : ∀ key, key ∈ c.start.coverage.keys k.template k.method ↔
      key ∈ o.2.responses.keys ∧ (c.policy.internalErrors = true ∨ key ≠ toString 500) := by
    intro key
    rw [Coverage.mem_keys_iff]
    exact Coverage.mem_coordinates_load.trans (hw.mem_coordinates_iff he)
  have hkey : k.key ∈ c.start.coverage.keys k.template k.method := by
    rw [hmem, hpolicy]
    exact (hw.mem_coordinates_iff he).1 hk
  have hstatus := StatusKey.exists_resolve_iff_open (hw.isValid_key r hr o ho) (honce r hr o ho)
    hmem hkey
  have hreaches : ∀ path, (∃ m, c.router.matchPath path = some m ∧ m.template = k.template) ↔
      Template.Reaches c.specification.templates c.router.prefixes k.template path := fun path =>
    hserves.exists_matchPath_iff (htemplate ▸ List.mem_map_of_mem hr)
  have hopen : c.Open k ↔ StatusKey.Open o.2.responses.keys k.key := by
    constructor
    · intro h
      exact h o.2 he
    · rintro h e he'
      obtain rfl := Option.some.inj (he.symm.trans he')
      exact h
  rw [hopen, ← hstatus]
  constructor
  · rintro ⟨x, ⟨hx, -⟩, hchecks⟩
    obtain ⟨hmatch, -, hresolve, hnot⟩ := (checks_iff_matchPath he).1 hchecks
    exact ⟨⟨x.request.uri, hx, (hreaches _).1 hmatch⟩, x.response.status, hresolve, hnot⟩
  · rintro ⟨⟨u, hu, hreach⟩, status, hresolve, hnot⟩
    obtain ⟨v, hv, hpath, hquery⟩ := hu.exists_of_path
    refine ⟨bare k.method.method v status, ⟨hv, ends_bare ?_ hquery _ _⟩, ?_⟩
    · rw [hnormal]
      exact hpaths
    · rw [← hpath] at hreach
      exact (checks_iff_matchPath he).2 ⟨(hreaches _).2 hreach, rfl, hresolve, hnot⟩

omit [Libraries] in
/-- A template that is shadowed is reached by no request. -/
theorem not_reachable_of_shadowed (h : c.specification.Shadowed template) :
    ¬ c.Reachable template := by
  obtain ⟨cover, hcover, hne, hbefore, hcovers⟩ := h
  rintro ⟨u, -, hreaches⟩
  exact Template.not_reaches_of_covers hcover hne hbefore hcovers hreaches

/-- A template whose sample can be requested is reached if it is not shadowed. -/
theorem reachable_of_not_shadowed {x : Char} {base : String} {others : List String}
    (hc : ofSpecification s policy = .ok c) (ht : template ∈ s.templates) (hx : x ≠ '/')
    (hprefixes : c.router.prefixes = base :: others)
    (hfresh : ∀ other ∈ s.templates, x ∉ other.toList)
    (hsample : ∃ u : Http.Uri, u.IsTarget ∧
      Path.stripPrefix u.path base = some (Template.sampleOf x template))
    (h : ¬ s.Shadowed template) : c.Reachable template := by
  obtain ⟨rfl, -, hserves⟩ := exists_serves hc
  obtain ⟨route, -, hcompile⟩ := hserves.exists_route template ht
  obtain ⟨segments, hparse, -, -⟩ := Route.compile_eq_ok_iff.1 hcompile
  obtain ⟨u, hu, hstrip⟩ := hsample
  have hiff : (∃ path, (∃ v : Http.Uri, v.IsTarget ∧ v.path = path) ∧
      Template.Reaches c.specification.templates (base :: others) template path) ↔ _ :=
    Template.exists_reaches_iff ht ⟨segments, hparse⟩ hx hfresh ⟨u.path, ⟨u, hu, rfl⟩, hstrip⟩
  obtain ⟨path, ⟨v, hv, rfl⟩, hreaches⟩ := hiff.2 fun other ho hne hbefore hcovers =>
    h ⟨other, ho, hne, hbefore, hcovers⟩
  exact ⟨v, hv, hprefixes ▸ hreaches⟩

/-- **When full coverage can be attained**, under any policy for which there is a contract and texts
in paths are read to the end: every template with a coordinate can be reached, and every key of a
coordinate is open.  A template that is shadowed cannot be reached.  One that is not can be reached
if its sample, in which a character that no template has stands for each placeholder, can be
requested under the first prefix. -/
theorem attainable_iff_reachable (hs : s.Loads) (honce : s.SpelledOnce)
    (hc : ofSpecification s policy = .ok c)
    (hpaths : policy.checkRequests = true → s.ReadsPaths) :
    (c.Attainable ↔
      ∀ k ∈ s.coordinates policy.internalErrors, c.Reachable k.template ∧ c.Open k) ∧
    (∀ template, s.Shadowed template → ¬ c.Reachable template) ∧
    ∀ x base others, x ≠ '/' → c.router.prefixes = base :: others →
      (∀ other ∈ s.templates, x ∉ other.toList) → ∀ template ∈ s.templates,
      (∃ u : Http.Uri, u.IsTarget ∧
        Path.stripPrefix u.path base = some (Template.sampleOf x template)) →
      ¬ s.Shadowed template → c.Reachable template := by
  have hw := hs.wellFormed
  refine ⟨?_, fun template h => ?_, ?_⟩
  · rw [attainable_iff_exists_checks]
    constructor
    · intro h k hk
      exact (exists_checks_iff hw honce hc hpaths hk).1 (h k ((mem_coordinates_start_iff hc).2 hk))
    · intro h k hk
      have hk' := (mem_coordinates_start_iff hc).1 hk
      exact (exists_checks_iff hw honce hc hpaths hk').2 (h k hk')
  · obtain ⟨rfl, -, -⟩ := exists_serves hc
    exact not_reachable_of_shadowed h
  · intro x base others hx hprefixes hfresh template ht hsample
    exact reachable_of_not_shadowed hc ht hx hprefixes hfresh hsample

end

/-! ### Two documents -/

/-- An operation with path parameters and with response keys. -/
def operationOf (names keys : List String) : Operation :=
  { parameters := names.map fun name => { name := name, location := some .path, required := true }
    responses := keys.map fun key => (key, {}) }

/-- The endpoint of such an operation. -/
def endpointOf (names keys : List String) : Endpoint :=
  ⟨none, false, (operationOf names keys).parameters, none, (operationOf names keys).responses⟩

/-- A document with two templates, neither of which covers the other. -/
def nestedDocument : Document :=
  { format := "3.0.3"
    info := { title := "A", version := "1" }
    paths := [("/\x7bname\x7d", { get := some (operationOf ["name"] ["200", "4XX"]) }),
      ("/\x7bname\x7d/x", { get := some (operationOf ["name"] ["404"]) })] }

/-- The specification of that document. -/
def nested : Specification :=
  ⟨"A", "1", [""], [⟨"/\x7bname\x7d", [(.get, endpointOf ["name"] ["200", "4XX"])]⟩,
    ⟨"/\x7bname\x7d/x", [(.get, endpointOf ["name"] ["404"])]⟩], {}⟩

theorem not_shadowed_nested {template : String} (ht : template ∈ nested.templates) :
    ¬ nested.Shadowed template := by
  rintro ⟨cover, hcover, hne, hbefore, hcovers⟩
  have htemplates : nested.templates = ["/\x7bname\x7d", "/\x7bname\x7d/x"] := rfl
  simp only [htemplates, List.mem_cons, List.not_mem_nil, or_false] at ht hcover
  rcases ht with rfl | rfl
  · rcases hcover with rfl | rfl
    · exact hne rfl
    · -- the longer template comes first, and does not cover the shorter one
      obtain ⟨segments, texts, hparse, hfills⟩ :=
        hcovers _ (Template.filledBy_sampleOf (x := 'z') rfl (by decide))
      obtain rfl : [[.param "name"], [.literal "x"]] = segments := Except.ok.inj hparse
      cases Cut.isSome_first?_iff.2 ⟨texts, hfills⟩
  · rcases hcover with rfl | rfl
    · cases hbefore
    · exact hne rfl

theorem open_nested {c : Contract} (hc : c.specification = nested) {k : Coordinate}
    (hk : k ∈ nested.coordinates false) : c.Open k := by
  have hcoordinates : nested.coordinates false = [⟨"/\x7bname\x7d", .get, "200"⟩,
    ⟨"/\x7bname\x7d", .get, "4XX"⟩, ⟨"/\x7bname\x7d/x", .get, "404"⟩] := rfl
  simp only [hcoordinates, List.mem_cons, List.not_mem_nil, or_false] at hk
  intro e he
  rw [hc] at he
  rcases hk with rfl | rfl | rfl
  · exact StatusKey.open_toString _ 200
  · cases he
    exact StatusKey.open_of_not_mem 400 (by decide) (by decide)
  · exact StatusKey.open_toString _ 404

/-- Full coverage of that document can be attained. -/
theorem attainable_nested : nested.Loads ∧ nested.SpelledOnce ∧ nested.ReadsPaths ∧
    ∃ c, ofSpecification nested { checkRequests := true } = .ok c ∧ c.Attainable := by
  have hloads : nested.Loads := ⟨nestedDocument, by decide, rfl⟩
  have honce : nested.SpelledOnce := by decide
  have hpaths : nested.ReadsPaths := by
    intro r hr o ho p hp _ t ht
    have hnone : ∀ r ∈ nested.resources, ∀ o ∈ r.operations, ∀ p ∈ o.2.parameters,
        p.schema.isNone = true := by decide
    rw [Option.isNone_iff_eq_none.1 (hnone r hr o ho p hp)] at ht
    cases ht
  obtain ⟨c, hc⟩ : ∃ c, ofSpecification nested { checkRequests := true } = .ok c := by
    refine exists_ofSpecification_iff.2 fun template ht => ?_
    rcases List.mem_pair.1 ht with rfl | rfl <;> exact ⟨_, rfl, _, rfl⟩
  obtain ⟨hattainable, -, hreachable⟩ := attainable_iff_reachable hloads honce hc fun _ => hpaths
  have hprefixes : c.router.prefixes = [""] := (Except.ok.inj hc) ▸ rfl
  refine ⟨hloads, honce, hpaths, c, hc, hattainable.2 fun k hk => ?_⟩
  have htemplate : k.template ∈ nested.templates := by
    obtain ⟨r, hr, htemplate, -⟩ := exists_operation_of_mem hloads.wellFormed hk
    exact htemplate ▸ List.mem_map_of_mem hr
  have hsample : ∃ u : Http.Uri, u.IsTarget ∧
      Path.stripPrefix u.path "" = some (Template.sampleOf 'z' k.template) := by
    have htemplates : nested.templates = ["/\x7bname\x7d", "/\x7bname\x7d/x"] := rfl
    rw [htemplates, List.mem_pair] at htemplate
    rcases htemplate with h | h <;> rw [h]
    · exact ⟨⟨none, "", "/z", none⟩, ⟨"/z", by decide⟩, by decide⟩
    · exact ⟨⟨none, "", "/z/x", none⟩, ⟨"/z/x", by decide⟩, by decide⟩
  have hreach := hreachable 'z' "" [] (by decide) hprefixes (by decide) k.template htemplate hsample
  exact ⟨hreach (not_shadowed_nested htemplate), open_nested (exists_serves hc).1 hk⟩

/-- A document in which a file name may have an extension or not. -/
def overlappingDocument : Document :=
  { format := "3.0.3"
    info := { title := "A", version := "1" }
    paths := [("/\x7bname\x7d", { get := some (operationOf ["name"] ["200"]) }),
      ("/\x7bname\x7d.\x7bext\x7d", { get := some (operationOf ["name", "ext"] ["200"]) })] }

/-- The specification of that document. -/
def overlapping : Specification :=
  ⟨"A", "1", [""], [⟨"/\x7bname\x7d", [(.get, endpointOf ["name"] ["200"])]⟩,
    ⟨"/\x7bname\x7d.\x7bext\x7d", [(.get, endpointOf ["name", "ext"] ["200"])]⟩], {}⟩

/-- A name with an extension is a name. -/
theorem shadowed_overlapping : overlapping.Shadowed "/\x7bname\x7d.\x7bext\x7d" := by
  refine ⟨"/\x7bname\x7d", by decide, by decide, by decide, ?_⟩
  -- one path decides
  have hfills : Cut.Fills [.char '/', .hole] [['z', '.', 'z']] ['/', 'z', '.', 'z'] :=
    .char '/' (.hole (by decide) (by decide) .nil)
  exact (Template.covers_iff_filledBy_sampleOf (x := 'z') rfl (by decide) (by decide)
    (by decide)).2 ⟨[[.param "name"]], _, rfl, hfills⟩

/-- **Full coverage cannot always be attained.** -/
theorem not_attainable_overlapping :
    ¬ ∀ (s : Specification) (policy : Policy) (c : Contract),
      s.Loads → ofSpecification s policy = .ok c → c.Attainable := by
  intro h
  have hloads : overlapping.Loads := ⟨overlappingDocument, by decide, rfl⟩
  have honce : overlapping.SpelledOnce := by decide
  obtain ⟨c, hc⟩ : ∃ c, ofSpecification overlapping {} = .ok c := by
    refine exists_ofSpecification_iff.2 fun template ht => ?_
    rcases List.mem_pair.1 ht with rfl | rfl <;> exact ⟨_, rfl, _, rfl⟩
  have hattainable := h overlapping {} c hloads hc
  obtain ⟨hspec, -, -⟩ := exists_serves hc
  have hk : ⟨"/\x7bname\x7d.\x7bext\x7d", .get, "200"⟩ ∈ overlapping.coordinates false := by decide
  have hchecks := (attainable_iff_exists_checks c).1 hattainable _
    ((mem_coordinates_start_iff hc).2 hk)
  have hreachable := ((exists_checks_iff hloads.wellFormed honce hc nofun hk).1 hchecks).1
  exact not_reachable_of_shadowed (hspec ▸ shadowed_overlapping) hreachable

end Contract

end ApiContract
