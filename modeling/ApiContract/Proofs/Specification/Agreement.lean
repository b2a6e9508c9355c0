/-
**The two ways to find an operation by a path.**

The router searches all templates for one that the path fills, whatever their methods are; the
look-up goes over the templates that declare the method in a single pass that never takes a text
back.  Where the router answers, the look-up answers the same if the texts before literals are
prompt, and it answers otherwise, or not at all, if they are not.

Main definitions:

* `RouteMatch.captures` — the texts that a path gives to placeholders, with the literals after them.

Main results:

* `Specification.cut?_isSome_of_answers` — the router answers where the look-up does;
* `Specification.findOperation?_iff_prompt` — **where router and look-up agree**;
* `Specification.not_findOperation?_of_matchPath` — they do not agree everywhere.
-/

import ApiContract.Pattern.Library
import ApiContract.Proofs.Path.PathMatch
import ApiContract.Proofs.Specification.Lookup
import ApiContract.Session.Basic

set_option relaxedAutoImplicit false
set_option autoImplicit false

namespace ApiContract

/-! ### Decoded parameters -/

/-- The captured texts are decoded one by one. -/
theorem Contract.decodedParams_bindings (template base : String) (segments : List Template.Segment)
    (texts : List (List Char)) :
    Contract.decodedParams ⟨template, base, Router.bindings (Template.names segments) texts⟩ =
      Specification.decodedParams segments texts := by
  have htexts : texts.map (fun cs => Percent.decodeSegment (String.ofList cs)) =
      (texts.map String.ofList).map Percent.decodeSegment := by
    rw [List.map_map]
    rfl
  have hzip : (Template.names segments).zip ((texts.map String.ofList).map Percent.decodeSegment) =
      ((Template.names segments).zip (texts.map String.ofList)).map
        (Prod.map id Percent.decodeSegment) :=
    List.zip_map_right
  rw [Contract.decodedParams, Router.bindings, Specification.decodedParams, ← Dict.ofList_map,
    htexts, hzip]
  rfl

/-! ### Captured texts -/

/-- The texts that a path gives to the placeholders of a matched template, each with the literal
after the placeholder, if there is one. -/
def RouteMatch.captures (m : RouteMatch) (path : String) : List (Option String × List Char) :=
  match Template.parse m.template, Path.stripPrefix path m.base with
  | .ok segments, some rest =>
    (segments.flatMap Template.stops).zip
      ((Cut.first? (Cut.stepsOf segments) rest.toList).getD [])
  | _, _ => []

namespace Specification

section

variable {s : Specification} {router : Router} {bases : List String} {path : String}
  {m : RouteMatch}

/-- What a router answers with: a template under the first prefix with a match, where it precedes
all other matches. -/
structure Found (s : Specification) (router : Router) (path : String) (m : RouteMatch)
    (segments : List Template.Segment) (texts : List (List Char)) (rest : String) : Prop where
  /-- The template is made of segments. -/
  parse_eq : Template.parse m.template = .ok segments
  /-- The prefix leaves a rest. -/
  rest_eq : Path.stripPrefix path m.base = some rest
  /-- The search fills the rest with texts. -/
  texts_eq : Cut.first? (Cut.stepsOf segments) rest.toList = some texts
  /-- The texts are bound to the names of the template. -/
  params_eq : m.params = Router.bindings (Template.names segments) texts
  /-- No matching template comes before. -/
  least : ∀ route ∈ router.routes, (route.cut? rest).isSome = true →
    Template.precedes m.template route.template = true
  /-- The prefix stands after others, under which nothing matches. -/
  first : ∃ before after, s.bases = before ++ m.base :: after ∧ ∀ base ∈ before,
    ∀ rest, Path.stripPrefix path base = some rest →
      ∀ route ∈ router.routes, route.cut? rest = none

/-- The router of a specification serves its templates under its prefixes. -/
theorem serves_of_router [Libraries] (h : s.router none = .ok router) :
    router.Serves (s.resources.map Resource.template) s.bases :=
  Router.serves_of_build h

/-- What is known of every answer of a router. -/
theorem exists_found [Libraries] (h : s.router none = .ok router)
    (hm : router.matchPath path = some m) :
    ∃ segments texts rest, Found s router path m segments texts rest := by
  have hserves := serves_of_router h
  obtain ⟨before, base, after, heq, hbase, hnone⟩ := List.findSome?_eq_some_iff.1 hm
  split at hbase
  · rename_i rest hrest
    obtain ⟨segments, texts, hparse, htexts, hm, hleast⟩ := hserves.exists_segments hbase
    obtain rfl : m.base = base := congrArg RouteMatch.base hm
    refine ⟨segments, texts, rest, hparse, hrest, htexts, congrArg RouteMatch.params hm, hleast,
      before, after, ?_, ?_⟩
    · rw [← hserves.prefixes_eq, heq]
    · intro base' hb rest' hrest' route hr
      have := hnone base' hb
      rw [hrest'] at this
      exact Router.matchRest_eq_none_iff.1 this route hr
  · cases hbase

theorem Found.captures_eq {segments : List Template.Segment} {texts : List (List Char)}
    {rest : String} (h : Found s router path m segments texts rest) :
    m.captures path = (segments.flatMap Template.stops).zip texts := by
  simp only [RouteMatch.captures, h.parse_eq, h.rest_eq, h.texts_eq, Option.getD_some]

/-! ### Where router and look-up agree -/

variable {method : Http.Method} {e : Endpoint} {segments : List Template.Segment}
  {texts : List (List Char)} {rest : String}

/-- Where the look-up has a match, the router has one with its template. -/
theorem exists_route_of_answers [Libraries]
    (h : router.Serves (s.resources.map Resource.template) bases)
    {n : OperationMatch} (hn : s.Answers method rest n) :
    ∃ route ∈ router.routes, route.template = n.template ∧ (route.cut? rest).isSome = true := by
  obtain ⟨r, hr, pieces, hp, hm⟩ := hn
  obtain ⟨e, segments, texts, -, hparse, htexts, rfl⟩ := matchResource?_eq_some_iff.1 hm
  obtain ⟨route, hroute, hc⟩ := h.exists_route r.template (List.mem_map_of_mem hr)
  obtain ⟨segments', hparse', -, rfl⟩ := Route.compile_eq_ok_iff.1 hc
  rw [hparse] at hparse'
  cases hparse'
  have hw := Template.wellFormed_of_parse hparse
  refine ⟨_, hroute, rfl, ?_⟩
  rw [Route.cut?, Template.first?_of_matchSegments? hw hp htexts]
  rfl

/-- What the look-up makes of a template under any prefix is what the router made of it, and its
texts are prompt. -/
theorem Found.swift_of_findOperation? (h : Found s router path m segments texts rest)
    {params : Dict String} (hf : s.findOperation? method path = some ⟨m.template, e, params⟩) :
    Template.Swift (segments.flatMap Template.stops) texts := by
  have hw := Template.wellFormed_of_parse h.parse_eq
  obtain ⟨base, -, hbase⟩ := List.exists_of_findSome?_eq_some hf
  obtain ⟨rest', hrest', hbest⟩ := Option.bind_eq_some_iff.1 hbase
  obtain ⟨r, -, pieces, hp, hm⟩ := answers_of_matchRest? hbest
  obtain ⟨e', segments', texts', -, hparse', hmatch, heq⟩ := matchResource?_eq_some_iff.1 hm
  have htemplate : m.template = r.template := congrArg OperationMatch.template heq
  rw [← htemplate, h.parse_eq] at hparse'
  cases hparse'
  -- the template has as many segments as both rests, so that these are one
  obtain ⟨pieces₀, hp₀, hlen₀⟩ :=
    Template.length_segments_of_fills hw (Cut.fills_of_first? h.texts_eq)
  have hfills := ((Template.exists_matchSegments?_iff hw).1 ⟨pieces, hp, hmatch⟩).1
  obtain ⟨pieces₁, hp₁, hlen₁⟩ := Template.length_segments_of_fills hw hfills
  obtain rfl : rest = rest' :=
    Path.stripPrefix_unique h.rest_eq hrest' hp₀ hp₁ (hlen₀.trans hlen₁.symm)
  exact ((Template.matchSegments?_iff_of_first? hw h.texts_eq).1 ⟨pieces, hp, hmatch⟩).2

/-- If the texts of the router are swift, the look-up has them among its matches. -/
theorem Found.answers_of_swift (h : Found s router path m segments texts rest)
    (hs : s.WellFormed) (he : s.operation? m.template method = some e)
    (hswift : Template.Swift (segments.flatMap Template.stops) texts) :
    s.Answers method rest ⟨m.template, e, decodedParams segments texts⟩ := by
  have hw := Template.wellFormed_of_parse h.parse_eq
  obtain ⟨r, hr, htemplate, hre⟩ := hs.operation?_eq_some_iff.1 he
  obtain ⟨pieces, hp, hmatch⟩ :=
    (Template.matchSegments?_iff_of_first? hw h.texts_eq).2 ⟨rfl, hswift⟩
  have hparse := h.parse_eq
  rw [← htemplate] at hparse ⊢
  exact ⟨r, hr, pieces, hp, matchResource?_eq_some_iff.2
    ⟨e, segments, texts, hre, hparse, hmatch, rfl⟩⟩

/-- The look-up finds what the router found if it has it among its matches. -/
theorem Found.findOperation?_of_answers [Libraries] (h : Found s router path m segments texts rest)
    (hs : s.WellFormed) (hserves : router.Serves (s.resources.map Resource.template) bases)
    {n : OperationMatch} (hn : s.Answers method rest n) (htemplate : n.template = m.template) :
    s.findOperation? method path = some n := by
  obtain ⟨best, hbest, hanswers, hleast⟩ := matchRest?_eq_some hn
  -- the least match of the look-up and the answer of the router precede each other
  obtain ⟨route, hroute, hrt, hcut⟩ := exists_route_of_answers hserves hanswers
  have hm : Template.precedes n.template best.template = true := by
    rw [htemplate, ← hrt]
    exact h.least route hroute hcut
  have hsame := Template.precedes_antisymm (hleast n hn) hm
  obtain rfl : best = n := hs.eq_of_answers hanswers hn hsame
  obtain ⟨before, after, hbases, hnone⟩ := h.first
  refine List.findSome?_eq_some_iff.2 ⟨before, m.base, after, hbases, ?_, fun base hbase => ?_⟩
  · rw [h.rest_eq, Option.bind_some, hbest]
  · rw [Option.bind_eq_none_iff]
    intro rest' hrest'
    cases hfirst : s.matchRest? method rest' with
    | none => rfl
    | some first =>
        -- a match under an earlier prefix would have a route there
        obtain ⟨route, hroute, -, hcut⟩ :=
          exists_route_of_answers hserves (answers_of_matchRest? hfirst)
        rw [hnone base hbase rest' hrest' route hroute] at hcut
        cases hcut

/-- **Where router and look-up agree**: a template that the router answers with, and that declares
the method, is what the look-up answers with too, with the same texts decoded, exactly if no text
before a literal could have ended at an earlier one.  This is said of paths in which the texts
before literals begin with a single byte. -/
theorem findOperation?_iff_prompt [Libraries] (hs : s.Loads) (hrouter : s.router none = .ok router)
    (hm : router.matchPath path = some m) (he : s.operation? m.template method = some e)
    (hplain : ∀ p ∈ m.captures path, Template.Plain p.1 p.2) :
    s.findOperation? method path = some ⟨m.template, e, Contract.decodedParams m⟩ ↔
      ∀ p ∈ m.captures path, Template.Prompt p.1 p.2 := by
  obtain ⟨segments, texts, rest, h⟩ := exists_found hrouter hm
  have hparams : Contract.decodedParams m = decodedParams segments texts := by
    rw [← Contract.decodedParams_bindings m.template m.base, ← h.params_eq]
  rw [h.captures_eq] at hplain ⊢
  rw [hparams]
  constructor
  · intro hf
    exact (Template.swift_iff.1 (h.swift_of_findOperation? hf)).1
  · intro hprompt
    have hswift := Template.swift_iff.2 ⟨hprompt, hplain⟩
    have hanswers := h.answers_of_swift hs.wellFormed he hswift
    exact h.findOperation?_of_answers hs.wellFormed (serves_of_router hrouter) hanswers rfl

end

/-! ### Where they do not agree -/

/-- A document with one resource, whose template ends with literal text after a placeholder. -/
def suffixedDocument : Document :=
  { format := "3.0.3"
    info := { title := "A", version := "1" }
    paths := [("/\x7bname\x7d.x",
      { get := some
          { parameters := [{ name := "name", location := some .path, required := true }]
            responses := [("200", {})] } })] }

/-- The operation of that resource. -/
def suffixedEndpoint : Endpoint :=
  { operationId := none
    deprecated := false
    parameters := [{ name := "name", location := some .path, required := true }]
    requestBody := none
    responses := [("200", {})] }

/-- The specification of that document. -/
def suffixed : Specification :=
  ⟨"A", "1", [""], [⟨"/\x7bname\x7d.x", [(.get, suffixedEndpoint)]⟩], {}⟩

/-- Its router. -/
def suffixedRouter : Router :=
  ⟨[⟨"/\x7bname\x7d.x", [.char '/', .hole, .char '.', .char 'x'], ["name"]⟩], [""]⟩

theorem router_suffixed : suffixed.router none = .ok suffixedRouter :=
  Router.build_singleton rfl [""]

/-- A path whose text before the dot has a dot in it is still found. -/
theorem findOperation?_suffixed :
    suffixed.Loads ∧ suffixed.router none = .ok suffixedRouter ∧
      suffixedRouter.matchPath "/a.y.x" = some ⟨"/\x7bname\x7d.x", "", [("name", "a.y")]⟩ ∧
      suffixed.findOperation? .get "/a.y.x" =
        some ⟨"/\x7bname\x7d.x", suffixedEndpoint, [("name", "a.y")]⟩ := by
  have hloads : suffixed.Loads := ⟨suffixedDocument, by decide, rfl⟩
  have hmatch : suffixedRouter.matchPath "/a.y.x" =
      some ⟨"/\x7bname\x7d.x", "", [("name", "a.y")]⟩ := rfl
  have hcaptures : RouteMatch.captures ⟨"/\x7bname\x7d.x", "", [("name", "a.y")]⟩ "/a.y.x" =
      [(some ".x", ['a', '.', 'y'])] := rfl
  have hiff := findOperation?_iff_prompt hloads router_suffixed hmatch
    (show suffixed.operation? "/\x7bname\x7d.x" .get = some suffixedEndpoint from rfl) (by
      rw [hcaptures, List.forall_mem_singleton]
      rintro - c ⟨⟩
      decide)
  have hdecoded : Contract.decodedParams ⟨"/\x7bname\x7d.x", "", [("name", "a.y")]⟩ =
      [("name", "a.y")] := by decide +kernel
  refine ⟨hloads, router_suffixed, hmatch, ?_⟩
  rw [← hdecoded]
  refine hiff.2 ?_
  rw [hcaptures, List.forall_mem_singleton]
  exact (Template.prompt_iff_cutAt ".x" 'a' ['.', 'y'] []).2 rfl

/-- The router matches a path whose text before the literal has the literal in it; the look-up does
not find it. -/
theorem not_findOperation?_of_matchPath :
    ¬ ∀ (s : Specification) (router : Router) (method : Http.Method) (path : String)
        (m : RouteMatch) (e : Endpoint),
      s.Loads → s.router none = .ok router → router.matchPath path = some m →
      s.operation? m.template method = some e →
      ∃ found, s.findOperation? method path = some found ∧ found.template = m.template ∧
        found.params = Contract.decodedParams m := by
  intro h
  obtain ⟨found, hfound, -⟩ := h suffixed suffixedRouter .get "/a.x.x"
    ⟨"/\x7bname\x7d.x", "", [("name", "a.x")]⟩ suffixedEndpoint
    ⟨suffixedDocument, by decide, rfl⟩ router_suffixed rfl rfl
  have hnone : suffixed.findOperation? .get "/a.x.x" = none := rfl
  rw [hnone] at hfound
  cases hfound

end Specification

end ApiContract
