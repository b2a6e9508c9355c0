/-
**What a router answers.**

The order of specificity is a linear order of templates.  A router has one route for each of its
templates, in this order, and answers with the least template that matches what is left of the path
under the first prefix with a match.

Main definitions:

* `Route.Accepted` — the pattern of a template is one that is accepted;
* `Router.Serves` — what is known of a router that was built for templates and prefixes.

Main results:

* `Template.precedes_antisymm`, `Template.precedes_trans`, `Template.precedes_total` — the order of
  specificity is linear;
* `Route.exists_compileAll_iff` — which templates have routes;
* `Router.serves_of_build` — what is known of every router;
* `Router.Serves.matchRest_eq_some` — **the least matching template answers**.
-/

import ApiContract.Path.Route

set_option relaxedAutoImplicit false
set_option autoImplicit false

namespace ApiContract

open Std (TransCmp OrientedCmp LawfulEqCmp)

/-! ### The order of specificity -/

namespace Template

instance : TransCmp specificity :=
  inferInstanceAs (TransCmp (compareLex (compareOn braceCount)
    (compareLex (fun a b => compareOn String.utf8ByteSize b a) (fun a b : String => compare a b))))

instance : LawfulEqCmp specificity where
  eq_of_compare h := by
    simp only [specificity, Ordering.then_eq_eq] at h
    exact Std.LawfulEqOrd.eq_of_compare h.2.2

theorem precedes_iff {a b : String} : precedes a b = true ↔ (specificity a b).isLE = true := by
  unfold precedes
  cases specificity a b <;> decide

theorem precedes_refl (a : String) : precedes a a = true :=
  precedes_iff.2 (by rw [@Std.ReflCmp.compare_self _ specificity]; rfl)

theorem precedes_trans {a b c : String} (hab : precedes a b = true) (hbc : precedes b c = true) :
    precedes a c = true := by
  rw [precedes_iff] at hab hbc ⊢
  exact TransCmp.isLE_trans hab hbc

theorem precedes_total (a b : String) : precedes a b = true ∨ precedes b a = true := by
  rw [precedes_iff, precedes_iff, @OrientedCmp.eq_swap _ specificity _ b a]
  cases specificity a b <;> decide

/-- Two templates that precede each other are the same. -/
theorem precedes_antisymm {a b : String} (hab : precedes a b = true) (hba : precedes b a = true) :
    a = b := by
  rw [precedes_iff] at hab hba
  exact LawfulEqCmp.eq_of_compare (OrientedCmp.isLE_antisymm hab hba)

end Template

/-! ### Routes -/

variable [Libraries]

/-- A template is well-formed, and its pattern is one that is accepted. -/
def Route.Accepted (template : String) : Prop :=
  ∃ segments, Template.parse template = .ok segments ∧
    ∃ found, Libraries.compilePattern (Capture.text (Capture.piecesOf segments)) = .ok found

theorem Route.compile_eq_ok_iff {template : String} {route : Route} :
    Route.compile template = .ok route ↔
      ∃ segments, Template.parse template = .ok segments ∧
        (∃ found,
          Libraries.compilePattern (Capture.text (Capture.piecesOf segments)) = .ok found) ∧
        route = ⟨template, Cut.stepsOf segments, Template.names segments⟩ := by
  unfold Route.compile
  cases Template.parse template with
  | error e => simp
  | ok segments =>
      cases hpattern : Libraries.compilePattern (Capture.text (Capture.piecesOf segments)) with
      | error e => simp [hpattern]
      | ok found => simp [hpattern, eq_comm]

/-- A template has a route if its pattern is accepted. -/
theorem Route.exists_compile_iff {template : String} :
    (∃ route, Route.compile template = .ok route) ↔ Route.Accepted template := by
  simp only [Route.compile_eq_ok_iff, Route.Accepted]
  constructor
  · rintro ⟨route, segments, hparse, hfound, -⟩
    exact ⟨segments, hparse, hfound⟩
  · rintro ⟨segments, hparse, hfound⟩
    exact ⟨_, segments, hparse, hfound, rfl⟩

/-- The routes of templates are those of the single templates. -/
theorem Route.mem_of_compileAll {templates : List String} {routes : List Route}
    (h : Route.compileAll templates = .ok routes) :
    (∀ route ∈ routes, ∃ template ∈ templates, Route.compile template = .ok route) ∧
      ∀ template ∈ templates, ∃ route ∈ routes, Route.compile template = .ok route := by
  induction templates generalizing routes with
  | nil =>
      cases h
      simp
  | cons template templates ih =>
      simp only [Route.compileAll] at h
      split at h
      · cases h
      · rename_i first hfirst
        split at h
        · cases h
        · rename_i others hothers
          cases h
          obtain ⟨hroute, htemplate⟩ := ih hothers
          constructor
          · intro route hr
            rcases List.mem_cons.1 hr with rfl | hr
            · exact ⟨template, List.mem_cons_self, hfirst⟩
            · obtain ⟨t, ht, hc⟩ := hroute route hr
              exact ⟨t, List.mem_cons_of_mem _ ht, hc⟩
          · intro t ht
            rcases List.mem_cons.1 ht with rfl | ht
            · exact ⟨first, List.mem_cons_self, hfirst⟩
            · obtain ⟨route, hr, hc⟩ := htemplate t ht
              exact ⟨route, List.mem_cons_of_mem _ hr, hc⟩

/-- **Which templates have routes**: those whose patterns are all accepted. -/
theorem Route.exists_compileAll_iff {templates : List String} :
    (∃ routes, Route.compileAll templates = .ok routes) ↔
      ∀ template ∈ templates, Route.Accepted template := by
  constructor
  · rintro ⟨routes, h⟩ template ht
    obtain ⟨route, -, hcompile⟩ := (Route.mem_of_compileAll h).2 template ht
    exact Route.exists_compile_iff.1 ⟨route, hcompile⟩
  · intro h
    induction templates with
    | nil => exact ⟨[], rfl⟩
    | cons template templates ih =>
        rw [List.forall_mem_cons] at h
        obtain ⟨route, hroute⟩ := Route.exists_compile_iff.2 h.1
        obtain ⟨routes, hroutes⟩ := ih h.2
        exact ⟨route :: routes, by simp [Route.compileAll, hroute, hroutes]⟩

/-! ### Routers -/

namespace Router

/-- What is known of a router that was built for templates and prefixes. -/
structure Serves (router : Router) (templates bases : List String) : Prop where
  /-- Its prefixes are tried in their order. -/
  prefixes_eq : router.prefixes = bases
  /-- Its routes are in order. -/
  sorted : router.routes.Pairwise fun a b => Template.precedes a.template b.template = true
  /-- Every route is that of a template. -/
  compile_of_mem : ∀ route ∈ router.routes,
    route.template ∈ templates ∧ Route.compile route.template = .ok route
  /-- Every template has a route. -/
  exists_route : ∀ template ∈ templates,
    ∃ route ∈ router.routes, Route.compile template = .ok route

omit [Libraries] in
theorem pairwise_mergeSort_precedes (routes : List Route) :
    (routes.mergeSort fun a b => Template.precedes a.template b.template).Pairwise
      fun a b => Template.precedes a.template b.template = true := by
  apply List.pairwise_mergeSort
  · intro a b c
    exact Template.precedes_trans
  · intro a b
    rw [Bool.or_eq_true]
    exact Template.precedes_total a.template b.template

/-- There is a router exactly if the patterns of all templates are accepted. -/
theorem exists_build_iff {templates bases : List String} :
    (∃ router, build templates bases = .ok router) ↔
      ∀ template ∈ templates, Route.Accepted template := by
  rw [← Route.exists_compileAll_iff]
  unfold build
  cases Route.compileAll templates with
  | error e => simp
  | ok routes => simp

/-- The router for a single template. -/
theorem build_singleton {template : String} {route : Route}
    (h : Route.compile template = .ok route) (bases : List String) :
    build [template] bases = .ok ⟨[route], bases⟩ := by
  have hroutes : Route.compileAll [template] = .ok [route] := by simp [Route.compileAll, h]
  rw [build, hroutes]
  simp only [List.mergeSort_singleton]

/-- **What is known of every router.** -/
theorem serves_of_build {templates bases : List String} {router : Router}
    (h : build templates bases = .ok router) : router.Serves templates bases := by
  unfold build at h
  split at h
  · cases h
  · rename_i routes hroutes
    cases h
    obtain ⟨hroute, htemplate⟩ := Route.mem_of_compileAll hroutes
    refine ⟨rfl, pairwise_mergeSort_precedes routes, fun route hr => ?_, fun template ht => ?_⟩
    · obtain ⟨template, ht, hc⟩ := hroute route (List.mem_mergeSort.1 hr)
      obtain ⟨segments, -, -, rfl⟩ := Route.compile_eq_ok_iff.1 hc
      exact ⟨ht, hc⟩
    · obtain ⟨route, hr, hc⟩ := htemplate template ht
      exact ⟨route, List.mem_mergeSort.2 hr, hc⟩

section

variable {router : Router} {templates bases : List String} {base rest : String} {m : RouteMatch}

/-- The template that answers matches, and it precedes all others that do. -/
theorem Serves.matchRest_eq_some (h : router.Serves templates bases)
    (hm : router.matchRest base rest = some m) :
    ∃ route ∈ router.routes, ∃ texts, route.cut? rest = some texts ∧
      m = ⟨route.template, base, bindings route.names texts⟩ ∧
      ∀ other ∈ router.routes, (other.cut? rest).isSome = true →
        Template.precedes route.template other.template = true := by
  obtain ⟨before, route, after, heq, hroute, hnone⟩ := List.findSome?_eq_some_iff.1 hm
  obtain ⟨texts, htexts, rfl⟩ := Option.map_eq_some_iff.1 hroute
  have hsorted := h.sorted
  rw [heq, List.pairwise_append, List.pairwise_cons] at hsorted
  refine ⟨route, by simp [heq], texts, htexts, rfl, fun other ho hcut => ?_⟩
  rw [heq, List.mem_append, List.mem_cons] at ho
  rcases ho with ho | rfl | ho
  · rw [Option.map_eq_none_iff.1 (hnone other ho)] at hcut
    cases hcut
  · exact Template.precedes_refl _
  · exact hsorted.2.1.1 other ho

/-- The template that answers is made of segments, which the rest fills; the texts are bound to its
names. -/
theorem Serves.exists_segments (h : router.Serves templates bases)
    (hm : router.matchRest base rest = some m) :
    ∃ segments texts, Template.parse m.template = .ok segments ∧
      Cut.first? (Cut.stepsOf segments) rest.toList = some texts ∧
      m = ⟨m.template, base, bindings (Template.names segments) texts⟩ ∧
      ∀ other ∈ router.routes, (other.cut? rest).isSome = true →
        Template.precedes m.template other.template = true := by
  obtain ⟨route, hroute, texts, htexts, rfl, hleast⟩ := h.matchRest_eq_some hm
  obtain ⟨segments, hparse, -, hcompile⟩ :=
    Route.compile_eq_ok_iff.1 (h.compile_of_mem route hroute).2
  obtain ⟨template, steps, names⟩ := route
  cases hcompile
  exact ⟨segments, texts, hparse, htexts, rfl, hleast⟩

omit [Libraries] in
theorem matchRest_eq_none_iff :
    router.matchRest base rest = none ↔ ∀ route ∈ router.routes, route.cut? rest = none := by
  simp only [matchRest, List.findSome?_eq_none_iff, Option.map_eq_none_iff]

end

end Router

end ApiContract
