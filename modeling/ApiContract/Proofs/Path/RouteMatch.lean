/-
**Which path a router answers, and what it answers.**

A prefix admits a path if what it leaves of the path fills one of the templates.  The router answers
a path if some prefix admits it.  It answers with the first such prefix, with the first template
that is filled in the order of specificity, and with the texts of the shortest filling, in which
each placeholder, from left to right, takes as little as it can.  A name that occurs more than once
is bound to the text of its last occurrence.

Main definitions:

* `Cut.Shortest` — the filling whose texts are the shortest, the first ones first.

Main results:

* `Cut.first?_eq_some_iff` — **the search finds the shortest filling**;
* `Router.get?_bindings` — the last occurrence of a name counts;
* `Router.Serves.cut?_eq` — a route captures what its pattern does;
* `Router.matchPath_exact` — **the answers of a router**.
-/

import ApiContract.Pattern.Library
import ApiContract.Proofs.Path.Captures
import ApiContract.Proofs.Path.Cover

set_option relaxedAutoImplicit false
set_option autoImplicit false

namespace ApiContract

/-! ### The shortest filling -/

namespace Cut

/-- The shortest filling of steps: in any other one the first text of another length is longer. -/
def Shortest (steps : List Step) (texts : List (List Char)) (cs : List Char) : Prop :=
  Fills steps texts cs ∧ ∀ others, Fills steps others cs → others ≠ texts →
    texts.map List.length < others.map List.length

section

variable {steps : List Step} {texts others : List (List Char)} {cs : List Char}

/-- Whatever else fills the steps is longer than what the search finds. -/
theorem eq_or_lt_of_fills (h : first? steps cs = some texts) (ho : Fills steps others cs) :
    others = texts ∨ texts.map List.length < others.map List.length := by
  induction ho generalizing texts with
  | nil =>
      cases h
      exact Or.inl rfl
  | char c _ ih =>
      rw [first?_char, if_pos rfl] at h
      exact ih h
  | @hole other steps others cs hne hs ho ih =>
      obtain ⟨text, rest, ts, heq, rfl, ⟨-, -, hleast⟩, hrest⟩ := first?_hole_eq_some_iff.1 h
      rw [List.map_cons, List.map_cons, List.cons_lt_cons_iff]
      rcases List.append_eq_append_iff.1 heq with ⟨last, rfl, rfl⟩ | ⟨last, rfl, rfl⟩
      · by_cases hlast : last = []
        · -- the first texts are the same
          subst hlast
          rcases ih hrest with rfl | hlt
          · exact Or.inl (by rw [List.append_nil])
          · exact Or.inr (Or.inr ⟨by rw [List.append_nil], hlt⟩)
        · -- a shorter text after which the steps are filled would have been taken
          have hnone := hleast other last rfl hne hlast
          have hsome := isSome_first?_iff.2 ⟨others, ho⟩
          rw [hnone] at hsome
          cases hsome
      · by_cases hlast : last = []
        · subst hlast
          rcases ih hrest with rfl | hlt
          · exact Or.inl (by rw [List.append_nil])
          · exact Or.inr (Or.inr ⟨by rw [List.append_nil], hlt⟩)
        · have hpos := List.length_pos_iff.2 hlast
          refine Or.inr (Or.inl ?_)
          rw [List.length_append]
          omega

/-- **The search finds the shortest filling**, if there is one. -/
theorem first?_eq_some_iff : first? steps cs = some texts ↔ Shortest steps texts cs := by
  constructor
  · intro h
    exact ⟨fills_of_first? h, fun others ho hne => (eq_or_lt_of_fills h ho).resolve_left hne⟩
  · rintro ⟨hfills, hshortest⟩
    obtain ⟨found, hfound⟩ := Option.isSome_iff_exists.1 (isSome_first?_iff.2 ⟨texts, hfills⟩)
    rcases eq_or_lt_of_fills hfound hfills with rfl | hlt
    · exact hfound
    · by_cases hne : found = texts
      · rw [hfound, hne]
      · exact absurd hlt (List.lt_asymm (hshortest found (fills_of_first? hfound) hne))

end

end Cut

namespace Router

/-! ### Bound names -/

/-- A name is bound to the text of its last occurrence. -/
theorem get?_bindings {names : List String} {texts : List (List Char)} {name value : String} :
    (bindings names texts).get? name = some value ↔
      ∃ before text after, names.zip texts = before ++ (name, text) :: after ∧
        name ∉ after.map Prod.fst ∧ value = String.ofList text := by
  have hbindings : bindings names texts =
      Dict.ofList ((names.zip texts).map fun p => (p.1, String.ofList p.2)) := by
    rw [bindings, List.zip_map_right]
    rfl
  rw [hbindings, Dict.get?_ofList_eq_some_iff]
  constructor
  · rintro ⟨before, after, hzip, hafter⟩
    obtain ⟨before', others, hpairs, rfl, hothers⟩ := List.map_eq_append_iff.1 hzip
    obtain ⟨⟨name', text⟩, after', rfl, hpair, rfl⟩ := List.map_eq_cons_iff.1 hothers
    obtain ⟨rfl, rfl⟩ := Prod.mk.inj hpair
    refine ⟨before', text, after', hpairs, fun hmem => hafter ?_, rfl⟩
    simpa using hmem
  · rintro ⟨before, text, after, hzip, hafter, rfl⟩
    refine ⟨before.map fun p => (p.1, String.ofList p.2),
      after.map fun p => (p.1, String.ofList p.2), by simp [hzip], fun hmem => hafter ?_⟩
    simpa using hmem

/-! ### The answers -/

/-- A route captures what the pattern of its template captures first. -/
theorem Serves.cut?_eq [Libraries] {router : Router} {templates bases : List String}
    (h : router.Serves templates bases) {route : Route} (hr : route ∈ router.routes) :
    ∃ segments, Template.parse route.template = .ok segments ∧ ∀ text,
      route.cut? text = (Capture.ways (Capture.piecesOf segments) text.toList).head? := by
  obtain ⟨segments, hparse, -, hroute⟩ :=
    Route.compile_eq_ok_iff.1 (h.compile_of_mem route hr).2
  refine ⟨segments, hparse, fun text => ?_⟩
  have hsteps : route.steps = Cut.stepsOf segments := congrArg Route.steps hroute
  rw [Route.cut?, hsteps, Capture.head?_ways]

/-- **The answers of a router.**  Every route captures what the pattern of its template captures.  A
path is answered exactly if some prefix admits it.  The answer names the first such prefix and the
first template that what is left of the path fills; the texts that the pattern of the template
captures are those of the shortest filling, and each name is bound to the text of its last
occurrence. -/
theorem matchPath_exact [Libraries] {router : Router} {templates bases : List String}
    (h : build templates bases = .ok router) (path : String) :
    (∀ route ∈ router.routes, ∃ segments, Template.parse route.template = .ok segments ∧
      ∀ text, route.cut? text = (Capture.ways (Capture.piecesOf segments) text.toList).head?) ∧
    ((router.matchPath path).isSome = true ↔
      ∃ base ∈ bases, Template.Admits templates base path) ∧
    ∀ m, router.matchPath path = some m →
      ∃ before after rest segments texts,
        bases = before ++ m.base :: after ∧
        (∀ base ∈ before, ¬ Template.Admits templates base path) ∧
        Path.stripPrefix path m.base = some rest ∧
        (m.template ∈ templates ∧ Template.FilledBy m.template rest ∧
          ∀ other ∈ templates, Template.FilledBy other rest →
            Template.precedes m.template other = true) ∧
        Template.parse m.template = .ok segments ∧
        (Capture.ways (Capture.piecesOf segments) rest.toList).head? = some texts ∧
        Cut.Shortest (Cut.stepsOf segments) texts rest.toList ∧
        texts.length = (Template.names segments).length ∧
        ∀ name value, m.params.get? name = some value ↔
          ∃ earlier text later,
            (Template.names segments).zip texts = earlier ++ (name, text) :: later ∧
            name ∉ later.map Prod.fst ∧ value = String.ofList text := by
  have hserves := serves_of_build h
  refine ⟨fun route hr => hserves.cut?_eq hr, hserves.isSome_matchPath_iff, fun m hm => ?_⟩
  obtain ⟨before, after, rest, hbases, hbefore, hrest, hmatch⟩ := hserves.matchPath_eq_some hm
  obtain ⟨-, htemplate⟩ := hserves.of_matchRest hmatch
  obtain ⟨segments, texts, hparse, htexts, hanswer, -⟩ := hserves.exists_segments hmatch
  have hshortest := Cut.first?_eq_some_iff.1 htexts
  have hcaptures : (Capture.ways (Capture.piecesOf segments) rest.toList).head? = some texts := by
    rw [Capture.head?_ways, htexts]
  have hlength : texts.length = (Template.names segments).length := by
    rw [hshortest.1.length_eq, Template.length_names]
  have hparams : m.params = bindings (Template.names segments) texts :=
    congrArg RouteMatch.params hanswer
  refine ⟨before, after, rest, segments, texts, hbases, hbefore, hrest, htemplate, hparse,
    hcaptures, hshortest, hlength, fun name value => ?_⟩
  rw [hparams]
  exact get?_bindings

/-- The router for a template in which a name occurs twice. -/
def repeated : Router :=
  ⟨[⟨"/\x7bname\x7d.\x7bname\x7d", [.char '/', .hole, .char '.', .hole], ["name", "name"]⟩],
    ["/v1", ""]⟩

/-- The name is bound to what the first text leaves, and the first text ends at the first dot. -/
theorem matchPath_repeated :
    build ["/\x7bname\x7d.\x7bname\x7d"] ["/v1", ""] = .ok repeated ∧
      ∃ m, repeated.matchPath "/a.b.c" = some m ∧ m.base = "" ∧
        m.params.get? "name" = some "b.c" ∧
        ∃ steps, Cut.Shortest steps [['a'], ['b', '.', 'c']] "/a.b.c".toList := by
  have hbuild : build ["/\x7bname\x7d.\x7bname\x7d"] ["/v1", ""] = .ok repeated :=
    build_singleton rfl ["/v1", ""]
  have hmatch : repeated.matchPath "/a.b.c" =
      some ⟨"/\x7bname\x7d.\x7bname\x7d", "", [("name", "b.c")]⟩ := rfl
  obtain ⟨-, -, hanswers⟩ := matchPath_exact hbuild "/a.b.c"
  obtain ⟨_, _, rest, segments, texts, -, -, hrest, -, hparse, hcaptures, hshortest, -⟩ :=
    hanswers _ hmatch
  obtain rfl : "/a.b.c" = rest := Option.some.inj hrest
  obtain rfl : [[.param "name", .literal ".", .param "name"]] = segments := Except.ok.inj hparse
  obtain rfl : [['a'], ['b', '.', 'c']] = texts := Option.some.inj hcaptures
  exact ⟨hbuild, _, hmatch, rfl, rfl, _, hshortest⟩

end Router

end ApiContract
