/-
**The order of paths does not matter to a specification.**

The paths of a document can be put in another order.  What is wrong with a document is found path by
path, and the schemas are looked up wherever they stand, so that the document describes a
specification in every order or in none.  Whatever looks at all resources goes by the order of
specificity, which is the same whichever way they stand: the look-up by path takes the least match,
and the router sorts its routes.

Main definitions:

* `Specification.Reorders` — a specification with the same resources in another order.

Main results:

* `Document.problems_reordered_iff`, `Document.missingSchemas_reordered_iff` — what is wrong with a
  document is wrong in every order;
* `Specification.ofDocument_reordered` — **the same documents are specifications in another order**;
* `Specification.Reorders.findOperation?_eq` — **the same operations are found**;
* `Specification.Reorders.router_eq` — **the router is the same**.
-/

import ApiContract.Proofs.Specification.Agreement
import ApiContract.Proofs.Specification.References
import ApiContract.Proofs.Specification.Resolution

set_option relaxedAutoImplicit false
set_option autoImplicit false

namespace ApiContract

/-! ### Documents -/

namespace Document

variable {d : Document} {paths : Dict PathItem}

/-- Paths in another order have the same problems, if they have none. -/
theorem problems_reordered_iff [Libraries] (hp : paths.Perm d.paths) :
    problems { d with paths } = [] ↔ d.problems = [] := by
  simp only [problems, headProblems, List.append_eq_nil_iff, List.flatMap_eq_nil_iff, hp.mem_iff]

theorem leads_reordered_iff (hp : paths.Perm d.paths) :
    Leads { d with paths } ↔ d.Leads := by
  simp only [Leads, hp.mem_iff]

/-- Paths in another order have the same schemas in another order. -/
theorem schemas_reordered (hp : paths.Perm d.paths) :
    (schemas { d with paths }).Perm d.schemas := by
  have hitems : paths.values.Perm d.paths.values := hp.map Prod.snd
  have hoperations : (operations { d with paths }).Perm d.operations := hitems.flatMap_right _
  refine List.Perm.flatMap_right _ ?_
  refine .append (.append (.append_left _ (.filterMap _ ?_)) (.flatMap_right _ ?_))
    (.flatMap_right _ ?_)
  · exact (hitems.flatMap_right _).append_left _
  · exact (hoperations.filterMap _).append_left _
  · exact (hoperations.flatMap_right _).append_left _

/-- No schema is missing if every reference names one. -/
theorem missingSchemas_eq_nil_iff : d.missingSchemas = [] ↔
    ∀ t ∈ d.schemas, ∀ reference, t.reference = some reference →
      (d.components.schemas.lookup? reference).isSome = true := by
  constructor
  · intro h t ht reference hreference
    obtain ⟨u, -, hu⟩ := exists_lookup? h ht hreference
    rw [hu]
    rfl
  · intro h
    have hnone : (d.schemas.filterMap Schema.reference).filter
        (fun r => (d.components.schemas.lookup? r).isNone) = [] := by
      rw [List.filter_eq_nil_iff]
      intro reference hmem
      obtain ⟨t, ht, hreference⟩ := List.mem_filterMap.1 hmem
      rw [Option.isNone_iff_eq_none, ← Ne, ← Option.isSome_iff_ne_none]
      exact h t ht reference hreference
    rw [missingSchemas, hnone]
    rfl

theorem missingSchemas_reordered_iff (hp : paths.Perm d.paths) :
    missingSchemas { d with paths } = [] ↔ d.missingSchemas = [] := by
  simp only [missingSchemas_eq_nil_iff, (schemas_reordered hp).mem_iff]

end Document

/-! ### Specifications -/

namespace Specification

/-- A specification with the same resources in another order. -/
structure Reorders (s' s : Specification) : Prop where
  resources_perm : s'.resources.Perm s.resources
  bases_eq : s'.bases = s.bases
  components_eq : s'.components = s.components

/-- **Paths in another order describe the resources in another order**, and nothing if they describe
nothing. -/
theorem ofDocument_reordered [Libraries] {d : Document} {paths : Dict PathItem}
    (hp : paths.Perm d.paths) {s : Specification} (hs : ofDocument d = .ok s) :
    ∃ s', ofDocument { d with paths } = .ok s' ∧ s'.Reorders s := by
  obtain ⟨hproblems, hschemas, hleads, rfl⟩ := ofDocument_eq_ok_iff.1 hs
  refine ⟨followed { d with paths }, ofDocument_eq_ok_iff.2 ⟨?_, ?_, ?_, rfl⟩, ?_⟩
  · exact (Document.problems_reordered_iff hp).2 hproblems
  · exact (Document.missingSchemas_reordered_iff hp).2 hschemas
  · exact (Document.leads_reordered_iff hp).2 hleads
  · exact ⟨hp.map _, rfl, rfl⟩

variable {s s' : Specification} {method : Http.Method} {rest : String}

namespace Reorders

theorem symm (h : s'.Reorders s) : s.Reorders s' :=
  ⟨h.resources_perm.symm, h.bases_eq.symm, h.components_eq.symm⟩

theorem wellFormed (h : s'.Reorders s) (hw : s.WellFormed) : s'.WellFormed where
  nodup_templates := (h.resources_perm.map _).nodup_iff.2 hw.nodup_templates
  nodup_methods r hr := hw.nodup_methods r (h.resources_perm.subset hr)
  isValid_key r hr := hw.isValid_key r (h.resources_perm.subset hr)

/-- An operation is declared wherever its resource stands. -/
theorem operation?_eq (h : s'.Reorders s) (hw : s.WellFormed) (template : String)
    (method : Http.Method) : s'.operation? template method = s.operation? template method := by
  refine Option.ext fun e => ?_
  rw [(h.wellFormed hw).operation?_eq_some_iff, hw.operation?_eq_some_iff]
  simp only [h.resources_perm.mem_iff]

theorem answers_iff (h : s'.Reorders s) {m : OperationMatch} :
    s'.Answers method rest m ↔ s.Answers method rest m := by
  simp only [Answers, h.resources_perm.mem_iff]

end Reorders

/-- Of the matches under a prefix the least one is found, and no other. -/
theorem WellFormed.matchRest?_eq_some_iff (hw : s.WellFormed) {m : OperationMatch} :
    s.matchRest? method rest = some m ↔ s.Answers method rest m ∧
      ∀ n, s.Answers method rest n → Template.precedes m.template n.template = true := by
  constructor
  · intro hm
    have hanswers := answers_of_matchRest? hm
    obtain ⟨best, hbest, -, hleast⟩ := matchRest?_eq_some hanswers
    rw [hm] at hbest
    cases hbest
    exact ⟨hanswers, hleast⟩
  · rintro ⟨hanswers, hleast⟩
    obtain ⟨best, hbest, hanswers', hleast'⟩ := matchRest?_eq_some hanswers
    -- two matches that precede each other have one template
    have htemplate : m.template = best.template :=
      Template.precedes_antisymm (hleast best hanswers') (hleast' m hanswers)
    rw [hbest, hw.eq_of_answers hanswers hanswers' htemplate]

/-- **The same operations are found**, with the same parameters. -/
theorem Reorders.findOperation?_eq (h : s'.Reorders s) (hw : s.WellFormed) (method : Http.Method)
    (path : String) : s'.findOperation? method path = s.findOperation? method path := by
  have hrest : s'.matchRest? method = s.matchRest? method := by
    funext rest
    refine Option.ext fun m => ?_
    rw [(h.wellFormed hw).matchRest?_eq_some_iff, hw.matchRest?_eq_some_iff]
    simp only [h.answers_iff]
  rw [findOperation?, findOperation?, h.bases_eq, hrest]

end Specification

/-! ### Routers -/

theorem Route.compileAll_cons_eq_ok_iff [Libraries] {template : String} {templates : List String}
    {routes : List Route} :
    Route.compileAll (template :: templates) = .ok routes ↔
      ∃ route others, Route.compile template = .ok route ∧
        Route.compileAll templates = .ok others ∧ routes = route :: others := by
  rw [compileAll]
  cases Route.compile template with
  | error e => simp
  | ok route => cases Route.compileAll templates <;> simp [eq_comm]

/-- Templates in another order have the same routes in another order. -/
theorem Route.compileAll_perm [Libraries] {templates templates' : List String}
    (hp : templates.Perm templates') {routes : List Route}
    (h : Route.compileAll templates = .ok routes) :
    ∃ routes', Route.compileAll templates' = .ok routes' ∧ routes.Perm routes' := by
  induction hp generalizing routes with
  | nil => exact ⟨routes, h, .refl routes⟩
  | cons template hp ih =>
      obtain ⟨route, others, hroute, hothers, rfl⟩ := compileAll_cons_eq_ok_iff.1 h
      obtain ⟨others', hothers', hperm⟩ := ih hothers
      exact ⟨route :: others', compileAll_cons_eq_ok_iff.2 ⟨_, _, hroute, hothers', rfl⟩,
        hperm.cons route⟩
  | swap second first templates =>
      obtain ⟨_, _, hfirst, hrest, rfl⟩ := compileAll_cons_eq_ok_iff.1 h
      obtain ⟨_, others, hsecond, hothers, rfl⟩ := compileAll_cons_eq_ok_iff.1 hrest
      have hswapped := compileAll_cons_eq_ok_iff.2 ⟨_, _, hfirst, hothers, rfl⟩
      exact ⟨_, compileAll_cons_eq_ok_iff.2 ⟨_, _, hsecond, hswapped, rfl⟩, .swap _ _ others⟩
  | trans _ _ ih ih' =>
      obtain ⟨routes', h', hperm⟩ := ih h
      obtain ⟨routes'', h'', hperm'⟩ := ih' h'
      exact ⟨routes'', h'', hperm.trans hperm'⟩

/-- **Routes are sorted alike whichever way they stand**, if each is the route of its template. -/
theorem Route.mergeSort_perm_eq [Libraries] {routes routes' : List Route} (hp : routes.Perm routes')
    (hroutes : ∀ route ∈ routes, Route.compile route.template = .ok route) :
    (routes.mergeSort fun a b => Template.precedes a.template b.template) =
      routes'.mergeSort fun a b => Template.precedes a.template b.template := by
  refine List.Perm.eq_of_pairwise ?_ (Router.pairwise_mergeSort_precedes routes)
    (Router.pairwise_mergeSort_precedes routes') ?_
  · intro a b ha hb hab hba
    have hcompile := hroutes a (List.mem_mergeSort.1 ha)
    rw [Template.precedes_antisymm hab hba,
      hroutes b (hp.symm.subset (List.mem_mergeSort.1 hb))] at hcompile
    exact (Except.ok.inj hcompile).symm
  · exact (List.mergeSort_perm _ _).trans (hp.trans (List.mergeSort_perm _ _).symm)

/-- **The router is the same for templates in every order.** -/
theorem Router.build_perm [Libraries] {templates templates' bases : List String}
    (hp : templates.Perm templates') {router : Router} (h : build templates bases = .ok router) :
    build templates' bases = .ok router := by
  have hserves := serves_of_build h
  unfold build at h ⊢
  split at h
  · cases h
  · rename_i routes hroutes
    cases h
    obtain ⟨routes', hroutes', hperm⟩ := Route.compileAll_perm hp hroutes
    have hcompile : ∀ route ∈ routes, Route.compile route.template = .ok route := fun route hr =>
      (hserves.compile_of_mem route (List.mem_mergeSort.2 hr)).2
    rw [hroutes', Route.mergeSort_perm_eq hperm hcompile]

/-- **The router of a specification is the same in every order.** -/
theorem Specification.Reorders.router_eq [Libraries] {s s' : Specification} (h : s'.Reorders s)
    {base : Option String} {router : Router} (hr : s.router base = .ok router) :
    s'.router base = .ok router := by
  unfold Specification.router at hr ⊢
  rw [h.bases_eq]
  exact Router.build_perm (h.resources_perm.symm.map _) hr

end ApiContract
