/-
**What endpoints take from a document.**

The endpoints of a specification stand for the operations of its document.  Their parameters are
among those that are declared, and all their schemas are schemas of the document.

Main definitions:

* `Specification.Declares` — an endpoint stands for an operation of a path.

Main results:

* `Specification.exists_declares` — every endpoint does;
* `Specification.Declares.mem_declaredParameters` — the parameters of an endpoint are declared;
* `Specification.Declares.mem_schemaRoots` — **the schemas of an endpoint are among those of the
  document**.
-/

import ApiContract.Proofs.Specification.Resolution
import ApiContract.Proofs.Validation.Finding

set_option relaxedAutoImplicit false
set_option autoImplicit false

namespace ApiContract

/-! ### Components -/

theorem ComponentKind.mem_values_of_named? {α : Type} {kind : ComponentKind} {components : Dict α}
    {reference : String} {a : α} (h : kind.named? components reference = some a) :
    a ∈ components.values := by
  unfold named? at h
  split at h
  · exact List.mem_map_of_mem (Dict.mem_of_get? h)
  · cases h

section

variable {components : Components}

/-- What stands for a parameter is that parameter, or a component. -/
theorem Parameter.eq_or_mem_of_target? {p q : Parameter} (h : p.target? components = some q) :
    q = p ∨ q ∈ components.parameters.values := by
  unfold target? at h
  split at h
  · exact Or.inl (Option.some.inj h).symm
  · exact Or.inr (ComponentKind.mem_values_of_named? h)

theorem RequestBody.eq_or_mem_of_target? {b c : RequestBody} (h : b.target? components = some c) :
    c = b ∨ c ∈ components.requestBodies.values := by
  unfold target? at h
  split at h
  · exact Or.inl (Option.some.inj h).symm
  · exact Or.inr (ComponentKind.mem_values_of_named? h)

theorem Response.eq_or_mem_of_target? {r s : Response} (h : r.target? components = some s) :
    s = r ∨ s ∈ components.responses.values := by
  unfold target? at h
  split at h
  · exact Or.inl (Option.some.inj h).symm
  · exact Or.inr (ComponentKind.mem_values_of_named? h)

end

/-- The parameters that a path without problems declares have none. -/
theorem parameterProblems_of_pathProblems [Libraries] {components : Components} {template : String}
    {item : PathItem} (h : pathProblems components template item = [])
    {o : Http.Method × Operation} (ho : o ∈ item.operations) {p : Parameter}
    (hp : p ∈ declaredParameters components item o.2) :
    ∃ names, Template.params template = .ok names ∧
      parameterProblems ⟨o.1, template⟩ names p = [] := by
  unfold pathProblems at h
  split at h
  · cases h
  · rename_i names hnames
    have hoperation := List.flatMap_eq_nil_iff.1 h o ho
    simp only [operationProblems, List.append_eq_nil_iff] at hoperation
    exact ⟨names, hnames, List.flatMap_eq_nil_iff.1 hoperation.1.2 p hp⟩

namespace Specification

/-- An endpoint stands for an operation of a path, with every reference followed once. -/
structure Declares (d : Document) (template : String) (item : PathItem)
    (o : Http.Method × Operation) (e : Endpoint) : Prop where
  mem_paths : (template, item) ∈ d.paths
  mem_operations : o ∈ item.operations
  leads : o.2.Leads d.components item
  eq : e = followedEndpoint d.components item o.2

section

variable {d : Document} {s : Specification} {r : Resource} {template : String} {item : PathItem}
  {o : Http.Method × Operation} {e : Endpoint}

/-- Every endpoint of a specification stands for an operation of the document. -/
theorem exists_declares [Libraries] (h : ofDocument d = .ok s) (hr : r ∈ s.resources)
    {o' : Http.Method × Endpoint} (ho : o' ∈ r.operations) :
    ∃ item o, Declares d r.template item o o'.2 ∧ o'.1 = o.1 := by
  obtain ⟨-, -, hleads, rfl⟩ := ofDocument_eq_ok_iff.1 h
  obtain ⟨p, hp, rfl⟩ := List.mem_map.1 hr
  obtain ⟨o, hmem, rfl⟩ := List.mem_map.1 ho
  exact ⟨p.2, o, ⟨hp, hmem, hleads p hp o hmem, rfl⟩, rfl⟩

namespace Declares

/-- The parameters of an endpoint are declared. -/
theorem mem_declaredParameters (h : Declares d template item o e) {p : Parameter}
    (hp : p ∈ e.parameters) : p ∈ declaredParameters d.components item o.2 := by
  rw [h.eq] at hp
  obtain ⟨before, after, heq, -⟩ := mem_foldl_overriding_iff.1 hp
  have hmem : p ∈ (item.parameters ++ o.2.parameters).map (·.followed d.components) := by
    rw [heq]
    exact List.mem_append_right _ List.mem_cons_self
  obtain ⟨q, hq, rfl⟩ := List.mem_map.1 hmem
  obtain ⟨u, hu⟩ := Option.isSome_iff_exists.1 (h.leads.parameters q hq)
  exact List.mem_filterMap.2 ⟨q, hq, by rw [Parameter.followed, hu, Option.getD_some]⟩

theorem operation_mem (h : Declares d template item o e) : o.2 ∈ d.operations :=
  List.mem_flatMap.2 ⟨item, List.mem_map_of_mem h.mem_paths, List.mem_map_of_mem h.mem_operations⟩

/-- The parameters of an endpoint are those of its path, of its operation, or of components. -/
theorem mem_parameters (h : Declares d template item o e) {p : Parameter}
    (hp : p ∈ e.parameters) : p ∈ d.parameters := by
  obtain ⟨q, hq, htarget⟩ := List.mem_filterMap.1 (h.mem_declaredParameters hp)
  rcases Parameter.eq_or_mem_of_target? htarget with rfl | hmem
  · refine List.mem_append_right _ (List.mem_flatMap.2 ⟨item, List.mem_map_of_mem h.mem_paths, ?_⟩)
    rcases List.mem_append.1 hq with hq | hq
    · exact List.mem_append_left _ hq
    · exact List.mem_append_right _ (List.mem_flatMap.2 ⟨o, h.mem_operations, hq⟩)
  · exact List.mem_append_left _ hmem

theorem mem_requestBodies (h : Declares d template item o e) {b : RequestBody}
    (hb : b ∈ e.requestBody) : b ∈ d.requestBodies := by
  rw [h.eq] at hb
  obtain ⟨b', hb', rfl⟩ := Option.map_eq_some_iff.1 hb
  obtain ⟨c, hc⟩ := Option.isSome_iff_exists.1 (h.leads.requestBody b' hb')
  rw [RequestBody.followed, hc, Option.getD_some]
  rcases RequestBody.eq_or_mem_of_target? hc with rfl | hmem
  · exact List.mem_append_right _ (List.mem_filterMap.2 ⟨o.2, h.operation_mem, hb'⟩)
  · exact List.mem_append_left _ hmem

theorem mem_responses (h : Declares d template item o e) {r : Response}
    (hr : r ∈ e.responses.values) : r ∈ d.responses := by
  rw [h.eq] at hr
  obtain ⟨_, hq, rfl⟩ := List.mem_map.1 hr
  obtain ⟨p, hp, rfl⟩ := List.mem_map.1 hq
  have hvalue : p.2 ∈ o.2.responses.values := List.mem_map_of_mem hp
  obtain ⟨c, hc⟩ := Option.isSome_iff_exists.1 (h.leads.responses p.2 hvalue)
  change p.2.followed d.components ∈ d.responses
  rw [Response.followed, hc, Option.getD_some]
  rcases Response.eq_or_mem_of_target? hc with rfl | hmem
  · exact List.mem_append_right _ (List.mem_flatMap.2 ⟨o.2, h.operation_mem, hvalue⟩)
  · exact List.mem_append_left _ hmem

/-- **The schemas of an endpoint are among those of the document.** -/
theorem mem_schemaRoots (h : Declares d template item o e) {t : Schema}
    (ht : t ∈ e.parameterSchemas ∨ t ∈ e.messageSchemas) : t ∈ d.schemaRoots := by
  unfold Document.schemaRoots
  rcases ht with ht | ht
  · obtain ⟨p, hp, ht⟩ := List.mem_filterMap.1 ht
    exact List.mem_append_left _ (List.mem_append_left _ (List.mem_append_right _
      (List.mem_filterMap.2 ⟨p, h.mem_parameters hp, ht⟩)))
  · rcases List.mem_append.1 ht with ht | ht
    · obtain ⟨b, hb, ht⟩ := List.mem_flatMap.1 ht
      exact List.mem_append_left _ (List.mem_append_right _
        (List.mem_flatMap.2 ⟨b, h.mem_requestBodies (Option.mem_toList.1 hb), ht⟩))
    · obtain ⟨r, hr, ht⟩ := List.mem_flatMap.1 ht
      exact List.mem_append_right _ (List.mem_flatMap.2 ⟨r, h.mem_responses hr, ht⟩)

end Declares

end

end Specification

end ApiContract
