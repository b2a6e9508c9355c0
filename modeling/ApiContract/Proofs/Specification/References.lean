/-
**References between schemas.**

A document in which a reference names no schema is rejected, so that in a specification a reference
leads nowhere only if it leads to too many others, one after the other.  References that lead on
further than there are named schemas run in a circle.

Main definitions:

* `Schemas.RefersTo` — a schema refers to a named one;
* `Schemas.Chain` — as many references as given follow one another from a schema;
* `Schemas.RunsInCircle` — following references from a schema runs into a cycle of references.

Main results:

* `Schemas.chain_iff_runsInCircle` — **more references than there are named schemas follow one
  another exactly if they run in a circle**;
* `Document.chain_of_resolveWithin?` — in a document without missing schemas a schema leads nowhere
  only if references follow one another from it;
* `Specification.chain_of_mayReport` — **an issue says that a reference leads nowhere only where 64
  references follow one another**.
-/

import ApiContract.Pattern.Library
import ApiContract.Proofs.Specification.Endpoint
import Mathlib.Data.List.Chain
import Mathlib.Logic.Relation

set_option relaxedAutoImplicit false
set_option autoImplicit false

namespace ApiContract

open Relation (ReflTransGen TransGen)

/-! ### Chains of references -/

namespace Schemas

/-- A schema refers to a named one. -/
def RefersTo (schemas : Schemas) (s t : Schema) : Prop :=
  ∃ reference, s.reference = some reference ∧ schemas.lookup? reference = some t

/-- **As many references as given follow one another from a schema.** -/
def Chain (schemas : Schemas) (n : Nat) (s : Schema) : Prop :=
  ∃ targets : List Schema, targets.length = n ∧ (s :: targets).IsChain schemas.RefersTo

/-- **Following references from a schema runs into a cycle of references.** -/
def RunsInCircle (schemas : Schemas) (s : Schema) : Prop :=
  ∃ t, ReflTransGen schemas.RefersTo s t ∧ TransGen schemas.RefersTo t t

section

variable {schemas : Schemas} {n : Nat} {s t : Schema}

theorem Chain.zero : schemas.Chain 0 s := ⟨[], rfl, .singleton s⟩

theorem Chain.succ (h : schemas.RefersTo s t) (ht : schemas.Chain n t) :
    schemas.Chain (n + 1) s := by
  obtain ⟨targets, hlength, hchain⟩ := ht
  exact ⟨t :: targets, congrArg (· + 1) hlength, .cons_cons h hchain⟩

theorem Chain.exists_reference (h : schemas.Chain (n + 1) s) :
    ∃ reference, s.reference = some reference := by
  obtain ⟨targets, hlength, hchain⟩ := h
  obtain ⟨t, targets, rfl⟩ := List.exists_cons_of_length_eq_add_one hlength
  obtain ⟨⟨reference, hreference, -⟩, -⟩ := List.isChain_cons_cons.1 hchain
  exact ⟨reference, hreference⟩

theorem mem_values_of_lookup? {reference : String} (h : schemas.lookup? reference = some t) :
    t ∈ schemas.values := by
  unfold lookup? at h
  split at h
  · exact List.mem_map_of_mem (Dict.mem_of_get? h)
  · cases h

/-- Where references run in a circle, one can be followed, and they still do. -/
theorem RunsInCircle.exists_refersTo (h : schemas.RunsInCircle s) :
    ∃ t, schemas.RefersTo s t ∧ schemas.RunsInCircle t := by
  obtain ⟨u, hu, hcycle⟩ := h
  rcases ReflTransGen.cases_head hu with rfl | ⟨t, ht, hu⟩
  · obtain ⟨t, ht, hback⟩ := TransGen.head'_iff.1 hcycle
    exact ⟨t, ht, s, hback, hcycle⟩
  · exact ⟨t, ht, u, hu, hcycle⟩

theorem RunsInCircle.chain (h : schemas.RunsInCircle s) : schemas.Chain n s := by
  induction n generalizing s with
  | zero => exact .zero
  | succ n ih =>
      obtain ⟨t, ht, hcircle⟩ := h.exists_refersTo
      exact .succ ht (ih hcircle)

theorem runsInCircle_of_chain (h : schemas.Chain n s) (hlt : schemas.length < n) :
    schemas.RunsInCircle s := by
  obtain ⟨targets, rfl, hchain⟩ := h
  have hpairwise : (s :: targets).Pairwise (TransGen schemas.RefersTo) :=
    (hchain.imp fun _ _ => TransGen.single).pairwise
  obtain ⟨hfirst, hrest⟩ := List.pairwise_cons.1 hpairwise
  -- targets that do not repeat are as many named schemas, and there are fewer
  by_contra hnot
  have hnodup : targets.Nodup := by
    refine hrest.imp_of_mem fun {t u} ht _ htu heq => hnot ⟨t, (hfirst t ht).to_reflTransGen, ?_⟩
    exact heq ▸ htu
  have hvalues : targets ⊆ schemas.values := by
    intro t ht
    obtain ⟨u, -, reference, -, hlookup⟩ := TransGen.tail'_iff.1 (hfirst t ht)
    exact mem_values_of_lookup? hlookup
  have hle : targets.length ≤ schemas.values.length :=
    (List.subperm_of_subset hnodup hvalues).length_le
  rw [Dict.values, List.length_map] at hle
  omega

/-- **More references than there are named schemas follow one another exactly if they run in a
circle.** -/
theorem chain_iff_runsInCircle (hlt : schemas.length < n) :
    schemas.Chain n s ↔ schemas.RunsInCircle s :=
  ⟨fun h => runsInCircle_of_chain h hlt, RunsInCircle.chain⟩

end

end Schemas

/-! ### Documents without missing schemas -/

namespace Document

section

variable {d : Document} {n : Nat} {root t : Schema} {reference : String}

/-- Of texts of which each is kept once, none is lost. -/
theorem mem_foldl_distinct {refs seen : List String} {a : String} (h : a ∈ seen ∨ a ∈ refs) :
    a ∈ refs.foldl (fun seen r => if r ∈ seen then seen else seen ++ [r]) seen := by
  obtain ⟨new, heq, -, hmem⟩ := exists_foldl_new seen refs
  rw [heq, List.mem_append, hmem]
  by_cases hseen : a ∈ seen
  · exact Or.inl hseen
  · exact Or.inr ⟨h.resolve_left hseen, hseen⟩

/-- The schemas inside a root, and those inside named schemas, are schemas of the document. -/
theorem reach_subset_schemas (hroot : root ∈ d.schemaRoots) :
    d.components.schemas.reach root ⊆ d.schemas := by
  intro t ht
  rcases List.mem_append.1 ht with ht | ht
  · exact List.mem_flatMap.2 ⟨root, hroot, ht⟩
  · obtain ⟨named, hnamed, ht⟩ := List.mem_flatMap.1 ht
    have hvalue : named.2 ∈ d.schemaRoots :=
      List.mem_append_left _ (List.mem_append_left _ (List.mem_append_left _
        (List.mem_map_of_mem hnamed)))
    exact List.mem_flatMap.2 ⟨named.2, hvalue, ht⟩

/-- In a document without missing schemas every reference names a schema of the document. -/
theorem exists_lookup? (h : d.missingSchemas = []) (ht : t ∈ d.schemas)
    (hreference : t.reference = some reference) :
    ∃ u ∈ d.schemas, d.components.schemas.lookup? reference = some u := by
  cases hlookup : d.components.schemas.lookup? reference with
  | none =>
      have hmissing : reference ∈ d.missingSchemas := by
        refine mem_foldl_distinct (Or.inr (List.mem_filter.2 ⟨?_, ?_⟩))
        · exact List.mem_filterMap.2 ⟨t, ht, hreference⟩
        · rw [hlookup]
          rfl
      rw [h] at hmissing
      cases hmissing
  | some u =>
      have hvalue : u ∈ d.schemaRoots :=
        List.mem_append_left _ (List.mem_append_left _ (List.mem_append_left _
          (Schemas.mem_values_of_lookup? hlookup)))
      refine ⟨u, List.mem_flatMap.2 ⟨u, hvalue, ?_⟩, rfl⟩
      rw [Schema.walk_eq]
      exact List.mem_cons_self

theorem chain_of_resolveWithin? (h : d.missingSchemas = []) (ht : t ∈ d.schemas)
    (hnone : d.components.schemas.resolveWithin? n t = none) : d.components.schemas.Chain n t := by
  -- every target is a schema of the document, so that its own reference is named in turn
  induction n generalizing t with
  | zero => exact .zero
  | succ n ih =>
      rw [Schemas.resolveWithin?] at hnone
      split at hnone
      · cases hnone
      · rename_i reference hreference
        obtain ⟨u, hu, hlookup⟩ := exists_lookup? h ht hreference
        rw [hlookup] at hnone
        exact .succ ⟨reference, hreference, hlookup⟩ (ih hu hnone)

end

end Document

/-! ### Issues about references -/

namespace Specification

section

variable {d : Document} {s : Specification} {r : Resource} {o : Http.Method × Endpoint} {i : Issue}

/-- **An issue says that a reference leads nowhere only where 64 references follow one another.**
The check meets such a schema from one of the schemas of the endpoint, and the issue names its
reference.  If the document names fewer schemas than that, references run in a circle. -/
theorem chain_of_mayReport [Libraries] (hs : ofDocument d = .ok s) (hr : r ∈ s.resources)
    (ho : o ∈ r.operations) (hi : s.MayReport o.2 i)
    (hbegins : Text.Begins i.message "unresolvable schema reference ") :
    ∃ root v t w reference, (root ∈ o.2.parameterSchemas ∨ root ∈ o.2.messageSchemas) ∧
      d.components.schemas.Meets root v t w ∧ t ∈ d.schemas ∧
      t.reference = some reference ∧
      i.message = "unresolvable schema reference " ++ reference ∧
      d.components.schemas.Chain 64 t ∧
      (d.components.schemas.length ≤ 63 → d.components.schemas.RunsInCircle t) := by
  obtain ⟨item, op, hdeclares, -⟩ := exists_declares hs hr ho
  obtain ⟨-, hmissing, -, rfl⟩ := ofDocument_eq_ok_iff.1 hs
  obtain ⟨root, v, t, w, reason, hmeets, hfaulty, hmessage, hroot⟩ :=
    hi.exists_faulty (Or.inr hbegins)
  obtain ⟨reference, rfl⟩ := Violation.Reason.begins_unresolvable_iff.1 (hmessage ▸ hbegins)
  have hroot : root ∈ o.2.parameterSchemas ∨ root ∈ o.2.messageSchemas :=
    hroot.imp And.right And.right
  have ht : t ∈ d.schemas :=
    Document.reach_subset_schemas (hdeclares.mem_schemaRoots hroot) hmeets.mem_reach
  cases hfaulty with
  | unresolvable hnone =>
      have hchain : d.components.schemas.Chain 64 t :=
        Document.chain_of_resolveWithin? hmissing ht hnone
      obtain ⟨reference, hreference⟩ := hchain.exists_reference
      rw [hreference] at hmessage
      exact ⟨root, v, t, w, reference, hroot, hmeets, ht, hreference, hmessage, hchain, fun hle =>
        Schemas.runsInCircle_of_chain hchain (Nat.lt_succ_of_le hle)⟩

end

/-- A document with a named schema that refers to itself, and that a header refers to. -/
def circularDocument : Document :=
  { format := "3.0.3"
    info := { title := "A", version := "1" }
    paths := [("/a",
      { get := some
          { responses := [("200", { headers := [("x",
              { schema := some { reference := some "#/components/schemas/A" } })] })] } })]
    components :=
      { schemas := [("A", { reference := some "#/components/schemas/A" })] } }

/-- The endpoint of that document. -/
def circularEndpoint : Endpoint :=
  { operationId := none
    deprecated := false
    parameters := []
    requestBody := none
    responses := [("200", { headers := [("x",
      { schema := some { reference := some "#/components/schemas/A" } })] })] }

/-- The specification of that document. -/
def circular : Specification :=
  ⟨"A", "1", [""], [⟨"/a", [(.get, circularEndpoint)]⟩], circularDocument.components⟩

/-- A response with that header is told that the reference leads nowhere, and the references run in
a circle. -/
theorem chain_of_mayReport_circular :
    circular.MayReport circularEndpoint
        ⟨.header, "header.x", "unresolvable schema reference #/components/schemas/A"⟩ ∧
      ∃ t ∈ circularDocument.schemas, circularDocument.components.schemas.Chain 64 t ∧
        circularDocument.components.schemas.RunsInCircle t := by
  have hleads : circularDocument.Leads := by
    intro p hp o ho
    obtain rfl := List.mem_singleton.1 hp
    obtain rfl := List.mem_singleton.1 ho
    exact ⟨by decide, by decide, by decide⟩
  have hs : ofDocument circularDocument = .ok circular :=
    ofDocument_eq_ok_iff.2 ⟨by decide +kernel, by decide +kernel, hleads, rfl⟩
  have hreport : circular.MayReport circularEndpoint
      ⟨.header, "header.x", "unresolvable schema reference #/components/schemas/A"⟩ :=
    Or.inr ⟨⟨.get, "/a"⟩, { status := ⟨200, by decide⟩, headers := [("x", [[97]])] },
      ⟨[⟨.header, "header.x", "unresolvable schema reference #/components/schemas/A"⟩]⟩,
      by decide +kernel, List.mem_singleton.2 rfl⟩
  obtain ⟨root, v, t, w, reference, -, -, ht, -, -, hchain, hcircle⟩ :=
    chain_of_mayReport hs (List.mem_singleton.2 rfl) (List.mem_singleton.2 rfl) hreport (by
      unfold Text.Begins
      decide)
  exact ⟨hreport, t, ht, hchain, hcircle (by decide)⟩

end Specification

end ApiContract
