/-
**Which patterns are settled when a document is loaded.**

The patterns in named schemas and in the schemas of parameters are looked at when a document is
loaded: a document in which one of them is none is rejected.  The patterns that stand directly in
the contents of bodies, and in the headers of responses, are not looked at, so that a message can
come upon one that is none.

Main definitions:

* `Schema.PatternsCompile` — every pattern in a schema is one;
* `Document.patternRoots` — the schemas whose patterns are looked at.

Main results:

* `Document.patternsCompile_of_problems` — a document without problems has none but patterns there;
* `Specification.ofDocument_patterns` — **a document with a pattern there that is none is rejected,
  and an issue says of no other patterns that they are none than of those that stand directly in
  contents and headers**.
-/

import ApiContract.Pattern.Library
import ApiContract.Proofs.Specification.Endpoint

set_option relaxedAutoImplicit false
set_option autoImplicit false

namespace ApiContract

/-- Every pattern in a schema is one. -/
def Schema.PatternsCompile [Libraries] (s : Schema) : Prop :=
  ∀ t ∈ s.walk, ∀ p ∈ t.pattern, ∃ found, Libraries.compilePattern p = .ok found

/-- The schemas whose patterns are looked at: those that the document names, and those of the
parameters that its operations declare. -/
def Document.patternRoots (d : Document) : List Schema :=
  d.components.schemas.values ++
    d.paths.flatMap fun p => p.2.operations.flatMap fun o =>
      (declaredParameters d.components p.2 o.2).filterMap Parameter.schema

/-! ### Patterns without problems -/

section

variable [Libraries] {site : Site} {names : List String} {p : Parameter} {t : Schema}

theorem patternProblems_eq_nil_iff {site : PatternSite} :
    patternProblems site t = [] ↔ t.PatternsCompile := by
  unfold patternProblems Schema.PatternsCompile
  rw [List.filterMap_eq_nil_iff]
  constructor
  · intro h u hu p hp
    have hnone := h p (List.mem_filterMap.2 ⟨u, hu, hp⟩)
    cases hparse : Libraries.compilePattern p with
    | ok w => exact ⟨w, rfl⟩
    | error fault =>
        rw [hparse] at hnone
        cases hnone
  · intro h p hp
    obtain ⟨u, hu, hup⟩ := List.mem_filterMap.1 hp
    obtain ⟨w, hw⟩ := h u hu p hup
    rw [hw]

/-- The patterns in the schema of a parameter without problems are patterns. -/
theorem patternsCompile_of_parameterProblems (h : parameterProblems site names p = [])
    (ht : t ∈ p.schema) : t.PatternsCompile := by
  unfold parameterProblems at h
  split at h
  · cases h
  · rw [List.append_eq_nil_iff] at h
    exact patternProblems_eq_nil_iff.1
      (List.flatMap_eq_nil_iff.1 h.2 t (Option.mem_toList.2 ht))

end

/-- The patterns that are looked at are patterns if the document has no problems. -/
theorem Document.patternsCompile_of_problems [Libraries] {d : Document} (h : d.problems = [])
    {t : Schema} (ht : t ∈ d.patternRoots) : t.PatternsCompile := by
  simp only [problems, List.append_eq_nil_iff, List.flatMap_eq_nil_iff] at h
  obtain ⟨⟨-, hpaths⟩, hschemas⟩ := h
  rcases List.mem_append.1 ht with ht | ht
  · obtain ⟨named, hnamed, rfl⟩ := List.mem_map.1 ht
    exact patternProblems_eq_nil_iff.1 (hschemas named hnamed)
  · obtain ⟨path, hpath, ht⟩ := List.mem_flatMap.1 ht
    obtain ⟨o, ho, ht⟩ := List.mem_flatMap.1 ht
    obtain ⟨p, hp, hschema⟩ := List.mem_filterMap.1 ht
    obtain ⟨names, -, hnil⟩ := parameterProblems_of_pathProblems (hpaths path hpath) ho hp
    exact patternsCompile_of_parameterProblems hnil hschema

namespace Specification

section

variable [Libraries] {d : Document} {s : Specification} {r : Resource} {o : Http.Method × Endpoint}

/-- The patterns that a check can meet are named ones, or stand in the schema that is checked. -/
theorem exists_mem_walk_of_faulty {root t : Schema} {v w : Json} {p fault : String}
    (h : ∀ u ∈ s.components.schemas.values, u.PatternsCompile)
    (hmeets : s.components.schemas.Meets root v t w)
    (hfaulty : s.components.schemas.Faulty t (.invalidPattern p fault)) :
    ∃ u ∈ root.walk, u.pattern = some p ∧ Libraries.compilePattern p = .error fault := by
  cases hfaulty with
  | @invalidPattern u _ _ hresolve hp hfault =>
      have hreach : u ∈ s.components.schemas.reach root :=
        Schemas.mem_reach_of_resolveWithin? hmeets.mem_reach hresolve
      rcases List.mem_append.1 hreach with hroot | hnamed
      · exact ⟨u, hroot, hp, hfault⟩
      · obtain ⟨named, hmem, hu⟩ := List.mem_flatMap.1 hnamed
        obtain ⟨w, hw⟩ := h named.2 (List.mem_map_of_mem hmem) u hu p hp
        rw [hfault] at hw
        cases hw

/-- **What is settled of patterns when a document is loaded.**  A document is rejected if a pattern
in a named schema, or in the schema of a parameter, is none.  Of a document that is not rejected, no
issue about a parameter says that a pattern is none, and an issue about something else says so only
of a pattern that stands in the schema of a content or of a header of the endpoint itself. -/
theorem ofDocument_patterns (d : Document) :
    ((∃ t ∈ d.patternRoots, ¬ t.PatternsCompile) →
        ∃ problems, ofDocument d = .error (.invalid problems)) ∧
      ∀ s, ofDocument d = .ok s → ∀ r ∈ s.resources, ∀ o ∈ r.operations, ∀ i,
        s.MayReport o.2 i → Text.Begins i.message "invalid pattern " →
          i.kind ≠ .parameter ∧ ∃ root ∈ o.2.messageSchemas, ∃ t ∈ root.walk, ∃ p fault,
            t.pattern = some p ∧ Libraries.compilePattern p = .error fault ∧
              i.message = "invalid pattern " ++ (p ++ (": " ++ fault)) := by
  constructor
  · rintro ⟨t, ht, hnot⟩
    unfold ofDocument
    split
    · rename_i hproblems
      exact absurd (Document.patternsCompile_of_problems hproblems ht) hnot
    · exact ⟨_, rfl⟩
  · intro s hs r hr o ho i hi hbegins
    obtain ⟨item, op, hdeclares, -⟩ := exists_declares hs hr ho
    obtain ⟨hproblems, -, -, rfl⟩ := ofDocument_eq_ok_iff.1 hs
    obtain ⟨root, v, t, w, reason, hmeets, hfaulty, hmessage, hroot⟩ :=
      hi.exists_faulty (Or.inl hbegins)
    obtain ⟨p, fault, rfl⟩ := Violation.Reason.begins_invalidPattern_iff.1 (hmessage ▸ hbegins)
    obtain ⟨u, hu, hp, hfault⟩ := exists_mem_walk_of_faulty
      (fun u hu => Document.patternsCompile_of_problems hproblems (List.mem_append_left _ hu))
      hmeets hfaulty
    rcases hroot with ⟨-, hroot⟩ | ⟨hkind, hroot⟩
    · -- the schema of a parameter is looked at when the document is loaded
      obtain ⟨q, hq, hschema⟩ := List.mem_filterMap.1 hroot
      have hlooked : root ∈ d.patternRoots :=
        List.mem_append_right _ (List.mem_flatMap.2 ⟨_, hdeclares.mem_paths, List.mem_flatMap.2
          ⟨op, hdeclares.mem_operations, List.mem_filterMap.2
            ⟨q, hdeclares.mem_declaredParameters hq, hschema⟩⟩⟩)
      obtain ⟨e, he⟩ := Document.patternsCompile_of_problems hproblems hlooked u hu p hp
      rw [hfault] at he
      cases he
    · refine ⟨hkind, root, hroot, u, hu, p, fault, hp, hfault, ?_⟩
      rw [hmessage, Violation.Reason.message_invalidPattern]

end

/-- A document whose only pattern is none, and stands in the schema of a header. -/
def unsettledDocument : Document :=
  { format := "3.0.3"
    info := { title := "A", version := "1" }
    paths := [("/a",
      { get := some
          { responses := [("200",
              { headers := [("x", { schema := some { pattern := some "(" } })] })] } })] }

/-- The endpoint of that document. -/
def unsettledEndpoint : Endpoint :=
  { operationId := none
    deprecated := false
    parameters := []
    requestBody := none
    responses := [("200", { headers := [("x", { schema := some { pattern := some "(" } })] })] }

/-- The specification of that document. -/
def unsettled : Specification := ⟨"A", "1", [""], [⟨"/a", [(.get, unsettledEndpoint)]⟩], {}⟩

/-- The document is not rejected, and a response with that header is told that the pattern is
none. -/
theorem ofDocument_patterns_unsettled :
    ofDocument unsettledDocument = .ok unsettled ∧
      unsettled.MayReport unsettledEndpoint
        ⟨.header, "header.x", "invalid pattern (: regex parse error"⟩ ∧
      ∃ root ∈ unsettledEndpoint.messageSchemas, ¬ root.PatternsCompile := by
  have hleads : unsettledDocument.Leads := by
    intro p hp o ho
    obtain rfl := List.mem_singleton.1 hp
    obtain rfl := List.mem_singleton.1 ho
    exact ⟨by decide, by decide, by decide⟩
  have hs : ofDocument unsettledDocument = .ok unsettled :=
    ofDocument_eq_ok_iff.2 ⟨rfl, by decide +kernel, hleads, rfl⟩
  have hreport : unsettled.MayReport unsettledEndpoint
      ⟨.header, "header.x", "invalid pattern (: regex parse error"⟩ :=
    Or.inr ⟨⟨.get, "/a"⟩, { status := ⟨200, by decide⟩, headers := [("x", [[97]])] },
      ⟨[⟨.header, "header.x", "invalid pattern (: regex parse error"⟩]⟩, by decide +kernel,
      List.mem_singleton.2 rfl⟩
  obtain ⟨-, root, hroot, t, ht, p, fault, hp, hfault, -⟩ :=
    (ofDocument_patterns unsettledDocument).2 unsettled hs _ (List.mem_singleton.2 rfl) _
      (List.mem_singleton.2 rfl) _ hreport (by
        unfold Text.Begins
        decide)
  refine ⟨hs, hreport, root, hroot, fun h => ?_⟩
  obtain ⟨w, hw⟩ := h t ht p hp
  rw [hfault] at hw
  cases hw

end Specification

end ApiContract
