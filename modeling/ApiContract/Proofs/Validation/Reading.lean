/-
**Which checks come to an end.**

A check reads texts as schemas say, and a text whose schema is an array of itself is cut into itself
for ever.  So a check has a result exactly if following the schemas of items ends for every schema
that its texts are read by.  These are schemas of parameters, schemas of headers, and schemas of the
properties of forms; where none that an endpoint can meet is an array of itself, every check of a
request or a response has a result.

Main definitions:

* `Specification.Grounded` — no schema that an endpoint can meet is an array of itself.

Main results:

* `Schemas.isSome_coerce?_iff`, `Schemas.completes_iff` — **what can be read to the end**;
* `Specification.isSome_checkRequest?_iff`, `Specification.isSome_checkResponse?_iff` — which checks
  have a result;
* `Specification.of_mem_requestReadings`, `Specification.of_mem_responseReadings` — what texts are
  read by.
-/

import ApiContract.Proofs.Validation.Coercion
import ApiContract.Proofs.Validation.Finding

set_option relaxedAutoImplicit false
set_option autoImplicit false

namespace ApiContract

/-! ### Readings -/

namespace Schemas

variable {schemas : Schemas}

/-- Texts have a value exactly if following the schemas of items ends. -/
theorem isSome_coerce?_iff {s : Schema} {texts : List String} (h : texts ≠ []) :
    (schemas.coerce? s texts).isSome = true ↔ schemas.Grounded s := by
  rw [coerce?, isSome_coerceWithin?_iff h, grounded_iff]
  constructor
  · exact fun hground => ⟨_, hground⟩
  · rintro ⟨n, hn⟩
    exact hn.of_sizeWith.succ

/-- **What can be read to the end.** -/
theorem completes_iff {readings : List Reading} :
    schemas.completes readings = true ↔ ∀ r ∈ readings, schemas.Grounded r.schema := by
  simp only [completes, List.all_eq_true]
  exact forall₂_congr fun r _ => isSome_coerce?_iff r.texts_ne_nil

end Schemas

theorem Reading.mem_ofTexts_iff {schema : Option Schema} {texts : List String} {r : Reading} :
    r ∈ ofTexts schema texts ↔ schema = some r.schema ∧ texts = r.texts := by
  obtain ⟨t, ts, hts⟩ := r
  unfold ofTexts
  split
  · split
    · rename_i hnil
      simp [hnil, hts.symm]
    · simp [eq_comm]
  · simp

/-! ### Bodies -/

namespace Body

variable {schemas : Schemas} {schema : Option Schema} {contentType : String} {body : List UInt8}
  {r : Reading}

/-- What is read in a form is read by properties of its schema. -/
theorem exists_of_mem_formReadings {fields : List (String × String)}
    (h : r ∈ formReadings schemas schema fields) :
    ∃ root ∈ schema, r.schema ∈ schemas.reach root := by
  obtain ⟨f, -, hf⟩ := List.mem_filterMap.1 h
  obtain ⟨p, hp, rfl⟩ := Option.map_eq_some_iff.1 hf
  unfold formProperties at hp
  split at hp
  · rename_i object hobject
    obtain ⟨root, hroot, hresolve⟩ := Option.bind_eq_some_iff.1 hobject
    have hreach : object ∈ schemas.reach root :=
      Schemas.mem_reach_of_resolveWithin? Schemas.mem_reach_self hresolve
    have hproperty : p ∈ object.properties.map Prod.snd :=
      List.mem_map.2 ⟨_, Dict.mem_of_get? hp, rfl⟩
    refine ⟨root, hroot, Schemas.mem_reach_of_mem_children hreach ?_⟩
    simp only [Schema.children, List.mem_append, hproperty, true_or]
  · cases hp

theorem exists_of_mem_readings (h : r ∈ readings schemas schema contentType body) :
    ∃ root ∈ schema, r.schema ∈ schemas.reach root := by
  unfold readings at h
  split at h
  · split at h
    · exact exists_of_mem_formReadings h
    · cases h
  · cases h

end Body

/-! ### Messages -/

namespace Specification

variable {s : Specification} {e : Endpoint} {r : Reading}

/-- No schema that an endpoint can meet is an array of itself. -/
def Grounded (s : Specification) : Prop :=
  ∀ resource ∈ s.resources, ∀ o ∈ resource.operations,
    ∀ root, root ∈ o.2.parameterSchemas ∨ root ∈ o.2.messageSchemas →
      ∀ t ∈ s.components.schemas.reach root, s.components.schemas.Grounded t

theorem exists_of_mem_contentReadings {content : Dict MediaType} {headers : Http.Headers}
    {body : List UInt8} (h : r ∈ s.contentReadings content headers body) :
    ∃ root ∈ contentSchemas content, r.schema ∈ s.components.schemas.reach root := by
  unfold contentReadings at h
  split at h
  · cases h
  · split at h
    · cases h
    · rename_i m hm
      obtain ⟨root, hroot, hreach⟩ := Body.exists_of_mem_readings h
      exact ⟨root, List.mem_filterMap.2 ⟨m, mem_values_of_negotiate? hm, hroot⟩, hreach⟩

theorem of_mem_parameterReadings {inputs : Inputs} {p : Parameter}
    (h : r ∈ parameterReadings inputs p) :
    p.schema = some r.schema ∧
      ∃ location, p.location = some location ∧ inputs.texts p.name location = r.texts := by
  unfold parameterReadings at h
  split at h
  · cases h
  · rename_i location hlocation
    obtain ⟨hschema, htexts⟩ := Reading.mem_ofTexts_iff.1 h
    exact ⟨hschema, location, hlocation, htexts⟩

/-- The texts of a request are read by schemas of parameters and by schemas that stand in schemas of
its body. -/
theorem of_mem_requestReadings {request : Http.Request} {params : Dict String}
    (h : r ∈ s.requestReadings e request params) :
    r.schema ∈ e.parameterSchemas ∨
      ∃ root ∈ e.messageSchemas, r.schema ∈ s.components.schemas.reach root := by
  rcases List.mem_append.1 h with h | h
  · obtain ⟨p, hp, h⟩ := List.mem_flatMap.1 h
    exact Or.inl (List.mem_filterMap.2 ⟨p, hp, (of_mem_parameterReadings h).1⟩)
  · obtain ⟨b, hb, h⟩ := List.mem_flatMap.1 h
    split at h
    · cases h
    · obtain ⟨root, hroot, hreach⟩ := exists_of_mem_contentReadings h
      refine Or.inr ⟨root, List.mem_append_left _ (List.mem_flatMap.2 ⟨b, hb, hroot⟩), hreach⟩

/-- The texts of a response are read by schemas of headers and by schemas that stand in schemas of
its body. -/
theorem of_mem_responseReadings {site : Site} {response : Http.Response}
    (h : r ∈ s.responseReadings e site response) :
    ∃ root ∈ e.messageSchemas, r.schema ∈ s.components.schemas.reach root := by
  unfold responseReadings at h
  split at h
  · cases h
  · rename_i documented hdocumented
    obtain ⟨key, -, hget⟩ := Option.bind_eq_some_iff.1 hdocumented
    have hvalue : documented ∈ e.responses.values :=
      List.mem_map.2 ⟨_, Dict.mem_of_get? hget, rfl⟩
    have hroots : ∀ root ∈ documented.schemas, root ∈ e.messageSchemas := fun root hroot =>
      List.mem_append_right _ (List.mem_flatMap.2 ⟨documented, hvalue, hroot⟩)
    rcases List.mem_append.1 h with h | h
    · obtain ⟨header, hheader, h⟩ := List.mem_flatMap.1 h
      unfold headerReadings at h
      split at h
      · cases h
      · obtain ⟨hschema, -⟩ := Reading.mem_ofTexts_iff.1 h
        refine ⟨r.schema, hroots _ (List.mem_append_right _ ?_), Schemas.mem_reach_self⟩
        exact List.mem_filterMap.2 ⟨header.2, List.mem_map.2 ⟨header, hheader, rfl⟩, hschema⟩
    · split at h
      · cases h
      · obtain ⟨root, hroot, hreach⟩ := exists_of_mem_contentReadings h
        exact ⟨root, hroots root (List.mem_append_left _ hroot), hreach⟩

variable [Libraries]

/-- **A check of a request has a result** exactly if following the schemas of items ends for all
schemas that its texts are read by. -/
theorem isSome_checkRequest?_iff {request : Http.Request} {params : Dict String} :
    (s.checkRequest? e request params).isSome = true ↔
      ∀ r ∈ s.requestReadings e request params, s.components.schemas.Grounded r.schema := by
  rw [← Schemas.completes_iff, checkRequest?]
  split <;> simp_all

/-- **A check of a response has a result** likewise. -/
theorem isSome_checkResponse?_iff {site : Site} {response : Http.Response} :
    (s.checkResponse? e site response).isSome = true ↔
      ∀ r ∈ s.responseReadings e site response, s.components.schemas.Grounded r.schema := by
  rw [← Schemas.completes_iff, checkResponse?]
  split <;> simp_all

end Specification

end ApiContract
