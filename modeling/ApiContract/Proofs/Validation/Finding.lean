/-
**What issues tell.**

An issue is the text of a finding.  The texts that name a fault of a schema, and the text that names
a missing path parameter, are told of no other findings.  A violation among the findings comes from
the check of one of the schemas that the endpoint declares: the schema of a parameter for an issue
about a parameter, the schema of a content or of a header for all others.

Main definitions:

* `Text.Begins` — a text begins with another;
* `Finding.violation?` — the violation that a finding tells;
* `Endpoint.parameterSchemas`, `Endpoint.messageSchemas` — what messages are checked against;
* `Specification.Finds`, `Specification.MayReport` — what can be found, and reported, of some
  message.

Main results:

* `Finding.begins_invalidPattern_iff`, `Finding.begins_unresolvable_iff`,
  `Finding.message_eq_missing_iff` — **which findings have such a text**;
* `Specification.Finds.exists_root` — **the schema that a violation comes from**;
* `Specification.MayReport.exists_faulty` — **an issue that names a fault of a schema is about a
  schema that has that fault**.
-/

import ApiContract.Proofs.Validation.Origin
import ApiContract.Validation.Message
import Mathlib.Tactic.MkIffOfInductiveProp

set_option relaxedAutoImplicit false
set_option autoImplicit false

namespace ApiContract

/-! ### Texts -/

/-- A text begins with another. -/
def Text.Begins (text start : String) : Prop := start.toList <+: text.toList

theorem Text.begins_append {start rest : String} : Begins (start ++ rest) start := by
  rw [Begins, String.toList_append]
  exact List.prefix_append start.toList rest.toList

/-- A text names no fault of a schema, and no missing path parameter. -/
@[mk_iff] structure Text.IsPlain (text : String) : Prop where
  invalidPattern : ¬ Begins text "invalid pattern "
  unresolvable : ¬ Begins text "unresolvable schema reference "
  missing : ¬ Begins text "missing required path parameter"

theorem Text.IsPlain.ne_missing {text : String} (h : IsPlain text) :
    text ≠ "missing required path parameter" := by
  rintro rfl
  exact h.missing (List.prefix_refl _)

namespace Violation.Reason

variable {r : Reason}

theorem isPlain_message (h : ¬ r.IsOfSchema) : Text.IsPlain r.message := by
  rw [Text.isPlain_iff]
  unfold Text.Begins message
  split
  all_goals first
    | exact absurd trivial h
    | simp [String.toList_append]

theorem message_invalidPattern (p fault : String) :
    (invalidPattern p fault).message = "invalid pattern " ++ (p ++ (": " ++ fault)) := by
  rw [← String.append_assoc, ← String.append_assoc]
  rfl

theorem message_unresolvable (ref : String) :
    (unresolvable ref).message = "unresolvable schema reference " ++ ref := rfl

theorem begins_invalidPattern_iff :
    Text.Begins r.message "invalid pattern " ↔ ∃ p fault, r = .invalidPattern p fault := by
  constructor
  · intro h
    cases r with
    | invalidPattern p fault => exact ⟨p, fault, rfl⟩
    | unresolvable ref =>
        simp [message_unresolvable, Text.Begins, String.toList_append] at h
    | _ => exact absurd h (isPlain_message id).invalidPattern
  · rintro ⟨p, fault, rfl⟩
    rw [message_invalidPattern]
    exact Text.begins_append

theorem begins_unresolvable_iff :
    Text.Begins r.message "unresolvable schema reference " ↔ ∃ ref, r = .unresolvable ref := by
  constructor
  · intro h
    cases r with
    | unresolvable ref => exact ⟨ref, rfl⟩
    | invalidPattern p fault =>
        simp [message_invalidPattern, Text.Begins, String.toList_append] at h
    | _ => exact absurd h (isPlain_message id).unresolvable
  · rintro ⟨ref, rfl⟩
    exact Text.begins_append

theorem message_ne_missing : r.message ≠ "missing required path parameter" := by
  by_cases hr : r.IsOfSchema
  · intro h
    have h := congrArg String.toList h
    cases r with
    | unresolvable ref => simp [message_unresolvable, String.toList_append] at h
    | invalidPattern p fault => simp [message_invalidPattern, String.toList_append] at h
    | _ => exact hr
  · exact (isPlain_message hr).ne_missing

end Violation.Reason

theorem Body.Malformation.isPlain_message (m : Malformation) : Text.IsPlain m.message := by
  rw [Text.isPlain_iff]
  unfold Text.Begins message
  split
  all_goals simp [String.toList_append]

/-! ### Findings -/

namespace Finding

/-- The violation that a finding tells. -/
def violation? : Finding → Option Violation
  | .parameter _ _ x | .header _ x | .body _ x => some x
  | _ => none

variable {f : Finding}

theorem message_of_violation? {x : Violation} (h : f.violation? = some x) :
    f.issue.message = x.reason.message := by
  cases f with
  | parameter l name y => exact congrArg Violation.message (Option.some.inj h)
  | header name y => exact congrArg Violation.message (Option.some.inj h)
  | body part y => exact congrArg Violation.message (Option.some.inj h)
  | _ => cases h

/-- A finding that tells neither a violation nor a missing path parameter has a plain text. -/
theorem isPlain_message (h : f.violation? = none) (hf : ∀ name, f ≠ .missingParameter .path name) :
    Text.IsPlain f.issue.message := by
  cases f with
  | malformed part m => exact m.isPlain_message
  | missingParameter l name =>
      cases l with
      | path => exact absurd rfl (hf name)
      | _ => simp [Text.isPlain_iff, Text.Begins, issue, Location.name]
  | undeclaredContentType part t =>
      cases part
      all_goals simp [Text.isPlain_iff, Text.Begins, issue, Part.name, String.toList_append]
  | parameter l name x => cases h
  | header name x => cases h
  | body part x => cases h
  | _ => simp [Text.isPlain_iff, Text.Begins, issue, String.toList_append]

/-- A finding that tells no violation has no text that names a fault of a schema. -/
theorem not_begins_of_none (h : f.violation? = none) :
    ¬ Text.Begins f.issue.message "invalid pattern " ∧
      ¬ Text.Begins f.issue.message "unresolvable schema reference " := by
  -- the one finding without a plain text is that of a missing path parameter
  by_cases hf : ∃ name, f = .missingParameter .path name
  · obtain ⟨name, rfl⟩ := hf
    constructor
    · simp [Text.Begins, issue, Location.name]
    · simp [Text.Begins, issue, Location.name]
  · have hplain := isPlain_message h (not_exists.1 hf)
    exact ⟨hplain.invalidPattern, hplain.unresolvable⟩

/-- **The findings whose text says that a pattern is none.** -/
theorem begins_invalidPattern_iff :
    Text.Begins f.issue.message "invalid pattern " ↔
      ∃ x p fault, f.violation? = some x ∧ x.reason = .invalidPattern p fault := by
  cases hx : f.violation? with
  | some x => simp [message_of_violation? hx, Violation.Reason.begins_invalidPattern_iff]
  | none => exact iff_of_false (not_begins_of_none hx).1 (by simp)

/-- **The findings whose text says that a reference leads nowhere.** -/
theorem begins_unresolvable_iff :
    Text.Begins f.issue.message "unresolvable schema reference " ↔
      ∃ x ref, f.violation? = some x ∧ x.reason = .unresolvable ref := by
  cases hx : f.violation? with
  | some x => simp [message_of_violation? hx, Violation.Reason.begins_unresolvable_iff]
  | none => exact iff_of_false (not_begins_of_none hx).2 (by simp)

/-- **The findings whose text says that a path parameter is missing.** -/
theorem message_eq_missing_iff :
    f.issue.message = "missing required path parameter" ↔
      ∃ name, f = .missingParameter .path name := by
  constructor
  · intro h
    -- no violation has this text, and no other finding than the one excluded
    by_contra hf
    cases hx : f.violation? with
    | some x => exact x.reason.message_ne_missing (message_of_violation? hx ▸ h)
    | none => exact (isPlain_message hx (not_exists.1 hf)).ne_missing h
  · rintro ⟨name, rfl⟩
    rfl

end Finding

/-! ### Where violations come from -/

/-- The schemas of the parameters of an endpoint. -/
def Endpoint.parameterSchemas (e : Endpoint) : List Schema :=
  e.parameters.filterMap Parameter.schema

/-- The schemas of the content of the requests to an endpoint, and of the content and the headers of
its responses. -/
def Endpoint.messageSchemas (e : Endpoint) : List Schema :=
  e.requestBody.toList.flatMap (fun b => contentSchemas b.content) ++
    e.responses.values.flatMap Response.schemas

variable [Libraries]

namespace Specification

/-- Something is found wrong with some request to an endpoint, with some path parameters, or with
some response. -/
def Finds (s : Specification) (e : Endpoint) (f : Finding) : Prop :=
  (∃ r params, f ∈ s.requestFindings e r params) ∨ ∃ site r, f ∈ s.responseFindings e site r

/-- **An issue is reported** of some request to an endpoint, with some path parameters, or of some
response. -/
def MayReport (s : Specification) (e : Endpoint) (i : Issue) : Prop :=
  (∃ r params, ∃ failure ∈ s.checkRequest e r params, i ∈ failure.issues) ∨
    ∃ site r, ∃ failure ∈ s.checkResponse e site r, i ∈ failure.issues

section

variable {s : Specification} {e : Endpoint} {f : Finding} {fs : List Finding} {i : Issue}
  {x : Violation}

omit [Libraries] in
theorem mem_failure?_iff :
    (∃ failure ∈ failure? fs, i ∈ failure.issues) ↔ ∃ f ∈ fs, f.issue = i := by
  unfold failure? Failure.ofIssues?
  split
  · rename_i hnil
    rw [List.map_eq_nil_iff] at hnil
    simp [hnil]
  · simp

theorem mayReport_iff : s.MayReport e i ↔ ∃ f, s.Finds e f ∧ f.issue = i := by
  simp only [MayReport, checkRequest, checkResponse, mem_failure?_iff, Finds]
  constructor
  · rintro (⟨r, params, f, hf, rfl⟩ | ⟨site, r, f, hf, rfl⟩)
    · exact ⟨f, Or.inl ⟨r, params, hf⟩, rfl⟩
    · exact ⟨f, Or.inr ⟨site, r, hf⟩, rfl⟩
  · rintro ⟨f, ⟨r, params, hf⟩ | ⟨site, r, hf⟩, rfl⟩
    · exact Or.inl ⟨r, params, f, hf, rfl⟩
    · exact Or.inr ⟨site, r, f, hf, rfl⟩

/-- A finding is about a parameter or it is not, and a violation that it tells, if any, is reported
by the check of one of some schemas. -/
structure FoundIn (s : Specification) (roots : List Schema) (ofParameter : Prop) (f : Finding) :
    Prop where
  kind : f.issue.kind = .parameter ↔ ofParameter
  exists_root : ∀ x, f.violation? = some x →
    ∃ root ∈ roots, ∃ v, x ∈ s.components.schemas.violations root v

variable {roots roots' : List Schema} {ofParameter : Prop}

theorem FoundIn.mono (h : s.FoundIn roots ofParameter f) (hsub : roots ⊆ roots') :
    s.FoundIn roots' ofParameter f := by
  refine ⟨h.kind, fun x hx => ?_⟩
  obtain ⟨root, hroot, hv⟩ := h.exists_root x hx
  exact ⟨root, hsub hroot, hv⟩

theorem FoundIn.of_none (hkind : f.issue.kind = .parameter ↔ ofParameter)
    (h : f.violation? = none) : s.FoundIn roots ofParameter f := by
  refine ⟨hkind, fun x hx => ?_⟩
  rw [h] at hx
  cases hx

theorem exists_of_mem_textViolations {schema : Option Schema} {texts : List String}
    (h : x ∈ s.textViolations schema texts) :
    ∃ root ∈ schema.toList, ∃ v, x ∈ s.components.schemas.violations root v := by
  unfold textViolations at h
  split at h
  · rename_i t
    exact ⟨t, List.mem_singleton.2 rfl, _, h⟩
  · cases h

theorem foundIn_of_mem_parameterFindings {inputs : Inputs} {p : Parameter}
    (h : f ∈ s.parameterFindings inputs p) : s.FoundIn p.schema.toList True f := by
  unfold parameterFindings at h
  split at h
  · cases h
  · split at h
    · split at h
      · rw [List.mem_singleton.1 h]
        exact .of_none (iff_of_true rfl trivial) rfl
      · cases h
    · obtain ⟨y, hy, rfl⟩ := List.mem_map.1 h
      refine ⟨iff_of_true rfl trivial, ?_⟩
      rintro x ⟨⟩
      exact exists_of_mem_textViolations hy

theorem foundIn_of_mem_headerFindings {headers : Http.Headers} {h : String × Header}
    (hf : f ∈ s.headerFindings headers h) : s.FoundIn h.2.schema.toList False f := by
  unfold headerFindings at hf
  split at hf
  · cases hf
  · split at hf
    · split at hf
      · rw [List.mem_singleton.1 hf]
        exact .of_none (iff_of_false nofun id) rfl
      · cases hf
    · obtain ⟨y, hy, rfl⟩ := List.mem_map.1 hf
      refine ⟨iff_of_false nofun id, ?_⟩
      rintro x ⟨⟩
      exact exists_of_mem_textViolations hy

theorem foundIn_of_mem_bodyFindings {part : Part} {m : MediaType} {contentType : String}
    {body : List UInt8} (h : f ∈ s.bodyFindings part m contentType body) :
    s.FoundIn m.schema.toList False f := by
  unfold bodyFindings at h
  split at h
  · rename_i v _
    split at h
    · rename_i t ht
      obtain ⟨y, hy, rfl⟩ := List.mem_map.1 h
      refine ⟨iff_of_false nofun id, ?_⟩
      rintro x ⟨⟩
      exact ⟨t, by simp [ht], v, hy⟩
    · cases h
  · cases h
  · rw [List.mem_singleton.1 h]
    exact .of_none (iff_of_false nofun id) rfl
  · rw [List.mem_singleton.1 h]
    exact .of_none (iff_of_false nofun id) rfl

omit [Libraries] in
theorem mem_values_of_negotiate? {β : Type} {content : Dict β} {contentType key : String} {b : β}
    (h : Body.negotiate? content contentType = some (key, b)) : b ∈ content.values := by
  have hdeclared : ∀ t ∈ Body.declared content, t.2.2 ∈ content.values := by
    intro t ht
    obtain ⟨p, hp, hmap⟩ := List.mem_filterMap.1 ht
    obtain ⟨c, -, rfl⟩ := Option.map_eq_some_iff.1 hmap
    exact List.mem_map_of_mem hp
  unfold Body.negotiate? at h
  split at h
  · cases h
  · obtain ⟨t, ht, heq⟩ := Option.map_eq_some_iff.1 h
    have hmem : t ∈ Body.declared content := by
      rcases Option.or_eq_some_iff.1 ht with ht | ⟨-, ht⟩
      · rcases Option.or_eq_some_iff.1 ht with ht | ⟨-, ht⟩
        · exact List.mem_of_find?_eq_some ht
        · exact List.mem_of_find?_eq_some ht
      · exact List.mem_of_find?_eq_some ht
    have hb : t.2.2 = b := congrArg Prod.snd heq
    exact hb ▸ hdeclared t hmem

theorem foundIn_of_mem_contentFindings {part : Part} {content : Dict MediaType}
    {headers : Http.Headers} {body : List UInt8}
    (h : f ∈ s.contentFindings part content headers body) :
    s.FoundIn (contentSchemas content) False f := by
  unfold contentFindings at h
  split at h
  · rw [List.mem_singleton.1 h]
    exact .of_none (iff_of_false nofun id) rfl
  · split at h
    · rw [List.mem_singleton.1 h]
      exact .of_none (iff_of_false nofun id) rfl
    · rename_i m hm
      refine (foundIn_of_mem_bodyFindings h).mono fun t ht => ?_
      exact List.mem_filterMap.2 ⟨m, mem_values_of_negotiate? hm, Option.mem_toList.1 ht⟩

theorem foundIn_of_mem_requestBodyFindings {b : RequestBody} {r : Http.Request}
    (h : f ∈ s.requestBodyFindings b r) : s.FoundIn (contentSchemas b.content) False f := by
  unfold requestBodyFindings at h
  split at h
  · split at h
    · rw [List.mem_singleton.1 h]
      exact .of_none (iff_of_false nofun id) rfl
    · cases h
  · exact foundIn_of_mem_contentFindings h

theorem foundIn_of_mem_requestFindings {r : Http.Request} {params : Dict String}
    (h : f ∈ s.requestFindings e r params) :
    s.FoundIn e.parameterSchemas True f ∨ s.FoundIn e.messageSchemas False f := by
  rw [requestFindings, List.mem_append] at h
  rcases h with h | h
  · obtain ⟨p, hp, h⟩ := List.mem_flatMap.1 h
    refine Or.inl ((foundIn_of_mem_parameterFindings h).mono fun t ht => ?_)
    exact List.mem_filterMap.2 ⟨p, hp, Option.mem_toList.1 ht⟩
  · obtain ⟨b, hb, h⟩ := List.mem_flatMap.1 h
    refine Or.inr ((foundIn_of_mem_requestBodyFindings h).mono fun t ht => ?_)
    exact List.mem_append_left _ (List.mem_flatMap.2 ⟨b, hb, ht⟩)

theorem foundIn_of_mem_documentedFindings {documented : Response} {method : Http.Method}
    {r : Http.Response} (h : f ∈ s.documentedFindings documented method r) :
    s.FoundIn documented.schemas False f := by
  rw [documentedFindings, List.mem_append] at h
  rcases h with h | h
  · obtain ⟨header, hheader, h⟩ := List.mem_flatMap.1 h
    refine (foundIn_of_mem_headerFindings h).mono fun t ht => ?_
    exact List.mem_append_right _ (List.mem_filterMap.2
      ⟨header.2, List.mem_map_of_mem hheader, Option.mem_toList.1 ht⟩)
  · unfold responseBodyFindings at h
    split at h
    · cases h
    · exact (foundIn_of_mem_contentFindings h).mono (List.subset_append_left _ _)

theorem foundIn_of_mem_responseFindings {site : Site} {r : Http.Response}
    (h : f ∈ s.responseFindings e site r) : s.FoundIn e.messageSchemas False f := by
  unfold responseFindings at h
  split at h
  · rw [List.mem_singleton.1 h]
    exact .of_none (iff_of_false nofun id) rfl
  · split at h
    · rename_i documented hdocumented
      refine (foundIn_of_mem_documentedFindings h).mono fun t ht => ?_
      exact List.mem_append_right _ (List.mem_flatMap.2
        ⟨documented, List.mem_map_of_mem (Dict.mem_of_get? hdocumented), ht⟩)
    · cases h

/-- **The schema that a violation comes from** is that of a parameter for a finding about a
parameter, and that of a content or a header for any other. -/
theorem Finds.exists_root (h : s.Finds e f) (hx : f.violation? = some x) :
    ∃ root v, x ∈ s.components.schemas.violations root v ∧
      (f.issue.kind = .parameter ∧ root ∈ e.parameterSchemas ∨
        f.issue.kind ≠ .parameter ∧ root ∈ e.messageSchemas) := by
  have hfound : s.FoundIn e.parameterSchemas True f ∨ s.FoundIn e.messageSchemas False f := by
    rcases h with ⟨r, params, h⟩ | ⟨site, r, h⟩
    · exact foundIn_of_mem_requestFindings h
    · exact Or.inr (foundIn_of_mem_responseFindings h)
  rcases hfound with hfound | hfound
  · obtain ⟨root, hroot, v, hv⟩ := hfound.exists_root x hx
    exact ⟨root, v, hv, Or.inl ⟨hfound.kind.2 trivial, hroot⟩⟩
  · obtain ⟨root, hroot, v, hv⟩ := hfound.exists_root x hx
    exact ⟨root, v, hv, Or.inr ⟨hfound.kind.1, hroot⟩⟩

/-- **An issue that names a fault of a schema is about a schema that has that fault**, and that the
check meets from a schema of the endpoint. -/
theorem MayReport.exists_faulty (h : s.MayReport e i)
    (hi : Text.Begins i.message "invalid pattern " ∨
      Text.Begins i.message "unresolvable schema reference ") :
    ∃ root v t w r, s.components.schemas.Meets root v t w ∧ s.components.schemas.Faulty t r ∧
      i.message = r.message ∧ (i.kind = .parameter ∧ root ∈ e.parameterSchemas ∨
        i.kind ≠ .parameter ∧ root ∈ e.messageSchemas) := by
  obtain ⟨f, hf, rfl⟩ := mayReport_iff.1 h
  have hviolation : ∃ x, f.violation? = some x ∧ x.reason.IsOfSchema := by
    rcases hi with hi | hi
    · obtain ⟨x, p, fault, hx, hreason⟩ := Finding.begins_invalidPattern_iff.1 hi
      exact ⟨x, hx, hreason ▸ trivial⟩
    · obtain ⟨x, ref, hx, hreason⟩ := Finding.begins_unresolvable_iff.1 hi
      exact ⟨x, hx, hreason ▸ trivial⟩
  obtain ⟨x, hx, hschema⟩ := hviolation
  obtain ⟨root, v, hmem, hroot⟩ := hf.exists_root hx
  obtain ⟨t, w, hmeets, hfaulty⟩ := Schemas.exists_meets_of_mem_check hmem hschema
  exact ⟨root, v, t, w, x.reason, hmeets, hfaulty, Finding.message_of_violation? hx, hroot⟩

end

end Specification

end ApiContract
