/-
**Responses that are checked are documented.**

A table of coverage has the response keys of an operation in order, those of failures of the server
left out if the policy says so.  Where these keys give a status a key, all keys of the operation do:
not always the same one, if a range is documented in several spellings, but one that is documented.
An exchange that checks a coordinate has its response checked against a documented response, and is
never reported for its status.

Main definitions:

* `Endpoint.Documents` — the operation documents a response for a status.

Main results:

* `StatusKey.exists_resolve_of_subset` — **more keys give a status a key where fewer do**;
* `Specification.exists_status_iff` — a status is found wrong exactly if it falls under no key;
* `Contract.documents_of_outcome` — an exchange that checks a coordinate has a documented response;
* `Contract.documented_run` — **no response is reported for its status, in any run**.
-/

import ApiContract.Pattern.Library
import ApiContract.Proofs.Session.InternalError
import ApiContract.Proofs.Validation.Finding

set_option relaxedAutoImplicit false
set_option autoImplicit false

namespace ApiContract

/-! ### More keys -/

/-- **More keys give a status a key where fewer do.**  It need not be the same one: among more keys
another spelling of a range may come first, or the code itself may be there. -/
theorem StatusKey.exists_resolve_of_subset {part keys : List String} {status : Nat} {found : String}
    (hsub : part ⊆ keys) (h : resolve part status = some found) :
    ∃ key, resolve keys status = some key := by
  have hmem : found ∈ keys := hsub (mem_of_resolve h)
  rcases resolve_eq_some_iff.1 h with ⟨hcode, -⟩ | ⟨-, hrange⟩ | ⟨-, -, hdefault, -⟩
  · exact ⟨found, resolve_eq_some_iff.2 (Or.inl ⟨hcode, hmem⟩)⟩
  · have hspelling := List.find?_some hrange
    exact exists_resolve_of_mem hmem (Or.inl hspelling)
  · exact exists_resolve_of_mem hmem (Or.inr hdefault)

/-- The operation documents a response for a status. -/
def Endpoint.Documents (e : Endpoint) (status : Nat) (documented : Response) : Prop :=
  ∃ key, e.responseKey? status = some key ∧ e.responses.get? key = some documented

/-- What a status falls under is documented. -/
theorem Endpoint.exists_documents {e : Endpoint} {status : Nat} {key : String}
    (h : e.responseKey? status = some key) : ∃ documented, e.Documents status documented := by
  have hmem : key ∈ e.responses.keys := StatusKey.mem_of_resolve h
  obtain ⟨documented, hdocumented⟩ :=
    Option.isSome_iff_exists.1 ((Dict.mem_keys_iff e.responses key).1 hmem)
  exact ⟨documented, key, h, hdocumented⟩

namespace Specification

/-! ### Findings about a status -/

variable [Libraries]

section

variable {s : Specification} {e : Endpoint} {f : Finding} {site : Site} {r : Http.Response}
  {documented : Response}

theorem kind_of_mem_headerFindings {headers : Http.Headers} {h : String × Header}
    (hf : f ∈ s.headerFindings headers h) : f.issue.kind = .header := by
  unfold headerFindings at hf
  split at hf
  · cases hf
  · split at hf
    · split at hf
      · rw [List.mem_singleton.1 hf]
        rfl
      · cases hf
    · obtain ⟨x, -, rfl⟩ := List.mem_map.1 hf
      rfl

theorem kind_ne_status_of_mem_bodyFindings {part : Part} {m : MediaType} {contentType : String}
    {body : List UInt8} (hf : f ∈ s.bodyFindings part m contentType body) :
    f.issue.kind ≠ .status := by
  unfold bodyFindings at hf
  split at hf
  · split at hf
    · obtain ⟨x, -, rfl⟩ := List.mem_map.1 hf
      rintro ⟨⟩
    · cases hf
  · cases hf
  · rw [List.mem_singleton.1 hf]
    rintro ⟨⟩
  · rw [List.mem_singleton.1 hf]
    rintro ⟨⟩

theorem kind_ne_status_of_mem_contentFindings {part : Part} {content : Dict MediaType}
    {headers : Http.Headers} {body : List UInt8}
    (hf : f ∈ s.contentFindings part content headers body) : f.issue.kind ≠ .status := by
  unfold contentFindings at hf
  split at hf
  · rw [List.mem_singleton.1 hf]
    rintro ⟨⟩
  · split at hf
    · rw [List.mem_singleton.1 hf]
      rintro ⟨⟩
    · exact kind_ne_status_of_mem_bodyFindings hf

/-- What is found wrong with a documented response is its headers or its content. -/
theorem kind_ne_status_of_mem_documentedFindings {method : Http.Method}
    (hf : f ∈ s.documentedFindings documented method r) : f.issue.kind ≠ .status := by
  rw [documentedFindings, List.mem_append] at hf
  rcases hf with hf | hf
  · obtain ⟨header, -, hf⟩ := List.mem_flatMap.1 hf
    rw [kind_of_mem_headerFindings hf]
    decide
  · unfold responseBodyFindings at hf
    split at hf
    · cases hf
    · exact kind_ne_status_of_mem_contentFindings hf

/-- A documented response is checked against what documents it. -/
theorem responseFindings_eq (h : e.Documents r.status.code documented) :
    s.responseFindings e site r = s.documentedFindings documented site.method r := by
  obtain ⟨key, hkey, hdocumented⟩ := h
  rw [responseFindings, hkey]
  simp only [hdocumented]

/-- **A status is found wrong exactly if it falls under no key** of the operation. -/
theorem exists_status_iff :
    (∃ f ∈ s.responseFindings e site r, f.issue.kind = .status) ↔
      e.responseKey? r.status.code = none := by
  constructor
  · rintro ⟨f, hf, hstatus⟩
    cases hkey : e.responseKey? r.status.code with
    | none => rfl
    | some key =>
        obtain ⟨documented, hdocumented⟩ := Endpoint.exists_documents hkey
        rw [responseFindings_eq hdocumented] at hf
        exact absurd hstatus (kind_ne_status_of_mem_documentedFindings hf)
  · intro hkey
    refine ⟨.undocumentedStatus r.status.code site.method site.template, ?_, rfl⟩
    rw [responseFindings, hkey]
    exact List.mem_singleton.2 rfl

/-- No issue of a response whose status falls under a key is about the status. -/
theorem kind_ne_status_of_checkResponse {failure : Failure} {key : String}
    (hkey : e.responseKey? r.status.code = some key)
    (h : s.checkResponse e site r = some failure) {i : Issue} (hi : i ∈ failure.issues) :
    i.kind ≠ .status := by
  obtain ⟨f, hf, rfl⟩ := mem_failure?_iff.1 ⟨failure, h, hi⟩
  intro hstatus
  rw [exists_status_iff.1 ⟨f, hf, hstatus⟩] at hkey
  cases hkey

end

end Specification

namespace Contract

section

variable [Libraries]

variable {c : Contract} {s : Session} {x : Http.Exchange} {k : Coordinate} {reports : List Report}

/-! ### One exchange -/

/-- The keys of a table under a template and a method are documented. -/
theorem keys_subset (hs : c.specification.Loads)
    (h : s.coverage.coordinates = c.start.coverage.coordinates) {e : Endpoint}
    (he : c.specification.operation? k.template k.method.method = some e) :
    s.coverage.keys k.template k.method ⊆ e.responses.keys := by
  intro key hkey
  rw [Coverage.mem_keys_iff, h] at hkey
  have hmem := Coverage.mem_coordinates_load.1 hkey
  exact ((hs.wellFormed.mem_coordinates_iff he).1 hmem).1

/-- **An exchange that checks a coordinate has a documented response**, and is reported as one of
the operation of the coordinate. -/
theorem documents_of_outcome (hs : c.specification.Loads)
    (h : s.coverage.coordinates = c.start.coverage.coordinates)
    (ho : c.outcome s.coverage x = .checked k reports) :
    ∃ m e documented, c.router.matchPath x.request.uri.path = some m ∧
      c.specification.operation? k.template x.request.method = some e ∧
      e.Documents x.response.status.code documented ∧
      reports = c.requestReports e x.request (decodedParams m) ++
        c.responseReports e ⟨x.request.method, k.template⟩ x := by
  obtain ⟨m, e, hm, he, hk, -, hreports⟩ := of_outcome_eq_checked ho
  obtain ⟨htemplate, hmethod, -, hresolve⟩ := of_coordinate? hk
  rw [← htemplate] at he hresolve hreports
  have hrequest := TrackedMethod.method_of_ofMethod? hmethod
  have hkeys := keys_subset hs h (hrequest ▸ he)
  obtain ⟨key, hkey⟩ := StatusKey.exists_resolve_of_subset hkeys hresolve
  obtain ⟨documented, hdocumented⟩ := Endpoint.exists_documents hkey
  exact ⟨m, e, documented, hm, he, hdocumented, hreports⟩

/-- The report on a response, if any, tells no issue about its status. -/
theorem of_mem_responseReports {e : Endpoint} {site : Site} {documented : Response} {r : Report}
    (h : e.Documents x.response.status.code documented)
    (hr : r ∈ c.responseReports e site x) :
    ∃ f, r = .ofFault (.responseInvalid x.request.method x.request.uri.path
      x.response.status.code f) ∧ ∀ i ∈ f.issues, i.kind ≠ .status := by
  obtain ⟨key, hkey, -⟩ := h
  unfold responseReports at hr
  split at hr
  · cases hr
  · rename_i f hf
    split at hr
    · cases hr
    · refine ⟨f, List.mem_singleton.1 hr, fun i hi => ?_⟩
      exact Specification.kind_ne_status_of_checkResponse hkey hf hi

/-- What is reported of an exchange as an invalid response tells no issue about a status. -/
theorem of_mem_reports (hs : c.specification.Loads)
    (h : s.coverage.coordinates = c.start.coverage.coordinates) {r : Report}
    (hr : r ∈ (c.outcome s.coverage x).reports) (hkind : r.kind = .responseInvalid) :
    ∃ f, r = .ofFault (.responseInvalid x.request.method x.request.uri.path
      x.response.status.code f) ∧ ∀ i ∈ f.issues, i.kind ≠ .status := by
  cases ho : c.outcome s.coverage x with
  | ignored =>
      rw [ho] at hr
      cases hr
  | undocumented fault =>
      rw [ho, of_outcome_eq_undocumented ho, Outcome.reports, List.mem_singleton] at hr
      rw [hr] at hkind
      cases hkind
  | checked k reports =>
      obtain ⟨m, e, documented, -, -, hdocumented, rfl⟩ := documents_of_outcome hs h ho
      rw [ho, Outcome.reports, List.mem_append] at hr
      rcases hr with hr | hr
      · obtain ⟨request, -, hrequest⟩ := requestReports_eq c e x.request (decodedParams m)
        rw [hrequest, Option.mem_toList, Option.map_eq_some_iff] at hr
        obtain ⟨f, -, rfl⟩ := hr
        cases hkind
      · exact of_mem_responseReports hdocumented hr

end

/-! ### Every run -/

/-- **No response is reported for its status, in any run** under a contract of a specification that
was loaded.  After any calls, no invalid response in the ledger has an issue about its status; and
whatever exchange then checks a coordinate, its response is documented: the operation has a response
under the key that the status falls under, and this is what the response is checked against. -/
theorem documented_run [Libraries] {s : Specification} {p : Policy} {c : Contract} (hs : s.Loads)
    (hc : ofSpecification s p = .ok c) (calls : List Call) :
    (∀ r ∈ (c.run c.start calls).ledger, r.kind = .responseInvalid →
      ∃ method path status f, r = .ofFault (.responseInvalid method path status f) ∧
        ∀ i ∈ f.issues, i.kind ≠ .status) ∧
    ∀ x k reports, c.outcome (c.run c.start calls).coverage x = .checked k reports →
      ∃ m e documented, c.router.matchPath x.request.uri.path = some m ∧
        s.operation? k.template x.request.method = some e ∧
        e.Documents x.response.status.code documented ∧
        s.responseFindings e ⟨x.request.method, k.template⟩ x.response =
          s.documentedFindings documented x.request.method x.response ∧
        reports = c.requestReports e x.request (decodedParams m) ++
          c.responseReports e ⟨x.request.method, k.template⟩ x := by
  obtain ⟨rfl, -, -⟩ := exists_serves hc
  have hsum := sumOf_run c calls
  constructor
  · intro r hr hkind
    -- a report in the ledger is one on an exchange that is recorded in a new session
    rw [hsum.ledger_eq] at hr
    obtain ⟨x, -, hx⟩ := List.mem_flatMap.1 hr
    rw [ledger_record_start] at hx
    obtain ⟨f, hf, hissues⟩ := of_mem_reports hs rfl hx hkind
    exact ⟨_, _, _, f, hf, hissues⟩
  · intro x k reports ho
    obtain ⟨m, e, documented, hm, he, hdocumented, hreports⟩ :=
      documents_of_outcome hs hsum.coordinates_eq ho
    exact ⟨m, e, documented, hm, he, hdocumented,
      Specification.responseFindings_eq hdocumented, hreports⟩

/-- The range in two spellings: a response is reported as invalid, and not for its status. -/
theorem documented_run_spelled :
    spelledContract.specification.Loads ∧
      ∃ c, ofSpecification spelledContract.specification {} = .ok c ∧
        ∃ r ∈ (c.run c.start [.record lackingExchange]).ledger, r.kind = .responseInvalid ∧
          ∃ method path status f, r = .ofFault (.responseInvalid method path status f) ∧
            ∀ i ∈ f.issues, i.kind ≠ .status := by
  have hloads : spelledContract.specification.Loads := ⟨spelledDocument, by decide, rfl⟩
  have hc : ofSpecification spelledContract.specification {} = .ok spelledContract :=
    ofSpecification_of_router (Router.build_singleton rfl [""])
  obtain ⟨hledger, -⟩ := documented_run hloads hc [.record lackingExchange]
  have hkinds : (spelledContract.run spelledContract.start
      [.record lackingExchange]).ledger.map Report.kind = [.responseInvalid] := by decide +kernel
  obtain ⟨r, hr, hkind⟩ := List.mem_map.1 (hkinds ▸ List.mem_singleton.2 rfl)
  exact ⟨hloads, spelledContract, hc, r, hr, hkind, hledger r hr hkind⟩

end Contract

end ApiContract
