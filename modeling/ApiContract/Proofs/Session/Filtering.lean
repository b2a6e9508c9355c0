/-
**Policies that only filter reports.**

A policy says whether requests are checked, and whether a response is reported of which nothing is
wrong but that it cannot be read.  Neither has a say in what an exchange belongs to.  Two sessions
under policies that differ in nothing else check the same coordinates, and to leave something out
takes its reports from the ledger and leaves the others as they stand.

Main definitions:

* `Report.isUnsupported` — a report on a response that cannot be read;
* `Contract.Filters` — a contract that reports what another one does, but for some reports;
* `Session.FilteredBy` — a session that has the coverage of another one and a part of its ledger.

Main results:

* `Contract.Filters.outcome_eq` — what comes of an exchange under the two contracts;
* `Contract.Filters.step`, `Contract.Filters.run` — **what a call preserves, and every run**;
* `Contract.filters_checkRequests`, `Contract.filters_ignoreUnsupported` — the two policies;
* `Contract.policies_filter` — **validation policies only filter reports**.
-/

import ApiContract.Pattern.Library
import ApiContract.Proofs.Session.Attainment

set_option relaxedAutoImplicit false
set_option autoImplicit false

namespace ApiContract

/-- A report on a response all of whose issues are media types that cannot be read. -/
def Report.isUnsupported : Report → Bool
  | .mk .responseInvalid (.fault (.responseInvalid _ _ _ f)) =>
    f.issues.all (·.kind = .unsupportedMediaType)
  | _ => false

/-- A failure has an issue, so that it is unsupported if all of its issues are. -/
theorem Specification.isUnsupported_of_checkResponse [Libraries] {s : Specification} {e : Endpoint}
    {site : Site} {r : Http.Response} {f : Failure} (h : s.checkResponse e site r = some f) :
    f.isUnsupported = f.issues.all (·.kind = .unsupportedMediaType) := by
  rw [checkResponse, failure?, Failure.ofIssues?] at h
  split at h
  · cases h
  · rename_i hne
    cases h
    simp [Failure.isUnsupported, hne]

/-! ### Two contracts -/

/-- An outcome without those of its reports on an exchange that are not kept. -/
def Outcome.filter (keep : Report → Bool) : Outcome → Outcome
  | .ignored => .ignored
  | .undocumented fault => .undocumented fault
  | .checked k reports => .checked k (reports.filter keep)

/-- A session has the coverage of another one, and of its ledger what is kept. -/
structure Session.FilteredBy (keep : Report → Bool) (s s' : Session) : Prop where
  coverage_eq : s'.coverage = s.coverage
  ledger_eq : s'.ledger = s.ledger.filter keep

namespace Contract

/-- A contract reports what another one reports, but for what is not kept.  It routes in the same
way, and every exchange that belongs to nothing is kept. -/
structure Filters [Libraries] (keep : Report → Bool) (c d : Contract) : Prop where
  specification_eq : d.specification = c.specification
  router_eq : d.router = c.router
  internalErrors_eq : d.policy.internalErrors = c.policy.internalErrors
  keeps_undocumented : ∀ method path status,
    keep (.ofFault (.undocumented method path status)) = true
  requestReports_eq : ∀ e r params,
    d.requestReports e r params = (c.requestReports e r params).filter keep
  responseReports_eq : ∀ e site x,
    d.responseReports e site x = (c.responseReports e site x).filter keep

section

variable {keep : Report → Bool} {c d : Contract} {s s' : Session}

/-! ### One exchange -/

theorem coordinate?_filter (keep : Report → Bool) (o : Outcome) :
    (o.filter keep).coordinate? = o.coordinate? := by
  cases o <;> rfl

variable [Libraries]

theorem Filters.unmatched_eq (h : Filters keep c d) (x : Http.Exchange) :
    d.unmatched x = (c.unmatched x).filter keep := by
  rw [unmatched, unmatched, leavesOut, leavesOut, h.internalErrors_eq]
  split <;> rfl

/-- **What comes of an exchange** under the two contracts differs in reports alone. -/
theorem Filters.outcome_eq (h : Filters keep c d) (t : Coverage) (x : Http.Exchange) :
    d.outcome t x = (c.outcome t x).filter keep := by
  rw [outcome, outcome, h.router_eq]
  cases c.router.matchPath x.request.uri.path with
  | none => exact h.unmatched_eq x
  | some m =>
      simp only [matchedOutcome, h.specification_eq, h.internalErrors_eq, h.requestReports_eq,
        h.responseReports_eq, h.unmatched_eq]
      cases c.specification.operation? m.template x.request.method with
      | none => rfl
      | some e =>
          dsimp only
          split
          · rfl
          · split
            · rfl
            · rw [Outcome.filter, List.filter_append]

/-- The reports on an exchange are those that are kept. -/
theorem Filters.reports_eq (h : Filters keep c d) (t : Coverage) (x : Http.Exchange) :
    (d.outcome t x).reports = (c.outcome t x).reports.filter keep := by
  rw [h.outcome_eq]
  cases ho : c.outcome t x with
  | ignored => rfl
  | undocumented fault =>
      have hkeep := h.keeps_undocumented x.request.method x.request.uri.path x.response.status.code
      rw [of_outcome_eq_undocumented ho]
      simp only [Outcome.filter, Outcome.reports, List.filter_cons_of_pos hkeep, List.filter_nil]
  | checked k reports => rfl

/-! ### One call -/

/-- New sessions are equal in coverage and ledger. -/
theorem Filters.start (h : Filters keep c d) : Session.FilteredBy keep c.start d.start := by
  refine ⟨?_, rfl⟩
  rw [Contract.start, Contract.start, h.specification_eq, h.internalErrors_eq]

/-- What the record of an exchange preserves. -/
theorem Filters.record (h : Filters keep c d) (hs : Session.FilteredBy keep s s')
    (x : Http.Exchange) : Session.FilteredBy keep (c.record s x) (d.record s' x) := by
  constructor
  · rw [coverage_record, coverage_record, hs.coverage_eq, h.outcome_eq, coordinate?_filter]
  · rw [ledger_record, ledger_record, hs.coverage_eq, hs.ledger_eq, h.reports_eq,
      List.filter_append]

/-- What one call preserves. -/
theorem Filters.step (h : Filters keep c d) (hs : Session.FilteredBy keep s s') (call : Call) :
    Session.FilteredBy keep (c.step s call) (d.step s' call) := by
  cases call with
  | record x => exact h.record hs x
  | reset => exact ⟨h.start.coverage_eq, rfl⟩

/-! ### Every run -/

/-- **What every run preserves.** -/
theorem Filters.run (h : Filters keep c d) (hs : Session.FilteredBy keep s s')
    (calls : List Call) : Session.FilteredBy keep (c.run s calls) (d.run s' calls) := by
  induction calls generalizing s s' with
  | nil => exact hs
  | cons call calls ih => exact ih (h.step hs call)

end

/-! ### The two policies -/

/-- The contract with a flag of its policy set or cleared. -/
def set (c : Contract) (f : Policy.Flag) (on : Bool) : Contract :=
  { c with policy := c.policy.set f on }

theorem set_get (c : Contract) (f : Policy.Flag) : c.set f (c.policy.get f) = c := by
  cases f <;> rfl

/-- To leave requests unchecked takes the reports on requests from the ledger. -/
theorem filters_checkRequests [Libraries] (c : Contract) :
    Filters (fun r => r.kind ≠ .requestInvalid) c (c.set .checkRequests false) where
  specification_eq := rfl
  router_eq := rfl
  internalErrors_eq := rfl
  keeps_undocumented _ _ _ := rfl
  requestReports_eq e r params := by
    obtain ⟨request, -, hrequest⟩ := requestReports_eq c e r params
    have hnone : (c.set .checkRequests false).requestReports e r params = [] := rfl
    rw [hnone, hrequest]
    cases request <;> rfl
  responseReports_eq e site x := by
    obtain ⟨response, hresponse⟩ := responseReports_eq c e site x
    have hsame : (c.set .checkRequests false).responseReports e site x =
        c.responseReports e site x := rfl
    rw [hsame, hresponse]
    cases response <;> rfl

/-- To ignore responses that cannot be read takes the reports on them from the ledger. -/
theorem filters_ignoreUnsupported [Libraries] (c : Contract) :
    Filters (fun r => !r.isUnsupported) c (c.set .ignoreUnsupported true) where
  specification_eq := rfl
  router_eq := rfl
  internalErrors_eq := rfl
  keeps_undocumented _ _ _ := rfl
  requestReports_eq e r params := by
    obtain ⟨request, -, hrequest⟩ := requestReports_eq c e r params
    have hsame : (c.set .ignoreUnsupported true).requestReports e r params =
        c.requestReports e r params := rfl
    rw [hsame, hrequest]
    cases request <;> rfl
  responseReports_eq e site x := by
    simp only [responseReports, set, Policy.set]
    cases hf : c.specification.checkResponse e site x.response with
    | none => rfl
    | some f =>
        have hreport : (Report.ofFault (.responseInvalid x.request.method x.request.uri.path
            x.response.status.code f)).isUnsupported = f.isUnsupported :=
          (Specification.isUnsupported_of_checkResponse hf).symm
        cases hunsupported : f.isUnsupported <;> cases hpolicy : c.policy.ignoreUnsupported <;>
          simp [hreport, hunsupported]

section

variable [Libraries] {s : Specification} {p : Policy} {c : Contract}

/-- A flag of the policy has no say in whether there is a contract. -/
theorem ofSpecification_set (h : ofSpecification s p = .ok c) (f : Policy.Flag) (on : Bool) :
    ofSpecification s (p.set f on) = .ok (c.set f on) := by
  have hbase : (p.set f on).normalBase = p.normalBase := by
    cases f <;> rfl
  unfold ofSpecification at h ⊢
  rw [hbase]
  split at h
  · cases h
    cases f <;> rfl
  · cases h

theorem get_policy (h : ofSpecification s p = .ok c) (f : Policy.Flag) :
    c.policy.get f = p.get f := by
  unfold ofSpecification at h
  split at h
  · cases h
    cases f <;> rfl
  · cases h

/-! ### All policies -/

/-- The contract that leaves out the most. -/
def least (c : Contract) : Contract := (c.set .checkRequests false).set .ignoreUnsupported true

theorem coordinate?_outcome_least (c : Contract) (t : Coverage) (x : Http.Exchange) :
    (c.least.outcome t x).coordinate? = (c.outcome t x).coordinate? := by
  rw [least, (filters_ignoreUnsupported (c.set .checkRequests false)).outcome_eq,
    coordinate?_filter, (filters_checkRequests c).outcome_eq, coordinate?_filter]

theorem coverage_run_least (c : Contract) (calls : List Call) :
    (c.least.run c.least.start calls).coverage = (c.run c.start calls).coverage := by
  have hrequests := filters_checkRequests c
  have hresponses := filters_ignoreUnsupported (c.set .checkRequests false)
  rw [least, (hresponses.run hresponses.start calls).coverage_eq,
    (hrequests.run hrequests.start calls).coverage_eq]

/-- An exchange that ends goes on to end if no more requests are checked. -/
theorem Ends.set {x : Http.Exchange} (h : c.Ends x) {requests ignoring : Bool}
    (hrequests : requests = true → c.policy.checkRequests = true) :
    ((c.set .checkRequests requests).set .ignoreUnsupported ignoring).Ends x := by
  intro r hr
  obtain ⟨m, k, e, hm, hk, he, hr⟩ := mem_readings_iff.1 hr
  -- both contracts check the same coordinate
  rw [← coordinate?_outcome_least] at hk
  have hk' := (coordinate?_outcome_least c _ x).symm.trans hk
  have hr' := hr.imp_left fun hr => And.intro (hrequests hr.1) hr.2
  exact h r (mem_readings_iff.2 ⟨m, k, e, hm, hk', he, hr'⟩)

/-- **Validation policies only filter reports.**  Take two policies that differ at most in whether
requests are checked and in whether responses are ignored that cannot be read.  A run that ends
under the first ends under the second, if this checks no more requests; and where both end, the
sessions have the same coverage.  If the second differs from the first at most in that it checks no
requests, its ledger is that of the first without the reports that a request is invalid; if at most
in that it ignores what cannot be read, without the reports on responses that only cannot be read.
The order of the other reports is the same. -/
theorem policies_filter (hc : ofSpecification s p = .ok c) (requests ignoring : Bool) :
    ∃ d,
      ofSpecification s ((p.set .checkRequests requests).set .ignoreUnsupported ignoring) = .ok d ∧
      ∀ calls t, c.run? c.start calls = some t →
        ((requests = true → p.checkRequests = true) → ∃ u, d.run? d.start calls = some u) ∧
        ∀ u, d.run? d.start calls = some u →
          u.coverage = t.coverage ∧
          (requests = false → ignoring = p.ignoreUnsupported →
            u.ledger = t.ledger.filter fun r => r.kind ≠ .requestInvalid) ∧
          (requests = p.checkRequests → ignoring = true →
            u.ledger = t.ledger.filter fun r => !r.isUnsupported) := by
  refine ⟨(c.set .checkRequests requests).set .ignoreUnsupported ignoring,
    ofSpecification_set (ofSpecification_set hc _ _) _ _, fun calls t ht => ?_⟩
  obtain ⟨hends, rfl⟩ := (run?_eq_some_iff rfl).1 ht
  constructor
  · intro hrequests
    have hpolicy : p.checkRequests = c.policy.checkRequests := (get_policy hc .checkRequests).symm
    rw [hpolicy] at hrequests
    exact ⟨_, (run?_eq_some_iff rfl).2 ⟨fun x hx => (hends x hx).set hrequests, rfl⟩⟩
  intro u hu
  obtain rfl := run_of_run? hu
  refine ⟨?_, ?_, ?_⟩
  · -- both are compared with the contract that leaves out the most
    rw [← coverage_run_least c, ← coverage_run_least]
    rfl
  · rintro rfl rfl
    have hget : p.ignoreUnsupported = (c.set .checkRequests false).policy.get .ignoreUnsupported :=
      (get_policy hc .ignoreUnsupported).symm
    rw [hget, set_get]
    have hfilters := filters_checkRequests c
    exact (hfilters.run hfilters.start calls).ledger_eq
  · rintro rfl rfl
    have hget : p.checkRequests = c.policy.get .checkRequests :=
      (get_policy hc .checkRequests).symm
    rw [hget, set_get]
    have hfilters := filters_ignoreUnsupported c
    exact (hfilters.run hfilters.start calls).ledger_eq

end

/-! ### A picture -/

/-- A document with an operation that needs a parameter and answers with a picture. -/
def picturedDocument : Document :=
  { format := "3.0.3"
    info := { title := "A", version := "1" }
    paths := [("/a",
      { get := some
          { parameters := [{ name := "q", location := some .query, required := true }]
            responses := [("200", { content := [("image/png", {})] })] } })] }

/-- The contract of that document. -/
def picturedContract (p : Policy) : Contract :=
  { specification :=
      ⟨"A", "1", [""], [⟨"/a", [(.get, ⟨none, false,
        [{ name := "q", location := some .query, required := true }], none,
        [("200", { content := [("image/png", {})] })]⟩)]⟩], {}⟩
    policy := p
    router := ⟨[⟨"/a", [.char '/', .char 'a'], []⟩], [""]⟩ }

/-- An exchange without the parameter, and with a picture. -/
def picture : Http.Exchange :=
  ⟨{ method := .get, uri := ⟨none, "", "/a", none⟩ },
    { status := ⟨200, by decide⟩
      headers := [("content-type", ["image/png".toUTF8.toList])]
      body := [0] }⟩

/-- The request and the response are reported, or the response alone. -/
theorem policies_filter_picture :
    (picturedContract {}).specification.Loads ∧
      ofSpecification (picturedContract {}).specification { checkRequests := true } =
        .ok (picturedContract { checkRequests := true }) ∧
      ∃ d t u, ofSpecification (picturedContract {}).specification {} = .ok d ∧
        (picturedContract { checkRequests := true }).run?
          (picturedContract { checkRequests := true }).start [.record picture] = some t ∧
        d.run? d.start [.record picture] = some u ∧ u.coverage = t.coverage ∧
        t.ledger.map Report.kind = [.requestInvalid, .responseInvalid] ∧
        u.ledger.map Report.kind = [.responseInvalid] := by
  have hc : ofSpecification (picturedContract {}).specification { checkRequests := true } =
      .ok (picturedContract { checkRequests := true }) :=
    ofSpecification_of_router (Router.build_singleton rfl [""])
  obtain ⟨d, hd, hrun⟩ := policies_filter hc false false
  obtain ⟨t, ht⟩ : ∃ t, (picturedContract { checkRequests := true }).run?
      (picturedContract { checkRequests := true }).start [.record picture] = some t :=
    Option.isSome_iff_exists.1 (by decide +kernel)
  obtain ⟨hends, hfilter⟩ := hrun [.record picture] t ht
  obtain ⟨u, hu⟩ := hends nofun
  obtain ⟨hcoverage, hledger, -⟩ := hfilter u hu
  have hkinds : t.ledger.map Report.kind = [.requestInvalid, .responseInvalid] := by
    rw [← run_of_run? ht]
    decide +kernel
  refine ⟨⟨picturedDocument, by decide, rfl⟩, hc, d, t, u, hd, ht, hu, hcoverage, hkinds, ?_⟩
  have hothers := congrArg (List.filter (· ≠ .requestInvalid)) hkinds
  rw [List.filter_map] at hothers
  rw [hledger rfl rfl]
  exact hothers

end Contract

end ApiContract
