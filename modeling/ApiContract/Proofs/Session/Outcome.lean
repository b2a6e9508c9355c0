/-
**What comes of an exchange.**

An exchange is ignored, or it belongs to no documented response, or it checks a coordinate.  Which
of these it is depends on the coordinates of the table alone, and no exchange changes them.

Main definitions:

* `Outcome.coordinate?`, `Outcome.reports` — what an outcome checks, and what it reports.

Main results:

* `Contract.outcome_congr` — **the outcome of an exchange depends on coordinates alone**;
* `Contract.of_outcome_eq_ignored`, `Contract.of_outcome_eq_undocumented`,
  `Contract.of_outcome_eq_checked` — what is known of an exchange from its outcome;
* `Contract.coordinates_record`, `Contract.isChecked_record`, `Contract.ledger_record` — what an
  exchange adds to a session.
-/

import ApiContract.Proofs.Session.Coverage
import ApiContract.Session.Basic

set_option relaxedAutoImplicit false
set_option autoImplicit false

namespace ApiContract

/-- The coordinate that an outcome checks. -/
def Outcome.coordinate? : Outcome → Option Coordinate
  | .checked coordinate _ => some coordinate
  | _ => none

/-- The reports of an outcome. -/
def Outcome.reports : Outcome → List Report
  | .ignored => []
  | .undocumented fault => [.ofFault fault]
  | .checked _ reports => reports

/-- An outcome with a coordinate checks it. -/
theorem Outcome.exists_checked_of_coordinate? {o : Outcome} {k : Coordinate}
    (h : o.coordinate? = some k) : ∃ reports, o = .checked k reports := by
  cases o with
  | ignored => cases h
  | undocumented fault => cases h
  | checked k' reports =>
      cases h
      exact ⟨reports, rfl⟩

namespace Contract

variable {c : Contract} {s : Session} {t : Coverage} {x : Http.Exchange} {k : Coordinate}

/-! ### Outcomes -/

/-- The outcome of an exchange depends on the coordinates of the table alone. -/
theorem outcome_congr [Libraries] {t₁ t₂ : Coverage} (h : t₁.coordinates = t₂.coordinates)
    (c : Contract) (x : Http.Exchange) : c.outcome t₁ x = c.outcome t₂ x := by
  have hcoordinate : ∀ template method status,
      coordinate? t₁ template method status = coordinate? t₂ template method status := by
    intro template method status
    unfold coordinate?
    cases TrackedMethod.ofMethod? method with
    | none => rfl
    | some m => exact Coverage.resolve?_congr h template m status.code
  simp only [outcome, matchedOutcome, hcoordinate]

/-- An exchange that matches nothing is ignored if its status is left out, and reported if not. -/
theorem unmatched_cases (c : Contract) (x : Http.Exchange) :
    (c.unmatched x = .ignored ∧ x.response.status = .internalError ∧
      c.policy.internalErrors = false) ∨
    c.unmatched x = .undocumented
      (.undocumented x.request.method x.request.uri.path x.response.status.code) := by
  unfold unmatched leavesOut
  split
  · rename_i h
    rw [Bool.and_eq_true, Bool.not_eq_true', decide_eq_true_eq] at h
    exact Or.inl ⟨rfl, h.2, h.1⟩
  · exact Or.inr rfl

/-- The outcomes of an exchange, with what is known in each case. -/
theorem outcome_cases [Libraries] (c : Contract) (t : Coverage) (x : Http.Exchange) :
    c.outcome t x = c.unmatched x ∨
    ∃ m e, c.router.matchPath x.request.uri.path = some m ∧
      c.specification.operation? m.template x.request.method = some e ∧
      ((c.outcome t x = .ignored ∧ c.policy.internalErrors = false ∧
          e.responseKey? x.response.status.code = some internalErrorKey) ∨
        ∃ k, coordinate? t m.template x.request.method x.response.status = some k ∧
          ¬ (c.policy.internalErrors = false ∧
            e.responseKey? x.response.status.code = some internalErrorKey) ∧
          c.outcome t x = .checked k (c.requestReports e x.request (decodedParams m) ++
            c.responseReports e ⟨x.request.method, m.template⟩ x)) := by
  unfold outcome
  split
  · exact Or.inl rfl
  · rename_i m hm
    simp only [matchedOutcome]
    split
    · exact Or.inl rfl
    · rename_i e he
      split
      · rename_i h
        rw [Bool.and_eq_true, Bool.not_eq_true', decide_eq_true_eq] at h
        exact Or.inr ⟨m, e, hm, he, Or.inl ⟨rfl, h.1, h.2⟩⟩
      · rename_i h
        split
        · exact Or.inl rfl
        · rename_i k hk
          refine Or.inr ⟨m, e, hm, he, Or.inr ⟨k, hk, ?_, rfl⟩⟩
          rintro ⟨hpolicy, hkey⟩
          exact h (by simp [hpolicy, hkey])

/-- Only a failure of the server falls under its key. -/
theorem status_eq_internalError {e : Endpoint} {status : Http.Status}
    (h : e.responseKey? status.code = some internalErrorKey) : status = .internalError := by
  have hcode : status.code = 500 := StatusKey.eq_of_resolve_toString h
  obtain ⟨code, hrange⟩ := status
  cases hcode
  rfl

/-- An exchange is ignored only if its status is that of a failure of the server, which the policy
leaves out. -/
theorem of_outcome_eq_ignored [Libraries] (h : c.outcome t x = .ignored) :
    x.response.status = .internalError ∧ c.policy.internalErrors = false := by
  rcases outcome_cases c t x with hu | ⟨m, e, -, -, ⟨-, hpolicy, hkey⟩ | ⟨k, -, -, hk⟩⟩
  · rcases unmatched_cases c x with ⟨-, hstatus, hpolicy⟩ | hfault
    · exact ⟨hstatus, hpolicy⟩
    · rw [h, hfault] at hu
      cases hu
  · exact ⟨status_eq_internalError hkey, hpolicy⟩
  · rw [h] at hk
    cases hk

/-- An exchange that belongs to no documented response is reported with its method, path and
status. -/
theorem of_outcome_eq_undocumented [Libraries] {fault : Fault}
    (h : c.outcome t x = .undocumented fault) :
    fault =
      .undocumented x.request.method x.request.uri.path x.response.status.code := by
  rcases outcome_cases c t x with hu | ⟨m, e, -, -, ⟨hi, -, -⟩ | ⟨k, -, -, hk⟩⟩
  · rcases unmatched_cases c x with ⟨hi, -, -⟩ | hfault
    · rw [h, hi] at hu
      cases hu
    · rw [h, hfault] at hu
      cases hu
      rfl
  · rw [h] at hi
    cases hi
  · rw [h] at hk
    cases hk

/-- An exchange that checks a coordinate has a path that a template matches and a method that is
declared for it; the coordinate is what the status falls under, and the exchange is checked as one
with the operation. -/
theorem of_outcome_eq_checked [Libraries] {reports : List Report}
    (h : c.outcome t x = .checked k reports) :
    ∃ m e, c.router.matchPath x.request.uri.path = some m ∧
      c.specification.operation? m.template x.request.method = some e ∧
      coordinate? t m.template x.request.method x.response.status = some k ∧
      ¬ (c.policy.internalErrors = false ∧
        e.responseKey? x.response.status.code = some internalErrorKey) ∧
      reports = c.requestReports e x.request (decodedParams m) ++
        c.responseReports e ⟨x.request.method, m.template⟩ x := by
  rcases outcome_cases c t x with hu | ⟨m, e, hm, he, ⟨hi, -, -⟩ | ⟨k', hk', hnot, hk⟩⟩
  · rcases unmatched_cases c x with ⟨hi, -, -⟩ | hfault
    · rw [h, hi] at hu
      cases hu
    · rw [h, hfault] at hu
      cases hu
  · rw [h] at hi
    cases hi
  · rw [h] at hk
    cases hk
    exact ⟨m, e, hm, he, hk', hnot, rfl⟩

/-- The coordinate of an exchange is there, under the method of the request. -/
theorem of_coordinate? {template : String} {method : Http.Method} {status : Http.Status}
    (h : coordinate? t template method status = some k) :
    k.template = template ∧ TrackedMethod.ofMethod? method = some k.method ∧
      t.contains k = true ∧
      StatusKey.resolve (t.keys template k.method) status.code = some k.key := by
  obtain ⟨m, hm, hk⟩ := Option.bind_eq_some_iff.1 h
  obtain ⟨htemplate, hmethod, hcontains, hkey⟩ := Coverage.of_resolve? hk
  rw [hmethod]
  exact ⟨htemplate, hm, hcontains, hkey⟩

/-- The coordinate that an outcome checks is there. -/
theorem contains_of_coordinate? [Libraries] (h : (c.outcome t x).coordinate? = some k) :
    t.contains k = true := by
  obtain ⟨reports, ho⟩ := Outcome.exists_checked_of_coordinate? h
  obtain ⟨m, e, -, -, hk, -⟩ := of_outcome_eq_checked ho
  exact (of_coordinate? hk).2.2.1

/-! ### What an exchange adds to a session -/

theorem coverage_record [Libraries] (c : Contract) (s : Session) (x : Http.Exchange) :
    (c.record s x).coverage =
      match (c.outcome s.coverage x).coordinate? with
      | some k => (s.coverage.mark k).2
      | none => s.coverage := by
  unfold record
  cases c.outcome s.coverage x <;> rfl

/-- No exchange changes the coordinates. -/
theorem coordinates_record [Libraries] (c : Contract) (s : Session) (x : Http.Exchange) :
    (c.record s x).coverage.coordinates = s.coverage.coordinates := by
  rw [coverage_record]
  split
  · exact Coverage.coordinates_mark _ _
  · rfl

/-- An exchange checks the coordinate of its outcome, and no other. -/
theorem isChecked_record [Libraries] (c : Contract) (s : Session) (x : Http.Exchange)
    (k : Coordinate) :
    (c.record s x).coverage.isChecked k = true ↔
      s.coverage.isChecked k = true ∨ (c.outcome s.coverage x).coordinate? = some k := by
  rw [coverage_record]
  cases hk : (c.outcome s.coverage x).coordinate? with
  | none => simp
  | some k' =>
      rw [Coverage.isChecked_mark (contains_of_coordinate? hk), Option.some.injEq]
      exact or_congr_right eq_comm

/-- An exchange adds the reports of its outcome. -/
theorem ledger_record [Libraries] (c : Contract) (s : Session) (x : Http.Exchange) :
    (c.record s x).ledger = s.ledger ++ (c.outcome s.coverage x).reports := by
  unfold record
  cases c.outcome s.coverage x with
  | ignored => exact (List.append_nil _).symm
  | undocumented fault => rfl
  | checked k reports => rfl

/-- The reports are the ledger, and what the table adds unless a part of it is enough. -/
theorem reports_eq (c : Contract) (s : Session) :
    c.reports s = s.ledger ++ if c.policy.partialCoverage then []
      else s.coverage.unchecked.map fun k => .ofFault (.uncovered k) := by
  unfold reports Ledger.snapshot
  cases c.policy.partialCoverage with
  | true => exact (List.append_nil _).symm
  | false => rfl

end Contract

end ApiContract
