/-
**The order of paths does not matter to a session.**

A document whose paths are put in another order describes the same resources in another order.  The
table of coverage stands in an order of its own, the router is the same, and what an exchange is
checked against is looked up by template and method, so that nothing that is recorded shows in which
order the paths stood.

Main definitions:

* `Contract.Reorders` — a contract for the same resources in another order.

Main results:

* `Coverage.ofList_congr` — tables of the same coordinates are the same;
* `Contract.Reorders.outcome_eq`, `Contract.Reorders.step_eq` — what comes of an exchange, and what
  one call does;
* `Contract.Reorders.run_eq` — **every session is the same**;
* `Contract.reordered` — **the order of paths does not matter**, from documents to reports.
-/

import ApiContract.Pattern.Library
import ApiContract.Proofs.Session.Attainment
import ApiContract.Proofs.Session.Tally
import ApiContract.Proofs.Specification.Reordering

set_option relaxedAutoImplicit false
set_option autoImplicit false

namespace ApiContract

open Std (OrientedCmp)

/-! ### Tables -/

namespace Coverage

/-- Coordinates stand in one order. -/
theorem Ordered.eq_of_mem_iff {cs ds : List Coordinate} (hcs : Ordered cs) (hds : Ordered ds)
    (h : ∀ k, k ∈ cs ↔ k ∈ ds) : cs = ds := by
  have hperm : cs.Perm ds := (List.perm_ext_iff_of_nodup hcs.nodup hds.nodup).2 h
  refine hperm.eq_of_pairwise (fun a b _ _ hab hba => ?_) hcs hds
  have hnot : b.order a ≠ .lt := OrientedCmp.not_lt_of_lt hab
  exact absurd hba hnot

theorem rows_of_fresh {t : Coverage} (h : Fresh t.rows) :
    t.rows = t.coordinates.map fun k => (k, false) := by
  have hrow : ∀ row ∈ t.rows, row = (row.1, false) := fun row hr => Prod.ext rfl (h row hr)
  rw [coordinates, List.map_map]
  exact (List.map_id t.rows).symm.trans (List.map_congr_left hrow)

/-- **Tables of the same coordinates are the same**, in whichever order they were added. -/
theorem ofList_congr {cs ds : List Coordinate} (h : ∀ k, k ∈ cs ↔ k ∈ ds) :
    ofList cs = ofList ds := by
  obtain ⟨hcs, hcsFresh, hcsMem⟩ := ofList_spec cs
  obtain ⟨hds, hdsFresh, hdsMem⟩ := ofList_spec ds
  have hcoordinates : (ofList cs).coordinates = (ofList ds).coordinates :=
    hcs.eq_of_mem_iff hds fun k => by rw [hcsMem, hdsMem, h]
  have hrows : (ofList cs).rows = (ofList ds).rows := by
    rw [rows_of_fresh hcsFresh, rows_of_fresh hdsFresh, hcoordinates]
  exact congrArg Coverage.mk hrows

end Coverage

/-! ### Specifications -/

namespace Specification

variable [Libraries] {s s' : Specification}

/-- Messages are checked against schemas, whichever way the resources stand. -/
theorem checkRequest_congr (h : s'.components = s.components) :
    s'.checkRequest = s.checkRequest := by
  obtain ⟨title, version, bases, resources, components⟩ := s
  obtain ⟨title', version', bases', resources', components'⟩ := s'
  obtain rfl : components' = components := h
  rfl

theorem checkResponse_congr (h : s'.components = s.components) :
    s'.checkResponse = s.checkResponse := by
  obtain ⟨title, version, bases, resources, components⟩ := s
  obtain ⟨title', version', bases', resources', components'⟩ := s'
  obtain rfl : components' = components := h
  rfl

omit [Libraries] in
theorem Reorders.load_eq (h : s'.Reorders s) (internalErrors : Bool) :
    Coverage.load s' internalErrors = Coverage.load s internalErrors :=
  Coverage.ofList_congr fun _ => (h.resources_perm.flatMap_right _).mem_iff

end Specification

/-! ### Sessions -/

namespace Contract

/-- A contract for the same resources in another order. -/
structure Reorders (c' c : Contract) : Prop where
  specification : c'.specification.Reorders c.specification
  policy_eq : c'.policy = c.policy
  router_eq : c'.router = c.router

variable {c c' : Contract}

namespace Reorders

theorem start_eq (h : c'.Reorders c) : c'.start = c.start := by
  rw [start, start, h.policy_eq, h.specification.load_eq]

theorem unmatched_eq (h : c'.Reorders c) (x : Http.Exchange) :
    c'.unmatched x = c.unmatched x := by
  rw [unmatched, unmatched, leavesOut, leavesOut, h.policy_eq]

variable [Libraries]

theorem requestReports_eq (h : c'.Reorders c) (e : Endpoint) (r : Http.Request)
    (params : Dict String) : c'.requestReports e r params = c.requestReports e r params := by
  rw [requestReports, requestReports, h.policy_eq,
    Specification.checkRequest_congr h.specification.components_eq]

theorem responseReports_eq (h : c'.Reorders c) (e : Endpoint) (site : Site) (x : Http.Exchange) :
    c'.responseReports e site x = c.responseReports e site x := by
  rw [responseReports, responseReports, h.policy_eq,
    Specification.checkResponse_congr h.specification.components_eq]

/-- **The same comes of an exchange.** -/
theorem outcome_eq (h : c'.Reorders c) (hw : c.specification.WellFormed) (t : Coverage)
    (x : Http.Exchange) : c'.outcome t x = c.outcome t x := by
  rw [outcome, outcome, h.router_eq, h.unmatched_eq]
  cases c.router.matchPath x.request.uri.path with
  | none => rfl
  | some m =>
      simp only [matchedOutcome, h.policy_eq, h.unmatched_eq, h.requestReports_eq,
        h.responseReports_eq, h.specification.operation?_eq hw]

/-- What one call does. -/
theorem step_eq (h : c'.Reorders c) (hw : c.specification.WellFormed) (s : Session)
    (call : Call) : c'.step s call = c.step s call := by
  cases call with
  | record x =>
      simp only [step, record, logged, logEntries, h.policy_eq, h.outcome_eq hw]
  | reset => simp only [step, reset, h.start_eq]

/-- **Every session is the same.** -/
theorem run_eq (h : c'.Reorders c) (hw : c.specification.WellFormed) (s : Session)
    (calls : List Call) : c'.run s calls = c.run s calls := by
  induction calls generalizing s with
  | nil => rfl
  | cons call calls ih =>
      rw [run, List.foldl_cons, h.step_eq hw]
      exact ih _

omit [Libraries] in
theorem reports_eq (h : c'.Reorders c) (s : Session) : c'.reports s = c.reports s := by
  rw [reports, reports, h.policy_eq]

end Reorders

/-! ### From documents to reports -/

/-- The contracts for the same resources in another order. -/
theorem ofSpecification_reorders [Libraries] {s s' : Specification} {policy : Policy}
    (h : s'.Reorders s) (hc : ofSpecification s policy = .ok c) :
    ∃ c', ofSpecification s' policy = .ok c' ∧ c'.Reorders c := by
  unfold ofSpecification at hc ⊢
  split at hc
  · rename_i router hrouter
    cases hc
    rw [h.router_eq hrouter]
    exact ⟨_, rfl, h, rfl, rfl⟩
  · cases hc

/-- **The order of paths does not matter.**  A document, whose paths are distinct, describes a
specification exactly if it does so with its paths in another order.  Then the same operation is
found for every method and path, with the same parameters; if there is a router, whatever the base
path is, there is one for the other order, and both match every path alike; and if there is a
contract, whatever the policy is, there is one for the other order, and the sessions are the same
after any calls, with the same coverage and the same reports in the same order. -/
theorem reordered [Libraries] {d : Document} {paths : Dict PathItem} (hd : d.paths.keys.Nodup)
    (hp : paths.Perm d.paths) :
    ((∃ s, Specification.ofDocument { d with paths } = .ok s) ↔
      ∃ s, Specification.ofDocument d = .ok s) ∧
    ∀ s s', Specification.ofDocument d = .ok s →
      Specification.ofDocument { d with paths } = .ok s' →
      (∀ method path, s'.findOperation? method path = s.findOperation? method path) ∧
      (∀ base router, s.router base = .ok router →
        ∃ router', s'.router base = .ok router' ∧
          ∀ path, router'.matchPath path = router.matchPath path) ∧
      ∀ policy c, ofSpecification s policy = .ok c →
        ∃ c', ofSpecification s' policy = .ok c' ∧
          ∀ calls, c'.run c'.start calls = c.run c.start calls ∧
            c'.reports (c'.run c'.start calls) = c.reports (c.run c.start calls) := by
  constructor
  · constructor
    · rintro ⟨s', hs'⟩
      obtain ⟨s, hs, -⟩ := Specification.ofDocument_reordered hp.symm hs'
      exact ⟨s, hs⟩
    · rintro ⟨s, hs⟩
      obtain ⟨s', hs', -⟩ := Specification.ofDocument_reordered hp hs
      exact ⟨s', hs'⟩
  · intro s s' hs hs'
    have hloads : s.Loads := ⟨d, hd, hs⟩
    have hw := hloads.wellFormed
    have h : s'.Reorders s := by
      obtain ⟨s'', hs'', h⟩ := Specification.ofDocument_reordered hp hs
      rw [hs'] at hs''
      cases hs''
      exact h
    refine ⟨h.findOperation?_eq hw, fun base router hrouter => ?_, fun policy c hc => ?_⟩
    · exact ⟨router, h.router_eq hrouter, fun _ => rfl⟩
    · obtain ⟨c', hc', hcc'⟩ := ofSpecification_reorders h hc
      obtain ⟨rfl, -, -⟩ := exists_serves hc
      refine ⟨c', hc', fun calls => ?_⟩
      have hrun : c'.run c'.start calls = c.run c.start calls := by
        rw [hcc'.start_eq, hcc'.run_eq hw]
      exact ⟨hrun, by rw [hrun, hcc'.reports_eq]⟩

/-- Two templates match the path, and the same one of them is found whichever comes first. -/
theorem reordered_overlapping :
    overlappingDocument.paths.keys.Nodup ∧
      overlappingDocument.paths.reverse.Perm overlappingDocument.paths ∧
      ∃ s', Specification.ofDocument
          { overlappingDocument with paths := overlappingDocument.paths.reverse } = .ok s' ∧
        (s'.findOperation? .get "/a.b").map OperationMatch.template = some "/\x7bname\x7d" := by
  have hd : overlappingDocument.paths.keys.Nodup := by decide
  have hp := overlappingDocument.paths.reverse_perm
  obtain ⟨hloads, hsame⟩ := reordered hd hp
  obtain ⟨s', hs'⟩ := hloads.2 ⟨overlapping, rfl⟩
  obtain ⟨hfind, -, -⟩ := hsame overlapping s' rfl hs'
  refine ⟨hd, hp, s', hs', ?_⟩
  rw [hfind]
  decide

end Contract

end ApiContract
