/-
**Every exchange has exactly one effect.**

An exchange that is recorded either leaves coverage and ledger as they are, or adds one report that
it belongs to nothing, or checks one coordinate and adds what is wrong with its request and its
response.  In every state that a session can reach it does exactly one of these, unless a schema
that its texts are read by is an array of itself: then the record does not end.

Main definitions:

* `Contract.Checks` — the exchange checks a coordinate;
* `Effect`, `Contract.Takes` — the effects of exchanges, and what they do to a session.

Main results:

* `Contract.takes_of_outcome` — every outcome has its effect;
* `Contract.existsUnique_takes` — **every exchange that is recorded has exactly one effect**.
-/

import ApiContract.Pattern.Library
import ApiContract.Proofs.Session.Completion
import ApiContract.Proofs.Specification.Resolution
import Mathlib.Logic.ExistsUnique

set_option relaxedAutoImplicit false
set_option autoImplicit false

namespace ApiContract

/-- The effects of exchanges. -/
inductive Effect where
  /-- Nothing changes. -/
  | none
  /-- A report says that the exchange belongs to nothing. -/
  | report
  /-- A coordinate is checked. -/
  | check
  deriving DecidableEq

/-- A tracked method is that of the request. -/
theorem TrackedMethod.method_of_ofMethod? {method : Http.Method} {m : TrackedMethod}
    (h : TrackedMethod.ofMethod? method = some m) : m.method = method := by
  simpa using List.find?_some h

theorem TrackedMethod.ofMethod?_eq_some_iff {method : Http.Method} {m : TrackedMethod} :
    TrackedMethod.ofMethod? method = some m ↔ method = m.method := by
  constructor
  · intro h
    exact (method_of_ofMethod? h).symm
  · rintro rfl
    exact ofMethod?_method m

namespace Contract

section

variable [Libraries]

/-- An exchange checks a coordinate if it does so in a new session. -/
def Checks (c : Contract) (x : Http.Exchange) (k : Coordinate) : Prop :=
  (c.record c.start x).coverage.isChecked k = true

/-- What the effect of an exchange does to a session, and what becomes of it. -/
def Takes (c : Contract) (s : Session) (x : Http.Exchange) (s' : Session) : Effect → Prop
  | .none =>
    -- it happens only to failures of the server that are left out
    s'.coverage = s.coverage ∧ s'.ledger = s.ledger ∧
      (∀ k, ¬ c.Checks x k) ∧ x.response.status.code = 500 ∧ c.policy.internalErrors = false
  | .report =>
    s'.coverage = s.coverage ∧ (∀ k, ¬ c.Checks x k) ∧
      s'.ledger = s.ledger ++ [.ofFault
        (.undocumented x.request.method x.request.uri.path x.response.status.code)]
  | .check =>
    ∃ m k, c.router.matchPath x.request.uri.path = some m ∧ k.template = m.template ∧
      k.method.method = x.request.method ∧ c.Checks x k ∧
      -- the coordinate is there, as the table answers, and nothing is changed but its flag
      s.coverage.contains k = true ∧ (s.coverage.mark k).1 = true ∧
      s'.coverage.coordinates = s.coverage.coordinates ∧
      (∀ k', s'.coverage.get? k' = if k' = k then some true else s.coverage.get? k') ∧
      ∃ request response : Option Failure,
        (request.isSome = true → c.policy.checkRequests = true) ∧
        s'.ledger = s.ledger ++
          (request.map fun f => Report.ofFault
            (.requestInvalid x.request.method x.request.uri.path f)).toList ++
          (response.map fun f => Report.ofFault (.responseInvalid x.request.method
            x.request.uri.path x.response.status.code f)).toList

section

variable {c : Contract} {s s' : Session} {x : Http.Exchange} {k : Coordinate}

theorem checks_iff :
    c.Checks x k ↔ (c.outcome c.start.coverage x).coordinate? = some k :=
  isChecked_record_start c x k

/-- An exchange that checks a coordinate does so by its outcome in a new session. -/
theorem exists_outcome_of_checks (h : c.Checks x k) :
    ∃ reports, c.outcome c.start.coverage x = .checked k reports :=
  Outcome.exists_checked_of_coordinate? (checks_iff.1 h)

/-- The reports on a request are one report at most, and none unless the policy asks for them. -/
theorem requestReports_eq (c : Contract) (e : Endpoint) (r : Http.Request)
    (params : Dict String) :
    ∃ request : Option Failure, (request.isSome = true → c.policy.checkRequests = true) ∧
      c.requestReports e r params =
        (request.map fun f => Report.ofFault (.requestInvalid r.method r.uri.path f)).toList := by
  unfold requestReports
  split
  · rename_i h
    exact ⟨_, fun _ => h, rfl⟩
  · exact ⟨none, by simp, rfl⟩

/-- The reports on a response are one report at most. -/
theorem responseReports_eq (c : Contract) (e : Endpoint) (site : Site) (x : Http.Exchange) :
    ∃ response : Option Failure, c.responseReports e site x =
      (response.map fun f => Report.ofFault (.responseInvalid x.request.method
        x.request.uri.path x.response.status.code f)).toList := by
  unfold responseReports
  split
  · exact ⟨none, rfl⟩
  · rename_i f _
    split
    · exact ⟨none, rfl⟩
    · exact ⟨some f, rfl⟩

/-- The reports on an exchange that is checked tell what is wrong with its request or its
response. -/
theorem exists_of_mem_checked {reports : List Report} {t : Coverage}
    (h : c.outcome t x = .checked k reports) {r : Report} (hr : r ∈ reports) :
    (∃ f, r = .ofFault (.requestInvalid x.request.method x.request.uri.path f)) ∨
      ∃ f, r = .ofFault (.responseInvalid x.request.method x.request.uri.path
        x.response.status.code f) := by
  obtain ⟨m, e, -, -, -, -, rfl⟩ := of_outcome_eq_checked h
  obtain ⟨request, -, hrequest⟩ := requestReports_eq c e x.request (decodedParams m)
  obtain ⟨response, hresponse⟩ := responseReports_eq c e ⟨x.request.method, m.template⟩ x
  rw [hrequest, hresponse, List.mem_append, Option.mem_toList, Option.mem_toList,
    Option.map_eq_some_iff, Option.map_eq_some_iff] at hr
  rcases hr with ⟨f, -, rfl⟩ | ⟨f, -, rfl⟩
  · exact Or.inl ⟨f, rfl⟩
  · exact Or.inr ⟨f, rfl⟩

/-- The effect of an outcome. -/
def effectOf : Outcome → Effect
  | .ignored => .none
  | .undocumented _ => .report
  | .checked _ _ => .check

/-- Every outcome has its effect. -/
theorem takes_of_outcome (h : s.coverage.coordinates = c.start.coverage.coordinates) :
    c.Takes s x (c.record s x) (effectOf (c.outcome s.coverage x)) := by
  have hout := outcome_congr h c x
  cases ho : c.outcome s.coverage x with
  | ignored =>
      obtain ⟨hstatus, hpolicy⟩ := of_outcome_eq_ignored ho
      refine ⟨?_, ?_, fun k hk => ?_, by rw [hstatus]; rfl, hpolicy⟩
      · rw [coverage_record, ho]
        rfl
      · rw [ledger_record, ho]
        exact List.append_nil _
      · rw [checks_iff, ← hout, ho] at hk
        cases hk
  | undocumented fault =>
      refine ⟨?_, fun k hk => ?_, ?_⟩
      · rw [coverage_record, ho]
        rfl
      · rw [checks_iff, ← hout, ho] at hk
        cases hk
      · rw [ledger_record, ho, of_outcome_eq_undocumented ho]
        rfl
  | checked k reports =>
      obtain ⟨m, e, hm, -, hk, -, hreports⟩ := of_outcome_eq_checked ho
      obtain ⟨htemplate, hmethod, hcontains, -⟩ := of_coordinate? hk
      obtain ⟨request, hrequest, hreq⟩ := requestReports_eq c e x.request (decodedParams m)
      obtain ⟨response, hres⟩ := responseReports_eq c e ⟨x.request.method, m.template⟩ x
      refine ⟨m, k, hm, htemplate, TrackedMethod.method_of_ofMethod? hmethod, ?_, hcontains,
        hcontains, coordinates_record c s x, fun k' => ?_, request, response, hrequest, ?_⟩
      · rw [checks_iff, ← hout, ho]
        rfl
      · rw [coverage_record, ho]
        show (s.coverage.mark k).2.get? k' = _
        rw [Coverage.get?_mark]
        split
        · rename_i heq
          obtain ⟨b, hb⟩ := Option.isSome_iff_exists.1 hcontains
          rw [heq, hb]
          rfl
        · rfl
      · rw [ledger_record, ho, List.append_assoc, ← hreq, ← hres]
        exact congrArg (s.ledger ++ ·) hreports

theorem not_takes_none_and_report (h₁ : c.Takes s x s' .none) (h₂ : c.Takes s x s' .report) :
    False := by
  have hledger := h₁.2.1
  rw [h₂.2.2, List.append_right_eq_self] at hledger
  cases hledger

theorem exists_checks_of_takes (h : c.Takes s x s' .check) : ∃ k, c.Checks x k := by
  obtain ⟨m, k, -, -, -, hk, -⟩ := h
  exact ⟨k, hk⟩

/-- An exchange has no second effect: only one of the effects checks a coordinate, and only one of
the others adds a report. -/
theorem eq_of_takes {e₁ e₂ : Effect} (h₁ : c.Takes s x s' e₁) (h₂ : c.Takes s x s' e₂) :
    e₁ = e₂ := by
  cases e₁ with
  | none =>
      cases e₂ with
      | none => rfl
      | report => exact (not_takes_none_and_report h₁ h₂).elim
      | check =>
          obtain ⟨k, hk⟩ := exists_checks_of_takes h₂
          exact absurd hk (h₁.2.2.1 k)
  | report =>
      cases e₂ with
      | none => exact (not_takes_none_and_report h₂ h₁).elim
      | report => rfl
      | check =>
          obtain ⟨k, hk⟩ := exists_checks_of_takes h₂
          exact absurd hk (h₁.2.1 k)
  | check =>
      obtain ⟨k, hk⟩ := exists_checks_of_takes h₁
      cases e₂ with
      | none => exact absurd hk (h₂.2.2.1 k)
      | report => exact absurd hk (h₂.2.1 k)
      | check => rfl

end

/-- **Every exchange that is recorded has exactly one effect**, in every state that a session can
reach.  What is not recorded has a text that is read by a schema which is an array of itself. -/
theorem existsUnique_takes {c : Contract} {calls : List Call} {s : Session}
    (hs : c.run? c.start calls = some s) (x : Http.Exchange) :
    (c.record? s x = none ↔ ∃ r ∈ c.readings s.coverage x,
      ¬ c.specification.components.schemas.Grounded r.schema) ∧
    ∀ s', c.record? s x = some s' → ∃! effect, c.Takes s x s' effect := by
  have hcoordinates : s.coverage.coordinates = c.start.coverage.coordinates := by
    rw [← run_of_run? hs]
    exact (sumOf_run c calls).coordinates_eq
  refine ⟨record?_eq_none_iff hcoordinates, fun s' hs' => ?_⟩
  obtain ⟨-, rfl⟩ := (record?_eq_some_iff hcoordinates).1 hs'
  have htakes := takes_of_outcome (x := x) hcoordinates
  exact ⟨_, htakes, fun effect h => eq_of_takes h htakes⟩

end

/-! ### An array of itself -/

/-- The parameter of a query that is an array of itself. -/
def circularParameter : Parameter :=
  { name := "q", location := some .query
    schema := some { reference := some "#/components/schemas/A" } }

/-- Components with a schema that is an array of itself. -/
def circularComponents : Components :=
  { schemas := [("A",
      { type := some (.one .array)
        items := some { reference := some "#/components/schemas/A" } })] }

/-- A document with that parameter. -/
def circularDocument : Document :=
  { format := "3.0.3"
    info := { title := "A", version := "1" }
    paths := [("/a",
      { get := some { parameters := [circularParameter], responses := [("202", {})] } })]
    components := circularComponents }

/-- The contract of that document, under which requests are checked. -/
def circular : Contract :=
  { specification :=
      ⟨"A", "1", [""], [⟨"/a", [(.get, ⟨none, false, [circularParameter], none, [("202", {})]⟩)]⟩],
        circularComponents⟩
    policy := { checkRequests := true }
    router := ⟨[⟨"/a", [.char '/', .char 'a'], []⟩], [""]⟩ }

theorem loads_circular : circular.specification.Loads := by
  have hleads : circularDocument.Leads := by
    intro p hp o ho
    obtain rfl := List.mem_singleton.1 hp
    obtain rfl := List.mem_singleton.1 ho
    exact ⟨by decide, by decide, by decide⟩
  exact ⟨circularDocument, by decide,
    Specification.ofDocument_eq_ok_iff.2 ⟨List.isEmpty_iff.1 (by decide +kernel), by decide +kernel,
      hleads, rfl⟩⟩

/-- An exchange with a query or without one. -/
def asking (query : Option String) : Http.Exchange :=
  ⟨{ method := .get, uri := ⟨none, "", "/a", query⟩ }, { status := ⟨202, by decide⟩ }⟩

/-- The session in which an exchange without the parameter was recorded. -/
def circularRun : Session := circular.record circular.start (asking none)

/-- An exchange without the parameter can be recorded again, and one with it cannot. -/
theorem existsUnique_takes_circular :
    circular.specification.Loads ∧ circular.run? circular.start [.record (asking none)] =
        some circularRun ∧
      (∃ s', circular.record? circularRun (asking none) = some s' ∧
        ∃! effect, circular.Takes circularRun (asking none) s' effect) ∧
      circular.record? circularRun (asking (some "q=x")) = none ∧
      ∃ r ∈ circular.readings circularRun.coverage (asking (some "q=x")),
        ¬ circular.specification.components.schemas.Grounded r.schema := by
  have hrecord : circular.record? circular.start (asking none) = some circularRun :=
    if_pos (by decide +kernel)
  have hrun : circular.run? circular.start [.record (asking none)] = some circularRun := by
    rw [run?_cons, step?, hrecord]
    rfl
  have hagain : circular.record? circularRun (asking none) =
      some (circular.record circularRun (asking none)) := if_pos (by decide +kernel)
  have hendless : circular.record? circularRun (asking (some "q=x")) = none :=
    if_neg (by decide +kernel)
  exact ⟨loads_circular, hrun,
    ⟨_, hagain, (existsUnique_takes hrun (asking none)).2 _ hagain⟩, hendless,
    (existsUnique_takes hrun (asking (some "q=x"))).1.1 hendless⟩

end Contract

end ApiContract
