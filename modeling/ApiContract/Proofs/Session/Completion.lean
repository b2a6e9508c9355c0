/-
**Which runs come to an end.**

To record an exchange is to read its texts, and texts whose schema is an array of itself are read
for ever.  Which texts are read depends on what the exchange belongs to, and so on the coordinates
of the session alone, which no call changes.  An exchange whose record ends in a new session
therefore ends in every session, and a run ends exactly if all of its exchanges do.  Then it ends
with what `Contract.run` gives, and what is said of `Contract.run` is said of such runs.

Main definitions:

* `Contract.run?` — a session after some calls, none if one of them does not end;
* `Contract.Ends` — following the schemas of items ends for all schemas that the texts of an
  exchange are read by.

Main results:

* `Contract.mem_readings_iff`, `Contract.readings_congr` — what is read, which depends on
  coordinates alone;
* `Contract.record?_eq_some_iff`, `Contract.record?_eq_none_iff` — one exchange;
* `Contract.run?_eq_some_iff` — **which runs come to an end**;
* `Contract.ends_of_grounded` — all of them do if no schema is an array of itself.
-/

import ApiContract.Proofs.Session.Run
import ApiContract.Proofs.Specification.Lookup
import ApiContract.Proofs.Validation.Reading

set_option relaxedAutoImplicit false
set_option autoImplicit false

namespace ApiContract.Contract

variable [Libraries]

/-- A session after one call; none if the call does not end. -/
def step? (c : Contract) (s : Session) : Call → Option Session
  | .record x => c.record? s x
  | .reset => some (c.reset s)

/-- A session after some calls; none if one of them does not end. -/
def run? (c : Contract) (s : Session) (calls : List Call) : Option Session :=
  calls.foldlM c.step? s

/-- The record of an exchange comes to an end: so does following the schemas of items, for all
schemas that its texts are read by. -/
def Ends (c : Contract) (x : Http.Exchange) : Prop :=
  ∀ r ∈ c.readings c.start.coverage x, c.specification.components.schemas.Grounded r.schema

variable {c : Contract} {s s' : Session} {x : Http.Exchange}

@[simp] theorem run?_nil (c : Contract) (s : Session) : c.run? s [] = some s := rfl

@[simp] theorem run?_cons (c : Contract) (s : Session) (call : Call) (calls : List Call) :
    c.run? s (call :: calls) = (c.step? s call).bind fun s' => c.run? s' calls := rfl

/-! ### One exchange -/

/-- What is read when an exchange checks a coordinate: the texts of its response, and those of its
request if requests are checked. -/
theorem mem_readings_iff {t : Coverage} {r : Reading} :
    r ∈ c.readings t x ↔ ∃ m k e, c.router.matchPath x.request.uri.path = some m ∧
      (c.outcome t x).coordinate? = some k ∧
      c.specification.operation? m.template x.request.method = some e ∧
      (c.policy.checkRequests = true ∧
          r ∈ c.specification.requestReadings e x.request (decodedParams m) ∨
        r ∈ c.specification.responseReadings e ⟨x.request.method, m.template⟩ x.response) := by
  unfold readings
  cases c.router.matchPath x.request.uri.path with
  | none => simp
  | some m =>
      cases c.outcome t x with
      | ignored => simp [Outcome.coordinate?]
      | undocumented fault => simp [Outcome.coordinate?]
      | checked k reports =>
          cases c.policy.checkRequests <;> simp [Outcome.coordinate?, eq_comm]

/-- What is read depends on coordinates alone. -/
theorem readings_congr {t₁ t₂ : Coverage} (h : t₁.coordinates = t₂.coordinates) (c : Contract)
    (x : Http.Exchange) : c.readings t₁ x = c.readings t₂ x := by
  rw [readings, readings, outcome_congr h c x]

/-- Whether an exchange ends is the same in every session. -/
theorem ends_iff (h : s.coverage.coordinates = c.start.coverage.coordinates) :
    c.Ends x ↔
      ∀ r ∈ c.readings s.coverage x, c.specification.components.schemas.Grounded r.schema := by
  rw [Ends, readings_congr h]

theorem record?_eq_some_iff (h : s.coverage.coordinates = c.start.coverage.coordinates) :
    c.record? s x = some s' ↔ c.Ends x ∧ c.record s x = s' := by
  rw [ends_iff h, ← Schemas.completes_iff, record?]
  split
  · rename_i hends
    rw [Option.some.injEq, and_iff_right hends]
  · rename_i hends
    exact iff_of_false nofun fun hx => hends hx.1

/-- An exchange is not recorded exactly if some of its texts are read for ever. -/
theorem record?_eq_none_iff (h : s.coverage.coordinates = c.start.coverage.coordinates) :
    c.record? s x = none ↔ ∃ r ∈ c.readings s.coverage x,
      ¬ c.specification.components.schemas.Grounded r.schema := by
  have hiff : (∃ s', c.record? s x = some s') ↔ c.Ends x := by
    simp only [record?_eq_some_iff h, exists_and_left, exists_eq', and_true]
  rw [Option.eq_none_iff_forall_ne_some, ← not_exists, hiff, ends_iff h]
  push Not
  rfl

/-! ### Every run -/

/-- A call that ends leaves the coordinates as they are. -/
theorem coordinates_step (h : s.coverage.coordinates = c.start.coverage.coordinates)
    (call : Call) : (c.step s call).coverage.coordinates = c.start.coverage.coordinates := by
  cases call with
  | record x => rw [step, coordinates_record, h]
  | reset => rfl

/-- **Which runs come to an end**: those whose exchanges all do, whatever was recorded before. -/
theorem run?_eq_some_iff {calls : List Call}
    (h : s.coverage.coordinates = c.start.coverage.coordinates) :
    c.run? s calls = some s' ↔ (∀ x, .record x ∈ calls → c.Ends x) ∧ c.run s calls = s' := by
  induction calls generalizing s with
  | nil => simp [run]
  | cons call calls ih =>
      have hstep : ∀ t, c.step? s call = some t ↔
          (∀ x, call = .record x → c.Ends x) ∧ c.step s call = t := by
        intro t
        cases call with
        | record x => simpa [step?, step] using record?_eq_some_iff h
        | reset => simp [step?, step]
      rw [run?_cons, Option.bind_eq_some_iff]
      simp only [hstep, List.mem_cons, forall_and, or_imp, eq_comm (a := Call.record _)]
      constructor
      · rintro ⟨t, ⟨hcall, rfl⟩, hrun⟩
        obtain ⟨hcalls, hrun⟩ := (ih (coordinates_step h call)).1 hrun
        exact ⟨⟨hcall, hcalls⟩, hrun⟩
      · rintro ⟨⟨hcall, hcalls⟩, hrun⟩
        exact ⟨_, ⟨hcall, rfl⟩, (ih (coordinates_step h call)).2 ⟨hcalls, hrun⟩⟩

/-- A session that a run ends in is the one that it leads to. -/
theorem run_of_run? {calls : List Call} (h : c.run? c.start calls = some s) :
    c.run c.start calls = s :=
  ((run?_eq_some_iff rfl).1 h).2

/-! ### Specifications of which every run ends -/

/-- **All exchanges end if no schema is an array of itself.** -/
theorem ends_of_grounded (h : c.specification.Grounded) (x : Http.Exchange) : c.Ends x := by
  intro r hr
  obtain ⟨m, k, e, -, -, he, hr⟩ := mem_readings_iff.1 hr
  obtain ⟨resource, hresource, -, he⟩ := Specification.exists_of_operation? he
  have hground := h resource hresource _ (Resource.mem_of_operation? he)
  rcases hr with ⟨-, hr⟩ | hr
  · rcases Specification.of_mem_requestReadings hr with hroot | ⟨root, hroot, hreach⟩
    · exact hground _ (Or.inl hroot) _ Schemas.mem_reach_self
    · exact hground root (Or.inr hroot) _ hreach
  · obtain ⟨root, hroot, hreach⟩ := Specification.of_mem_responseReadings hr
    exact hground root (Or.inr hroot) _ hreach

end ApiContract.Contract
