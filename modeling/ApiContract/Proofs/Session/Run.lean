/-
**A session is the sum of its exchanges.**

What comes of an exchange depends on the coordinates of the session alone, which no call changes.
Every exchange therefore adds to a session what it adds to a new one, whatever was recorded before;
and after a reset a session goes on like a new one.

Main definitions:

* `Call` — a call of a client: to record an exchange, or to reset the session;
* `Contract.run` — a session after some calls;
* `Call.sinceReset` — the exchanges that were recorded since the last reset;
* `Contract.SumOf` — the session is the sum of some exchanges.

Main results:

* `Contract.SumOf.record`, `Contract.sumOf_reset` — what one call preserves;
* `Contract.sumOf_run` — the invariant of every run;
* `Contract.run_append_reset` — a run after a reset is that of a new session;
* `Contract.run_eq_sum` — **a session is the sum of its exchanges**.
-/

import ApiContract.Proofs.Session.Outcome

set_option relaxedAutoImplicit false
set_option autoImplicit false

namespace ApiContract

/-! ### Calls -/

/-- A call of a client of a session. -/
inductive Call where
  /-- Record an exchange. -/
  | record (x : Http.Exchange)
  /-- Forget what has been recorded. -/
  | reset

/-- The exchanges recorded since the last reset, after one more call. -/
def Call.after (xs : List Http.Exchange) : Call → List Http.Exchange
  | .record x => xs ++ [x]
  | .reset => []

/-- The exchanges that were recorded since the last reset, in order. -/
def Call.sinceReset (calls : List Call) : List Http.Exchange := calls.foldl after []

variable [Libraries]

namespace Contract

/-- A session after one call. -/
def step (c : Contract) (s : Session) : Call → Session
  | .record x => c.record s x
  | .reset => c.reset s

/-- A session after some calls.  The calls of several clients come one after the other. -/
def run (c : Contract) (s : Session) (calls : List Call) : Session := calls.foldl c.step s

/-- A session is the sum of exchanges: it has the coordinates of a new one; a coordinate is checked
if one of the exchanges alone checks it; and the reports are those on the single exchanges. -/
structure SumOf (c : Contract) (s : Session) (xs : List Http.Exchange) : Prop where
  /-- The coordinates are those of a new session. -/
  coordinates_eq : s.coverage.coordinates = c.start.coverage.coordinates
  /-- What is checked is checked by an exchange alone. -/
  isChecked_iff : ∀ k, s.coverage.isChecked k = true ↔
    ∃ x ∈ xs, (c.record c.start x).coverage.isChecked k = true
  /-- The reports are those on the exchanges alone, one after the other. -/
  ledger_eq : s.ledger = xs.flatMap fun x => (c.record c.start x).ledger

section

variable {c : Contract} {s : Session} {xs : List Http.Exchange}

/-! ### One call -/

omit [Libraries] in
/-- A new session has checked nothing. -/
theorem isChecked_start (c : Contract) (k : Coordinate) :
    c.start.coverage.isChecked k = false :=
  Coverage.isChecked_load _ _ k

/-- An exchange alone checks the coordinate of its outcome. -/
theorem isChecked_record_start (c : Contract) (x : Http.Exchange) (k : Coordinate) :
    (c.record c.start x).coverage.isChecked k = true ↔
      (c.outcome c.start.coverage x).coordinate? = some k := by
  rw [isChecked_record, isChecked_start]
  simp

theorem ledger_record_start (c : Contract) (x : Http.Exchange) :
    (c.record c.start x).ledger = (c.outcome c.start.coverage x).reports := by
  rw [ledger_record]
  exact List.nil_append _

/-- A new session, and one that was reset, is the sum of no exchanges. -/
theorem sumOf_nil (hcoverage : s.coverage = c.start.coverage) (hledger : s.ledger = []) :
    SumOf c s [] := by
  refine ⟨by rw [hcoverage], fun k => ?_, hledger⟩
  rw [hcoverage, isChecked_start]
  simp

/-- An exchange that is recorded is added to the sum. -/
theorem SumOf.record (h : SumOf c s xs) (x : Http.Exchange) :
    SumOf c (c.record s x) (xs ++ [x]) := by
  -- what was recorded before does not matter, since the coordinates are the same
  have hout : c.outcome s.coverage x = c.outcome c.start.coverage x :=
    outcome_congr h.coordinates_eq c x
  refine ⟨?_, fun k => ?_, ?_⟩
  · rw [coordinates_record, h.coordinates_eq]
  · rw [isChecked_record, hout, ← isChecked_record_start, h.isChecked_iff]
    simp only [List.mem_append, List.mem_singleton, or_and_right, exists_or, exists_eq_left]
  · rw [ledger_record, hout, ← ledger_record_start, h.ledger_eq, List.flatMap_append,
      List.flatMap_singleton]

/-- What one call makes of a sum of exchanges. -/
theorem SumOf.step (h : SumOf c s xs) (call : Call) : SumOf c (c.step s call) (call.after xs) := by
  cases call with
  | record x => exact h.record x
  | reset => exact sumOf_nil rfl rfl

/-! ### Every run -/

/-- Calls add to a sum what they record, from the last reset on. -/
theorem SumOf.run (h : SumOf c s xs) (calls : List Call) :
    SumOf c (c.run s calls) (calls.foldl Call.after xs) := by
  induction calls generalizing s xs with
  | nil => exact h
  | cons call calls ih => exact ih (h.step call)

/-- The invariant of every run of a new session. -/
theorem sumOf_run (c : Contract) (calls : List Call) :
    SumOf c (c.run c.start calls) (Call.sinceReset calls) :=
  (sumOf_nil rfl rfl).run calls

/-- Sessions that agree on coverage and ledger go on to agree. -/
theorem run_congr {s₁ s₂ : Session} (hcoverage : s₁.coverage = s₂.coverage)
    (hledger : s₁.ledger = s₂.ledger) (calls : List Call) :
    (c.run s₁ calls).coverage = (c.run s₂ calls).coverage ∧
      (c.run s₁ calls).ledger = (c.run s₂ calls).ledger := by
  induction calls generalizing s₁ s₂ with
  | nil => exact ⟨hcoverage, hledger⟩
  | cons call calls ih =>
      cases call with
      | record x =>
          refine ih ?_ ?_
          · show (c.record s₁ x).coverage = (c.record s₂ x).coverage
            rw [coverage_record, coverage_record, hcoverage]
          · show (c.record s₁ x).ledger = (c.record s₂ x).ledger
            rw [ledger_record, ledger_record, hcoverage, hledger]
      | reset => exact ih rfl rfl

/-- A run after a reset is that of a new session. -/
theorem run_append_reset (c : Contract) (s : Session) (before after : List Call) :
    (c.run s (before ++ .reset :: after)).coverage = (c.run c.start after).coverage ∧
      (c.run s (before ++ .reset :: after)).ledger = (c.run c.start after).ledger := by
  have hrun : c.run s (before ++ .reset :: after) = c.run (c.reset (c.run s before)) after := by
    rw [run, List.foldl_append]
    rfl
  have hcoverage : (c.reset (c.run s before)).coverage = c.start.coverage := rfl
  have hledger : (c.reset (c.run s before)).ledger = c.start.ledger := rfl
  rw [hrun]
  exact run_congr hcoverage hledger after

/-- **A session is the sum of its exchanges.**  After any calls, the table has the coordinates of a
new session; a coordinate is checked exactly if one of the exchanges since the last reset checks it
alone; the ledger is made of the ledgers of these exchanges alone, in order.  And whatever stands
before a reset, the run after it has the coverage and the reports of the same run of a new
session. -/
theorem run_eq_sum (c : Contract) (calls : List Call) :
    (c.run c.start calls).coverage.coordinates = c.start.coverage.coordinates ∧
    (∀ k, (c.run c.start calls).coverage.isChecked k = true ↔
      ∃ x ∈ Call.sinceReset calls, (c.record c.start x).coverage.isChecked k = true) ∧
    ((c.run c.start calls).ledger =
      (Call.sinceReset calls).flatMap fun x => (c.record c.start x).ledger) ∧
    ∀ before after, calls = before ++ .reset :: after →
      (c.run c.start calls).coverage = (c.run c.start after).coverage ∧
      c.reports (c.run c.start calls) = c.reports (c.run c.start after) := by
  obtain ⟨hcoordinates, hchecked, hledger⟩ := sumOf_run c calls
  refine ⟨hcoordinates, hchecked, hledger, ?_⟩
  rintro before after rfl
  obtain ⟨hcoverage, hledger⟩ := run_append_reset c c.start before after
  exact ⟨hcoverage, by rw [reports, reports, hcoverage, hledger]⟩

end

end Contract

end ApiContract
