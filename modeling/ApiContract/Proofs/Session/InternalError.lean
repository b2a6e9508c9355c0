/-
**Failures of the server under a policy.**

A policy tracks documented failures of the server, or it leaves them out.  If it leaves them out,
there is no coordinate for them, no report tells of one that is undocumented, and an exchange that
ends in one counts only where it falls under a range or a default.  If it tracks them, an exchange
that ends in a documented one checks the coordinate of its code, and nothing else.

Main definitions:

* `Contract.BelongsTo` — an exchange belongs to an operation with a tracked method;
* `StatusKey.FallsBack` — a failure of the server falls under a range or a default;
* `Contract.Spares` — a session says nothing of failures of the server that are left out.

Main results:

* `Contract.Spares.step`, `Contract.Spares.run` — **what a call preserves, and every run**;
* `Contract.exists_checks_iff_fallsBack` — where a failure counts that is left out;
* `Contract.internalErrors_run` — **the policy for failures of the server holds in every run**.
-/

import ApiContract.Pattern.Library
import ApiContract.Proofs.Session.Attainment

set_option relaxedAutoImplicit false
set_option autoImplicit false

namespace ApiContract

theorem Http.Status.eq_internalError {status : Http.Status} (h : status.code = 500) :
    status = .internalError := by
  obtain ⟨code, hrange⟩ := status
  cases h
  rfl

namespace StatusKey

/-- Among keys, a failure of the server falls under a range or a default: its code is not there. -/
def FallsBack (keys : List String) : Prop :=
  "500" ∉ keys ∧ ∃ key ∈ keys, Text.equalIgnoringCase key "5XX" = true ∨ key = "default"

section

variable {keys : List String} {status : Nat} {key : String}

theorem exists_resolve_of_mem (hkey : key ∈ keys)
    (h : Text.equalIgnoringCase key (rangeOf status) = true ∨ key = "default") :
    ∃ found, resolve keys status = some found := by
  -- the code comes before the ranges, and they come before the default
  by_cases hcode : toString status ∈ keys
  · exact ⟨_, resolve_eq_some_iff.2 (Or.inl ⟨rfl, hcode⟩)⟩
  · cases hrange : keys.find? (Text.equalIgnoringCase · (rangeOf status)) with
    | some found => exact ⟨found, resolve_eq_some_iff.2 (Or.inr (Or.inl ⟨hcode, hrange⟩))⟩
    | none =>
        have hnone : ∀ k ∈ keys, Text.equalIgnoringCase k (rangeOf status) = false :=
          fun k hk => Bool.not_eq_true _ ▸ List.find?_eq_none.1 hrange k hk
        rcases h with h | rfl
        · rw [hnone key hkey] at h
          cases h
        · exact ⟨_, resolve_eq_some_iff.2 (Or.inr (Or.inr ⟨hcode, hnone, rfl, hkey⟩))⟩

/-- What a failure of the server falls under, other than its code, is a range or a default. -/
theorem range_or_default_of_resolve (h : resolve keys 500 = some key) (hne : key ≠ "500") :
    Text.equalIgnoringCase key "5XX" = true ∨ key = "default" := by
  rcases resolve_eq_some_iff.1 h with ⟨hcode, -⟩ | ⟨-, hrange⟩ | ⟨-, -, hdefault, -⟩
  · exact absurd hcode hne
  · have hspelling := List.find?_some hrange
    exact Or.inl hspelling
  · exact Or.inr hdefault

end

end StatusKey

namespace Contract

/-- An exchange belongs to an operation: its path matches the template, for which its method is
declared, and the method is tracked. -/
structure BelongsTo (c : Contract) (x : Http.Exchange) (template : String)
    (method : TrackedMethod) (e : Endpoint) : Prop where
  matchPath : ∃ m, c.router.matchPath x.request.uri.path = some m ∧ m.template = template
  operation? : c.specification.operation? template x.request.method = some e
  tracked : TrackedMethod.ofMethod? x.request.method = some method

/-- A session has no coordinate for failures of the server, and none of its reports tells of an
undocumented one, or of a coordinate. -/
structure Spares (s : Session) : Prop where
  coordinates : ∀ k ∈ s.coverage.coordinates, k.key ≠ "500"
  undocumented : ∀ r ∈ s.ledger, ∀ method path,
    r.cause ≠ .fault (.undocumented method path 500)
  uncovered : ∀ r ∈ s.ledger, ∀ k, r.cause ≠ .fault (.uncovered k)

section

variable {c : Contract} {s : Session} {x : Http.Exchange} {k : Coordinate} {t : Coverage}
  {template : String} {method : TrackedMethod} {e : Endpoint}

/-! ### Reports -/

/-- The reports of a session that spares failures of the server spare them too. -/
theorem Spares.reports (h : Spares s) {r : Report} (hr : r ∈ c.reports s) :
    (∀ method path, r.cause ≠ .fault (.undocumented method path 500)) ∧
      ∀ k, r.cause = .fault (.uncovered k) → k.key ≠ "500" := by
  rw [reports_eq, List.mem_append] at hr
  rcases hr with hr | hr
  · exact ⟨h.undocumented r hr, fun k hk => absurd hk (h.uncovered r hr k)⟩
  · split at hr
    · cases hr
    · obtain ⟨k, hk, rfl⟩ := List.mem_map.1 hr
      refine ⟨nofun, ?_⟩
      rintro k' ⟨⟩
      -- what is reported at the end of a session is one of its coordinates
      exact h.coordinates k (s.coverage.unchecked_sublist.subset hk)

/-! ### Failures that are left out -/

variable [Libraries]

/-- An exchange that ends in a failure of the server that is left out is ignored, or it checks a
coordinate. -/
theorem outcome_of_internalError (hpolicy : c.policy.internalErrors = false)
    (hstatus : x.response.status.code = 500) :
    c.outcome t x = .ignored ∨ ∃ k reports, c.outcome t x = .checked k reports := by
  have hunmatched : c.unmatched x = .ignored := by
    have hinternal : x.response.status = .internalError := Http.Status.eq_internalError hstatus
    rw [unmatched, leavesOut, hpolicy, hinternal]
    rfl
  rcases outcome_cases c t x with hu | ⟨m, e, -, -, ⟨hi, -, -⟩ | ⟨k, -, -, hk⟩⟩
  · exact Or.inl (hu.trans hunmatched)
  · exact Or.inl hi
  · exact Or.inr ⟨k, _, hk⟩

omit [Libraries] in
theorem spares_start (hpolicy : c.policy.internalErrors = false) : Spares c.start := by
  refine ⟨fun k hk => ?_, List.forall_mem_nil _, List.forall_mem_nil _⟩
  have hmem := Coverage.mem_coordinates_load.1 hk
  obtain ⟨r, -, -, o, -, -, -, hkey⟩ := Specification.mem_coordinates_iff.1 hmem
  rw [hpolicy] at hkey
  exact hkey.resolve_left Bool.false_ne_true

/-- What the record of an exchange preserves. -/
theorem Spares.record (h : Spares s) (hpolicy : c.policy.internalErrors = false)
    (x : Http.Exchange) : Spares (c.record s x) := by
  have hadded : ∀ r ∈ (c.outcome s.coverage x).reports,
      (∀ method path, r.cause ≠ .fault (.undocumented method path 500)) ∧
        ∀ k, r.cause ≠ .fault (.uncovered k) := by
    intro r hr
    cases ho : c.outcome s.coverage x with
    | ignored =>
        rw [ho] at hr
        cases hr
    | undocumented fault =>
        rw [ho, Outcome.reports, List.mem_singleton] at hr
        have hfault := of_outcome_eq_undocumented ho
        subst hr hfault
        refine ⟨fun method path hcause => ?_, nofun⟩
        injection hcause with hcause
        injection hcause with _ _ hcode
        -- a failure of the server is ignored, or it checks a coordinate
        rcases outcome_of_internalError hpolicy hcode with hi | ⟨k, reports, hk⟩
        · rw [hi] at ho
          cases ho
        · rw [hk] at ho
          cases ho
    | checked k reports =>
        rw [ho] at hr
        rcases exists_of_mem_checked ho hr with ⟨f, rfl⟩ | ⟨f, rfl⟩ <;> exact ⟨nofun, nofun⟩
  refine ⟨?_, ?_, ?_⟩
  · rw [coordinates_record]
    exact h.coordinates
  · rw [ledger_record]
    exact List.forall_mem_append.2 ⟨h.undocumented, fun r hr => (hadded r hr).1⟩
  · rw [ledger_record]
    exact List.forall_mem_append.2 ⟨h.uncovered, fun r hr => (hadded r hr).2⟩

/-- What one call preserves. -/
theorem Spares.step (h : Spares s) (hpolicy : c.policy.internalErrors = false) (call : Call) :
    Spares (c.step s call) := by
  cases call with
  | record x => exact h.record hpolicy x
  | reset =>
      exact ⟨(spares_start hpolicy).coordinates, List.forall_mem_nil _, List.forall_mem_nil _⟩

/-- What every run preserves. -/
theorem Spares.run (h : Spares s) (hpolicy : c.policy.internalErrors = false)
    (calls : List Call) : Spares (c.run s calls) := by
  induction calls generalizing s with
  | nil => exact h
  | cons call calls ih => exact ih (h.step hpolicy call)

/-! ### Where failures count -/

theorem mem_keys_start_iff (hs : c.specification.Loads) (h : c.BelongsTo x template method e)
    {key : String} : key ∈ c.start.coverage.keys template method ↔
      key ∈ e.responses.keys ∧ (c.policy.internalErrors = true ∨ key ≠ "500") := by
  have he : c.specification.operation? template method.method = some e := by
    rw [TrackedMethod.method_of_ofMethod? h.tracked]
    exact h.operation?
  rw [Coverage.mem_keys_iff]
  exact Coverage.mem_coordinates_load.trans (hs.wellFormed.mem_coordinates_iff he)

/-- What an exchange checks, given the operation that it belongs to. -/
theorem BelongsTo.checks_iff (h : c.BelongsTo x template method e) {key : String} :
    c.Checks x ⟨template, method, key⟩ ↔
      StatusKey.resolve (c.start.coverage.keys template method) x.response.status.code =
        some key ∧
      ¬ (c.policy.internalErrors = false ∧
        e.responseKey? x.response.status.code = some "500") := by
  have hmethod := TrackedMethod.method_of_ofMethod? h.tracked
  have he : c.specification.operation? template method.method = some e := by
    rw [hmethod]
    exact h.operation?
  rw [checks_iff_matchPath he]
  exact ⟨fun hk => hk.2.2, fun hk => ⟨h.matchPath, hmethod.symm, hk⟩⟩

theorem exists_belongsTo_of_checks (h : c.Checks x k) :
    ∃ e, c.BelongsTo x k.template k.method e := by
  obtain ⟨reports, ho⟩ := exists_outcome_of_checks h
  obtain ⟨m, e, hm, he, hk, -⟩ := of_outcome_eq_checked ho
  obtain ⟨htemplate, hmethod, -, -⟩ := of_coordinate? hk
  exact ⟨e, ⟨m, hm, htemplate.symm⟩, htemplate ▸ he, hmethod⟩

/-- **An exchange that ends in a failure of the server that is left out checks a coordinate exactly
if the operation that it belongs to documents a range or a default for it, and not its code.** -/
theorem exists_checks_iff_fallsBack (hs : c.specification.Loads)
    (hpolicy : c.policy.internalErrors = false) (hstatus : x.response.status.code = 500) :
    (∃ k, c.Checks x k) ↔ ∃ template method e, c.BelongsTo x template method e ∧
      StatusKey.FallsBack e.responses.keys := by
  constructor
  · rintro ⟨k, hk⟩
    obtain ⟨e, he⟩ := exists_belongsTo_of_checks hk
    obtain ⟨hresolve, hnot⟩ := he.checks_iff.1 hk
    rw [hstatus] at hresolve hnot
    obtain ⟨hkey, hne⟩ := (mem_keys_start_iff hs he).1 (StatusKey.mem_of_resolve hresolve)
    rw [hpolicy] at hne
    refine ⟨k.template, k.method, e, he, fun hcode => hnot ⟨hpolicy, ?_⟩, k.key, hkey, ?_⟩
    · exact StatusKey.resolve_eq_some_iff.2 (Or.inl ⟨rfl, hcode⟩)
    · exact StatusKey.range_or_default_of_resolve hresolve (hne.resolve_left Bool.false_ne_true)
  · rintro ⟨template, method, e, he, hcode, key, hkey, hfalls⟩
    -- the table has all keys but the code, and the code is not documented
    have htable : key ∈ c.start.coverage.keys template method :=
      (mem_keys_start_iff hs he).2 ⟨hkey, Or.inr fun h => hcode (h ▸ hkey)⟩
    have hresolve : ∃ found,
        StatusKey.resolve (c.start.coverage.keys template method) 500 = some found :=
      StatusKey.exists_resolve_of_mem htable hfalls
    obtain ⟨found, hfound⟩ := hresolve
    refine ⟨⟨template, method, found⟩, he.checks_iff.2 ⟨by rw [hstatus]; exact hfound, ?_⟩⟩
    rintro ⟨-, hkey⟩
    rw [hstatus] at hkey
    exact hcode (StatusKey.mem_of_resolve hkey)

/-- An exchange that ends in a documented failure of the server that is tracked checks the
coordinate of its code. -/
theorem BelongsTo.checks_internalError (h : c.BelongsTo x template method e)
    (hs : c.specification.Loads) (hpolicy : c.policy.internalErrors = true)
    (hstatus : x.response.status.code = 500) (hcode : "500" ∈ e.responses.keys) :
    c.Checks x ⟨template, method, "500"⟩ := by
  have htable : "500" ∈ c.start.coverage.keys template method :=
    (mem_keys_start_iff hs h).2 ⟨hcode, Or.inl hpolicy⟩
  refine h.checks_iff.2 ⟨?_, fun hnot => ?_⟩
  · rw [hstatus]
    exact StatusKey.resolve_eq_some_iff.2 (Or.inl ⟨rfl, htable⟩)
  · rw [hpolicy] at hnot
    cases hnot.1

/-! ### What failures change -/

/-- What an exchange that checks a coordinate changes: the flag of that coordinate alone. -/
theorem get?_record_of_checks (h : s.coverage.coordinates = c.start.coverage.coordinates)
    (hk : c.Checks x k) :
    s.coverage.contains k = true ∧
      (c.record s x).coverage.coordinates = s.coverage.coordinates ∧
      ∀ k', (c.record s x).coverage.get? k' =
        if k' = k then some true else s.coverage.get? k' := by
  obtain ⟨reports, ho⟩ := exists_outcome_of_checks hk
  have htakes : c.Takes s x (c.record s x) (effectOf (c.outcome s.coverage x)) :=
    takes_of_outcome h
  rw [outcome_congr h, ho] at htakes
  obtain ⟨m, k', -, -, -, hk', hcontains, -, hcoordinates, hget, -⟩ := htakes
  obtain rfl : k = k' :=
    Option.some.inj ((Contract.checks_iff.1 hk).symm.trans (Contract.checks_iff.1 hk'))
  exact ⟨hcontains, hcoordinates, hget⟩

/-- A failure of the server that is left out, and checks no coordinate, changes nothing. -/
theorem record_of_not_checks (h : s.coverage.coordinates = c.start.coverage.coordinates)
    (hpolicy : c.policy.internalErrors = false) (hstatus : x.response.status.code = 500)
    (hk : ¬ ∃ k, c.Checks x k) :
    (c.record s x).coverage = s.coverage ∧ (c.record s x).ledger = s.ledger := by
  have hignored : c.outcome s.coverage x = .ignored := by
    rcases outcome_of_internalError hpolicy hstatus with hi | ⟨k, reports, ho⟩
    · exact hi
    · refine absurd ⟨k, Contract.checks_iff.2 ?_⟩ hk
      rw [← outcome_congr h, ho]
      rfl
  constructor
  · rw [coverage_record, hignored]
    rfl
  · rw [ledger_record, hignored]
    exact List.append_nil s.ledger

/-- **The policy for failures of the server holds in every run.**  If the policy leaves them out, no
coordinate has their code, no report tells of an undocumented one or of a coordinate with their
code, and an exchange that ends in one changes coverage and ledger only if it belongs to an
operation with a tracked method that documents a range or a default for it, and not its code; then
it checks a coordinate.  If the policy tracks them, an exchange that ends in one and belongs to an
operation with a tracked method that documents its code checks the coordinate of the code, and
changes no other. -/
theorem internalErrors_run (hs : c.specification.Loads) (calls : List Call) :
    (c.policy.internalErrors = false →
      (∀ k ∈ (c.run c.start calls).coverage.coordinates, k.key ≠ "500") ∧
      (∀ r ∈ c.reports (c.run c.start calls),
        (∀ method path, r.cause ≠ .fault (.undocumented method path 500)) ∧
          ∀ k, r.cause = .fault (.uncovered k) → k.key ≠ "500") ∧
      ∀ x : Http.Exchange, x.response.status.code = 500 →
        ((∃ k, c.Checks x k) ↔ ∃ template method e, c.BelongsTo x template method e ∧
          StatusKey.FallsBack e.responses.keys) ∧
        ((¬ ∃ template method e, c.BelongsTo x template method e ∧
            StatusKey.FallsBack e.responses.keys) →
          (c.run c.start (calls ++ [.record x])).coverage = (c.run c.start calls).coverage ∧
          (c.run c.start (calls ++ [.record x])).ledger = (c.run c.start calls).ledger)) ∧
    (c.policy.internalErrors = true →
      ∀ x template method e, x.response.status.code = 500 → c.BelongsTo x template method e →
        "500" ∈ e.responses.keys →
        (c.run c.start calls).coverage.contains ⟨template, method, "500"⟩ = true ∧
        (c.run c.start (calls ++ [.record x])).coverage.coordinates =
          (c.run c.start calls).coverage.coordinates ∧
        ∀ k, (c.run c.start (calls ++ [.record x])).coverage.get? k =
          if k = ⟨template, method, "500"⟩ then some true
          else (c.run c.start calls).coverage.get? k) := by
  have hcoordinates := (sumOf_run c calls).coordinates_eq
  have hlast : ∀ x, c.run c.start (calls ++ [.record x]) = c.record (c.run c.start calls) x := by
    intro x
    rw [run, List.foldl_append]
    rfl
  constructor
  · intro hpolicy
    have hspares : Spares (c.run c.start calls) := (spares_start hpolicy).run hpolicy calls
    refine ⟨hspares.coordinates, fun r hr => hspares.reports hr, fun x hstatus => ?_⟩
    have hiff := exists_checks_iff_fallsBack hs hpolicy hstatus
    refine ⟨hiff, fun hnot => ?_⟩
    rw [hlast]
    exact record_of_not_checks hcoordinates hpolicy hstatus fun hk => hnot (hiff.1 hk)
  · intro hpolicy x template method e hstatus he hcode
    rw [hlast]
    exact get?_record_of_checks hcoordinates (he.checks_internalError hs hpolicy hstatus hcode)

end

/-! ### A documented failure -/

/-- A document with an operation that documents failures of the server by their code and by a
range. -/
def failingDocument : Document :=
  { format := "3.0.3"
    info := { title := "A", version := "1" }
    paths := [("/a", { get := some { responses := [("500", {}), ("5XX", {})] } })] }

/-- The contract of that document, under a policy that tracks failures of the server or leaves them
out. -/
def failingContract (internalErrors : Bool) : Contract :=
  { specification :=
      ⟨"A", "1", [""], [⟨"/a", [(.get, ⟨none, false, [], none, [("500", {}), ("5XX", {})]⟩)]⟩], {}⟩
    policy := { internalErrors := internalErrors }
    router := ⟨[⟨"/a", [.char '/', .char 'a'], []⟩], [""]⟩ }

/-- An exchange with that operation that ends in such a failure. -/
def failedExchange : Http.Exchange :=
  ⟨{ method := .get, uri := ⟨none, "", "/a", none⟩ }, { status := .internalError }⟩

/-- The session that has recorded that exchange. -/
def failedRun [Libraries] (internalErrors : Bool) : Session :=
  (failingContract internalErrors).run (failingContract internalErrors).start
    [.record failedExchange]

/-- The failure checks its code and not the range if it is tracked, and nothing if it is left
out. -/
theorem internalErrors_run_failing :
    (∀ internalErrors, (failingContract internalErrors).specification.Loads) ∧
      (failedRun true).coverage.get? ⟨"/a", .get, "500"⟩ = some true ∧
      (failedRun true).coverage.get? ⟨"/a", .get, "5XX"⟩ = some false ∧
      (failedRun false).coverage = (failingContract false).start.coverage := by
  have hloads : ∀ internalErrors, (failingContract internalErrors).specification.Loads :=
    fun _ => ⟨failingDocument, by decide, rfl⟩
  refine ⟨hloads, ?_⟩
  rw [← and_assoc]
  constructor
  · have hbelongs : (failingContract true).BelongsTo failedExchange "/a" .get
        ⟨none, false, [], none, [("500", {}), ("5XX", {})]⟩ := ⟨⟨_, rfl, rfl⟩, rfl, rfl⟩
    obtain ⟨-, -, hget⟩ := (internalErrors_run (hloads true) []).2 rfl failedExchange "/a" .get _
      rfl hbelongs (by decide)
    exact ⟨hget _, hget _⟩
  · obtain ⟨-, -, hexchange⟩ := (internalErrors_run (hloads false) []).1 rfl
    refine ((hexchange failedExchange rfl).2 ?_).1
    rintro ⟨template, method, e, ⟨⟨m, hm, rfl⟩, he, -⟩, hcode, -⟩
    cases hm
    cases he
    exact hcode (by decide)

end Contract

end ApiContract
