/-
**Reports and coverage add up.**

Whatever is asked of a table is read off its rows: which coordinates are there, which of them are
checked, which are not, and how many.  In a table whose coordinates stand in strict order no two
rows are about one coordinate, so that these answers agree.  Every table that a session can reach is
of this kind, and no report in the ledger is about a coordinate that was not checked; the reports
about such coordinates are those that the table adds at the end.

Main definitions:

* `Contract.Balanced` — reports, coverage and summary of a session agree.

Main results:

* `Coverage.isChecked_of_mem_rows`, `Coverage.mem_unchecked_iff` — a row and the answer about its
  coordinate;
* `Coverage.length_unchecked_add_checkedCount` — a coordinate is checked or it is not;
* `Contract.kind_of_mem_reports` — no exchange is reported as a coordinate that was not checked;
* `Contract.SumOf.countP_reports` — there are as many such reports as unchecked coordinates;
* `Contract.balanced_run` — **reports and coverage add up in every run**.
-/

import ApiContract.Proofs.Session.Effect
import ApiContract.Proofs.Session.NestedTable

set_option relaxedAutoImplicit false
set_option autoImplicit false

namespace ApiContract

/-! ### Rows and answers -/

namespace Coverage

section

variable {t : Coverage} {k : Coordinate}

theorem Ordered.nodup {cs : List Coordinate} (h : Ordered cs) : cs.Nodup := by
  refine h.imp fun {a b} hlt => ?_
  rintro rfl
  rw [@Std.ReflCmp.compare_self _ Coordinate.order] at hlt
  cases hlt

/-- What a table says of the coordinate of a row is the flag of the row. -/
theorem isChecked_of_mem_rows (h : t.coordinates.Nodup) {row : Coordinate × Bool}
    (hrow : row ∈ t.rows) : t.isChecked row.1 = row.2 := by
  obtain ⟨rows⟩ := t
  induction rows with
  | nil => cases hrow
  | cons first rows ih =>
      rw [coordinates, List.map_cons, List.nodup_cons] at h
      rw [isChecked, get?_cons]
      rcases List.mem_cons.1 hrow with rfl | hrow
      · rw [if_pos rfl]
        rfl
      · have hne : row.1 ≠ first.1 := fun heq => h.1 (heq ▸ List.mem_map_of_mem hrow)
        rw [if_neg hne]
        exact ih h.2 hrow

/-- The unchecked coordinates are those that are there and not checked. -/
theorem mem_unchecked_iff (h : t.coordinates.Nodup) :
    k ∈ t.unchecked ↔ t.contains k = true ∧ t.isChecked k = false := by
  rw [contains_iff]
  constructor
  · intro hk
    obtain ⟨row, hrow, rfl⟩ := List.mem_map.1 hk
    obtain ⟨hmem, hflag⟩ := List.mem_filter.1 hrow
    refine ⟨List.mem_map_of_mem hmem, ?_⟩
    rw [isChecked_of_mem_rows h hmem]
    simpa using hflag
  · rintro ⟨hk, hflag⟩
    obtain ⟨row, hrow, rfl⟩ := List.mem_map.1 hk
    rw [isChecked_of_mem_rows h hrow] at hflag
    exact List.mem_map_of_mem (List.mem_filter.2 ⟨hrow, by simp [hflag]⟩)

/-- The checked coordinates are counted once each. -/
theorem checkedCount_eq (h : t.coordinates.Nodup) :
    t.checkedCount = t.coordinates.countP t.isChecked := by
  rw [checkedCount, ← List.countP_eq_length_filter, coordinates, List.countP_map]
  refine List.countP_congr fun row hrow => ?_
  rw [Function.comp_apply, isChecked_of_mem_rows h hrow]

/-- A coordinate is checked or it is not. -/
theorem length_unchecked_add_checkedCount (t : Coverage) :
    t.unchecked.length + t.checkedCount = t.size := by
  rw [unchecked, List.length_map, checkedCount, size, ← List.countP_eq_length_filter,
    ← List.countP_eq_length_filter, Nat.add_comm]
  simpa using (List.length_eq_countP_add_countP Prod.snd (l := t.rows)).symm

end

end Coverage

/-! ### Sessions -/

namespace Summary

variable {rs : List Report}

theorem ofList?_eq_none_iff : ofList? rs = none ↔ rs = [] := by
  cases rs <;> simp [ofList?]

theorem members_of_ofList? {summary : Summary} (h : ofList? rs = some summary) :
    summary.members = rs := by
  cases rs with
  | nil => cases h
  | cons r rs =>
      cases h
      rfl

end Summary

variable [Libraries]

namespace Contract

/-- Reports, coverage and summary of a session agree. -/
structure Balanced (c : Contract) (s : Session) : Prop where
  /-- The reports are those in the ledger, followed by one for each coordinate that is not checked,
  unless a part of the coordinates is enough. -/
  reports_eq : c.reports s = s.ledger ++
    if c.policy.partialCoverage then []
    else s.coverage.unchecked.map fun k => .ofFault (.uncovered k)
  /-- The table has the coordinates of the specification. -/
  contains_iff : ∀ k, s.coverage.contains k = true ↔
    k ∈ c.specification.coordinates c.policy.internalErrors
  /-- What is not checked is there, and is known not to be checked. -/
  mem_unchecked_iff : ∀ k, k ∈ s.coverage.unchecked ↔
    s.coverage.contains k = true ∧ s.coverage.isChecked k = false
  /-- What is not checked stands in strict order. -/
  ordered : Coverage.Ordered s.coverage.unchecked
  /-- No coordinate comes twice. -/
  nodup : s.coverage.unchecked.Nodup
  /-- The number of checked coordinates is that of the coordinates known to be checked. -/
  checkedCount_eq : s.coverage.checkedCount =
    s.coverage.coordinates.countP s.coverage.isChecked
  /-- No more coordinates are checked than there are. -/
  checkedCount_le : s.coverage.checkedCount ≤ s.coverage.size
  /-- The others are those that are reported. -/
  count_notChecked : (c.reports s).countP (·.kind = .notChecked) =
    if c.policy.partialCoverage then 0 else s.coverage.size - s.coverage.checkedCount
  /-- No coordinate that is reported is checked. -/
  isChecked_of_mem : ∀ k, Report.ofFault (.uncovered k) ∈ c.reports s →
    s.coverage.isChecked k = false
  /-- There is a summary exactly if there are reports. -/
  summary?_eq_none_iff : c.summary? s = none ↔ c.reports s = []
  /-- Its members are the reports. -/
  members_eq : ∀ summary, c.summary? s = some summary → summary.members = c.reports s

section

variable {c : Contract} {s : Session} {t : Coverage} {x : Http.Exchange}

/-- No exchange is reported as a coordinate that was not checked. -/
theorem kind_of_mem_reports {r : Report} (h : r ∈ (c.outcome t x).reports) :
    r.kind ≠ .notChecked := by
  cases ho : c.outcome t x with
  | ignored =>
      rw [ho] at h
      cases h
  | undocumented fault =>
      rw [ho, of_outcome_eq_undocumented ho, Outcome.reports, List.mem_singleton] at h
      rw [h]
      rintro ⟨⟩
  | checked k reports =>
      rw [ho] at h
      rcases exists_of_mem_checked ho h with ⟨f, rfl⟩ | ⟨f, rfl⟩ <;> rintro ⟨⟩

theorem SumOf.kind_of_mem_ledger {xs : List Http.Exchange} (h : SumOf c s xs) {r : Report}
    (hr : r ∈ s.ledger) : r.kind ≠ .notChecked := by
  rw [h.ledger_eq] at hr
  obtain ⟨x, -, hx⟩ := List.mem_flatMap.1 hr
  rw [ledger_record_start] at hx
  exact kind_of_mem_reports hx

/-- The number of reports about coordinates is that of the unchecked ones: the ledger has no such
report, and every other report is one. -/
theorem SumOf.countP_reports {xs : List Http.Exchange} (h : SumOf c s xs) :
    (c.reports s).countP (·.kind = .notChecked) =
      if c.policy.partialCoverage then 0 else s.coverage.unchecked.length := by
  have hledger : s.ledger.countP (·.kind = .notChecked) = 0 := by
    rw [List.countP_eq_zero]
    intro r hr
    simpa using h.kind_of_mem_ledger hr
  have huncovered : ∀ ks : List Coordinate,
      (ks.map fun k => Report.ofFault (.uncovered k)).countP (·.kind = .notChecked) =
        ks.length := by
    intro ks
    rw [List.countP_map, List.countP_eq_length]
    simp [Report.ofFault, Report.kind]
  rw [reports_eq, List.countP_append, hledger, Nat.zero_add]
  split
  · rfl
  · exact huncovered _

/-- A coordinate that is reported is unchecked. -/
theorem SumOf.mem_unchecked_of_mem_reports {xs : List Http.Exchange} (h : SumOf c s xs)
    {k : Coordinate} (hk : Report.ofFault (.uncovered k) ∈ c.reports s) :
    k ∈ s.coverage.unchecked := by
  rw [reports_eq, List.mem_append] at hk
  rcases hk with hk | hk
  · exact absurd rfl (h.kind_of_mem_ledger hk)
  · split at hk
    · cases hk
    · obtain ⟨k', hk', heq⟩ := List.mem_map.1 hk
      cases heq
      exact hk'

theorem SumOf.ordered {xs : List Http.Exchange} (h : SumOf c s xs) :
    Coverage.Ordered s.coverage.coordinates := by
  rw [h.coordinates_eq]
  exact Coverage.ordered_load _ _

/-- **Reports and coverage add up in every run**, and maps inside each other to which the same calls
are made give the same answers as the table. -/
theorem balanced_run (c : Contract) (calls : List Call) :
    c.Balanced (c.run c.start calls) ∧
      (c.mapsAfter calls).Shows (c.run c.start calls).coverage := by
  refine ⟨?_, shows_mapsAfter c calls⟩
  have h := sumOf_run c calls
  generalize c.run c.start calls = s at h
  have hnodup : s.coverage.coordinates.Nodup := h.ordered.nodup
  have hunchecked : Coverage.Ordered s.coverage.unchecked :=
    h.ordered.sublist s.coverage.unchecked_sublist
  have hcount := s.coverage.length_unchecked_add_checkedCount
  constructor
  case reports_eq => exact reports_eq c s
  case contains_iff =>
    intro k
    rw [Coverage.contains_iff, h.coordinates_eq]
    exact Coverage.mem_coordinates_load
  case mem_unchecked_iff => exact fun k => Coverage.mem_unchecked_iff hnodup
  case ordered => exact hunchecked
  case nodup => exact hunchecked.nodup
  case checkedCount_eq => exact Coverage.checkedCount_eq hnodup
  case checkedCount_le => omega
  case count_notChecked =>
    have hunchecked : s.coverage.unchecked.length =
        s.coverage.size - s.coverage.checkedCount := by omega
    rw [h.countP_reports, hunchecked]
  case isChecked_of_mem =>
    intro k hk
    exact ((Coverage.mem_unchecked_iff hnodup).1 (h.mem_unchecked_of_mem_reports hk)).2
  case summary?_eq_none_iff => exact Summary.ofList?_eq_none_iff
  case members_eq =>
    intro summary hsummary
    exact Summary.members_of_ofList? hsummary

end

end Contract

end ApiContract
