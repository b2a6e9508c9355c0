/-
**Searches see the whole tree of causes.**

What stands behind a report is a tree: a report wraps a cause, reports together have their members,
a fault may come from a failure, and something foreign may have a cause of its own.  A search goes
along the causes and into the members, and leaves them at the first hit.  It finds the first cause
in the order in which each cause comes before what stands behind it, and of reports together each
one comes with all behind it before the next.

Main definitions:

* `Cause.behind` — what stands directly behind a cause;
* `Cause.Contains` — one cause is another, or stands behind it at any depth;
* `Cause.walk` — a cause and all that stands behind it, in order.

Main results:

* `Cause.mem_walk_iff` — the walk of a cause visits what the cause contains;
* `Cause.find?_eq_findSome?_walk` — a search goes along the walk;
* `Cause.hasClass_iff` — a class is found exactly if a report of it is there;
* `Summary.sum_count` — each report of a summary counts under one class;
* `Cause.searches_see_all` — **searches see the whole tree**.
-/

import ApiContract.Session.Report

set_option relaxedAutoImplicit false
set_option autoImplicit false

namespace ApiContract

namespace Cause

/-! ### The tree of causes -/

/-- What stands directly behind a cause, in order. -/
def behind : Cause → List Cause
  | .fault f => (f.failure?.map .failure).toList
  | .failure _ => []
  | .foreign _ => []
  | .foreignFrom _ source => [source]
  | .report r => [r.cause]
  | .joined rs => rs.map .report

/-- One cause is another, or stands behind it at any depth. -/
inductive Contains : Cause → Cause → Prop where
  /-- A cause contains itself. -/
  | self (c : Cause) : Contains c c
  /-- A cause contains what is contained in one that stands directly behind it. -/
  | behind {c d e : Cause} (hd : d ∈ c.behind) (he : Contains d e) : Contains c e

/-- What stands behind a cause is smaller. -/
theorem sizeOf_lt_of_mem_behind {c d : Cause} (h : d ∈ c.behind) : sizeOf d < sizeOf c := by
  cases c with
  | fault f =>
      obtain ⟨g, hg, rfl⟩ := Option.map_eq_some_iff.1 (Option.mem_toList.1 h)
      cases f with
      | undocumented | uncovered => cases hg
      | requestInvalid | responseInvalid =>
          cases hg
          simp only [fault.sizeOf_spec, failure.sizeOf_spec, Fault.requestInvalid.sizeOf_spec,
            Fault.responseInvalid.sizeOf_spec]
          omega
  | failure | foreign => cases h
  | foreignFrom message source =>
      obtain rfl := List.mem_singleton.1 h
      simp only [foreignFrom.sizeOf_spec]
      omega
  | report r =>
      obtain rfl := List.mem_singleton.1 h
      obtain ⟨k, c⟩ := r
      simp only [Report.cause, report.sizeOf_spec, Report.mk.sizeOf_spec]
      omega
  | joined rs =>
      obtain ⟨r, hr, rfl⟩ := List.mem_map.1 h
      have := List.sizeOf_lt_of_mem hr
      simp only [report.sizeOf_spec, joined.sizeOf_spec]
      omega

/-- A cause and all that stands behind it: each cause before what stands behind it, and what stands
behind one member before the next member. -/
def walk (c : Cause) : List Cause :=
  c :: c.behind.attach.flatMap fun d => walk d.1
termination_by sizeOf c
decreasing_by exact sizeOf_lt_of_mem_behind d.2

/-- A walk visits a cause, then walks through what stands directly behind it. -/
theorem walk_eq (c : Cause) : c.walk = c :: c.behind.flatMap walk := by
  rw [walk]
  simp [List.flatMap_subtype]

/-- The walk of a cause visits what the cause contains. -/
theorem mem_walk_iff {c e : Cause} : e ∈ c.walk ↔ c.Contains e := by
  constructor
  · intro h
    induction c using walk.induct with
    | case1 c ih =>
        rw [walk_eq, List.mem_cons, List.mem_flatMap] at h
        rcases h with rfl | ⟨d, hd, he⟩
        · exact .self _
        · exact .behind hd (ih ⟨d, hd⟩ he)
  · intro h
    induction h with
    | self c =>
        rw [walk_eq]
        exact List.mem_cons_self
    | behind hd _ ih =>
        rw [walk_eq]
        exact List.mem_cons_of_mem _ (List.mem_flatMap.2 ⟨_, hd, ih⟩)

/-! ### Searches -/

section

variable {α : Type} (p : Cause → Option α)

/-- Among reports together, one is searched after the other. -/
theorem findAmong?_eq (rs : List Report) :
    Report.findAmong? p rs = (rs.map Cause.report).findSome? (Cause.find? p) := by
  induction rs with
  | nil => rfl
  | cons r rs ih =>
      rw [Report.findAmong?, ih, List.map_cons, List.findSome?_cons, Cause.find?]
      cases Report.find? p r <;> rfl

/-- A search looks at a cause, then searches what stands directly behind it. -/
theorem find?_eq (c : Cause) : c.find? p = (p c).or (c.behind.findSome? (find? p)) := by
  cases c with
  | fault f => cases f <;> simp [find?, behind, Fault.failure?]
  | failure f => simp [find?, behind]
  | foreign message => simp [find?, behind]
  | foreignFrom message source => simp [find?, behind]
  | report r =>
      obtain ⟨k, c⟩ := r
      simp [find?, Report.find?, behind, Report.cause]
  | joined rs => rw [find?, findAmong?_eq, behind]

/-- Searching one cause after the other goes along their walks. -/
theorem findSome?_flatMap_walk {cs : List Cause}
    (h : ∀ d ∈ cs, find? p d = d.walk.findSome? p) :
    (cs.flatMap walk).findSome? p = cs.findSome? (find? p) := by
  induction cs with
  | nil => rfl
  | cons d cs ih =>
      rw [List.forall_mem_cons] at h
      rw [List.flatMap_cons, List.findSome?_append, ih h.2, ← h.1, List.findSome?_cons]
      cases find? p d <;> rfl

/-- A search goes along the walk and stops at the first hit. -/
theorem find?_eq_findSome?_walk (c : Cause) : c.find? p = c.walk.findSome? p := by
  induction c using walk.induct with
  | case1 c ih =>
      have hbehind := findSome?_flatMap_walk p fun d hd => ih ⟨d, hd⟩
      rw [find?_eq, walk_eq, List.findSome?_cons, hbehind]
      cases p c <;> rfl

/-- Nothing is found exactly if there is nothing to be found in the whole tree. -/
theorem find?_eq_none_iff (c : Cause) : c.find? p = none ↔ ∀ d, c.Contains d → p d = none := by
  rw [find?_eq_findSome?_walk, List.findSome?_eq_none_iff]
  simp only [mem_walk_iff]

end

/-- A class is found exactly if a report of it is there, at whatever depth. -/
theorem hasClass_iff {k : ReportClass} {c : Cause} :
    c.hasClass k = true ↔ ∃ r : Report, c.Contains (.report r) ∧ r.kind = k := by
  rw [hasClass, find?_eq_findSome?_walk, List.findSome?_isSome_iff]
  constructor
  · rintro ⟨d, hd, hclass⟩
    cases d with
    | report r =>
        refine ⟨r, mem_walk_iff.1 hd, ?_⟩
        simpa [report?, Option.isSome_filter] using hclass
    | _ => cases hclass
  · rintro ⟨r, hr, hkind⟩
    exact ⟨.report r, mem_walk_iff.2 hr, by simp [report?, Option.filter, hkind]⟩

end Cause

/-! ### Reports together -/

namespace Summary

/-- Each report of a summary counts under one class. -/
theorem sum_count (s : Summary) :
    s.count .notChecked + s.count .undocumented + s.count .requestInvalid +
      s.count .responseInvalid = s.members.length := by
  simp only [count]
  induction s.members with
  | nil => rfl
  | cons r rs ih =>
      rw [List.length_cons, ← ih]
      cases hkind : r.kind <;> simp [hkind] <;> omega

/-- What counts under a class is found. -/
theorem hasClass_of_count_pos {s : Summary} {k : ReportClass} (h : 0 < s.count k) :
    s.cause.hasClass k = true := by
  obtain ⟨r, hr⟩ := List.exists_mem_of_length_pos h
  obtain ⟨hmem, hkind⟩ := List.mem_filter.1 hr
  refine Cause.hasClass_iff.2 ⟨r, ?_, of_decide_eq_true hkind⟩
  exact .behind (List.mem_map_of_mem hmem) (.self _)

end Summary

/-- **Searches see the whole tree.**  A class is found in a tree of causes exactly if a report of it
is there, at whatever depth.  A search for causes of some kind answers with the first of them in the
order of the walk, which goes through the whole tree, each cause before those behind it; it answers
nothing exactly if there is none.  What counts under a class among reports together is found there,
and each of them counts under one class. -/
theorem Cause.searches_see_all :
    (∀ (k : ReportClass) (c : Cause),
      c.hasClass k = true ↔ ∃ r : Report, c.Contains (.report r) ∧ r.kind = k) ∧
    (∀ (α : Type) (p : Cause → Option α) (c : Cause),
      c.walk = c :: c.behind.flatMap walk ∧
      (∀ d, d ∈ c.walk ↔ c.Contains d) ∧
      (∀ a, c.find? p = some a ↔ ∃ before d after, c.walk = before ++ d :: after ∧
        p d = some a ∧ ∀ e ∈ before, p e = none) ∧
      (c.find? p = none ↔ ∀ d, c.Contains d → p d = none)) ∧
    ∀ s : Summary, (∀ k, 0 < s.count k → s.cause.hasClass k = true) ∧
      s.count .notChecked + s.count .undocumented + s.count .requestInvalid +
        s.count .responseInvalid = s.members.length := by
  refine ⟨fun k c => hasClass_iff, fun α p c => ⟨walk_eq c, fun d => mem_walk_iff, fun a => ?_,
    find?_eq_none_iff p c⟩, fun s => ⟨fun k => Summary.hasClass_of_count_pos, s.sum_count⟩⟩
  rw [find?_eq_findSome?_walk]
  exact List.findSome?_eq_some_iff

end ApiContract
