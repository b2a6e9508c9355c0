/-
**What the depth of a check changes.**

The check of a schema is cut off where schemas are nested too deeply, and there it finds a
violation.  This is safe as long as the violation speaks against the value.  But what a schema
forbids, and what an exclusive choice leaves out, is asked not to be satisfied: inside of it a
violation speaks in favour of the value, and inside of two of them against it again.  A deeper check
agrees with a check wherever that one is not cut off on the wrong side.

Main definitions:

* `Side` — against a value, or in its favour;
* `Schemas.CutsOff` — the check of a schema to a depth is cut off on a side;
* `Schemas.IsPlain` — no schema that can be met forbids or leaves out anything.

Main results:

* `Schemas.check_mono` — **a deeper check agrees where no cut is on the wrong side**;
* `Schemas.Unfolds.not_cutsOff` — where the unfolding of a schema ends, nothing is cut off;
* `Schemas.CutsOff.eq_against` — plain schemas are cut off against values alone;
* `Schemas.violations_mono` — **what a greater depth changes**;
* `Schemas.violations_noLink` — a value that is let through because a check is cut off.
-/

import ApiContract.Pattern.Library
import ApiContract.Proofs.Validation.Origin

set_option relaxedAutoImplicit false
set_option autoImplicit false

namespace ApiContract

/-- The side on which a part of a check stands. -/
inductive Side where
  /-- What is wrong there speaks against the value. -/
  | against
  /-- What is wrong there speaks in favour of the value. -/
  | inFavour
  deriving DecidableEq

/-- The other side. -/
def Side.other : Side → Side
  | .against => .inFavour
  | .inFavour => .against

namespace Schemas

/-- The check of a schema to a depth is cut off on a side: what it demands is on the same side, and
what it excludes is on the other one. -/
inductive CutsOff (schemas : Schemas) : Side → Nat → Schema → Json → Prop
  | here (s : Schema) (v : Json) : CutsOff schemas .against 0 s v
  | demands {side : Side} {n : Nat} {s t u : Schema} {v w : Json}
      (ht : schemas.resolve? s = some t) (ho : t.Opens v) (hu : t.Demands v u w)
      (hcut : CutsOff schemas side n u w) : CutsOff schemas side (n + 1) s v
  | excludes {side : Side} {n : Nat} {s t u : Schema} {v w : Json}
      (ht : schemas.resolve? s = some t) (ho : t.Opens v) (hu : t.Excludes v u w)
      (hcut : CutsOff schemas side n u w) : CutsOff schemas side.other (n + 1) s v

/-- No schema that can be met from a schema forbids or leaves out anything. -/
def IsPlain (schemas : Schemas) (s : Schema) : Prop :=
  ∀ t ∈ schemas.reach s, t.not = none ∧ t.oneOf = []

section

variable {schemas : Schemas} {n m : Nat} {s : Schema} {v : Json} {side : Side}

/-! ### Deeper checks -/

/-- The check to a depth of no schema finds that the schemas are nested too deeply. -/
theorem check_zero_ne_nil [Libraries] : s.check schemas 0 v ≠ [] := by
  simp [Schema.check]

/-- One level of a check: the schema that is meant accepts the value, where the schemas inside are
checked to one level less. -/
theorem check_succ_iff [Libraries] : s.check schemas (n + 1) v = [] ↔
    ∃ t, schemas.resolve? s = some t ∧ t.Accepts (fun u w => u.check schemas n w = []) v :=
  check_succ_eq_nil_iff fun _ _ => Iff.rfl

/-- **A deeper check agrees where no cut is on the wrong side.**  It finds nothing wrong where the
other finds nothing wrong and is not cut off in favour of the value; and the other finds nothing
wrong where it finds nothing wrong, unless it is cut off against the value. -/
theorem check_mono [Libraries] (hle : n ≤ m) :
    (¬ schemas.CutsOff .inFavour n s v → s.check schemas n v = [] → s.check schemas m v = []) ∧
      (¬ schemas.CutsOff .against n s v → s.check schemas m v = [] →
        s.check schemas n v = []) := by
  induction n generalizing m s v with
  | zero => exact ⟨fun _ h => absurd h check_zero_ne_nil, fun h => absurd (.here s v) h⟩
  | succ n ih =>
      obtain ⟨m, rfl⟩ : ∃ k, m = k + 1 := ⟨m - 1, by omega⟩
      have hle' : n ≤ m := by omega
      rw [check_succ_iff, check_succ_iff]
      constructor
      · rintro hcut ⟨t, ht, hn⟩
        refine ⟨t, ht, hn.mono (fun ho u w hu => ?_) (fun ho u w hu => ?_)⟩
        · exact (ih hle').1 fun h => hcut (.demands ht ho hu h)
        · -- what is excluded is on the other side
          exact (ih hle').2 fun h => hcut (.excludes ht ho hu h)
      · rintro hcut ⟨t, ht, hm⟩
        refine ⟨t, ht, hm.mono (fun ho u w hu => ?_) (fun ho u w hu => ?_)⟩
        · exact (ih hle').2 fun h => hcut (.demands ht ho hu h)
        · exact (ih hle').1 fun h => hcut (.excludes ht ho hu h)

/-! ### What is cut off -/

/-- Where the unfolding of a schema ends within the depth of the check, nothing is cut off. -/
theorem Unfolds.not_cutsOff (h : schemas.Unfolds n s v) : ¬ schemas.CutsOff side (n + 1) s v := by
  induction n generalizing s v side with
  | zero =>
      intro hcut
      cases hcut with
      | demands ht ho hu _ =>
          obtain ⟨k, hk, -⟩ := h.inside ht ho hu.inside
          cases hk
      | excludes ht ho hu _ =>
          obtain ⟨k, hk, -⟩ := h.inside ht ho hu.inside
          cases hk
  | succ n ih =>
      intro hcut
      cases hcut with
      | demands ht ho hu hcut =>
          obtain ⟨k, hk, hunfolds⟩ := h.inside ht ho hu.inside
          obtain rfl : n = k := Nat.succ.inj hk
          exact ih hunfolds hcut
      | excludes ht ho hu hcut =>
          obtain ⟨k, hk, hunfolds⟩ := h.inside ht ho hu.inside
          obtain rfl : n = k := Nat.succ.inj hk
          exact ih hunfolds hcut

theorem CutsOff.eq_against_of_mem {root : Schema} (hplain : schemas.IsPlain root)
    (h : schemas.CutsOff side n s v) (hs : s ∈ schemas.reach root) : side = .against := by
  induction h with
  | here s v => rfl
  | demands ht ho hu hcut ih =>
      have hmeant := mem_reach_of_resolveWithin? hs ht
      exact ih (mem_reach_of_mem_children hmeant hu.inside.mem_children)
  | excludes ht ho hu hcut ih =>
      obtain ⟨hnot, honeOf⟩ := hplain _ (mem_reach_of_resolveWithin? hs ht)
      cases hu with
      | oneOf hmem => simp [honeOf] at hmem
      | not hmem => simp [hnot] at hmem

/-- **Plain schemas are cut off against values alone.** -/
theorem CutsOff.eq_against (h : schemas.CutsOff side n s v) (hplain : schemas.IsPlain s) :
    side = .against :=
  h.eq_against_of_mem hplain mem_reach_self

/-! ### The usual depth -/

/-- **What a greater depth changes.**  A value without violations has none at any greater depth
either, unless the check is cut off in favour of the value; and a value with violations has some at
any greater depth, unless the check is cut off against it.  Plain schemas are cut off against values
alone, so that for them no value that is let through is ever found wrong; and where the unfolding of
a schema ends within the depth, nothing is cut off on either side. -/
theorem violations_mono [Libraries] {limit : Nat} (hlimit : maxDepth ≤ limit) :
    (schemas.violations s v = [] →
      s.check schemas (limit + 1) v = [] ∨ schemas.CutsOff .inFavour (maxDepth + 1) s v) ∧
    (s.check schemas (limit + 1) v = [] →
      schemas.violations s v = [] ∨ schemas.CutsOff .against (maxDepth + 1) s v) ∧
    (schemas.IsPlain s → ¬ schemas.CutsOff .inFavour (maxDepth + 1) s v) ∧
    (schemas.Unfolds maxDepth s v → ∀ side, ¬ schemas.CutsOff side (maxDepth + 1) s v) := by
  have hle : maxDepth + 1 ≤ limit + 1 := Nat.succ_le_succ hlimit
  refine ⟨fun h => ?_, fun h => ?_, fun hplain hcut => ?_, fun h _ => h.not_cutsOff⟩
  · by_cases hcut : schemas.CutsOff .inFavour (maxDepth + 1) s v
    · exact Or.inr hcut
    · exact Or.inl ((check_mono hle).1 hcut h)
  · by_cases hcut : schemas.CutsOff .against (maxDepth + 1) s v
    · exact Or.inr hcut
    · exact Or.inl ((check_mono hle).2 hcut h)
  · have hside := hcut.eq_against hplain
    cases hside

/-! ### Objects inside each other -/

/-- A reference to objects that may hold the next one. -/
def toLink : Schema := { reference := some "#/components/schemas/Link" }

/-- These objects. -/
def link : Schema := { type := some (.one .object), properties := [("next", toLink)] }

/-- The schemas that are named: these objects. -/
def links : Schemas := [("Link", link)]

/-- All values but these objects. -/
def noLink : Schema := { not := some toLink }

theorem resolve?_toLink : links.resolve? toLink = some link := rfl

theorem resolve?_noLink : links.resolve? noLink = some noLink := rfl

/-- The last object is checked by itself. -/
theorem check_toLink_zero [Libraries] : toLink.check links (n + 1) (nodes 0) = [] := by
  simp [Schema.check, resolve?_toLink, link, nodes, Json.isNull, Schema.typeFaults,
    TypeRule.types, Json.hasType, Schema.valueViolations, Schema.enumFaults, Schema.constFaults,
    Schema.scalarFaults, Schema.partViolations, Schema.objectFaults, Schema.choiceFaults]

/-- Any other object is checked by the next one. -/
theorem check_toLink_succ [Libraries] {k : Nat} : toLink.check links (n + 1) (nodes (k + 1)) =
    (toLink.check links n (nodes k)).map (.under (.name "next")) := by
  simp [Schema.check, resolve?_toLink, link, nodes, Json.isNull, Schema.typeFaults,
    TypeRule.types, Json.hasType, Schema.valueViolations, Schema.enumFaults, Schema.constFaults,
    Schema.scalarFaults, Schema.partViolations, Schema.objectFaults, Schema.memberViolations,
    Schema.choiceFaults, Dict.get?]

/-- Objects inside each other take as many levels of the check as there are. -/
theorem check_toLink_eq_nil_iff [Libraries] {k : Nat} :
    toLink.check links n (nodes k) = [] ↔ k < n := by
  induction k generalizing n with
  | zero =>
      cases n with
      | zero => simp [check_zero_ne_nil]
      | succ n => simp [check_toLink_zero]
  | succ k ih =>
      cases n with
      | zero => simp [check_zero_ne_nil]
      | succ n =>
          rw [check_toLink_succ, List.map_eq_nil_iff, ih]
          omega

/-- What forbids an object lets it through where the check of the object finds something wrong. -/
theorem check_noLink_object [Libraries] {members : List (String × Json)} :
    noLink.check links (n + 1) (.object members) = [] ↔
      toLink.check links n (.object members) ≠ [] := by
  simp only [Schema.check, resolve?_noLink]
  simp [noLink, Json.isNull, Schema.typeFaults, Schema.valueViolations, Schema.enumFaults,
    Schema.constFaults, Schema.scalarFaults, Schema.partViolations, Schema.objectFaults,
    Schema.memberViolations, Schema.choiceFaults, Schema.matchesInside]

/-- Objects that are forbidden are let through by all checks that are not deeper than they are. -/
theorem check_noLink_eq_nil_iff [Libraries] {k : Nat} :
    noLink.check links (n + 1) (nodes k) = [] ↔ n ≤ k := by
  have hobject : ∃ members, nodes k = .object members := by
    cases k with
    | zero => exact ⟨_, rfl⟩
    | succ k => exact ⟨_, rfl⟩
  have hcheck : toLink.check links n (nodes k) ≠ [] ↔ n ≤ k := by
    rw [Ne, check_toLink_eq_nil_iff]
    omega
  obtain ⟨members, hk⟩ := hobject
  rw [← hcheck, hk]
  exact check_noLink_object

/-- **A value that is let through because a check is cut off.**  There are so many objects inside
each other that the check of what is forbidden is cut off, and what it finds there speaks in favour
of the value.  Every deeper check finds the value forbidden. -/
theorem violations_noLink : links.violations noLink (nodes 64) = [] ∧
    ∀ limit, maxDepth < limit → noLink.check links (limit + 1) (nodes 64) ≠ [] := by
  constructor
  · exact check_noLink_eq_nil_iff.2 (by decide)
  · intro limit hlimit h
    have hle := check_noLink_eq_nil_iff.1 h
    simp only [maxDepth] at hlimit
    omega

theorem isPlain_toLink : links.IsPlain toLink := by
  simp [IsPlain, reach, Schema.walk_eq, Schema.children, Schema.extraSchemas, links, link, toLink]

/-- At a depth of a hundred: the objects are plain, so that a check of them is cut off against them
alone; and the check of what forbids them is cut off in their favour. -/
theorem violations_mono_links : maxDepth ≤ 100 ∧
    (links.violations toLink (nodes 60) = [] ∧ toLink.check links 101 (nodes 60) = []) ∧
    (toLink.check links 101 (nodes 70) = [] ∧
      links.CutsOff .against (maxDepth + 1) toLink (nodes 70)) ∧
    (links.violations noLink (nodes 64) = [] ∧
      links.CutsOff .inFavour (maxDepth + 1) noLink (nodes 64)) := by
  have hlimit : maxDepth ≤ 100 := by decide
  refine ⟨hlimit, ?_, ?_, ?_⟩
  · obtain ⟨hmono, -, hplain, -⟩ := violations_mono hlimit
    have hnil : links.violations toLink (nodes 60) = [] := check_toLink_eq_nil_iff.2 (by decide)
    exact ⟨hnil, (hmono hnil).resolve_right (hplain isPlain_toLink)⟩
  · have hnil : toLink.check links 101 (nodes 70) = [] := check_toLink_eq_nil_iff.2 (by decide)
    have hne : links.violations toLink (nodes 70) ≠ [] := mt check_toLink_eq_nil_iff.1 (by decide)
    exact ⟨hnil, ((violations_mono hlimit).2.1 hnil).resolve_left hne⟩
  · have hnil : links.violations noLink (nodes 64) = [] := check_noLink_eq_nil_iff.2 (by decide)
    have hne : noLink.check links 101 (nodes 64) ≠ [] := mt check_noLink_eq_nil_iff.1 (by decide)
    exact ⟨hnil, ((violations_mono hlimit).1 hnil).resolve_left hne⟩

end

end Schemas

end ApiContract
