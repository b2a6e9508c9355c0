/-
**Where violations come from.**

The check of a schema goes on with the schemas inside the one that is meant, for the value itself or
for its parts.  A violation that it reports is either a fault of the value, or a fault of a schema
that it meets on its way: a reference that leads nowhere, or a pattern that is none.  All schemas
that it meets are inside the schema that is checked or inside named schemas.

Main definitions:

* `Violation.Reason.IsOfSchema` — the reasons that tell of a fault in a schema;
* `Schemas.Faulty` — a schema has the fault that a reason tells of;
* `Schemas.Meets` — the check of a schema for a value comes to a schema for a value.

Main results:

* `Schemas.mem_check_succ` — what one level of the check reports;
* `Schemas.exists_meets_of_mem_check` — **a fault of a schema is reported where the check meets that
  schema**;
* `Schemas.Meets.mem_reach` — the check meets no other schemas than those that can be reached.
-/

import ApiContract.Proofs.Validation.Coercion
import ApiContract.Proofs.Validation.Satisfaction

set_option relaxedAutoImplicit false
set_option autoImplicit false

namespace ApiContract

open Violation (Reason here under)

/-! ### Faults of values and faults of schemas -/

/-- The reasons that tell of a fault in a schema: a reference that leads nowhere, and a pattern that
is none.  All others tell of the value, or of the depth of the check. -/
def Violation.Reason.IsOfSchema : Reason → Prop
  | .unresolvable _ | .invalidPattern _ _ => True
  | _ => False

/-- No reason among some tells of a fault in a schema. -/
def Violation.OfValue (rs : List Reason) : Prop := ∀ r ∈ rs, ¬ r.IsOfSchema

namespace Violation.OfValue

variable {rs rs' : List Reason} {r : Reason}

theorem nil : OfValue [] := List.forall_mem_nil _

theorem singleton (h : ¬ r.IsOfSchema) : OfValue [r] := List.forall_mem_singleton.2 h

theorem append (h : OfValue rs) (h' : OfValue rs') : OfValue (rs ++ rs') :=
  List.forall_mem_append.2 ⟨h, h'⟩

/-- A reason that is given under a condition, or under its contrary. -/
theorem ite {p : Prop} [Decidable p] (h : OfValue rs) (h' : OfValue rs') :
    OfValue (if p then rs else rs') := by
  split
  · exact h
  · exact h'

end Violation.OfValue

namespace Schema

open Violation.OfValue (nil singleton append ite)

section

variable {t : Schema} {v : Json} {x : Float}

theorem ofValue_typeFaults : Violation.OfValue (t.typeFaults v) := by
  unfold typeFaults
  split
  · exact ite nil (singleton id)
  · exact nil

theorem ofValue_enumFaults : Violation.OfValue (t.enumFaults v) := by
  unfold enumFaults
  split
  · exact ite nil (singleton id)
  · exact nil

theorem ofValue_constFaults : Violation.OfValue (t.constFaults v) := by
  unfold constFaults
  split
  · exact ite nil (singleton id)
  · exact nil

theorem ofValue_minimumFaults : Violation.OfValue (t.minimumFaults x) := by
  unfold minimumFaults
  split
  · exact ite (ite (singleton id) nil) (ite (singleton id) nil)
  · exact nil

theorem ofValue_maximumFaults : Violation.OfValue (t.maximumFaults x) := by
  unfold maximumFaults
  split
  · exact ite (ite (singleton id) nil) (ite (singleton id) nil)
  · exact nil

theorem ofValue_exclusiveFaults : Violation.OfValue (t.exclusiveFaults x) := by
  unfold exclusiveFaults
  refine append ?_ ?_
  · split
    · exact ite (singleton id) nil
    · exact nil
  · split
    · exact ite (singleton id) nil
    · exact nil

theorem ofValue_multipleFaults : Violation.OfValue (t.multipleFaults x) := by
  unfold multipleFaults
  split
  · exact ite nil (singleton id)
  · exact nil

theorem ofValue_numberFaults : Violation.OfValue (t.numberFaults x) := by
  have hint32 : Violation.OfValue (t.int32Faults x) := ite (singleton id) nil
  exact (((ofValue_minimumFaults.append ofValue_maximumFaults).append
    ofValue_exclusiveFaults).append ofValue_multipleFaults).append hint32

theorem ofValue_arrayFaults {items : List Json} : Violation.OfValue (t.arrayFaults items) := by
  refine append (append ?_ ?_) (ite (singleton id) nil)
  · split
    · exact ite (singleton id) nil
    · exact nil
  · split
    · exact ite (singleton id) nil
    · exact nil

theorem ofValue_objectFaults {members : List (String × Json)} :
    Violation.OfValue (t.objectFaults members) := by
  refine append (append ?_ ?_) ?_
  · intro r hr
    obtain ⟨name, -, rfl⟩ := List.mem_map.1 hr
    exact id
  · split
    · exact ite (singleton id) nil
    · exact nil
  · split
    · exact ite (singleton id) nil
    · exact nil

theorem ofValue_choiceFaults {inside : Schema → Json → List Violation} :
    Violation.OfValue (t.choiceFaults inside v) := by
  refine append (append (ite (singleton id) nil) (ite (singleton id) nil)) ?_
  split
  · exact ite (singleton id) nil
  · exact nil

/-- The only fault of a schema among those of a string is a pattern that is none. -/
theorem exists_pattern_of_mem_stringFaults [Libraries] {text : String} {r : Reason}
    (h : r ∈ t.stringFaults text) (hr : r.IsOfSchema) :
    ∃ p fault, t.pattern = some p ∧ Libraries.compilePattern p = .error fault ∧
      r = .invalidPattern p fault := by
  rw [stringFaults, List.mem_append, List.mem_append, List.mem_append] at h
  rcases h with ((h | h) | h) | h
  · split at h
    · exact absurd hr (ite (singleton id) nil r h)
    · cases h
  · split at h
    · exact absurd hr (ite (singleton id) nil r h)
    · cases h
  · unfold patternFaults at h
    split at h
    · rename_i p hp
      split at h
      · split at h
        · cases h
        · rw [List.mem_singleton.1 h] at hr
          exact hr.elim
      · rename_i fault hfault
        exact ⟨p, fault, hp, hfault, List.mem_singleton.1 h⟩
    · cases h
  · split at h
    · exact absurd hr (ite nil (singleton id) r h)
    · cases h

end

/-! ### One level of the check -/

section

variable {inside : Schema → Json → List Violation} {t s : Schema} {v : Json} {x : Violation}

theorem exists_of_mem_itemViolations {n : Nat} {items : List Json}
    (h : x ∈ itemViolations inside s n items) :
    ∃ w ∈ items, ∃ y ∈ inside s w, y.reason = x.reason := by
  induction items generalizing n with
  | nil => cases h
  | cons w items ih =>
      rw [itemViolations, List.mem_append] at h
      rcases h with h | h
      · obtain ⟨y, hy, rfl⟩ := List.mem_map.1 h
        exact ⟨w, List.mem_cons_self, y, hy, rfl⟩
      · obtain ⟨u, hu, hy⟩ := ih h
        exact ⟨u, List.mem_cons_of_mem w hu, hy⟩

/-- A fault of a schema among the violations of a value comes from the pattern of the schema that is
meant, or from a schema inside it. -/
theorem exists_inside_of_mem_valueViolations [Libraries] (h : x ∈ t.valueViolations inside v)
    (hx : x.reason.IsOfSchema) :
    (∃ p fault, t.pattern = some p ∧ Libraries.compilePattern p = .error fault ∧
      x.reason = .invalidPattern p fault) ∨
    ∃ u w, t.Inside v u w ∧ ∃ y ∈ inside u w, y.reason = x.reason := by
  -- what is said of the value itself is no fault of a schema, but for its pattern
  have hvalue : ∀ rs : List Reason, Violation.OfValue rs → x ∉ rs.map here := by
    intro rs hrs hmem
    obtain ⟨r, hr, rfl⟩ := List.mem_map.1 hmem
    exact hrs r hr hx
  rw [valueViolations, List.mem_append, List.mem_append, List.mem_append] at h
  rcases h with ((h | h) | h) | h
  · rw [List.map_append, List.map_append, List.mem_append, List.mem_append] at h
    rcases h with (h | h) | h
    · exact absurd h (hvalue _ ofValue_enumFaults)
    · exact absurd h (hvalue _ ofValue_constFaults)
    · cases v with
      | string text =>
          obtain ⟨r, hr, rfl⟩ := List.mem_map.1 h
          exact Or.inl (exists_pattern_of_mem_stringFaults hr hx)
      | number n => exact absurd h (hvalue _ ofValue_numberFaults)
      | null => cases h
      | bool b => cases h
      | array items => cases h
      | object members => cases h
  · cases v with
    | array items =>
        rw [partViolations, List.mem_append] at h
        rcases h with h | h
        · exact absurd h (hvalue _ ofValue_arrayFaults)
        · split at h
          · rename_i item hitem
            obtain ⟨w, hw, hy⟩ := exists_of_mem_itemViolations h
            exact Or.inr ⟨item, w, .item hitem hw, hy⟩
          · cases h
    | object members =>
        rw [partViolations, List.mem_append] at h
        rcases h with h | h
        · exact absurd h (hvalue _ ofValue_objectFaults)
        · obtain ⟨m, hm, h⟩ := List.mem_flatMap.1 h
          obtain ⟨y, hy, rfl⟩ := List.mem_map.1 h
          split at hy
          · rename_i p hp
            exact Or.inr ⟨p, m.2, .property hm hp, y, hy, rfl⟩
          · rename_i hp
            split at hy
            · rw [List.mem_singleton.1 hy] at hx
              exact hx.elim
            · rename_i extra hextra
              exact Or.inr ⟨extra, m.2, .extra hm hp hextra, y, hy, rfl⟩
            · cases hy
    | null => cases h
    | bool b => cases h
    | number n => cases h
    | string text => cases h
  · obtain ⟨u, hu, h⟩ := List.mem_flatMap.1 h
    exact Or.inr ⟨u, v, .allOf hu, x, h, rfl⟩
  · exact absurd h (hvalue _ ofValue_choiceFaults)

/-- The schemas that a schema speaks of are inside it. -/
theorem Inside.mem_children {u : Schema} {w : Json} (h : t.Inside v u w) : u ∈ t.children := by
  have hextra : ∀ extra, t.additionalProperties = some (.matching extra) →
      extra ∈ extraSchemas t.additionalProperties := by
    intro extra h
    rw [h]
    exact List.mem_singleton.2 rfl
  simp only [children, List.mem_append, List.mem_map, Option.mem_toList]
  cases h with
  | item hs _ => exact .inl (.inl (.inl (.inl (.inr hs))))
  | property _ hs =>
      exact .inl (.inl (.inl (.inl (.inl (.inl ⟨_, Dict.mem_of_get? hs, rfl⟩)))))
  | extra _ _ hs => exact .inl (.inl (.inl (.inl (.inl (.inr (hextra _ hs))))))
  | allOf hs => exact .inl (.inr hs)
  | anyOf hs => exact .inl (.inl (.inr hs))
  | oneOf hs => exact .inl (.inl (.inl (.inr hs)))
  | not hs => exact .inr hs

end

end Schema

/-! ### The whole check -/

namespace Schemas

variable [Libraries]

/-- A schema has the fault that a reason tells of: it leads nowhere, or the schema that it stands
for has a pattern that is none. -/
inductive Faulty (schemas : Schemas) (t : Schema) : Reason → Prop
  | unresolvable (h : schemas.resolve? t = none) :
      Faulty schemas t (.unresolvable (t.reference.getD ""))
  | invalidPattern {u : Schema} {p fault : String}
      (h : schemas.resolve? t = some u) (hp : u.pattern = some p)
      (hfault : Libraries.compilePattern p = .error fault) :
      Faulty schemas t (.invalidPattern p fault)

/-- The check of a schema for a value comes to a schema for a value: to the same ones, or to those
that it meets from inside the schema that is meant. -/
inductive Meets (schemas : Schemas) : Schema → Json → Schema → Json → Prop
  | refl (s : Schema) (v : Json) : Meets schemas s v s v
  | inside {s t u s' : Schema} {v w v' : Json} (h : schemas.resolve? s = some t)
      (hu : t.Inside v u w) (hs : Meets schemas u w s' v') : Meets schemas s v s' v'

section

variable {schemas : Schemas} {n : Nat} {s s' : Schema} {v v' : Json} {x : Violation}

/-- What one level of the check reports of faults in schemas: the schema itself has the fault, or a
schema inside the one that is meant reports it. -/
theorem mem_check_succ (h : x ∈ s.check schemas (n + 1) v) (hx : x.reason.IsOfSchema) :
    schemas.Faulty s x.reason ∨ ∃ t u w, schemas.resolve? s = some t ∧ t.Inside v u w ∧
      ∃ y ∈ u.check schemas n w, y.reason = x.reason := by
  rw [Schema.check] at h
  split at h
  · rename_i hnone
    rw [List.mem_singleton.1 h]
    exact Or.inl (.unresolvable hnone)
  · rename_i t ht
    split at h
    · cases h
    · split at h
      · obtain ⟨r, hr, rfl⟩ := List.mem_map.1 h
        exact absurd hx (Schema.ofValue_typeFaults r hr)
      · rcases Schema.exists_inside_of_mem_valueViolations h hx with
          ⟨p, fault, hp, hfault, hreason⟩ | ⟨u, w, hu, hy⟩
        · rw [hreason]
          exact Or.inl (.invalidPattern ht hp hfault)
        · exact Or.inr ⟨t, u, w, ht, hu, hy⟩

/-- **A fault of a schema is reported where the check meets that schema.** -/
theorem exists_meets_of_mem_check (h : x ∈ s.check schemas n v) (hx : x.reason.IsOfSchema) :
    ∃ t w, schemas.Meets s v t w ∧ schemas.Faulty t x.reason := by
  induction n generalizing s v x with
  | zero =>
      rw [Schema.check, List.mem_singleton] at h
      rw [h] at hx
      exact hx.elim
  | succ n ih =>
      rcases mem_check_succ h hx with hfaulty | ⟨t, u, w, ht, hu, y, hy, hreason⟩
      · exact ⟨s, v, .refl s v, hfaulty⟩
      · obtain ⟨s', v', hmeets, hfaulty⟩ := ih hy (hreason ▸ hx)
        exact ⟨s', v', .inside ht hu hmeets, hreason ▸ hfaulty⟩

omit [Libraries] in
/-- The check meets no other schemas than those that can be reached. -/
theorem Meets.mem_reach (h : schemas.Meets s v s' v') : s' ∈ schemas.reach s := by
  have hreach : ∀ root, s ∈ schemas.reach root → s' ∈ schemas.reach root := by
    intro root hs
    induction h with
    | refl => exact hs
    | inside ht hu _ ih =>
        exact ih (mem_reach_of_mem_children (mem_reach_of_resolveWithin? hs ht) hu.mem_children)
  exact hreach s mem_reach_self

end

end Schemas

end ApiContract
