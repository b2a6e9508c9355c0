/-
**Where violations are.**

A violation holds the steps from the value that is checked to the part that is at fault, and its
path is told after the name of the value.  The texts may as well be put together on the way down, as
each check hands the path of a part on to the check of that part; the checks whose findings are only
counted are told nothing of it.  The steps do not depend on the name of the value, and lead to a
part that is there.

Main definitions:

* `Json.HasPart`, `Violation.PointsInto` — the part of a value that steps lead to;
* `Violation.Step.text`, `Violation.trail` — the text of steps, after a name;
* `Schemas.reports` — the violations of a schema by a value with a name, as texts;
* `Schema.tell` — the same, put together on the way down.

Main results:

* `Schemas.reports_eq_tell` — **paths may be put together on the way down**;
* `Schema.pointsInto_of_mem_check` — the steps of a violation lead to a part of the value;
* `Schemas.reports_located` — **violations point into the value, whatever its name**.
-/

import ApiContract.Pattern.Library
import ApiContract.Validation.Check

set_option relaxedAutoImplicit false
set_option autoImplicit false

namespace ApiContract

open Violation (Reason Step here under)

/-! ### Parts of a value -/

/-- `v.HasPart path w`: the steps lead from `v` to `w`. -/
inductive Json.HasPart : Json → List Step → Json → Prop
  /-- A value is its own part. -/
  | refl (v : Json) : HasPart v [] v
  /-- The part of an item. -/
  | index {items : List Json} {n : Nat} {v w : Json} {path : List Step}
      (h : items[n]? = some v) (hw : HasPart v path w) :
      HasPart (.array items) (.index n :: path) w
  /-- The part of a member. -/
  | name {members : List (String × Json)} {s : String} {v w : Json} {path : List Step}
      (h : (s, v) ∈ members) (hw : HasPart v path w) :
      HasPart (.object members) (.name s :: path) w

/-! ### The text of steps -/

namespace Violation

/-- The text of a step, after a name. -/
def Step.text : Step → String
  | .index n => "[" ++ toString n ++ "]"
  | .name s => "." ++ s

/-- The text of steps, after a name. -/
def trail : List Step → String
  | [] => ""
  | s :: path => s.text ++ trail path

/-- The path and the text of a violation, after the name of the value. -/
def told (root : String) (x : Violation) : String × String := (x.location root, x.message)

theorem Step.after_eq {root : String} (h : root ≠ "") (s : Step) :
    s.after root = root ++ s.text := by
  cases s with
  | index n => simp only [after, text, String.append_assoc]
  | name s => rw [after, if_neg h, text, String.append_assoc]

/-- After a name that is not empty, the path is the name with the text of the steps. -/
theorem location_eq {root : String} (h : root ≠ "") (x : Violation) :
    x.location root = root ++ trail x.path := by
  obtain ⟨path, reason⟩ := x
  simp only [location]
  induction path generalizing root with
  | nil => exact String.append_empty.symm
  | cons s path ih =>
      have hne : root ++ s.text ≠ "" := by
        rw [Ne, String.append_eq_empty_iff]
        exact fun hempty => h hempty.1
      rw [List.foldl_cons, Step.after_eq h, ih hne, trail, String.append_assoc]

theorem told_here (root : String) (r : Reason) : told root (here r) = (root, r.message) := rfl

theorem told_under (root : String) (s : Step) (x : Violation) :
    told root (under s x) = told (s.after root) x := rfl

end Violation

open Violation (told trail told_here told_under)

/-! ### Texts that are put together on the way down -/

/-- What is told of a place. -/
def Violation.toldAt (path : String) (rs : List Reason) : List (String × String) :=
  rs.map fun r => (path, r.message)

open Violation (toldAt)

namespace Schema

section

variable (inside : Schema → Json → String → List (String × String))

/-- What is told of the items of an array, numbered from a position. -/
def tellItems (item : Schema) (path : String) : Nat → List Json → List (String × String)
  | _, [] => []
  | n, v :: vs => inside item v ((Step.index n).after path) ++ tellItems item path (n + 1) vs

/-- What is told of a member of an object. -/
def tellMember (s : Schema) (path : String) (member : String × Json) : List (String × String) :=
  let child := (Step.name member.1).after path
  match Dict.get? s.properties member.1 with
  | some p => inside p member.2 child
  | none =>
    match s.additionalProperties with
    | some (.allowed false) => toldAt child [.extraProperty]
    | some (.matching extra) => inside extra member.2 child
    | _ => []

/-- What is told of the parts of a value. -/
def tellParts (s : Schema) (path : String) : Json → List (String × String)
  | .array items =>
    toldAt path (s.arrayFaults items) ++
      (match s.items with
       | some item => tellItems inside item path 0 items
       | none => [])
  | .object members =>
    toldAt path (s.objectFaults members) ++ members.flatMap (s.tellMember inside path)
  | _ => []

/-- Whether nothing is told of a value.  The value has no name here. -/
def passes (v : Json) (s : Schema) : Bool := (inside s v "").isEmpty

/-- What is told of a value as a choice of schemas. -/
def tellChoice (s : Schema) (path : String) (v : Json) : List (String × String) :=
  toldAt path
    ((if !s.anyOf.isEmpty && !s.anyOf.any (passes inside v) then [.noneMatches] else []) ++
    (let count := s.oneOf.countP (passes inside v)
     if !s.oneOf.isEmpty && count ≠ 1 then [.matchCount count] else []) ++
    (match s.not with
     | some t => if passes inside v t then [.forbidden] else []
     | none => []))

/-- What is told of a value that has an allowed type. -/
def tellValue [Libraries] (s : Schema) (path : String) (v : Json) : List (String × String) :=
  toldAt path (s.enumFaults v ++ s.constFaults v ++ s.scalarFaults v) ++
    s.tellParts inside path v ++
    s.allOf.flatMap (fun t => inside t v path) ++
    s.tellChoice inside path v

end

/-- What is told of a value at a path, where `limit` schemas may be inside each other. -/
def tell [Libraries] (schemas : Schemas) : Nat → Schema → Json → String → List (String × String)
  | 0, _, _, path => toldAt path [.tooDeep]
  | limit + 1, s, v, path =>
    match schemas.resolve? s with
    | none => toldAt path [.unresolvable (s.reference.getD "")]
    | some s =>
      if v.isNull && s.allowsNull then []
      else if !(s.typeFaults v).isEmpty then toldAt path (s.typeFaults v)
      else s.tellValue (tell schemas limit) path v

section

variable {inside : Schema → Json → List Violation}
  {telling : Schema → Json → String → List (String × String)} {s t : Schema} {v : Json}
  {path : String}

theorem map_told_here (rs : List Reason) : (rs.map here).map (told path) = toldAt path rs := by
  rw [List.map_map]
  rfl

theorem map_told_under (st : Step) (xs : List Violation) :
    (xs.map (under st)).map (told path) = xs.map (told (st.after path)) := by
  rw [List.map_map]
  rfl

variable (h : ∀ s v path, telling s v path = (inside s v).map (told path))
include h

theorem tellItems_eq (n : Nat) (items : List Json) :
    tellItems telling t path n items = (itemViolations inside t n items).map (told path) := by
  induction items generalizing n with
  | nil => rfl
  | cons w items ih =>
      rw [tellItems, itemViolations, List.map_append, map_told_under, h, ih]

theorem tellMember_eq (m : String × Json) :
    s.tellMember telling path m = (s.memberViolations inside m).map (told path) := by
  unfold tellMember memberViolations
  rw [map_told_under]
  cases Dict.get? s.properties m.1 with
  | some p => exact h p m.2 _
  | none =>
      cases s.additionalProperties with
      | none => rfl
      | some extra =>
          cases extra with
          | allowed b => cases b <;> rfl
          | matching u => exact h u m.2 _

theorem tellParts_eq :
    s.tellParts telling path v = (s.partViolations inside v).map (told path) := by
  cases v with
  | array items =>
      rw [tellParts, partViolations, List.map_append, map_told_here]
      cases s.items with
      | none => rfl
      | some item => exact congrArg _ (tellItems_eq h 0 items)
  | object members =>
      rw [tellParts, partViolations, List.map_append, map_told_here, List.map_flatMap,
        funext (tellMember_eq h)]
  | _ => rfl

/-- Whether something is told does not depend on what the value is called. -/
theorem passes_eq : passes telling v = matchesInside inside v := by
  funext t
  rw [passes, matchesInside, h, List.isEmpty_map]

theorem tellChoice_eq :
    s.tellChoice telling path v = ((s.choiceFaults inside v).map here).map (told path) := by
  rw [tellChoice, passes_eq h]
  exact (map_told_here (s.choiceFaults inside v)).symm

variable [Libraries]

theorem tellValue_eq :
    s.tellValue telling path v = (s.valueViolations inside v).map (told path) := by
  rw [tellValue, valueViolations, List.map_append, List.map_append, List.map_append, map_told_here,
    tellParts_eq h, tellChoice_eq h, List.map_flatMap]
  simp only [h]

omit h

/-- **Paths may be put together on the way down.** -/
theorem tell_eq {schemas : Schemas} (limit : Nat) (s : Schema) (v : Json) (path : String) :
    s.tell schemas limit v path = (s.check schemas limit v).map (told path) := by
  induction limit generalizing s v path with
  | zero => rfl
  | succ limit ih =>
      rw [tell, check]
      cases schemas.resolve? s with
      | none => rfl
      | some t =>
          simp only
          split
          · rfl
          · split
            · exact (map_told_here _).symm
            · exact tellValue_eq fun s v path => ih s v path

end

end Schema

/-! ### Parts that violations point to -/

/-- A violation points to a part of a value. -/
def Violation.PointsInto (v : Json) (x : Violation) : Prop := ∃ w, v.HasPart x.path w

namespace Schema

open Violation (PointsInto)

section

variable {inside : Schema → Json → List Violation} {s t : Schema} {v : Json} {x : Violation}

theorem pointsInto_of_mem_map_here {rs : List Reason} (h : x ∈ rs.map here) : PointsInto v x := by
  obtain ⟨r, -, rfl⟩ := List.mem_map.1 h
  exact ⟨v, .refl v⟩

theorem exists_of_mem_itemViolations_under {n : Nat} {items : List Json}
    (h : x ∈ itemViolations inside t n items) :
    ∃ k w y, items[k]? = some w ∧ y ∈ inside t w ∧ x = under (.index (n + k)) y := by
  induction items generalizing n with
  | nil => cases h
  | cons w items ih =>
      rw [itemViolations, List.mem_append] at h
      rcases h with h | h
      · obtain ⟨y, hy, rfl⟩ := List.mem_map.1 h
        exact ⟨0, w, y, rfl, hy, rfl⟩
      · obtain ⟨k, u, y, hu, hy, rfl⟩ := ih h
        exact ⟨k + 1, u, y, hu, hy, by rw [Nat.add_right_comm, Nat.add_assoc]⟩

variable (hinside : ∀ u w, ∀ y ∈ inside u w, PointsInto w y)
include hinside

theorem pointsInto_of_mem_memberViolations {members : List (String × Json)} {m : String × Json}
    (hm : m ∈ members) (h : x ∈ s.memberViolations inside m) : PointsInto (.object members) x := by
  obtain ⟨y, hy, rfl⟩ := List.mem_map.1 h
  have hpoints : PointsInto m.2 y := by
    split at hy
    · exact hinside _ _ y hy
    · split at hy
      · rw [List.mem_singleton.1 hy]
        exact ⟨m.2, .refl m.2⟩
      · exact hinside _ _ y hy
      · cases hy
  obtain ⟨w, hw⟩ := hpoints
  exact ⟨w, .name hm hw⟩

theorem pointsInto_of_mem_partViolations (h : x ∈ s.partViolations inside v) : PointsInto v x := by
  cases v with
  | array items =>
      rw [partViolations, List.mem_append] at h
      rcases h with h | h
      · exact pointsInto_of_mem_map_here h
      · split at h
        · obtain ⟨k, w, y, hk, hy, rfl⟩ := exists_of_mem_itemViolations_under h
          obtain ⟨u, hu⟩ := hinside _ w y hy
          rw [Nat.zero_add]
          exact ⟨u, .index hk hu⟩
        · cases h
  | object members =>
      rw [partViolations, List.mem_append] at h
      rcases h with h | h
      · exact pointsInto_of_mem_map_here h
      · obtain ⟨m, hm, h⟩ := List.mem_flatMap.1 h
        exact pointsInto_of_mem_memberViolations hinside hm h
  | _ => cases h

/-- What is wrong with a value or its parts points into it, if what is wrong inside does. -/
theorem pointsInto_of_mem_valueViolations [Libraries] (h : x ∈ s.valueViolations inside v) :
    PointsInto v x := by
  rw [valueViolations, List.mem_append, List.mem_append, List.mem_append] at h
  rcases h with ((h | h) | h) | h
  · exact pointsInto_of_mem_map_here h
  · exact pointsInto_of_mem_partViolations hinside h
  · obtain ⟨t, -, h⟩ := List.mem_flatMap.1 h
    exact hinside t v x h
  · exact pointsInto_of_mem_map_here h

end

/-- **The steps of a violation lead to a part of the value.** -/
theorem pointsInto_of_mem_check [Libraries] {schemas : Schemas} {limit : Nat} {s : Schema}
    {v : Json} {x : Violation} (h : x ∈ s.check schemas limit v) : PointsInto v x := by
  induction limit generalizing s v x with
  | zero =>
      rw [List.mem_singleton.1 h]
      exact ⟨v, .refl v⟩
  | succ limit ih =>
      rw [check] at h
      split at h
      · rw [List.mem_singleton.1 h]
        exact ⟨v, .refl v⟩
      · split at h
        · cases h
        · split at h
          · exact pointsInto_of_mem_map_here h
          · exact pointsInto_of_mem_valueViolations (fun u w y hy => ih hy) h

end Schema

/-! ### Reports -/

namespace Schemas

/-- The violations of a schema by a value with a name: their paths and what they say. -/
def reports [Libraries] (schemas : Schemas) (s : Schema) (v : Json) (root : String) :
    List (String × String) :=
  (schemas.violations s v).map (told root)

theorem reports_eq_tell [Libraries] (schemas : Schemas) (s : Schema) (v : Json) (root : String) :
    schemas.reports s v root = s.tell schemas (maxDepth + 1) v root :=
  (Schema.tell_eq (maxDepth + 1) s v root).symm

/-- **Violations point into the value, whatever its name.**  There is one list of steps and messages
for all names that are not empty: the reports are the messages in that order, each at the path of
the name with the text of the steps, and the steps lead to a part that the value has. -/
theorem reports_located [Libraries] (schemas : Schemas) (s : Schema) (v : Json) {p q : String}
    (hp : p ≠ "") (hq : q ≠ "") :
    ∃ found : List (List Step × String),
      schemas.reports s v p = found.map (fun f => (p ++ trail f.1, f.2)) ∧
      schemas.reports s v q = found.map (fun f => (q ++ trail f.1, f.2)) ∧
      ∀ f ∈ found, ∃ w, v.HasPart f.1 w := by
  have htold : ∀ {root : String}, root ≠ "" → schemas.reports s v root =
      ((schemas.violations s v).map fun x => (x.path, x.message)).map
        fun f => (root ++ trail f.1, f.2) := by
    intro root hroot
    rw [reports, List.map_map]
    refine List.map_congr_left fun x _ => ?_
    exact Prod.ext (Violation.location_eq hroot x) rfl
  refine ⟨_, htold hp, htold hq, fun f hf => ?_⟩
  obtain ⟨x, hx, rfl⟩ := List.mem_map.1 hf
  exact Schema.pointsInto_of_mem_check hx

/-- A schema of objects with a list of numbers. -/
def countsSchema : Schema :=
  { type := some (.one .object)
    properties :=
      [("counts", { type := some (.one .array), items := some { type := some (.one .integer) } })] }

/-- An object with a text among its numbers. -/
def countsValue : Json :=
  .object [("counts", .array [.number (.int 1), .string "two"])]

/-- A violation two steps inside a value, under two names. -/
theorem reports_located_counts :
    ("body" ≠ "" ∧ "response body" ≠ "") ∧
    (∃ found : List (List Step × String),
      reports [] countsSchema countsValue "body" =
        found.map (fun f => ("body" ++ trail f.1, f.2)) ∧
      reports [] countsSchema countsValue "response body" =
        found.map (fun f => ("response body" ++ trail f.1, f.2)) ∧
      ∀ f ∈ found, ∃ w, countsValue.HasPart f.1 w) ∧
    reports [] countsSchema countsValue "body" =
      [("body.counts[1]", "expected integer, got string")] :=
  ⟨by decide, reports_located [] countsSchema countsValue (by decide) (by decide), by decide⟩

end Schemas

end ApiContract
