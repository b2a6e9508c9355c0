/-
**What schemas mean.**

A value satisfies a schema if it is a null that is allowed, or if all keywords of the schema that is
meant hold of it.  Some keywords speak of other schemas, for the value itself or for its parts;
these are satisfied in the same sense.  A schema that leads back to itself for one value may have no
meaning there.  Wherever the unfolding of a schema along a value ends, it has one, and the check
decides it as far as its depth reaches.

Main definitions:

* `Schema.Holds` — what the keywords of a schema say, given what the schemas in it mean;
* `Schema.Inside` — the schemas that a schema speaks of, and the values for which it does, with
  `Schema.Demands` and `Schema.Excludes`;
* `Schemas.Unfolds` — the unfolding of a schema along a value ends within some levels;
* `Schemas.Satisfies` — **a value satisfies a schema**.

Main results:

* `Schema.valueViolations_eq_nil_iff` — a value has no violations exactly if all keywords hold;
* `Schema.Holds.mono` — what keywords say grows with what they demand, and shrinks with what they
  exclude;
* `Schemas.satisfies_iff` — satisfaction is what the keywords say of satisfaction;
* `Schemas.violations_eq_nil_iff_satisfies` — **the check decides what schemas mean**.
-/

import ApiContract.Pattern.Library
import ApiContract.Validation.Check
import Mathlib.Data.List.Basic
import Mathlib.Tactic.MkIffOfInductiveProp

set_option relaxedAutoImplicit false
set_option autoImplicit false

namespace ApiContract

/-! ### Members and counts -/

theorem Json.isSome_member?_iff {members : List (String × Json)} {name : String} :
    (member? members name).isSome = true ↔ name ∈ memberNames members := by
  induction members with
  | nil => simp [member?, memberNames]
  | cons m members ih =>
      obtain ⟨k, w⟩ := m
      simp only [memberNames] at ih
      simp only [member?, memberNames, List.map_cons, List.mem_cons, ← ih]
      by_cases h : k = name
      · simp [h]
      · simp [h, Ne.symm h]

theorem countP_eq_one_iff {α : Type} {p : α → Bool} {as : List α} :
    as.countP p = 1 ↔ ∃ before a after, as = before ++ a :: after ∧ p a = true ∧
      ∀ b ∈ before ++ after, ¬ p b = true := by
  rw [List.countP_eq_length_filter, List.length_eq_one_iff]
  simp only [List.filter_eq_cons_iff, List.filter_eq_nil_iff, List.forall_mem_append]
  constructor
  · rintro ⟨a, before, after, heq, hbefore, ha, hafter⟩
    exact ⟨before, a, after, heq, ha, hbefore, hafter⟩
  · rintro ⟨before, a, after, heq, ha, hbefore, hafter⟩
    exact ⟨a, before, after, heq, hbefore, ha, hafter⟩

namespace Schema

/-! ### What keywords say -/

/-- Null is allowed: the schema is nullable, or null is a type of it. -/
def HoldsOfNull (t : Schema) : Prop :=
  t.nullable = true ∨ ∃ rule ∈ t.type, ValueType.null ∈ rule.types

/-- The keywords for strings hold of a text. -/
@[mk_iff] structure HoldsOfString [Libraries] (t : Schema) (text : String) : Prop where
  minLength : ∀ n ∈ t.minLength, n ≤ text.length
  maxLength : ∀ n ∈ t.maxLength, text.length ≤ n
  pattern : ∀ p ∈ t.pattern,
    ∃ found, Libraries.compilePattern p = .ok found ∧ found text = true
  format : ∀ f ∈ t.format, Format.accepts f text = true

/-- The keywords for numbers hold of a number.  A flag makes a plain bound exclusive. -/
@[mk_iff] structure HoldsOfNumber (t : Schema) (x : Float) : Prop where
  minimum : ∀ m ∈ t.minimum, if isExclusive t.exclusiveMinimum then ¬ x ≤ m else ¬ x < m
  maximum : ∀ m ∈ t.maximum, if isExclusive t.exclusiveMaximum then ¬ x ≥ m else ¬ x > m
  exclusiveMinimum : ∀ m, t.exclusiveMinimum = some (.bound m) → ¬ x ≤ m
  exclusiveMaximum : ∀ m, t.exclusiveMaximum = some (.bound m) → ¬ x ≥ m
  multipleOf : ∀ d ∈ t.multipleOf, Arithmetic.floating.isMultiple x d = true
  int32 : t.primaryType = some .integer → t.format = some "int32" →
    ¬ (x < -2147483648.0 ∨ x > 2147483647.0)

/-- The keywords for the size of arrays hold of items. -/
@[mk_iff] structure HoldsOfItems (t : Schema) (items : List Json) : Prop where
  minItems : ∀ n ∈ t.minItems, n ≤ items.length
  maxItems : ∀ n ∈ t.maxItems, items.length ≤ n
  uniqueItems : t.uniqueItems = true → items.Pairwise fun v w => v.same w = false

/-- The keywords for the size and the names of objects hold of members. -/
@[mk_iff] structure HoldsOfMembers (t : Schema) (members : List (String × Json)) : Prop where
  required : ∀ name ∈ t.required, name ∈ Json.memberNames members
  minProperties : ∀ n ∈ t.minProperties, n ≤ members.length
  maxProperties : ∀ n ∈ t.maxProperties, members.length ≤ n

/-- A member of an object matches its property, or else the rule for other properties. -/
structure HoldsOfMember (R : Schema → Json → Prop) (t : Schema) (m : String × Json) : Prop where
  property : ∀ s, Dict.get? t.properties m.1 = some s → R s m.2
  allowed : Dict.get? t.properties m.1 = none → t.additionalProperties ≠ some (.allowed false)
  extra : Dict.get? t.properties m.1 = none →
    ∀ s, t.additionalProperties = some (.matching s) → R s m.2

/-- The type of a value is allowed. -/
def HoldsOfType (t : Schema) (v : Json) : Prop :=
  ∀ rule ∈ t.type, ∃ k ∈ rule.types, v.hasType k = true

/-- **What the keywords of a schema say of a value**, where `R` says which values satisfy the
schemas inside it. -/
structure Holds [Libraries] (R : Schema → Json → Prop) (t : Schema) (v : Json) : Prop where
  type : t.HoldsOfType v
  enumValues : ∀ values ∈ t.enumValues, ∃ w ∈ values, w.same v = true
  constValue : ∀ w ∈ t.constValue, w.same v = true
  string : ∀ text, v = .string text → t.HoldsOfString text
  number : ∀ n, v = .number n → t.HoldsOfNumber n.toFloat
  array : ∀ items, v = .array items → t.HoldsOfItems items ∧ ∀ s ∈ t.items, ∀ w ∈ items, R s w
  object : ∀ members, v = .object members →
    t.HoldsOfMembers members ∧ ∀ m ∈ members, t.HoldsOfMember R m
  allOf : ∀ s ∈ t.allOf, R s v
  anyOf : t.anyOf ≠ [] → ∃ s ∈ t.anyOf, R s v
  oneOf : t.oneOf ≠ [] → ∃ before s after, t.oneOf = before ++ s :: after ∧ R s v ∧
    ∀ u ∈ before ++ after, ¬ R u v
  not : ∀ s ∈ t.not, ¬ R s v

/-- A schema is satisfied by a null that it allows, else by what its keywords say. -/
def Accepts [Libraries] (R : Schema → Json → Prop) (t : Schema) (v : Json) : Prop :=
  (v = .null ∧ t.HoldsOfNull) ∨ t.Holds R v

/-! ### The faults of a value -/

section

variable {t : Schema} {v : Json}

theorem allowsNull_iff : t.allowsNull = true ↔ t.HoldsOfNull := by
  unfold allowsNull HoldsOfNull
  cases t.type <;> simp

theorem typeFaults_eq_nil_iff : t.typeFaults v = [] ↔ t.HoldsOfType v := by
  unfold typeFaults HoldsOfType
  cases t.type with
  | none => simp
  | some rule => simp [List.any_eq_true]

theorem enumFaults_eq_nil_iff :
    t.enumFaults v = [] ↔ ∀ values ∈ t.enumValues, ∃ w ∈ values, w.same v = true := by
  unfold enumFaults
  cases t.enumValues with
  | none => simp
  | some values => simp [List.any_eq_true]

theorem constFaults_eq_nil_iff : t.constFaults v = [] ↔ ∀ w ∈ t.constValue, w.same v = true := by
  unfold constFaults
  cases t.constValue with
  | none => simp
  | some w => simp

theorem patternFaults_eq_nil_iff [Libraries] {text : String} :
    t.patternFaults text = [] ↔ ∀ p ∈ t.pattern,
      ∃ found, Libraries.compilePattern p = .ok found ∧ found text = true := by
  unfold patternFaults
  cases t.pattern with
  | none => simp
  | some p =>
      simp only [Option.mem_def, Option.some.injEq, forall_eq']
      cases Libraries.compilePattern p with
      | error fault => simp
      | ok found => simp

theorem stringFaults_eq_nil_iff [Libraries] {text : String} :
    t.stringFaults text = [] ↔ t.HoldsOfString text := by
  rw [holdsOfString_iff]
  simp only [stringFaults, List.append_eq_nil_iff, and_assoc]
  refine and_congr ?_ (and_congr ?_ (and_congr patternFaults_eq_nil_iff ?_))
  · cases t.minLength <;> simp
  · cases t.maxLength <;> simp
  · cases t.format <;> simp

theorem minimumFaults_eq_nil_iff {x : Float} :
    t.minimumFaults x = [] ↔
      ∀ m ∈ t.minimum, if isExclusive t.exclusiveMinimum then ¬ x ≤ m else ¬ x < m := by
  unfold minimumFaults
  cases t.minimum with
  | none => simp
  | some m => cases isExclusive t.exclusiveMinimum <;> simp

theorem maximumFaults_eq_nil_iff {x : Float} :
    t.maximumFaults x = [] ↔
      ∀ m ∈ t.maximum, if isExclusive t.exclusiveMaximum then ¬ x ≥ m else ¬ x > m := by
  unfold maximumFaults
  cases t.maximum with
  | none => simp
  | some m => cases isExclusive t.exclusiveMaximum <;> simp

theorem exclusiveFaults_eq_nil_iff {x : Float} :
    t.exclusiveFaults x = [] ↔
      (∀ m, t.exclusiveMinimum = some (.bound m) → ¬ x ≤ m) ∧
      (∀ m, t.exclusiveMaximum = some (.bound m) → ¬ x ≥ m) := by
  rw [exclusiveFaults, List.append_eq_nil_iff]
  refine and_congr ?_ ?_
  · cases t.exclusiveMinimum with
    | none => simp
    | some b => cases b <;> simp
  · cases t.exclusiveMaximum with
    | none => simp
    | some b => cases b <;> simp

theorem multipleFaults_eq_nil_iff {x : Float} :
    t.multipleFaults x = [] ↔
      ∀ d ∈ t.multipleOf, Arithmetic.floating.isMultiple x d = true := by
  unfold multipleFaults
  cases t.multipleOf <;> simp

theorem int32Faults_eq_nil_iff {x : Float} :
    t.int32Faults x = [] ↔ (t.primaryType = some .integer → t.format = some "int32" →
      ¬ (x < -2147483648.0 ∨ x > 2147483647.0)) := by
  unfold int32Faults
  split
  · rename_i h
    exact iff_of_false (by simp) fun hnot => hnot h.1 h.2.1 h.2.2
  · rename_i h
    exact iff_of_true rfl fun htype hformat hrange => h ⟨htype, hformat, hrange⟩

theorem numberFaults_eq_nil_iff {x : Float} : t.numberFaults x = [] ↔ t.HoldsOfNumber x := by
  rw [holdsOfNumber_iff]
  simp only [numberFaults, List.append_eq_nil_iff, and_assoc, minimumFaults_eq_nil_iff,
    maximumFaults_eq_nil_iff, exclusiveFaults_eq_nil_iff, multipleFaults_eq_nil_iff,
    int32Faults_eq_nil_iff]

theorem hasEqualItems_eq_false_iff {items : List Json} :
    hasEqualItems items = false ↔ items.Pairwise fun v w => v.same w = false := by
  induction items with
  | nil => simp [hasEqualItems]
  | cons v items ih => simp [hasEqualItems, ih]

theorem arrayFaults_eq_nil_iff {items : List Json} :
    t.arrayFaults items = [] ↔ t.HoldsOfItems items := by
  rw [holdsOfItems_iff, ← hasEqualItems_eq_false_iff]
  simp only [arrayFaults, List.append_eq_nil_iff, and_assoc]
  refine and_congr ?_ (and_congr ?_ ?_)
  · cases t.minItems <;> simp
  · cases t.maxItems <;> simp
  · cases t.uniqueItems <;> simp

theorem objectFaults_eq_nil_iff {members : List (String × Json)} :
    t.objectFaults members = [] ↔ t.HoldsOfMembers members := by
  rw [holdsOfMembers_iff]
  simp only [objectFaults, List.append_eq_nil_iff, and_assoc]
  refine and_congr ?_ (and_congr ?_ ?_)
  · simp only [List.map_eq_nil_iff, List.filter_eq_nil_iff, ← Json.isSome_member?_iff]
    simp [Option.isSome_iff_ne_none]
  · cases t.minProperties <;> simp
  · cases t.maxProperties <;> simp

end

/-! ### What is wrong with the parts of a value -/

section

variable {inside : Schema → Json → List Violation} {t s : Schema} {v : Json}

theorem itemViolations_eq_nil_iff {n : Nat} {items : List Json} :
    itemViolations inside s n items = [] ↔ ∀ w ∈ items, inside s w = [] := by
  induction items generalizing n with
  | nil => simp [itemViolations]
  | cons w items ih => simp [itemViolations, ih]

theorem memberViolations_eq_nil_iff {m : String × Json} :
    t.memberViolations inside m = [] ↔ t.HoldsOfMember (fun s w => inside s w = []) m := by
  rw [memberViolations, List.map_eq_nil_iff]
  constructor
  · intro h
    cases hp : Dict.get? t.properties m.1 with
    | some p =>
        rw [hp] at h
        refine ⟨fun s hs => ?_, by simp [hp], by simp [hp]⟩
        obtain rfl : p = s := Option.some.inj (hp.symm.trans hs)
        exact h
    | none =>
        rw [hp] at h
        refine ⟨by simp [hp], fun _ hfalse => ?_, fun _ s hs => ?_⟩
        · rw [hfalse] at h
          cases h
        · rw [hs] at h
          exact h
  · intro h
    split
    · rename_i p hp
      exact h.property p hp
    · rename_i hp
      split
      · rename_i hfalse
        exact absurd hfalse (h.allowed hp)
      · rename_i s hs
        exact h.extra hp s hs
      · rfl

theorem partViolations_eq_nil_iff :
    t.partViolations inside v = [] ↔
      (∀ items, v = .array items →
        t.HoldsOfItems items ∧ ∀ s ∈ t.items, ∀ w ∈ items, inside s w = []) ∧
      ∀ members, v = .object members →
        t.HoldsOfMembers members ∧
          ∀ m ∈ members, t.HoldsOfMember (fun s w => inside s w = []) m := by
  cases v with
  | array items =>
      simp only [partViolations, List.append_eq_nil_iff, List.map_eq_nil_iff,
        arrayFaults_eq_nil_iff]
      cases t.items with
      | none => simp
      | some s => simp [itemViolations_eq_nil_iff]
  | object members =>
      simp only [partViolations, List.append_eq_nil_iff, List.map_eq_nil_iff,
        objectFaults_eq_nil_iff, List.flatMap_eq_nil_iff, memberViolations_eq_nil_iff]
      simp
  | null => simp [partViolations]
  | bool b => simp [partViolations]
  | number n => simp [partViolations]
  | string text => simp [partViolations]

theorem matchesInside_iff : matchesInside inside v s = true ↔ inside s v = [] :=
  List.isEmpty_iff

theorem choiceFaults_eq_nil_iff :
    t.choiceFaults inside v = [] ↔
      (t.anyOf ≠ [] → ∃ s ∈ t.anyOf, inside s v = []) ∧
      (t.oneOf ≠ [] → ∃ before s after, t.oneOf = before ++ s :: after ∧ inside s v = [] ∧
        ∀ u ∈ before ++ after, ¬ inside u v = []) ∧
      ∀ s ∈ t.not, ¬ inside s v = [] := by
  simp only [choiceFaults, List.append_eq_nil_iff, and_assoc]
  refine and_congr ?_ (and_congr ?_ ?_)
  · have hany : (∃ s ∈ t.anyOf, inside s v = []) ↔
        t.anyOf.any (matchesInside inside v) = true := by
      simp only [List.any_eq_true, matchesInside_iff]
    rw [hany]
    cases t.anyOf.any (matchesInside inside v) <;> simp
  · simp only [← matchesInside_iff, ← countP_eq_one_iff]
    cases t.oneOf <;> simp
  · simp only [← matchesInside_iff]
    cases t.not <;> simp

variable [Libraries]

/-- **A value has no violations exactly if all keywords hold of it**, where the schemas inside mean
that there are none. -/
theorem valueViolations_eq_nil_iff (htype : t.HoldsOfType v) :
    t.valueViolations inside v = [] ↔ t.Holds (fun s w => inside s w = []) v := by
  have hscalar : t.scalarFaults v = [] ↔
      (∀ text, v = .string text → t.HoldsOfString text) ∧
      ∀ n, v = .number n → t.HoldsOfNumber n.toFloat := by
    cases v <;> simp [scalarFaults, stringFaults_eq_nil_iff, numberFaults_eq_nil_iff]
  simp only [valueViolations, List.append_eq_nil_iff, List.map_eq_nil_iff,
    List.flatMap_eq_nil_iff, enumFaults_eq_nil_iff, constFaults_eq_nil_iff, hscalar,
    partViolations_eq_nil_iff, choiceFaults_eq_nil_iff]
  constructor
  · rintro ⟨⟨⟨⟨⟨henum, hconst⟩, hstring, hnumber⟩, harray, hobject⟩, hall⟩, hany, hone, hnot⟩
    exact ⟨htype, henum, hconst, hstring, hnumber, harray, hobject, hall, hany, hone, hnot⟩
  · rintro ⟨-, henum, hconst, hstring, hnumber, harray, hobject, hall, hany, hone, hnot⟩
    exact ⟨⟨⟨⟨⟨henum, hconst⟩, hstring, hnumber⟩, harray, hobject⟩, hall⟩, hany, hone, hnot⟩

theorem checked_eq_nil_iff :
    (if v.isNull && t.allowsNull then []
      else if !(t.typeFaults v).isEmpty then (t.typeFaults v).map Violation.here
      else t.valueViolations inside v) = [] ↔ t.Accepts (fun s w => inside s w = []) v := by
  have hnull : v.isNull = true ↔ v = .null := by
    cases v <;> simp [Json.isNull]
  unfold Accepts
  split
  · rename_i h
    rw [Bool.and_eq_true, hnull, allowsNull_iff] at h
    exact iff_of_true rfl (Or.inl h)
  · rename_i h
    rw [Bool.and_eq_true, hnull, allowsNull_iff] at h
    split
    · rename_i htype
      have hne : ¬ t.typeFaults v = [] := by simpa using htype
      rw [List.map_eq_nil_iff]
      refine iff_of_false hne fun hor => hne ?_
      exact typeFaults_eq_nil_iff.2 (hor.resolve_left h).type
    · rename_i htype
      have hnil : t.typeFaults v = [] := by simpa using htype
      rw [valueViolations_eq_nil_iff (typeFaults_eq_nil_iff.1 hnil)]
      exact ⟨Or.inr, fun hor => hor.resolve_left h⟩

end

/-! ### The schemas inside a schema -/

/-- `t.Inside v s w`: the keywords of `t` speak of the schema `s` for the value `w` when they are
told of `v`. -/
inductive Inside (t : Schema) : Json → Schema → Json → Prop
  | item {items : List Json} {s : Schema} {w : Json} :
      s ∈ t.items → w ∈ items → Inside t (.array items) s w
  | property {members : List (String × Json)} {m : String × Json} {s : Schema} :
      m ∈ members → Dict.get? t.properties m.1 = some s → Inside t (.object members) s m.2
  | extra {members : List (String × Json)} {m : String × Json} {s : Schema} :
      m ∈ members → Dict.get? t.properties m.1 = none →
      t.additionalProperties = some (.matching s) → Inside t (.object members) s m.2
  | allOf {v : Json} {s : Schema} : s ∈ t.allOf → Inside t v s v
  | anyOf {v : Json} {s : Schema} : s ∈ t.anyOf → Inside t v s v
  | oneOf {v : Json} {s : Schema} : s ∈ t.oneOf → Inside t v s v
  | not {v : Json} {s : Schema} : s ∈ t.not → Inside t v s v

/-- `t.Demands v s w`: the keywords of `t`, told of `v`, may ask that `w` satisfies `s`. -/
def Demands (t : Schema) : Json → Schema → Json → Prop := Inside { t with not := none }

/-- `t.Excludes v s w`: they may ask that `w` does not satisfy `s`.  Of an exclusive choice all
schemas but one are excluded. -/
inductive Excludes (t : Schema) (v : Json) : Schema → Json → Prop
  | oneOf {s : Schema} : s ∈ t.oneOf → Excludes t v s v
  | not {s : Schema} : s ∈ t.not → Excludes t v s v

/-- The keywords of a schema are told of a value: it is not a null that is allowed, and its type is
allowed. -/
def Opens (t : Schema) (v : Json) : Prop :=
  ¬ (v = .null ∧ t.HoldsOfNull) ∧ t.HoldsOfType v

section

variable {R R' : Schema → Json → Prop} {t s : Schema} {v w : Json}

theorem Demands.inside (h : t.Demands v s w) : t.Inside v s w := by
  cases h with
  | item hs hw => exact .item hs hw
  | property hm hs => exact .property hm hs
  | extra hm hnone hs => exact .extra hm hnone hs
  | allOf hs => exact .allOf hs
  | anyOf hs => exact .anyOf hs
  | oneOf hs => exact .oneOf hs
  | not hs => cases hs

theorem Excludes.inside (h : t.Excludes v s w) : t.Inside v s w := by
  cases h with
  | oneOf hs => exact .oneOf hs
  | not hs => exact .not hs

variable [Libraries]

/-- **What keywords say grows with what they demand, and shrinks with what they exclude.** -/
theorem Holds.mono (hd : ∀ s w, t.Demands v s w → R s w → R' s w)
    (hx : ∀ s w, t.Excludes v s w → R' s w → R s w) (hv : t.Holds R v) : t.Holds R' v where
  type := hv.type
  enumValues := hv.enumValues
  constValue := hv.constValue
  string := hv.string
  number := hv.number
  array := by
    rintro items rfl
    obtain ⟨hsize, hitems⟩ := hv.array items rfl
    exact ⟨hsize, fun s hs w hw => hd s w (.item hs hw) (hitems s hs w hw)⟩
  object := by
    rintro members rfl
    obtain ⟨hsize, hmembers⟩ := hv.object members rfl
    refine ⟨hsize, fun m hm => ⟨fun s hs => ?_, (hmembers m hm).allowed, fun hnone s hs => ?_⟩⟩
    · exact hd s m.2 (.property hm hs) ((hmembers m hm).property s hs)
    · exact hd s m.2 (.extra hm hnone hs) ((hmembers m hm).extra hnone s hs)
  allOf := fun s hs => hd s v (.allOf hs) (hv.allOf s hs)
  anyOf := by
    intro hne
    obtain ⟨s, hs, hR⟩ := hv.anyOf hne
    exact ⟨s, hs, hd s v (.anyOf hs) hR⟩
  oneOf := by
    intro hne
    obtain ⟨before, s, after, heq, hR, hnone⟩ := hv.oneOf hne
    have hs : s ∈ t.oneOf := by simp [heq]
    refine ⟨before, s, after, heq, hd s v (.oneOf hs) hR, fun u hu hR' => ?_⟩
    have hu' : u ∈ t.oneOf := by
      rw [heq]
      rcases List.mem_append.1 hu with hu | hu
      · exact List.mem_append_left _ hu
      · exact List.mem_append_right _ (List.mem_cons_of_mem s hu)
    exact hnone u hu (hx u v (.oneOf hu') hR')
  not := fun s hs hR' => hv.not s hs (hx s v (.not hs) hR')

/-- What a schema accepts grows and shrinks likewise; for a value that its keywords are not told of,
it depends on no other schema. -/
theorem Accepts.mono (hd : t.Opens v → ∀ s w, t.Demands v s w → R s w → R' s w)
    (hx : t.Opens v → ∀ s w, t.Excludes v s w → R' s w → R s w) (hv : t.Accepts R v) :
    t.Accepts R' v := by
  unfold Accepts at hv ⊢
  by_cases hnull : v = .null ∧ t.HoldsOfNull
  · exact Or.inl hnull
  · have hholds := hv.resolve_left hnull
    have hopens : t.Opens v := ⟨hnull, hholds.type⟩
    exact Or.inr (hholds.mono (hd hopens) (hx hopens))

/-- What a schema accepts depends on the schemas inside alone. -/
theorem accepts_congr (h : t.Opens v → ∀ s w, t.Inside v s w → (R s w ↔ R' s w)) :
    t.Accepts R v ↔ t.Accepts R' v := by
  constructor
  · exact Accepts.mono (fun ho s w hs => (h ho s w hs.inside).1)
      (fun ho s w hs => (h ho s w hs.inside).2)
  · exact Accepts.mono (fun ho s w hs => (h ho s w hs.inside).2)
      (fun ho s w hs => (h ho s w hs.inside).1)

end

end Schema

namespace Schemas

/-! ### Unfolding -/

/-- The unfolding of a schema along a value ends: every reference that is met leads to a schema, and
no more than a number of schemas are inside the first one and inside each other. -/
def Unfolds (schemas : Schemas) : Nat → Schema → Json → Prop
  | 0, s, v => ∃ t, schemas.resolve? s = some t ∧ (t.Opens v → ∀ u w, ¬ t.Inside v u w)
  | levels + 1, s, v => ∃ t, schemas.resolve? s = some t ∧
      (t.Opens v → ∀ u w, t.Inside v u w → Unfolds schemas levels u w)

/-- What a schema means to a number of levels; no value satisfies what lies beyond. -/
def SatisfiesWithin [Libraries] (schemas : Schemas) : Nat → Schema → Json → Prop
  | 0, s, v => ∃ t, schemas.resolve? s = some t ∧ t.Accepts (fun _ _ => False) v
  | levels + 1, s, v => ∃ t, schemas.resolve? s = some t ∧
      t.Accepts (SatisfiesWithin schemas levels) v

/-- **A value satisfies a schema**: the unfolding of the schema along the value ends, and the value
is accepted at its end. -/
def Satisfies [Libraries] (schemas : Schemas) (s : Schema) (v : Json) : Prop :=
  ∃ levels, schemas.Unfolds levels s v ∧ schemas.SatisfiesWithin levels s v

section

variable {schemas : Schemas} {m n : Nat} {s : Schema} {v : Json}

theorem Unfolds.succ (h : schemas.Unfolds n s v) : schemas.Unfolds (n + 1) s v := by
  induction n generalizing s v with
  | zero =>
      obtain ⟨t, ht, hnone⟩ := h
      exact ⟨t, ht, fun ho u w hu => absurd hu (hnone ho u w)⟩
  | succ n ih =>
      obtain ⟨t, ht, hinside⟩ := h
      exact ⟨t, ht, fun ho u w hu => ih (hinside ho u w hu)⟩

theorem Unfolds.mono (h : schemas.Unfolds n s v) (hle : n ≤ m) : schemas.Unfolds m s v := by
  induction hle with
  | refl => exact h
  | step _ ih => exact ih.succ

/-- What lies inside a schema whose unfolding ends unfolds to fewer levels. -/
theorem Unfolds.inside {t : Schema} (h : schemas.Unfolds n s v) (ht : schemas.resolve? s = some t)
    (ho : t.Opens v) {u : Schema} {w : Json} (hu : t.Inside v u w) :
    ∃ k, n = k + 1 ∧ schemas.Unfolds k u w := by
  cases n with
  | zero =>
      obtain ⟨t', ht', hnone⟩ := h
      obtain rfl : t' = t := Option.some.inj (ht'.symm.trans ht)
      exact absurd hu (hnone ho u w)
  | succ n =>
      obtain ⟨t', ht', hinside⟩ := h
      obtain rfl : t' = t := Option.some.inj (ht'.symm.trans ht)
      exact ⟨n, rfl, hinside ho u w hu⟩

theorem satisfiesWithin_succ_iff [Libraries] (h : schemas.Unfolds n s v) :
    schemas.SatisfiesWithin (n + 1) s v ↔ schemas.SatisfiesWithin n s v := by
  induction n generalizing s v with
  | zero =>
      refine exists_congr fun t => and_congr_right fun ht => Schema.accepts_congr ?_
      intro ho u w hu
      obtain ⟨k, hk, -⟩ := h.inside ht ho hu
      cases hk
  | succ n ih =>
      refine exists_congr fun t => and_congr_right fun ht => Schema.accepts_congr ?_
      intro ho u w hu
      obtain ⟨k, hk, hunfolds⟩ := h.inside ht ho hu
      obtain rfl : n = k := Nat.succ.inj hk
      exact ih hunfolds

theorem satisfiesWithin_iff_of_le [Libraries] (h : schemas.Unfolds n s v) (hle : n ≤ m) :
    schemas.SatisfiesWithin m s v ↔ schemas.SatisfiesWithin n s v := by
  induction hle with
  | refl => exact Iff.rfl
  | step hle ih => exact (satisfiesWithin_succ_iff (h.mono hle)).trans ih

theorem satisfies_iff_satisfiesWithin [Libraries] (h : schemas.Unfolds n s v) :
    schemas.Satisfies s v ↔ schemas.SatisfiesWithin n s v := by
  constructor
  · rintro ⟨m, hm, hs⟩
    rcases Nat.le_total m n with hle | hle
    · exact (satisfiesWithin_iff_of_le hm hle).2 hs
    · exact (satisfiesWithin_iff_of_le h hle).1 hs
  · intro hs
    exact ⟨n, h, hs⟩

/-- **Satisfaction is what the keywords say of satisfaction**: a value satisfies a schema exactly if
the schema that is meant accepts it, where the schemas inside are satisfied in the same sense. -/
theorem satisfies_iff [Libraries] (h : schemas.Unfolds n s v) :
    schemas.Satisfies s v ↔
      ∃ t, schemas.resolve? s = some t ∧ t.Accepts schemas.Satisfies v := by
  rw [satisfies_iff_satisfiesWithin h.succ]
  refine exists_congr fun t => and_congr_right fun ht => Schema.accepts_congr ?_
  intro ho u w hu
  obtain ⟨k, rfl, hunfolds⟩ := h.inside ht ho hu
  exact (satisfies_iff_satisfiesWithin hunfolds.succ).symm

/-! ### The check -/

theorem check_succ_eq_nil_iff [Libraries] {limit : Nat} {R : Schema → Json → Prop}
    (hR : ∀ u w, Schema.check schemas limit u w = [] ↔ R u w) :
    s.check schemas (limit + 1) v = [] ↔ ∃ t, schemas.resolve? s = some t ∧ t.Accepts R v := by
  rw [Schema.check]
  split
  · rename_i hnone
    exact iff_of_false (by simp) (by simp [hnone])
  · rename_i t ht
    rw [Schema.checked_eq_nil_iff]
    have hcongr : t.Accepts (fun u w => Schema.check schemas limit u w = []) v ↔ t.Accepts R v :=
      Schema.accepts_congr fun _ u w _ => hR u w
    simp [ht, hcongr]

theorem check_eq_nil_iff [Libraries] :
    s.check schemas (n + 1) v = [] ↔ schemas.SatisfiesWithin n s v := by
  induction n generalizing s v with
  | zero => exact check_succ_eq_nil_iff fun u w => by simp [Schema.check]
  | succ n ih => exact check_succ_eq_nil_iff fun u w => ih

/-- **The check decides what schemas mean.**  Where the unfolding of a schema along a value ends
within the depth of the check, the value has no violations exactly if it satisfies the schema; and
it satisfies the schema exactly if the schema that is meant accepts it, keyword by keyword. -/
theorem violations_eq_nil_iff_satisfies [Libraries] (h : schemas.Unfolds maxDepth s v) :
    (schemas.violations s v = [] ↔ schemas.Satisfies s v) ∧
      (schemas.Satisfies s v ↔
        ∃ t, schemas.resolve? s = some t ∧ t.Accepts schemas.Satisfies v) := by
  refine ⟨?_, satisfies_iff h⟩
  rw [violations, check_eq_nil_iff, satisfies_iff_satisfiesWithin h]

/-- Objects that may hold the next one, and none of which has a member `stop`. -/
def node : Schema :=
  { type := some (.one .object)
    properties := [("next", { reference := some "#/components/schemas/Node" })]
    not := some { required := ["stop"] } }

/-- Objects inside each other. -/
def nodes : Nat → Json
  | 0 => .object []
  | n + 1 => .object [("next", nodes n)]

/-- Inside such an object are the next one and what no object may have. -/
theorem inside_node {u : Schema} {w : Json} (h : node.Inside v u w) :
    u = { required := ["stop"] } ∨
      ∃ members, v = .object members ∧ ("next", w) ∈ members ∧
        u = { reference := some "#/components/schemas/Node" } := by
  cases h with
  | property hm hs =>
      rename_i members m
      obtain ⟨hname, rfl⟩ : "next" = m.1 ∧ _ = u := by
        simpa [node, Dict.get?, ite_eq_iff] using hs
      exact Or.inr ⟨members, rfl, by rwa [hname], rfl⟩
  | not hs => exact Or.inl (Option.some.inj hs).symm
  | item hs => cases hs
  | extra _ _ hs => cases hs
  | allOf hs => cases hs
  | anyOf hs => cases hs
  | oneOf hs => cases hs

theorem unfolds_required {names : List String} :
    schemas.Unfolds n { required := names } v := by
  refine Unfolds.mono (n := 0) ⟨_, rfl, fun _ u w hu => ?_⟩ n.zero_le
  cases hu with
  | property _ hs => cases hs
  | item hs => cases hs
  | extra _ _ hs => cases hs
  | allOf hs => cases hs
  | anyOf hs => cases hs
  | oneOf hs => cases hs
  | not hs => cases hs

theorem unfolds_nodes :
    Unfolds [("Node", node)] (n + 1) { reference := some "#/components/schemas/Node" }
      (nodes n) := by
  induction n with
  | zero =>
      refine ⟨node, rfl, fun _ u w hu => ?_⟩
      obtain rfl | ⟨members, hv, hw, -⟩ := inside_node hu
      · exact unfolds_required
      · cases hv
        cases hw
  | succ n ih =>
      refine ⟨node, rfl, fun _ u w hu => ?_⟩
      obtain rfl | ⟨members, hv, hw, rfl⟩ := inside_node hu
      · exact unfolds_required
      · cases hv
        obtain rfl : w = nodes n := by simpa using hw
        exact ih

/-- A schema that is inside itself, along objects that end. -/
theorem violations_nodes :
    Unfolds [("Node", node)] maxDepth { reference := some "#/components/schemas/Node" } (nodes 2) ∧
      Satisfies [("Node", node)] { reference := some "#/components/schemas/Node" } (nodes 2) := by
  have h : Unfolds [("Node", node)] maxDepth { reference := some "#/components/schemas/Node" }
      (nodes 2) := unfolds_nodes.mono (by decide)
  exact ⟨h, (violations_eq_nil_iff_satisfies h).1.1 rfl⟩

end

end Schemas

end ApiContract
