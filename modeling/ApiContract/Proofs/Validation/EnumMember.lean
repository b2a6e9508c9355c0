/-
**Listed values as parameters.**

A schema may list the values of a type that are allowed.  Each of them is accepted as a value.  Sent
as a parameter it is a text, and is accepted if it is read from its text as one of the values that
are listed.  Texts and truth values are.  A floating-point number is read as itself where the type
is that of all numbers, and not at all where it is that of integers.  An integer is read as itself
where the type is that of integers, and as the nearest floating-point number where it is that of all
numbers; then it is accepted only if that number is listed too.

Main definitions:

* `Json.parameterText` — the text of a value that is sent as a parameter;
* `Json.IsReadBack` — a listed value is read from its text as a listed value.

Main results:

* `Schemas.accepts_coerce_parameterText_iff` — **which listed values are accepted as parameters**.
-/

import ApiContract.Pattern.Library
import ApiContract.Proofs.Decimal.RoundTrip
import ApiContract.Proofs.Validation.ListedType

set_option relaxedAutoImplicit false
set_option autoImplicit false

namespace ApiContract

/-! ### Texts of values -/

/-- The text of a value that is sent as a parameter: a text is sent as it is, anything else as it is
written. -/
def Json.parameterText : Json → String
  | .string s => s
  | v => v.compact

/-- An integer is read from its text as a value that is listed: as itself, or as the nearest
floating-point number. -/
def Json.IntIsReadBack (values : List Json) (n : Int) : ValueType → Prop
  | .integer => -(2 ^ 63 : Int) ≤ n ∧ n < 2 ^ 63
  | _ => (Decimal.toNearest n).isFinite = true ∧
      ∃ y, .number (.float y) ∈ values ∧ (y == Decimal.toNearest n) = true

/-- A listed value is read from its text as a value that is listed. -/
def Json.IsReadBack (type : ValueType) (values : List Json) : Json → Prop
  | .number (.int n) => IntIsReadBack values n type
  | .number (.float _) => type = .number
  | _ => True

namespace Json

variable {m : Json} {type : ValueType} {n : Int} {x : Float}

theorem hasType_string_iff : m.hasType .string = true ↔ ∃ s, m = .string s := by
  cases m <;> simp [hasType]

theorem hasType_boolean_iff : m.hasType .boolean = true ↔ ∃ b, m = .bool b := by
  cases m <;> simp [hasType]

theorem hasType_number_iff : m.hasType .number = true ↔ ∃ k, m = .number k := by
  cases m <;> simp [hasType]

theorem hasType_integer_iff :
    m.hasType .integer = true ↔ ∃ k, m = .number k ∧ k.isWhole = true := by
  cases m <;> simp [hasType]

theorem toList_parameterText_int :
    (Json.number (.int n)).parameterText.toList = (toString n).toList :=
  String.toList_ofList

theorem toList_parameterText_float (h : x.isFinite = true) :
    (Json.number (.float x)).parameterText.toList =
      (Decimal.render Decimal.inJson x).toList := by
  have htext : Tree.numberText (.float x) = (Decimal.render Decimal.inJson x).toList := if_pos h
  rw [← htext]
  exact String.toList_ofList

/-- A finite number is the same as itself. -/
theorem same_float_self (h : x.isFinite = true) : (x == x) = true := by
  rw [Float.beq_self_iff]
  rintro rfl
  exact absurd h (by decide)

/-- What is the same as a floating-point number is one. -/
theorem same_float_iff {w : Json} :
    w.same (.number (.float x)) = true ↔ ∃ y, w = .number (.float y) ∧ (y == x) = true := by
  cases w with
  | number k => cases k <;> simp [same, Number.same]
  | _ => simp [same]

/-- A text, a truth value and a number are the same as themselves. -/
theorem same_self (htype : m.hasType type = true)
    (hscalar : type ∈ [.string, .integer, .number, .boolean])
    (hfinite : ∀ x, m = .number (.float x) → x.isFinite = true) : m.same m = true := by
  have hnumber : ∀ k, m = .number k → m.same m = true := by
    rintro k rfl
    cases k with
    | int n => simp [same, Number.same]
    | float x => exact same_float_iff.2 ⟨x, rfl, same_float_self (hfinite x rfl)⟩
  simp only [List.mem_cons, List.not_mem_nil, or_false] at hscalar
  rcases hscalar with rfl | rfl | rfl | rfl
  · obtain ⟨s, rfl⟩ := hasType_string_iff.1 htype
    simp [same]
  · obtain ⟨k, hk, -⟩ := hasType_integer_iff.1 htype
    exact hnumber k hk
  · obtain ⟨k, hk⟩ := hasType_number_iff.1 htype
    exact hnumber k hk
  · obtain ⟨b, rfl⟩ := hasType_boolean_iff.1 htype
    simp [same]

end Json

/-! ### What the text of a value is read as -/

namespace Coercion

variable {n : Int} {x : Float}

theorem scalar_parameterText_bool (b : Bool) :
    scalar (Json.bool b).parameterText (some .boolean) = .bool b := by
  cases b <;> rfl

/-- As an integer an integer is read as itself, if it fits 64 bits with a sign. -/
theorem scalar_parameterText_int :
    scalar (Json.number (.int n)).parameterText (some .integer) =
      if -(2 ^ 63 : Int) ≤ n ∧ n < 2 ^ 63 then .number (.int n)
      else .string (Json.number (.int n)).parameterText := by
  rw [scalar, parsed?, Json.toList_parameterText_int]
  split
  · rename_i hbounds
    rw [Decimal.readInt64?_toString_eq_some_iff.2 ⟨rfl, hbounds⟩]
    rfl
  · rename_i hbounds
    cases hread : Decimal.readInt64? (toString n).toList with
    | none => rfl
    | some k => exact absurd (Decimal.readInt64?_toString_eq_some_iff.1 hread).2 hbounds

/-- As an integer a floating-point number is not read. -/
theorem scalar_parameterText_float_of_integer (h : x.isFinite = true) :
    scalar (Json.number (.float x)).parameterText (some .integer) =
      .string (Json.number (.float x)).parameterText := by
  rw [scalar, parsed?, Json.toList_parameterText_float h, Decimal.readInt64?_render rfl]
  rfl

/-- As a number an integer is read as the nearest floating-point number. -/
theorem scalar_parameterText_int_of_number :
    scalar (Json.number (.int n)).parameterText (some .number) =
      if (Decimal.toNearest n).isFinite = true then .number (.float (Decimal.toNearest n))
      else .string (Json.number (.int n)).parameterText := by
  simp only [scalar, parsed?, Json.toList_parameterText_int, Decimal.readFloat?_toString]
  split <;> rfl

/-- As a number a floating-point number is read as itself. -/
theorem scalar_parameterText_float (h : x.isFinite = true) :
    scalar (Json.number (.float x)).parameterText (some .number) = .number (.float x) := by
  simp only [scalar, parsed?, Json.toList_parameterText_float h, Decimal.readFloat?_render _ h,
    if_pos h]
  rfl

/-! ### Which listed numbers are read back -/

variable {values : List Json}

/-- An integer that is listed is read back as an integer exactly if it fits 64 bits with a sign. -/
theorem listed_int_iff (hself : ∃ w ∈ values, w.same (.number (.int n)) = true) :
    ((scalar (Json.number (.int n)).parameterText (some .integer)).hasType .integer = true ∧
        ∃ w ∈ values,
          w.same (scalar (Json.number (.int n)).parameterText (some .integer)) = true) ↔
      Json.IntIsReadBack values n .integer := by
  rw [scalar_parameterText_int]
  split
  · rename_i hbounds
    exact iff_of_true ⟨rfl, hself⟩ hbounds
  · rename_i hbounds
    exact iff_of_false (by simp [Json.hasType]) hbounds

/-- An integer is read as a number that is listed exactly if the nearest floating-point number is
finite and listed. -/
theorem listed_int_of_number_iff :
    ((scalar (Json.number (.int n)).parameterText (some .number)).hasType .number = true ∧
        ∃ w ∈ values,
          w.same (scalar (Json.number (.int n)).parameterText (some .number)) = true) ↔
      Json.IntIsReadBack values n .number := by
  rw [scalar_parameterText_int_of_number]
  split
  · rename_i hfinite
    simp only [Json.same_float_iff]
    constructor
    · rintro ⟨-, w, hw, y, rfl, hy⟩
      exact ⟨hfinite, y, hw, hy⟩
    · rintro ⟨-, y, hw, hy⟩
      exact ⟨rfl, _, hw, y, rfl, hy⟩
  · rename_i hinfinite
    exact iff_of_false (by simp [Json.hasType]) fun h => hinfinite h.1

end Coercion

namespace Schemas

variable {schemas : Schemas} {type : ValueType} {values : List Json} {m : Json}

/-- **Which listed values are accepted as parameters.**  For every schema of texts, integers,
numbers or truth values with a list of values and every value of the list that has the type: the
value is accepted, and the text of it is accepted exactly if it is read back. -/
theorem accepts_coerce_parameterText_iff [Libraries] (hm : m ∈ values)
    (htype : m.hasType type = true) (hscalar : type ∈ [.string, .integer, .number, .boolean])
    (hfinite : ∀ x, m = .number (.float x) → x.isFinite = true) :
    schemas.accepts (.ofType type (some values)) m = true ∧
      (schemas.accepts (.ofType type (some values))
          (schemas.coerce (.ofType type (some values)) [m.parameterText]) = true ↔
        m.IsReadBack type values) := by
  have hplain : type ≠ .array ∧ type ≠ .null := by
    revert hscalar
    cases type <;> decide
  have hself : ∃ w ∈ values, w.same m = true := ⟨m, hm, Json.same_self htype hscalar hfinite⟩
  simp only [accepts_ofType_iff hplain.2, coerce_ofType hplain.1 hplain.2, List.headD_cons,
    Option.mem_some_iff, forall_eq']
  refine ⟨⟨htype, hself⟩, ?_⟩
  simp only [List.mem_cons, List.not_mem_nil, or_false] at hscalar
  rcases hscalar with rfl | rfl | rfl | rfl
  · obtain ⟨s, rfl⟩ := Json.hasType_string_iff.1 htype
    exact iff_of_true ⟨rfl, hself⟩ trivial
  · obtain ⟨k, rfl, -⟩ := Json.hasType_integer_iff.1 htype
    cases k with
    | int n => exact Coercion.listed_int_iff hself
    | float x =>
        rw [Coercion.scalar_parameterText_float_of_integer (hfinite x rfl)]
        exact iff_of_false (by simp [Json.hasType]) (by rintro ⟨⟩)
  · obtain ⟨k, rfl⟩ := Json.hasType_number_iff.1 htype
    cases k with
    | int n => exact Coercion.listed_int_of_number_iff
    | float x =>
        rw [Coercion.scalar_parameterText_float (hfinite x rfl)]
        exact iff_of_true ⟨rfl, hself⟩ rfl
  · obtain ⟨b, rfl⟩ := Json.hasType_boolean_iff.1 htype
    rw [Coercion.scalar_parameterText_bool]
    exact iff_of_true ⟨rfl, hself⟩ trivial

/-- A list of an integer and of a floating-point number. -/
def halves : List Json := [.number (.int 1), .number (.float 2.5)]

/-- The integer `1` is listed for numbers, and is accepted as a value, but its text is not. -/
theorem accepts_coerce_parameterText_one :
    Json.number (.int 1) ∈ halves ∧
      accepts [] (.ofType .number (some halves)) (.number (.int 1)) = true ∧
      accepts [] (.ofType .number (some halves))
        (coerce [] (.ofType .number (some halves)) [(Json.number (.int 1)).parameterText]) =
          false := by
  have hm : Json.number (.int 1) ∈ halves := List.mem_cons_self
  obtain ⟨hvalue, htext⟩ :=
    @accepts_coerce_parameterText_iff [] .number halves _ _ hm rfl (by simp) nofun
  refine ⟨hm, hvalue, ?_⟩
  rw [← Bool.not_eq_true, htext]
  rintro ⟨-, y, hy, hsame⟩
  simp only [halves, List.mem_cons, List.not_mem_nil, or_false] at hy
  rcases hy with hy | hy
  · cases hy
  · cases hy
    exact absurd hsame (by decide +kernel)

end Schemas

end ApiContract
