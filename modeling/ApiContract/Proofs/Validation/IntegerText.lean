/-
**Integers in bodies and in parameters.**

The same number may stand in a body and in a parameter.  In a body a number is an integer if it has
no fraction, however it is written, up to `2 ^ 64 - 1` exactly and beyond as floating point.  In a
parameter the schema of integers reads digits after an optional sign, below `2 ^ 63`.

Main results:

* `Body.decode_numeral` — what a number is read as in a body;
* `Schemas.accepts_coerce_numeral_iff` — **which numbers are integers in a parameter**: those that a
  body holds as an integer below `2 ^ 63`, and minus zero.
-/

import ApiContract.Pattern.Library
import ApiContract.Proofs.Json.Numeral
import ApiContract.Proofs.Text.Utf8
import ApiContract.Proofs.Validation.ListedType
import ApiContract.Validation.Body

set_option relaxedAutoImplicit false
set_option autoImplicit false

namespace ApiContract

variable {schemas : Schemas} {s : Option Schema} {contentType : String} {t : ContentType}
  {n : Json.Numeral} {v : Json} {k : Int}

/-- What a number is read as in a body. -/
theorem Body.decode_numeral [Libraries] (ht : ContentType.parse? contentType = some t)
    (hjson : t.isJson = true) :
    decode schemas s contentType (Utf8.encode n.toList) =
      match Json.numberOf? n.toList with
      | some number => .ok (.value (Json.ofAtom (.number number)))
      | none =>
          .error (.malformed (.json (Libraries.jsonError (Utf8.encode n.toList)))) := by
  simp only [decode, ht, decodeAs, hjson, if_true, Json.ofBytes?, Utf8.decode?_encode,
    Json.Numeral.parse?_toList]
  cases Json.numberOf? n.toList with
  | none => rfl
  | some number => rfl

/-- A body holds an integer exactly if the number is read as one. -/
theorem Body.decode_numeral_eq_int_iff [Libraries] (ht : ContentType.parse? contentType = some t)
    (hjson : t.isJson = true)
    (hbody : decode schemas s contentType (Utf8.encode n.toList) = .ok (.value v)) :
    v = .number (.int k) ↔ Json.numberOf? n.toList = some (.int k) := by
  rw [decode_numeral ht hjson] at hbody
  cases hnumber : Json.numberOf? n.toList with
  | none =>
      rw [hnumber] at hbody
      cases hbody
  | some number =>
      rw [hnumber] at hbody
      cases hbody
      cases number with
      | int m => simp [Json.ofAtom]
      | float x =>
          simp only [Json.ofAtom]
          split <;> simp

namespace Schemas

/-- The schema of integers is satisfied by what it reads exactly if it reads an integer. -/
theorem accepts_coerce_integer_iff [Libraries] {text : String} :
    schemas.accepts (.ofType .integer none) (schemas.coerce (.ofType .integer none) [text]) = true ↔
      ∃ k, Decimal.readInt64? text.toList = some k := by
  rw [accepts_ofType_iff (by decide), coerce_ofType (by decide) (by decide), List.headD_cons,
    Coercion.scalar, Coercion.parsed?]
  cases Decimal.readInt64? text.toList with
  | none => simp [Json.hasType]
  | some k => simp [Json.hasType, Json.Number.isWhole]

/-- **Which numbers are integers in a parameter.**  For every number as it is written and every
value that a body of it has: the schema of integers accepts what it reads in a parameter of that
text exactly if the body has an integer below `2 ^ 63`, or the text is minus zero; and such an
integer is read in the parameter as in the body.  All other numbers without fraction, such as `1.0`,
`1e2` and `2 ^ 63`, are integers in a body alone. -/
theorem accepts_coerce_numeral_iff [Libraries] (ht : ContentType.parse? contentType = some t)
    (hjson : t.isJson = true)
    (hbody : Body.decode schemas s contentType (Utf8.encode n.toList) = .ok (.value v)) :
    (schemas.accepts (.ofType .integer none)
        (schemas.coerce (.ofType .integer none) [n.text]) = true ↔
      (∃ k < 2 ^ 63, v = .number (.int k)) ∨ n.text = "-0") ∧
    ∀ k < 2 ^ 63, v = .number (.int k) →
      schemas.coerce (.ofType .integer none) [n.text] = v := by
  have hchars : n.text.toList = n.toList := String.toList_ofList
  constructor
  · rw [accepts_coerce_integer_iff, hchars]
    simp only [Json.Numeral.readInt64?_toList_eq_some_iff,
      Body.decode_numeral_eq_int_iff ht hjson hbody, Json.Numeral.numberOf?_eq_int_iff]
    constructor
    · rintro ⟨k, hplain, hk, hlow, hhigh⟩
      by_cases hzero : n.negative = true ∧ k = 0
      · exact Or.inr (Json.Numeral.text_eq_of_whole_eq_zero hplain hzero.1 (hk.trans hzero.2))
      · exact Or.inl ⟨k, hhigh, hplain, hk, hlow, by omega, fun hnegative h => hzero ⟨hnegative, h⟩⟩
    · rintro (⟨k, hhigh, hplain, hk, hlow, -, -⟩ | hminus)
      · exact ⟨k, hplain, hk, hlow, hhigh⟩
      · refine ⟨0, Json.Numeral.readInt64?_toList_eq_some_iff.1 ?_⟩
        rw [← hchars, hminus]
        decide
  · intro k hhigh hv
    obtain ⟨hplain, hk, hlow, -⟩ := Json.Numeral.numberOf?_eq_int_iff.1
      ((Body.decode_numeral_eq_int_iff ht hjson hbody).1 hv)
    have hread := Json.Numeral.readInt64?_toList_eq_some_iff.2 ⟨hplain, hk, hlow, hhigh⟩
    rw [coerce_ofType (by decide) (by decide), List.headD_cons, Coercion.scalar, Coercion.parsed?,
      hchars, hread, hv]
    rfl

/-- The number `2 ^ 63` as it is written. -/
def beyondInt64 : Json.Numeral where
  negative := false
  digits := "9223372036854775808".toList
  fraction := []
  exponent := []
  isDigits_digits := ⟨by decide, List.all_eq_true.1 (by decide)⟩
  eq_zero_of_head? := by decide
  isFraction_fraction := Or.inl rfl
  isExponent_exponent := Or.inl rfl

/-- The number `2 ^ 63` is an integer in a body and none in a parameter. -/
theorem accepts_coerce_numeral_beyond :
    Body.decode [] none "application/json" (Utf8.encode beyondInt64.toList) =
        .ok (.value (.number (.int (2 ^ 63)))) ∧
      accepts [] (.ofType .integer none) (.number (.int (2 ^ 63))) = true ∧
      accepts [] (.ofType .integer none)
        (coerce [] (.ofType .integer none) [beyondInt64.text]) = false := by
  have ht : ContentType.parse? "application/json" = some ⟨"application", "json", none⟩ := by
    decide +kernel
  have hbody : Body.decode [] none "application/json" (Utf8.encode beyondInt64.toList) =
      .ok (.value (.number (.int (2 ^ 63)))) := by
    have hnumber : Json.numberOf? beyondInt64.toList = some (.int (2 ^ 63)) :=
      Json.Numeral.numberOf?_eq_int_iff.2
        ⟨⟨rfl, rfl⟩, by decide, by decide, by decide, nofun⟩
    rw [Body.decode_numeral ht (by decide +kernel), hnumber]
    rfl
  refine ⟨hbody, (accepts_ofType_iff (by decide)).2 ⟨rfl, nofun⟩, ?_⟩
  rw [← Bool.not_eq_true, (accepts_coerce_numeral_iff ht (by decide +kernel) hbody).1]
  rintro (⟨k, hk, heq⟩ | hminus)
  · cases heq
    exact absurd hk (by decide)
  · exact absurd hminus (by decide)

end Schemas

end ApiContract
