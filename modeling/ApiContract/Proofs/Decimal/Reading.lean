/-
**Reading digits.**

A text of digits is a number in base ten.  Nothing but digits, signs, a point and the letter of an
exponent is part of a number, apart from the words for what is no finite number.

Main results:

* `Decimal.digitsValue?_eq_some_iff` — **which texts are digits, and what they stand for**;
* `Decimal.readInt64?_eq_some_iff` — which texts are integers of 64 bits;
* `Decimal.readFloat?_of_isDigit` — a number that begins with a digit is read by its digits;
* `Decimal.readFloat?_eq_none_of_comma` — a text with a comma in it is no number.
-/

import ApiContract.Decimal.Reading
import ApiContract.Proofs.Text.Casing
import Mathlib.Algebra.Ring.Int.Defs
import Mathlib.Data.List.TakeWhile

set_option relaxedAutoImplicit false
set_option autoImplicit false

namespace ApiContract

theorem Text.isDigit_eq (c : Char) : isDigit c = c.isDigit := by
  rw [isDigit, Char.isDigit]
  rfl

theorem Text.hexValue?_of_isDigit {c : Char} (h : isDigit c = true) :
    hexValue? c = some (c.toNat - '0'.toNat) := by
  rw [isDigit, Bool.and_eq_true, decide_eq_true_eq, decide_eq_true_eq] at h
  rw [hexValue?, if_pos h]

theorem Text.isDigit_of_hexValue? {c : Char} {d : Nat} (h : hexValue? c = some d) (hd : d < 10) :
    isDigit c = true := by
  unfold hexValue? at h
  split at h
  · rename_i hdigit
    simpa [isDigit] using hdigit
  · split at h
    · obtain rfl := Option.some.inj h
      omega
    · split at h
      · obtain rfl := Option.some.inj h
        omega
      · cases h

namespace Decimal

variable {cs : List Char} {n : Nat} {k : Int}

/-! ### Digits -/

/-- Append a digit to the number that has been read; anything else makes it none. -/
def appendDigit (read : Option Nat) (c : Char) : Option Nat :=
  match read, Text.hexValue? c with
  | some n, some d => if d < 10 then some (n * 10 + d) else none
  | _, _ => none

theorem appendDigit_of_isDigit {c : Char} (h : Text.isDigit c = true) (m : Nat) :
    appendDigit (some m) c = some (10 * m + (c.toNat - '0'.toNat)) := by
  have hlt : c.toNat - '0'.toNat < 10 := by
    rw [Text.isDigit_eq, Char.isDigit_iff_toNat] at h
    change 48 ≤ c.toNat ∧ c.toNat ≤ 57 at h
    change c.toNat - 48 < 10
    omega
  simp only [appendDigit, Text.hexValue?_of_isDigit h, if_pos hlt]
  rw [Nat.mul_comm]

theorem appendDigit_eq_none {c : Char} (h : ¬ Text.isDigit c = true) (read : Option Nat) :
    appendDigit read c = none := by
  unfold appendDigit
  split
  · rename_i hvalue
    rw [if_neg fun hd => h (Text.isDigit_of_hexValue? hvalue hd)]
  · rfl

theorem foldl_appendDigit_none (cs : List Char) : cs.foldl appendDigit none = none := by
  induction cs with
  | nil => rfl
  | cons c cs ih => exact ih

/-- The number that has been read grows by a digit at a time, and is lost at anything else. -/
theorem foldl_appendDigit_eq_some_iff {m : Nat} :
    cs.foldl appendDigit (some m) = some n ↔
      (∀ c ∈ cs, Text.isDigit c = true) ∧ Nat.ofDigitChars 10 cs m = n := by
  induction cs generalizing m with
  | nil => simp
  | cons c cs ih =>
      rw [List.foldl_cons, List.forall_mem_cons, Nat.ofDigitChars_cons]
      by_cases hc : Text.isDigit c = true
      · rw [appendDigit_of_isDigit hc, ih]
        simp [hc]
      · rw [appendDigit_eq_none hc, foldl_appendDigit_none]
        simp [hc]

/-- **Which texts are digits, and what they stand for.** -/
theorem digitsValue?_eq_some_iff :
    digitsValue? cs = some n ↔
      cs ≠ [] ∧ (∀ c ∈ cs, Text.isDigit c = true) ∧ Nat.ofDigitChars 10 cs 0 = n := by
  have hfold : digitsValue? cs = if cs = [] then none else cs.foldl appendDigit (some 0) := rfl
  rw [hfold]
  split
  · rename_i hnil
    simp [hnil]
  · rename_i hne
    rw [foldl_appendDigit_eq_some_iff]
    simp [hne]

theorem digitsValue?_of_isDigit (hne : cs ≠ []) (h : ∀ c ∈ cs, Text.isDigit c = true) :
    digitsValue? cs = some (Nat.ofDigitChars 10 cs 0) :=
  digitsValue?_eq_some_iff.2 ⟨hne, h, rfl⟩

theorem digitsValue?_eq_none {c : Char} (hc : c ∈ cs) (h : Text.isDigit c = false) :
    digitsValue? cs = none := by
  cases hvalue : digitsValue? cs with
  | none => rfl
  | some n =>
      have hdigit := (digitsValue?_eq_some_iff.1 hvalue).2.1 c hc
      rw [h] at hdigit
      cases hdigit

theorem digitsValue?_toDigits (n : Nat) : digitsValue? (Nat.toDigits 10 n) = some n := by
  refine digitsValue?_eq_some_iff.2 ⟨Nat.toDigits_ne_nil, fun c hc => ?_, ?_⟩
  · rw [Text.isDigit_eq]
    exact Nat.isDigit_of_mem_toDigits (by decide) (by decide) hc
  · exact Nat.ofDigitChars_ten_toDigits

/-! ### Signs -/

/-- A sign is a single character at the beginning. -/
theorem splitSign_cases (cs : List Char) :
    (splitSign cs = (true, cs.tail) ∧ cs.head? = some '-') ∨
      (splitSign cs = (false, cs.tail) ∧ cs.head? = some '+') ∨
        (splitSign cs = (false, cs) ∧ cs.head? ≠ some '-' ∧ cs.head? ≠ some '+') := by
  unfold splitSign
  split
  · exact Or.inl ⟨rfl, rfl⟩
  · exact Or.inr (Or.inl ⟨rfl, rfl⟩)
  · rename_i hminus hplus
    refine Or.inr (Or.inr ⟨rfl, fun h => ?_, fun h => ?_⟩)
    · obtain ⟨ds, rfl⟩ := List.head?_eq_some_iff.1 h
      exact hminus ds rfl
    · obtain ⟨ds, rfl⟩ := List.head?_eq_some_iff.1 h
      exact hplus ds rfl

theorem mem_splitSign {c : Char} (hc : c ∈ cs) (hminus : c ≠ '-') (hplus : c ≠ '+') :
    c ∈ (splitSign cs).2 := by
  have htail : ∀ d, cs.head? = some d → c ≠ d → c ∈ cs.tail := by
    intro d hd hne
    obtain ⟨ds, rfl⟩ := List.head?_eq_some_iff.1 hd
    exact (List.mem_cons.1 hc).resolve_left hne
  rcases splitSign_cases cs with ⟨h, hd⟩ | ⟨h, hd⟩ | ⟨h, -⟩
  · rw [h]
    exact htail '-' hd hminus
  · rw [h]
    exact htail '+' hd hplus
  · rw [h]
    exact hc

theorem splitSign_of_isDigit {c : Char} (h : Text.isDigit c = true) :
    splitSign (c :: cs) = (false, c :: cs) := by
  rcases splitSign_cases (c :: cs) with ⟨-, hd⟩ | ⟨-, hd⟩ | ⟨h, -⟩
  · obtain rfl := Option.some.inj hd
    exact absurd h (by decide)
  · obtain rfl := Option.some.inj hd
    exact absurd h (by decide)
  · exact h

/-! ### Integers -/

/-- **Which texts are integers of 64 bits**: digits after an optional sign, within the bounds. -/
theorem readInt64?_eq_some_iff :
    readInt64? cs = some k ↔
      ∃ n, digitsValue? (splitSign cs).2 = some n ∧
        k = (if (splitSign cs).1 = true then -(n : Int) else n) ∧
          -(2 ^ 63 : Int) ≤ k ∧ k < 2 ^ 63 := by
  have hpow : Nat.pow 2 63 = 2 ^ 63 := rfl
  unfold readInt64?
  generalize splitSign cs = p
  obtain ⟨negative, ds⟩ := p
  cases hvalue : digitsValue? ds with
  | none => simp [hvalue]
  | some n =>
      simp only [hvalue, hpow, Option.some.injEq, exists_eq_left']
      cases negative with
      | false =>
          simp only [Bool.false_eq_true, if_false]
          split
          · rw [Option.some.injEq]
            omega
          · refine iff_of_false (by simp) ?_
            omega
      | true =>
          simp only [if_true]
          split
          · rw [Option.some.injEq]
            omega
          · refine iff_of_false (by simp) ?_
            omega

/-! ### Decimal numbers -/

/-- Digits end where there is something else. -/
theorem takeWhile_isDigit {whole rest : List Char} (h : ∀ c ∈ whole, Text.isDigit c = true)
    (hrest : ∀ c ∈ rest.head?, Text.isDigit c = false) :
    (whole ++ rest).takeWhile Text.isDigit = whole := by
  rw [List.takeWhile_append_of_pos h]
  cases rest with
  | nil => simp
  | cons c cs => simp [hrest c rfl]

theorem dropWhile_isDigit {whole rest : List Char} (h : ∀ c ∈ whole, Text.isDigit c = true)
    (hrest : ∀ c ∈ rest.head?, Text.isDigit c = false) :
    (whole ++ rest).dropWhile Text.isDigit = rest := by
  rw [List.dropWhile_append_of_pos h]
  cases rest with
  | nil => rfl
  | cons c cs => simp [hrest c rfl]

theorem mem_dropWhile_isDigit {c : Char} (hc : c ∈ cs) (h : Text.isDigit c = false) :
    c ∈ cs.dropWhile Text.isDigit := by
  rw [← List.takeWhile_append_dropWhile (p := Text.isDigit) (l := cs), List.mem_append] at hc
  rcases hc with hc | hc
  · rw [List.mem_takeWhile_imp hc] at h
    cases h
  · exact hc

theorem readExponent?_eq_none {c : Char} (hc : c ∈ cs) (h : Text.isDigit c = false)
    (hletter : c ≠ 'e' ∧ c ≠ 'E') (hsign : c ≠ '-' ∧ c ≠ '+') : readExponent? cs = none := by
  cases cs with
  | nil => cases hc
  | cons d ds =>
      rw [readExponent?]
      split
      · rename_i hd
        have hne : c ≠ d := by
          rintro rfl
          rcases hd with rfl | rfl
          · exact hletter.1 rfl
          · exact hletter.2 rfl
        have hmem : c ∈ (splitSign ds).2 :=
          mem_splitSign ((List.mem_cons.1 hc).resolve_left hne) hsign.1 hsign.2
        simp only [digitsValue?_eq_none hmem h]
        rfl
      · rfl

/-- Digits with a point behind them go on with the digits of a fraction. -/
theorem readUnsigned?_of_point {r : List Char} (negative : Bool)
    (h : cs.dropWhile Text.isDigit = '.' :: r) :
    readUnsigned? negative cs =
      (digitsValue? (cs.takeWhile Text.isDigit ++ r.takeWhile Text.isDigit)).bind fun digits =>
        (readExponent? (r.dropWhile Text.isDigit)).map fun e =>
          ofParts negative digits (e - (r.takeWhile Text.isDigit).length) := by
  simp only [readUnsigned?, h]
  cases digitsValue? (cs.takeWhile Text.isDigit ++ r.takeWhile Text.isDigit) with
  | none => rfl
  | some digits => cases readExponent? (r.dropWhile Text.isDigit) <;> rfl

/-- Digits without a point behind them go on with an exponent. -/
theorem readUnsigned?_of_ne_point (negative : Bool)
    (h : (cs.dropWhile Text.isDigit).head? ≠ some '.') :
    readUnsigned? negative cs =
      (digitsValue? (cs.takeWhile Text.isDigit)).bind fun digits =>
        (readExponent? (cs.dropWhile Text.isDigit)).map fun e => ofParts negative digits e := by
  cases hrest : cs.dropWhile Text.isDigit with
  | nil =>
      simp only [readUnsigned?, hrest, List.append_nil]
      cases digitsValue? (cs.takeWhile Text.isDigit) with
      | none => rfl
      | some digits => rfl
  | cons d r =>
      have hd : d ≠ '.' := by
        rintro rfl
        rw [hrest] at h
        exact h rfl
      cases hvalue : digitsValue? (cs.takeWhile Text.isDigit) with
      | none => simp [readUnsigned?, hrest, hd, hvalue]
      | some digits =>
          cases hexponent : readExponent? (d :: r) with
          | none => simp [readUnsigned?, hrest, hd, hvalue, hexponent]
          | some e => simp [readUnsigned?, hrest, hd, hvalue, hexponent]

theorem readUnsigned?_eq_none {c : Char} (negative : Bool) (hc : c ∈ cs)
    (h : Text.isDigit c = false) (hpoint : c ≠ '.') (hletter : c ≠ 'e' ∧ c ≠ 'E')
    (hsign : c ≠ '-' ∧ c ≠ '+') : readUnsigned? negative cs = none := by
  have hrest := mem_dropWhile_isDigit hc h
  by_cases hhead : (cs.dropWhile Text.isDigit).head? = some '.'
  · obtain ⟨r, hr⟩ := List.head?_eq_some_iff.1 hhead
    rw [hr, List.mem_cons] at hrest
    have hmem := mem_dropWhile_isDigit (hrest.resolve_left hpoint) h
    rw [readUnsigned?_of_point negative hr, readExponent?_eq_none hmem h hletter hsign]
    simp
  · rw [readUnsigned?_of_ne_point negative hhead, readExponent?_eq_none hrest h hletter hsign]
    simp

/-- A sign and a number that begins with a digit: it is none of the words. -/
theorem readFloat?_of_isDigit {c : Char} (negative : Bool) (h : Text.isDigit c = true) :
    readFloat? ((if negative then ['-'] else []) ++ c :: cs) =
      readUnsigned? negative (c :: cs) := by
  have hsign : splitSign ((if negative then ['-'] else []) ++ c :: cs) = (negative, c :: cs) := by
    cases negative with
    | true => rfl
    | false => exact splitSign_of_isDigit h
  have hlower : Text.isDigit (Text.lowerAscii c) = true := by
    rwa [Text.lowerAscii_of_isDigit (by rwa [← Text.isDigit_eq])]
  have hword : ∀ word : String, word.toList.head?.any Text.isDigit = false →
      String.ofList ((c :: cs).map Text.lowerAscii) ≠ word := by
    rintro word hword rfl
    rw [String.toList_ofList, List.map_cons, List.head?_cons, Option.any_some, hlower] at hword
    cases hword
  unfold readFloat?
  rw [hsign]
  simp only
  split
  · rename_i h
    exact absurd h (hword "inf" (by decide))
  · rename_i h
    exact absurd h (hword "infinity" (by decide))
  · rename_i h
    exact absurd h (hword "nan" (by decide))
  · rfl

/-- **A text with a comma in it is no number.** -/
theorem readFloat?_eq_none_of_comma (hc : ',' ∈ cs) : readFloat? cs = none := by
  have hmem : ',' ∈ (splitSign cs).2 := mem_splitSign hc (by decide) (by decide)
  have hlower : ',' ∈ (splitSign cs).2.map Text.lowerAscii :=
    List.mem_map.2 ⟨',', hmem, by decide⟩
  have hword : ∀ word : String, ',' ∉ word.toList →
      String.ofList ((splitSign cs).2.map Text.lowerAscii) ≠ word := by
    rintro word hword rfl
    rw [String.toList_ofList] at hword
    exact hword hlower
  unfold readFloat?
  simp only
  split
  · rename_i h
    exact absurd h (hword "inf" (by decide))
  · rename_i h
    exact absurd h (hword "infinity" (by decide))
  · rename_i h
    exact absurd h (hword "nan" (by decide))
  · exact readUnsigned?_eq_none _ hmem (by decide) (by decide) (by decide) (by decide)

theorem readInt64?_eq_none {c : Char} (hc : c ∈ cs) (h : Text.isDigit c = false)
    (hsign : c ≠ '-' ∧ c ≠ '+') : readInt64? cs = none := by
  cases hread : readInt64? cs with
  | none => rfl
  | some k =>
      obtain ⟨n, hvalue, -⟩ := readInt64?_eq_some_iff.1 hread
      rw [digitsValue?_eq_none (mem_splitSign hc hsign.1 hsign.2) h] at hvalue
      cases hvalue

end Decimal

end ApiContract
