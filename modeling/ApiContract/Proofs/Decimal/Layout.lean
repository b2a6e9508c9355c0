/-
**Digits that are laid out are read back.**

Digits with a power of ten are written with a point somewhere among them, with zeros before or
behind them, or with an exponent.  Whichever layout a format chooses, the reader finds digits and a
power of ten of the same value.

Main results:

* `Decimal.readUnsigned?_fraction`, `Decimal.readUnsigned?_whole` — how digits are read with a
  fraction and without one;
* `Decimal.readUnsigned?_scientific`, `Decimal.readUnsigned?_pointed` — how the two layouts are
  read;
* `Decimal.exists_layout_eq_cons`, `Decimal.exists_mem_layout` — every layout begins with a digit,
  and has a point or an exponent where integers are marked.
-/

import ApiContract.Decimal.Layout
import ApiContract.Proofs.Decimal.Reading
import Mathlib.Algebra.Order.Field.Rat
import Mathlib.Tactic.FieldSimp

set_option relaxedAutoImplicit false
set_option autoImplicit false

namespace ApiContract.Decimal

section

variable {whole fraction rest : List Char} {e : Int}

/-! ### Numbers -/

/-- What may follow the digits of a number: nothing, or an exponent. -/
def EndsDigits (rest : List Char) : Prop := ∀ c ∈ rest.head?, c = 'e'

theorem EndsDigits.isDigit_eq_false (h : EndsDigits rest) :
    ∀ c ∈ rest.head?, Text.isDigit c = false := by
  intro c hc
  rw [h c hc]
  decide

/-- Digits without a fraction. -/
theorem readUnsigned?_whole (negative : Bool) (hne : whole ≠ [])
    (hdigits : ∀ c ∈ whole, Text.isDigit c = true) (hrest : EndsDigits rest)
    (he : readExponent? rest = some e) :
    readUnsigned? negative (whole ++ rest) =
      some (ofParts negative (Nat.ofDigitChars 10 whole 0) e) := by
  have hdrop := dropWhile_isDigit hdigits hrest.isDigit_eq_false
  rw [readUnsigned?_of_ne_point, takeWhile_isDigit hdigits hrest.isDigit_eq_false, hdrop,
    digitsValue?_of_isDigit hne hdigits, he]
  · rfl
  · rw [hdrop]
    intro hpoint
    exact absurd (hrest '.' hpoint) (by decide)

/-- Digits with a fraction. -/
theorem readUnsigned?_fraction (negative : Bool) (hne : whole ≠ [])
    (hdigits : ∀ c ∈ whole ++ fraction, Text.isDigit c = true)
    (hrest : EndsDigits rest) (he : readExponent? rest = some e) :
    readUnsigned? negative (whole ++ '.' :: (fraction ++ rest)) =
      some (ofParts negative (Nat.ofDigitChars 10 (whole ++ fraction) 0)
        (e - fraction.length)) := by
  have hwhole : ∀ c ∈ whole, Text.isDigit c = true :=
    fun c hc => hdigits c (List.mem_append_left _ hc)
  have hfraction : ∀ c ∈ fraction, Text.isDigit c = true :=
    fun c hc => hdigits c (List.mem_append_right _ hc)
  have hpoint : ∀ c ∈ ('.' :: (fraction ++ rest)).head?, Text.isDigit c = false := by
    rintro c ⟨⟩
    decide
  have htail := hrest.isDigit_eq_false
  rw [readUnsigned?_of_point negative (dropWhile_isDigit hwhole hpoint),
    takeWhile_isDigit hwhole hpoint, takeWhile_isDigit hfraction htail,
    dropWhile_isDigit hfraction htail,
    digitsValue?_of_isDigit (List.append_ne_nil_of_left_ne_nil hne _) hdigits, he]
  rfl

theorem endsDigits_nil : EndsDigits [] := nofun

/-- Digits and nothing else. -/
theorem readUnsigned?_digits (negative : Bool) (hne : whole ≠ [])
    (hdigits : ∀ c ∈ whole, Text.isDigit c = true) :
    readUnsigned? negative whole = some (ofParts negative (Nat.ofDigitChars 10 whole 0) 0) := by
  have hread := readUnsigned?_whole negative hne hdigits endsDigits_nil rfl
  rwa [List.append_nil] at hread

/-- Digits on both sides of a point and nothing else. -/
theorem readUnsigned?_point (negative : Bool) (hne : whole ≠ [])
    (hdigits : ∀ c ∈ whole ++ fraction, Text.isDigit c = true) :
    readUnsigned? negative (whole ++ '.' :: fraction) =
      some (ofParts negative (Nat.ofDigitChars 10 (whole ++ fraction) 0) (-fraction.length)) := by
  have hread := readUnsigned?_fraction negative hne hdigits endsDigits_nil rfl
  rwa [List.append_nil, zero_sub] at hread

/-! ### Layouts -/

theorem isDigit_of_mem_toDigits {n : Nat} {c : Char} (hc : c ∈ Nat.toDigits 10 n) :
    Text.isDigit c = true := by
  rw [Text.isDigit_eq]
  exact Nat.isDigit_of_mem_toDigits (by decide) (by decide) hc

theorem readExponent?_toDigits (e : Int) :
    readExponent? (['e', if e < 0 then '-' else '+'] ++ Nat.toDigits 10 e.natAbs) = some e := by
  by_cases hneg : e < 0
  · have hvalue : -(e.natAbs : Int) = e := by omega
    rw [if_pos hneg]
    simp only [List.cons_append, List.nil_append, readExponent?, splitSign, digitsValue?_toDigits,
      true_or, if_true]
    exact congrArg some hvalue
  · have hvalue : (e.natAbs : Int) = e := by omega
    rw [if_neg hneg]
    simp only [List.cons_append, List.nil_append, readExponent?, splitSign, digitsValue?_toDigits,
      true_or, if_true, Bool.false_eq_true, if_false]
    exact congrArg some hvalue

variable {d : Nat} {power : Int}

/-- Digits with an exponent. -/
theorem readUnsigned?_scientific (negative : Bool) (d : Nat) (e : Int) :
    readUnsigned? negative (scientific (Nat.toDigits 10 d) e) =
      some (ofParts negative d (e + 1 - (Nat.toDigits 10 d).length)) := by
  have hlength : 0 < (Nat.toDigits 10 d).length := Nat.length_toDigits_pos
  have hvalue : Nat.ofDigitChars 10 (Nat.toDigits 10 d) 0 = d := Nat.ofDigitChars_ten_toDigits
  have hends : EndsDigits (['e', if e < 0 then '-' else '+'] ++ Nat.toDigits 10 e.natAbs) := by
    rintro c ⟨⟩
    rfl
  have hdigits : ∀ c ∈ Nat.toDigits 10 d, Text.isDigit c = true :=
    fun c hc => isDigit_of_mem_toDigits hc
  generalize Nat.toDigits 10 d = ds at *
  obtain ⟨c, cs, rfl⟩ := List.exists_cons_of_length_pos hlength
  have hexponent := readExponent?_toDigits e
  unfold scientific
  rw [List.take_succ_cons, List.take_zero, List.drop_succ_cons, List.drop_zero, List.append_assoc,
    List.append_assoc]
  split
  · rename_i hone
    obtain rfl : cs = [] := List.length_eq_zero_iff.1 (by simpa using hone)
    rw [List.nil_append, readUnsigned?_whole _ (List.cons_ne_nil c []) hdigits hends hexponent,
      hvalue, List.length_singleton, Nat.cast_one, add_sub_cancel_right]
  · refine (readUnsigned?_fraction _ (List.cons_ne_nil c []) hdigits hends hexponent).trans ?_
    rw [List.singleton_append, hvalue, List.length_cons, Nat.cast_add, Nat.cast_one,
      add_sub_add_right_eq_sub]

theorem isDigit_of_mem_zeros {k : Nat} {c : Char} (hc : c ∈ List.replicate k '0') :
    Text.isDigit c = true := by
  rw [List.eq_of_mem_replicate hc]
  decide

/-- Digits behind a point and zeros. -/
theorem readUnsigned?_before (negative : Bool) {ds : List Char}
    (hdigits : ∀ c ∈ ds, Text.isDigit c = true) (k : Nat) :
    readUnsigned? negative (['0', '.'] ++ List.replicate k '0' ++ ds) =
      some (ofParts negative (Nat.ofDigitChars 10 ds 0) (-(k + ds.length : Int))) := by
  have hall : ∀ c ∈ ['0'] ++ (List.replicate k '0' ++ ds), Text.isDigit c = true := by
    intro c hc
    rcases List.mem_append.1 hc with hc | hc
    · exact isDigit_of_mem_zeros (k := 1) hc
    · rcases List.mem_append.1 hc with hc | hc
      · exact isDigit_of_mem_zeros hc
      · exact hdigits c hc
  have hread := readUnsigned?_point negative (List.cons_ne_nil '0' []) hall
  have hvalue : Nat.ofDigitChars 10 (['0'] ++ (List.replicate k '0' ++ ds)) 0 =
      Nat.ofDigitChars 10 ds 0 := by
    rw [Nat.ofDigitChars_append, Nat.ofDigitChars_append, Nat.ofDigitChars_replicate_zero]
    rfl
  rw [hvalue, List.length_append, List.length_replicate, Nat.cast_add] at hread
  rw [← hread]
  simp

/-- Digits before zeros, with a point behind them or not. -/
theorem readUnsigned?_behind (l : Layout) (negative : Bool) {ds : List Char} (hne : ds ≠ [])
    (hdigits : ∀ c ∈ ds, Text.isDigit c = true) (k : Nat) :
    ∃ digits power, readUnsigned? negative
        (ds ++ List.replicate k '0' ++ if l.marksIntegers then ['.', '0'] else []) =
          some (ofParts negative digits power) ∧
      (digits * 10 ^ power : ℚ) = Nat.ofDigitChars 10 ds 0 * 10 ^ (k : Int) := by
  have hne' : ds ++ List.replicate k '0' ≠ [] := List.append_ne_nil_of_left_ne_nil hne _
  have hall : ∀ c ∈ ds ++ List.replicate k '0', Text.isDigit c = true := by
    intro c hc
    rcases List.mem_append.1 hc with hc | hc
    · exact hdigits c hc
    · exact isDigit_of_mem_zeros hc
  have hvalue : Nat.ofDigitChars 10 (ds ++ List.replicate k '0') 0 =
      10 ^ k * Nat.ofDigitChars 10 ds 0 := by
    rw [Nat.ofDigitChars_append, Nat.ofDigitChars_replicate_zero]
  cases l.marksIntegers with
  | false =>
      have hread := readUnsigned?_digits negative hne' hall
      rw [hvalue, ← List.append_nil (ds ++ _)] at hread
      refine ⟨_, _, hread, ?_⟩
      push_cast
      rw [mul_one, zpow_natCast, mul_comm]
  | true =>
      have hall' : ∀ c ∈ ds ++ List.replicate k '0' ++ ['0'], Text.isDigit c = true := by
        intro c hc
        rcases List.mem_append.1 hc with hc | hc
        · exact hall c hc
        · exact isDigit_of_mem_zeros (k := 1) hc
      have hread := readUnsigned?_point negative hne' hall'
      have hten : Nat.ofDigitChars 10 ['0'] (10 ^ k * Nat.ofDigitChars 10 ds 0) =
          10 * (10 ^ k * Nat.ofDigitChars 10 ds 0) :=
        Nat.ofDigitChars_replicate_zero (n := 1)
      rw [Nat.ofDigitChars_append, hvalue, hten] at hread
      refine ⟨_, _, hread, ?_⟩
      rw [List.length_singleton, zpow_natCast]
      push_cast
      rw [zpow_neg_one]
      field_simp

/-- Digits on both sides of a point. -/
theorem readUnsigned?_among (negative : Bool) {ds : List Char}
    (hdigits : ∀ c ∈ ds, Text.isDigit c = true) {k : Nat} (hpos : 0 < k) (hlt : k < ds.length) :
    readUnsigned? negative (ds.take k ++ ['.'] ++ ds.drop k) =
      some (ofParts negative (Nat.ofDigitChars 10 ds 0) (k - ds.length : Int)) := by
  have hne : ds.take k ≠ [] := by
    intro hnil
    have := congrArg List.length hnil
    rw [List.length_take, List.length_nil] at this
    omega
  rw [← List.take_append_drop k ds] at hdigits
  rw [List.append_assoc, List.singleton_append, readUnsigned?_point negative hne hdigits,
    List.take_append_drop, List.length_drop]
  congr 2
  omega

/-- Digits that stand around a point, or before or behind one, perhaps with zeros between. -/
theorem readUnsigned?_pointed (l : Layout) (negative : Bool) (d : Nat) (e : Int) :
    ∃ digits power, readUnsigned? negative (l.pointed (Nat.toDigits 10 d) e) =
        some (ofParts negative digits power) ∧
      (digits * 10 ^ power : ℚ) = d * 10 ^ (e + 1 - (Nat.toDigits 10 d).length) := by
  have hne : Nat.toDigits 10 d ≠ [] := Nat.toDigits_ne_nil
  have hvalue : Nat.ofDigitChars 10 (Nat.toDigits 10 d) 0 = d := Nat.ofDigitChars_ten_toDigits
  have hdigits : ∀ c ∈ Nat.toDigits 10 d, Text.isDigit c = true :=
    fun c hc => isDigit_of_mem_toDigits hc
  generalize Nat.toDigits 10 d = ds at *
  unfold Layout.pointed
  split
  · rename_i hneg
    refine ⟨_, _, readUnsigned?_before negative hdigits _, ?_⟩
    rw [hvalue]
    congr 2
    omega
  · rename_i hneg
    simp only
    split
    · rename_i hfew
      obtain ⟨digits, power, hread, heq⟩ :=
        readUnsigned?_behind l negative hne hdigits (e.toNat + 1 - ds.length)
      refine ⟨digits, power, hread, heq.trans ?_⟩
      rw [hvalue]
      congr 2
      omega
    · rename_i hmany
      refine ⟨_, _, readUnsigned?_among negative hdigits (Nat.succ_pos e.toNat) (by omega), ?_⟩
      rw [hvalue]
      congr 2
      omega

/-- **Digits that are laid out are read back**, with a power of ten of the same value. -/
theorem readUnsigned?_layout (l : Layout) (negative : Bool) (d : Nat) (power : Int) {e : Int}
    (he : e = power + (Nat.toDigits 10 d).length - 1) :
    ∃ digits exponent,
      readUnsigned? negative (if l.isPositional e then l.pointed (Nat.toDigits 10 d) e
        else scientific (Nat.toDigits 10 d) e) = some (ofParts negative digits exponent) ∧
      (digits * 10 ^ exponent : ℚ) = d * 10 ^ power := by
  have hpower : e + 1 - (Nat.toDigits 10 d).length = power := by omega
  split
  · obtain ⟨digits, exponent, hread, heq⟩ := readUnsigned?_pointed l negative d e
    exact ⟨digits, exponent, hread, by rw [heq, hpower]⟩
  · exact ⟨d, power, by rw [readUnsigned?_scientific, hpower], rfl⟩

/-- Digits that are laid out begin with a digit. -/
theorem exists_layout_eq_cons (l : Layout) (d : Nat) (e : Int) :
    ∃ c cs, (if l.isPositional e then l.pointed (Nat.toDigits 10 d) e
      else scientific (Nat.toDigits 10 d) e) = c :: cs ∧ Text.isDigit c = true := by
  have hdigits : ∀ c ∈ Nat.toDigits 10 d, Text.isDigit c = true :=
    fun c hc => isDigit_of_mem_toDigits hc
  obtain ⟨c, cs, hds⟩ := List.exists_cons_of_ne_nil (Nat.toDigits_ne_nil (n := d) (b := 10))
  rw [hds] at hdigits ⊢
  have hc : Text.isDigit c = true := hdigits c List.mem_cons_self
  unfold Layout.pointed scientific
  split
  · split
    · exact ⟨'0', _, rfl, by decide⟩
    · simp only
      split
      · exact ⟨c, _, rfl, hc⟩
      · exact ⟨c, _, rfl, hc⟩
  · exact ⟨c, _, rfl, hc⟩

/-- Where integers are marked, every number has a point or an exponent. -/
theorem exists_mem_layout {l : Layout} (hmarks : l.marksIntegers = true) (d : Nat) (e : Int) :
    ∃ c ∈ (if l.isPositional e then l.pointed (Nat.toDigits 10 d) e
      else scientific (Nat.toDigits 10 d) e), c = '.' ∨ c = 'e' := by
  unfold Layout.pointed scientific
  rw [hmarks]
  split
  · split
    · exact ⟨'.', by simp, Or.inl rfl⟩
    · simp only
      split
      · exact ⟨'.', by simp, Or.inl rfl⟩
      · exact ⟨'.', by simp, Or.inl rfl⟩
  · exact ⟨'e', by simp, Or.inr rfl⟩

end

end ApiContract.Decimal
