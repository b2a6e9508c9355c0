/-
**Floating-point numbers are read back from their texts.**

A finite number is a sign, a mantissa and an exponent.  Its text has the fewest digits that round to
it, in one of the layouts of a format, and the reader rounds what it finds there to the nearest
number.

Main results:

* `Decimal.isCanonical_parts`, `Decimal.withSign_parts` — a finite number is put together from its
  parts;
* `Decimal.readFloat?_render` — **the text of every finite number is read as the number**, whatever
  the layout;
* `Decimal.readInt64?_render` — no such text is read as an integer, where integers are marked;
* `Decimal.readInt64?_toString_eq_some_iff`, `Decimal.readFloat?_toString` — what the text of an
  integer is read as.
-/

import ApiContract.Proofs.Decimal.Layout
import ApiContract.Proofs.Decimal.Shortest
import Mathlib

set_option relaxedAutoImplicit false
set_option autoImplicit false

namespace ApiContract.Decimal

variable {x : Float}

/-! ### The bits of a finite number -/

/-- The exponent of a finite number is not the one of infinity. -/
theorem biased_ne_of_isFinite (h : x.isFinite = true) :
    x.toBits.toNat / leadingBit % 2048 ≠ 2047 := by
  intro hbiased
  have hexponent : @Float.Model.UnpackedFloat.unpackExponent Float.Model.Format.binary64
      x.toBits.toBitVec = -1#_ := by
    refine BitVec.eq_of_toNat_eq ?_
    change (x.toBits.toNat >>> 52) % 2 ^ 11 = 2047
    rw [Nat.shiftRight_eq_div_pow]
    exact hbiased
  have hunpack : (Float.Model.UnpackedFloat.unpack Float.Model.Format.binary64
      x.toBits.toBitVec).isFinite = false := by
    rw [Float.Model.UnpackedFloat.unpack]
    simp only [hexponent, if_true]
    split <;> rfl
  exact Bool.noConfusion (h.symm.trans hunpack)

theorem isCanonical_parts (h : x.isFinite = true) :
    IsCanonical (parts x).mantissa (parts x).exponent := by
  have hbiased := biased_ne_of_isFinite h
  have hbit : 0 < leadingBit := by decide
  have hfraction := Nat.mod_lt x.toBits.toNat hbit
  unfold parts
  simp only
  split
  · exact ⟨by simp only; omega, by simp, by simp, fun _ => rfl⟩
  · refine ⟨by simp only; omega, by simp only; omega, by simp only; omega, fun hsmall => ?_⟩
    simp only at hsmall
    omega

/-- The bits of a number are those of its parts. -/
theorem bits_parts (x : Float) :
    (if (parts x).negative then signBit + bitsOf (parts x).mantissa (parts x).exponent
      else bitsOf (parts x).mantissa (parts x).exponent) = x.toBits.toNat := by
  have hleading : leadingBit = 2 ^ 52 := rfl
  have hsign : signBit = 2 ^ 63 := rfl
  have hlt : x.toBits.toNat < 2 ^ 64 := x.toBits.toNat_lt
  have hsize : bitsOf (parts x).mantissa (parts x).exponent =
      x.toBits.toNat % 2 ^ 52 + x.toBits.toNat / 2 ^ 52 % 2048 * 2 ^ 52 := by
    unfold parts bitsOf
    simp only [hleading]
    split
    · simp only
      rw [if_pos (by omega)]
      omega
    · simp only
      rw [if_neg (by omega)]
      omega
  have hnegative : (parts x).negative = decide (x.toBits.toNat / 2 ^ 63 = 1) := by
    unfold parts
    simp only [hsign]
    split <;> rfl
  rw [hsize, hnegative, hsign]
  simp only [decide_eq_true_eq]
  split <;> omega

/-- A number is put together from its parts. -/
theorem withSign_parts (x : Float) :
    withSign (parts x).negative (bitsOf (parts x).mantissa (parts x).exponent) = x := by
  rw [withSign, bits_parts, UInt64.ofNat_toNat, Float.ofBits_toBits]

/-! ### The text of a number -/

/-- The digits of a number with their power of ten. -/
def digitsOf (p : Parts) : Nat × Int :=
  if p.mantissa = 0 then (0, 0) else shortest p.mantissa p.exponent

/-- The text of a number is its sign, and its digits in the layout. -/
theorem toList_render (l : Layout) (x : Float) :
    ∃ e : Int, e = (digitsOf (parts x)).2 + (Nat.toDigits 10 (digitsOf (parts x)).1).length - 1 ∧
      (render l x).toList = (if (parts x).negative then ['-'] else []) ++
        (if l.isPositional e then l.pointed (Nat.toDigits 10 (digitsOf (parts x)).1) e
          else scientific (Nat.toDigits 10 (digitsOf (parts x)).1) e) :=
  ⟨_, rfl, String.toList_ofList⟩

/-- The text of a number is read as digits and a power of ten of the same value as its own. -/
theorem exists_readFloat?_render (l : Layout) (x : Float) :
    ∃ digits exponent,
      readFloat? (render l x).toList = some (ofParts (parts x).negative digits exponent) ∧
      (digits * 10 ^ exponent : ℚ) = (digitsOf (parts x)).1 * 10 ^ (digitsOf (parts x)).2 := by
  obtain ⟨e, he, hrender⟩ := toList_render l x
  obtain ⟨c, cs, hlayout, hc⟩ := exists_layout_eq_cons l (digitsOf (parts x)).1 e
  obtain ⟨digits, exponent, hread, heq⟩ := readUnsigned?_layout l (parts x).negative
    (digitsOf (parts x)).1 (digitsOf (parts x)).2 he
  refine ⟨digits, exponent, ?_, heq⟩
  rw [hrender, hlayout, readFloat?_of_isDigit _ hc, ← hlayout, hread]

/-- **The text of every finite number is read as the number**, whatever the layout. -/
theorem readFloat?_render (l : Layout) (h : x.isFinite = true) :
    readFloat? (render l x).toList = some x := by
  obtain ⟨digits, exponent, hread, heq⟩ := exists_readFloat?_render l x
  have hten : (10 : ℚ) ^ exponent ≠ 0 := zpow_ne_zero exponent (by norm_num)
  have hwhole := withSign_parts x
  rw [hread, Option.some.injEq]
  by_cases hzero : (parts x).mantissa = 0
  · rw [digitsOf, if_pos hzero, Nat.cast_zero, zero_mul] at heq
    have hdigits : digits = 0 := by
      exact_mod_cast (mul_eq_zero.1 heq).resolve_right hten
    rw [hzero] at hwhole
    rw [ofParts, if_pos hdigits]
    exact hwhole
  · have hcanonical := isCanonical_parts h
    obtain ⟨hne, hholds⟩ := shortest_spec hcanonical hzero
    rw [digitsOf, if_neg hzero] at heq
    rw [← heq] at hholds
    have hdigits : digits ≠ 0 := by
      rintro rfl
      rw [Nat.cast_zero, zero_mul] at heq
      rcases mul_eq_zero.1 heq.symm with hcast | hpower
      · exact hne (by exact_mod_cast hcast)
      · exact zpow_ne_zero _ (by norm_num) hpower
    rw [ofParts_eq _ hdigits hcanonical hzero hholds]
    exact hwhole

/-- Where integers are marked, no floating-point number is read as an integer. -/
theorem readInt64?_render {l : Layout} (hmarks : l.marksIntegers = true) (x : Float) :
    readInt64? (render l x).toList = none := by
  obtain ⟨e, -, hrender⟩ := toList_render l x
  obtain ⟨c, hc, hmark⟩ := exists_mem_layout hmarks (digitsOf (parts x)).1 e
  have hmem : c ∈ (render l x).toList := by
    rw [hrender]
    exact List.mem_append_right _ hc
  rcases hmark with rfl | rfl
  · exact readInt64?_eq_none hmem (by decide) (by decide)
  · exact readInt64?_eq_none hmem (by decide) (by decide)

/-! ### The text of an integer -/

theorem toList_toString (n : Int) :
    (toString n).toList =
      (if decide (n < 0) = true then ['-'] else []) ++ Nat.toDigits 10 n.natAbs := by
  rw [Int.toString_eq_repr, Int.repr_eq_if]
  by_cases hneg : n < 0
  · have habs : (-n).toNat = n.natAbs := by omega
    rw [if_neg (by omega), if_pos (by simpa using hneg), String.toList_append, Nat.toList_repr,
      habs]
    rfl
  · have habs : n.toNat = n.natAbs := by omega
    rw [if_pos (by omega), if_neg (by simpa using hneg), Nat.toList_repr, habs]
    rfl

/-- **An integer is read from its text as itself if it fits 64 bits with a sign**, and else not. -/
theorem readInt64?_toString_eq_some_iff {n k : Int} :
    readInt64? (toString n).toList = some k ↔ k = n ∧ -(2 ^ 63 : Int) ≤ n ∧ n < 2 ^ 63 := by
  obtain ⟨c, cs, hcs⟩ := List.exists_cons_of_ne_nil (Nat.toDigits_ne_nil (n := n.natAbs) (b := 10))
  have hc : Text.isDigit c = true := isDigit_of_mem_toDigits (by rw [hcs]; exact List.mem_cons_self)
  have hsign : splitSign (toString n).toList = (decide (n < 0), Nat.toDigits 10 n.natAbs) := by
    rw [toList_toString]
    cases decide (n < 0) with
    | true => rfl
    | false =>
        rw [hcs]
        exact splitSign_of_isDigit hc
  rw [readInt64?_eq_some_iff, hsign]
  simp only [digitsValue?_toDigits, Option.some.injEq, exists_eq_left', decide_eq_true_eq]
  split <;> omega

/-- **As a decimal number an integer is read as the nearest floating-point number.** -/
theorem readFloat?_toString (n : Int) : readFloat? (toString n).toList = some (toNearest n) := by
  obtain ⟨c, cs, hcs⟩ := List.exists_cons_of_ne_nil (Nat.toDigits_ne_nil (n := n.natAbs) (b := 10))
  have hdigits : ∀ d ∈ Nat.toDigits 10 n.natAbs, Text.isDigit d = true :=
    fun d hd => isDigit_of_mem_toDigits hd
  have hc : Text.isDigit c = true := hdigits c (by rw [hcs]; exact List.mem_cons_self)
  have hread := readUnsigned?_digits (decide (n < 0)) Nat.toDigits_ne_nil hdigits
  rw [Nat.ofDigitChars_ten_toDigits] at hread
  rw [toList_toString, hcs, readFloat?_of_isDigit _ hc, ← hcs, hread]
  rfl

end ApiContract.Decimal
