/-
**Rounding to the nearest.**

A floating-point number `mantissa * 2 ^ exponent` stands for the reals that round to it: half a
place to both sides, and only a quarter down where the places below are half as wide.  The ends of
that interval belong to it if the mantissa is even.  Every quotient in the interval is rounded to
the number: the place of its last bit is that of the number, or half of it just below a power of
two, where rounding carries over.

Main definitions:

* `Decimal.IsCanonical` — the mantissas and exponents of finite numbers;
* `Decimal.bitsOf` — the bits of such a number;
* `Decimal.Interval.Holds` — a rational number lies in an interval.

Main results:

* `Decimal.roundedQuotient_eq` — which integer a quotient is rounded to;
* `Decimal.lastPlace_spec` — the place of the last bit of a quotient;
* `Decimal.bitsOfQuotient_eq` — **a quotient in the interval of a number is rounded to it**.
-/

import ApiContract.Decimal.Shortest
import Mathlib.Algebra.Order.Field.Power
import Mathlib.Data.Nat.Log
import Mathlib.Tactic.FieldSimp
import Mathlib.Tactic.Linarith
import Mathlib.Tactic.Positivity
import Mathlib.Tactic.Ring

set_option relaxedAutoImplicit false
set_option autoImplicit false

namespace ApiContract.Decimal

/-- The mantissas and exponents of finite numbers: a mantissa has 53 bits, and fewer only where the
exponent is the least one. -/
structure IsCanonical (mantissa : Nat) (exponent : Int) : Prop where
  mantissa_lt : mantissa < 2 * leadingBit
  le_exponent : -1074 ≤ exponent
  exponent_le : exponent ≤ 971
  exponent_eq : mantissa < leadingBit → exponent = -1074

/-- A mantissa is less than a power of two. -/
theorem IsCanonical.add_one_le {m : Nat} {q : Int} (h : IsCanonical m q) :
    (m + 1 : ℚ) ≤ 2 ^ 53 := by
  have hnat : m + 1 ≤ 2 ^ 53 := h.mantissa_lt
  exact_mod_cast hnat

/-- The bits of `mantissa * 2 ^ exponent`. -/
def bitsOf (mantissa : Nat) (exponent : Int) : Nat :=
  if mantissa < leadingBit then mantissa
  else (exponent + 1075).toNat * leadingBit + (mantissa - leadingBit)

/-- A rational number lies in an interval whose places are `2 ^ unit`. -/
def Interval.Holds (i : Interval) (unit : Int) (x : ℚ) : Prop :=
  if i.closed = true then i.low * 2 ^ unit ≤ x ∧ x ≤ i.high * 2 ^ unit
  else i.low * 2 ^ unit < x ∧ x < i.high * 2 ^ unit

/-- A power is a quotient of powers that are whole. -/
theorem zpow_eq_div (b : ℚ) (power : Int) :
    b ^ power = b ^ power.toNat / b ^ (-power).toNat := by
  rcases le_total 0 power with h | h
  · rw [Int.toNat_of_nonpos (by omega : -power ≤ 0), pow_zero, div_one, ← zpow_natCast,
      Int.toNat_of_nonneg h]
  · rw [Int.toNat_of_nonpos h, pow_zero, one_div, ← zpow_natCast, Int.toNat_of_nonneg (by omega),
      zpow_neg, inv_inv]

theorem two_zpow_sub_one (q : Int) : (2 : ℚ) ^ (q - 1) = 2 ^ q / 2 :=
  zpow_sub_one₀ two_ne_zero q

section

variable {num den m : Nat} {q u : Int} {x : ℚ}

/-! ### Quotients -/

/-- **Which integer a quotient is rounded to**: one at a distance of at most half, and if the
distance is half an even one. -/
theorem roundedQuotient_eq (hlow : 2 * (m * den) ≤ 2 * num + den)
    (hhigh : 2 * num ≤ 2 * (m * den) + den) (hden : 0 < den)
    (htie : m % 2 = 0 ∨ (2 * (m * den) < 2 * num + den ∧ 2 * num < 2 * (m * den) + den)) :
    roundedQuotient num den = m := by
  have hdiv : den * (num / den) + num % den = num := Nat.div_add_mod num den
  have hmod : num % den < den := Nat.mod_lt num hden
  rw [Nat.mul_comm] at hdiv
  unfold roundedQuotient
  simp only
  generalize num / den = k at *
  generalize num % den = r at *
  obtain rfl | rfl : m = k ∨ m = k + 1 := by
    have hge : k ≤ m := by
      by_contra hlt
      have hmul : (m + 1) * den ≤ k * den := Nat.mul_le_mul_right den (by omega)
      rw [Nat.add_mul, Nat.one_mul] at hmul
      omega
    have hle : m ≤ k + 1 := by
      by_contra hlt
      have hmul : (k + 2) * den ≤ m * den := Nat.mul_le_mul_right den (by omega)
      rw [Nat.add_mul] at hmul
      omega
    omega
  · split
    · rfl
    · split
      · omega
      · rw [if_pos (by omega)]
  · rw [Nat.add_mul, Nat.one_mul] at hlow hhigh htie
    rw [if_neg (by omega)]
    split
    · rfl
    · rw [if_neg (by omega)]

theorem roundedQuotient_eq_of_rat (hden : 0 < den) (hlow : (m : ℚ) - 1 / 2 ≤ num / den)
    (hhigh : (num / den : ℚ) ≤ m + 1 / 2)
    (htie : m % 2 = 0 ∨ ((m : ℚ) - 1 / 2 < num / den ∧ (num / den : ℚ) < m + 1 / 2)) :
    roundedQuotient num den = m := by
  have hpos : (0 : ℚ) < den := by exact_mod_cast hden
  rw [le_div_iff₀ hpos] at hlow
  rw [div_le_iff₀ hpos] at hhigh
  rw [lt_div_iff₀ hpos, div_lt_iff₀ hpos] at htie
  refine roundedQuotient_eq ?_ ?_ hden (htie.imp_right ?_)
  · have : (2 * (m * den) : ℚ) ≤ 2 * num + den := by linarith
    exact_mod_cast this
  · have : (2 * num : ℚ) ≤ 2 * (m * den) + den := by linarith
    exact_mod_cast this
  · rintro ⟨hbelow, habove⟩
    have hlt : (2 * (m * den) : ℚ) < 2 * num + den := by linarith
    have hgt : (2 * num : ℚ) < 2 * (m * den) + den := by linarith
    exact ⟨by exact_mod_cast hlt, by exact_mod_cast hgt⟩

/-- A quotient that is scaled is a quotient. -/
theorem scaledQuotient_spec (num : Nat) (hden : 0 < den) (power : Int) :
    0 < (scaledQuotient num den power).2 ∧
      ((scaledQuotient num den power).1 / (scaledQuotient num den power).2 : ℚ) =
        num / den * 2 ^ power := by
  have hpow : ∀ k, Nat.pow 2 k = 2 ^ k := fun k => rfl
  rw [zpow_eq_div 2]
  unfold scaledQuotient
  split
  · rename_i hpower
    refine ⟨hden, ?_⟩
    rw [Int.toNat_of_nonpos (by omega : -power ≤ 0), pow_zero, div_one]
    push_cast [hpow]
    exact mul_div_right_comm _ _ _
  · rename_i hpower
    refine ⟨Nat.mul_pos hden (Nat.two_pow_pos _), ?_⟩
    rw [Int.toNat_of_nonpos (by omega : power ≤ 0), pow_zero]
    push_cast [hpow]
    rw [div_mul_div_comm, mul_one]

/-! ### The place of the last bit -/

/-- The place of the last bit of a quotient. -/
def lastPlace (num den : Nat) : Int :=
  let guess : Int := max ((Nat.log2 num : Int) - Nat.log2 den - 52) (-1074)
  let p := scaledQuotient num den (-guess)
  if p.1 / p.2 < leadingBit ∧ -1074 < guess then guess - 1 else guess

/-- The bits of a rounded mantissa, which may have carried over. -/
def bitsOfRounded (m : Nat) (unit : Int) : Nat :=
  let (m, unit) := if m = 2 * leadingBit then (leadingBit, unit + 1) else (m, unit)
  if m < leadingBit then m
  else
    let biased := unit + 1075
    if biased ≥ 2047 then infinityBits else biased.toNat * leadingBit + (m - leadingBit)

theorem bitsOfQuotient_eq_bitsOfRounded :
    bitsOfQuotient num den =
      bitsOfRounded (roundedQuotient (scaledQuotient num den (-lastPlace num den)).1
        (scaledQuotient num den (-lastPlace num den)).2) (lastPlace num den) :=
  rfl

theorem bitsOfRounded_eq (h : IsCanonical m q) : bitsOfRounded m q = bitsOf m q := by
  have hle := h.exponent_le
  have hlt := h.mantissa_lt
  unfold bitsOfRounded bitsOf
  rw [if_neg (by omega)]
  simp only
  split
  · rfl
  · rw [if_neg (by omega)]

theorem bitsOfRounded_carry (h : IsCanonical leadingBit (u + 1)) :
    bitsOfRounded (2 * leadingBit) u = bitsOf leadingBit (u + 1) := by
  have hle := h.exponent_le
  unfold bitsOfRounded bitsOf
  rw [if_pos rfl]
  simp only
  rw [if_neg (Nat.lt_irrefl _), if_neg (Nat.lt_irrefl _), if_neg (by omega)]

/-- The powers of two around a quotient. -/
theorem log2_div_spec (hnum : 0 < num) (hden : 0 < den) :
    (2 ^ ((Nat.log2 num : Int) - Nat.log2 den - 1) : ℚ) < num / den ∧
      (num / den : ℚ) < 2 ^ ((Nat.log2 num : Int) - Nat.log2 den + 1) := by
  have hdenpos : (0 : ℚ) < den := by exact_mod_cast hden
  have hpow : ∀ e : Int, (0 : ℚ) < 2 ^ e := fun e => zpow_pos two_pos e
  have hadd : ∀ a b : Int, (2 : ℚ) ^ a * 2 ^ b = 2 ^ (a + b) := fun a b =>
    (zpow_add₀ two_ne_zero a b).symm
  have hnumlow : (2 ^ (Nat.log2 num : Int) : ℚ) ≤ num := by
    rw [zpow_natCast]
    exact_mod_cast Nat.log2_self_le (by omega)
  have hnumhigh : (num : ℚ) < 2 ^ ((Nat.log2 num : Int) + 1) := by
    have := Nat.lt_log2_self (n := num)
    exact_mod_cast this
  have hdenlow : (2 ^ (Nat.log2 den : Int) : ℚ) ≤ den := by
    rw [zpow_natCast]
    exact_mod_cast Nat.log2_self_le (by omega)
  have hdenhigh : (den : ℚ) < 2 ^ ((Nat.log2 den : Int) + 1) := by
    have := Nat.lt_log2_self (n := den)
    exact_mod_cast this
  rw [lt_div_iff₀ hdenpos, div_lt_iff₀ hdenpos]
  constructor
  · calc
      (2 : ℚ) ^ ((Nat.log2 num : Int) - Nat.log2 den - 1) * den
          < 2 ^ ((Nat.log2 num : Int) - Nat.log2 den - 1) * 2 ^ ((Nat.log2 den : Int) + 1) :=
        mul_lt_mul_of_pos_left hdenhigh (hpow _)
      _ = 2 ^ (Nat.log2 num : Int) := by rw [hadd]; congr 1; omega
      _ ≤ num := hnumlow
  · calc
      (num : ℚ) < 2 ^ ((Nat.log2 num : Int) + 1) := hnumhigh
      _ = 2 ^ ((Nat.log2 num : Int) - Nat.log2 den + 1) * 2 ^ (Nat.log2 den : Int) := by
        rw [hadd]; congr 1; omega
      _ ≤ 2 ^ ((Nat.log2 num : Int) - Nat.log2 den + 1) * den :=
        mul_le_mul_of_nonneg_left hdenlow (hpow _).le

/-- **The place of the last bit of a quotient**: the quotient has at most 53 bits there, and fewer
only where the place is the least one. -/
theorem lastPlace_spec (hnum : 0 < num) (hden : 0 < den) :
    -1074 ≤ lastPlace num den ∧ (num / den : ℚ) < 2 ^ 53 * 2 ^ lastPlace num den ∧
      (2 ^ 52 * 2 ^ lastPlace num den ≤ (num / den : ℚ) ∨ lastPlace num den = -1074) := by
  obtain ⟨hlow, hhigh⟩ := log2_div_spec hnum hden
  unfold lastPlace
  generalize hsize : (Nat.log2 num : Int) - Nat.log2 den = size at *
  obtain ⟨guess, hguess⟩ : ∃ guess, max (size - 52) (-1074) = guess := ⟨_, rfl⟩
  obtain ⟨hden', hscaled⟩ := scaledQuotient_spec num hden (-guess)
  simp only [hguess]
  generalize scaledQuotient num den (-guess) = p at *
  generalize (num / den : ℚ) = x at *
  have hpow : (0 : ℚ) < 2 ^ guess := zpow_pos two_pos guess
  -- whether the quotient has fewer bits at the place that was guessed
  have hfloor : p.1 / p.2 < leadingBit ↔ x < 2 ^ 52 * 2 ^ guess := by
    have hcast : p.1 < leadingBit * p.2 ↔ (p.1 : ℚ) < 2 ^ 52 * p.2 := by
      rw [← Nat.cast_lt (α := ℚ), Nat.cast_mul]
      norm_num [leadingBit]
    rw [Nat.div_lt_iff_lt_mul hden', hcast, ← div_lt_iff₀ (by exact_mod_cast hden'), hscaled,
      zpow_neg, ← div_eq_mul_inv, div_lt_iff₀ hpow]
  split
  · rename_i hfew
    rw [hfloor] at hfew
    have hbelow : (2 : ℚ) ^ (size - 1) = 2 ^ 51 * 2 ^ guess := by
      rw [show size - 1 = (51 : Nat) + guess by omega, zpow_add₀ two_ne_zero, zpow_natCast]
    rw [hbelow] at hlow
    refine ⟨by omega, ?_, Or.inl ?_⟩
    · rw [two_zpow_sub_one]
      linarith [hfew.1]
    · rw [two_zpow_sub_one]
      linarith
  · rename_i hmany
    rw [hfloor] at hmany
    refine ⟨by omega, hhigh.trans_le ?_, ?_⟩
    · calc
        (2 : ℚ) ^ (size + 1) ≤ 2 ^ ((53 : Nat) + guess) :=
          zpow_le_zpow_right₀ one_le_two (by omega)
        _ = 2 ^ 53 * 2 ^ guess := by rw [zpow_add₀ two_ne_zero, zpow_natCast]
    · by_cases hleast : -1074 < guess
      · exact Or.inl (not_lt.1 fun hlt => hmany ⟨hlt, hleast⟩)
      · exact Or.inr (by omega)

/-! ### The interval of a number -/

theorem two_zpow_sub_two (q : Int) : (2 : ℚ) ^ (q - 2) = 2 ^ q / 4 := by
  rw [zpow_sub₀ two_ne_zero]
  norm_num

/-- What lies in the interval of a number is at most half a place away from it, at the ends only if
the mantissa is even. -/
theorem Interval.Holds.half (h : (interval m q).Holds (q - 2) x) :
    (m - 1 / 2 : ℚ) * 2 ^ q ≤ x ∧ x ≤ (m + 1 / 2 : ℚ) * 2 ^ q ∧
      (m % 2 = 0 ∨ ((m - 1 / 2 : ℚ) * 2 ^ q < x ∧ x < (m + 1 / 2 : ℚ) * 2 ^ q)) := by
  have hpow : (0 : ℚ) < 2 ^ q := zpow_pos two_pos q
  have hlow : (m - 1 / 2 : ℚ) * 2 ^ q ≤ (interval m q).low * (2 ^ q / 4) := by
    have hnat : 4 * m ≤ (interval m q).low + 2 := by
      unfold interval
      simp only
      split <;> omega
    have hcast : (4 * m : ℚ) ≤ (interval m q).low + 2 := by exact_mod_cast hnat
    have hmul := mul_le_mul_of_nonneg_right hcast hpow.le
    linarith
  have hhigh : ((interval m q).high : ℚ) * (2 ^ q / 4) = (m + 1 / 2 : ℚ) * 2 ^ q := by
    simp only [interval]
    push_cast
    ring
  rw [Interval.Holds, two_zpow_sub_two, hhigh] at h
  split at h
  · rename_i hclosed
    exact ⟨hlow.trans h.1, h.2, Or.inl (by simpa [interval] using hclosed)⟩
  · exact ⟨hlow.trans h.1.le, h.2.le, Or.inr ⟨hlow.trans_lt h.1, h.2⟩⟩

/-- Below a power of two it is at most a quarter of a place away. -/
theorem Interval.Holds.quarter (h : (interval leadingBit q).Holds (q - 2) x) (hq : -1074 < q) :
    (2 ^ 52 - 1 / 4 : ℚ) * 2 ^ q ≤ x := by
  have hlow : (interval leadingBit q).low = 4 * leadingBit - 1 := if_pos ⟨rfl, hq⟩
  have hbit : ((4 * leadingBit - 1 : Nat) : ℚ) = 2 ^ 54 - 1 := by
    norm_num [leadingBit]
  rw [Interval.Holds, two_zpow_sub_two, hlow, hbit] at h
  have hle : (2 ^ 54 - 1 : ℚ) * (2 ^ q / 4) ≤ x := by
    split at h
    · exact h.1
    · exact h.1.le
  linarith

/-! ### Rounding to a number -/

/-- A quotient whose last place is below that of the number lies just below a power of two, where
the places are half as wide. -/
theorem eq_of_place_lt (hm : IsCanonical m q) (h : (interval m q).Holds (q - 2) x)
    (hleast : -1074 ≤ u) (hfew : x < 2 ^ 53 * 2 ^ u) (hlt : u < q) :
    m = leadingBit ∧ u = q - 1 := by
  have hpow : (0 : ℚ) < 2 ^ q := zpow_pos two_pos q
  have hplace : (2 : ℚ) ^ u ≤ 2 ^ q / 2 := by
    rw [← two_zpow_sub_one]
    exact zpow_le_zpow_right₀ one_le_two (by omega)
  obtain rfl : m = leadingBit := by
    have hle : m ≤ leadingBit := by
      have hlow := h.half.1
      have hbelow : (m - 1 / 2 : ℚ) * 2 ^ q < 2 ^ 52 * 2 ^ q := by linarith
      have hcast := lt_of_mul_lt_mul_right hbelow hpow.le
      have hsucc : (m : ℚ) < 2 ^ 52 + 1 := by linarith
      exact Nat.le_of_lt_succ (by exact_mod_cast hsucc)
    have hge : ¬ m < leadingBit := fun hsmall => by
      have := hm.exponent_eq hsmall
      omega
    omega
  refine ⟨rfl, ?_⟩
  have hquarter := h.quarter (by omega)
  by_contra hne
  have hsmall : (2 : ℚ) ^ u ≤ 2 ^ q / 4 := by
    rw [← two_zpow_sub_two]
    exact zpow_le_zpow_right₀ one_le_two (by omega)
  linarith

/-- The last place of a quotient is not above that of the number: the number would be too small. -/
theorem place_le (hm : IsCanonical m q) (h : (interval m q).Holds (q - 2) x)
    (hmany : 2 ^ 52 * 2 ^ u ≤ x ∨ u = -1074) : u ≤ q := by
  by_contra hgt
  have hpow : (0 : ℚ) < 2 ^ q := zpow_pos two_pos q
  have hplace : 2 * (2 : ℚ) ^ q ≤ 2 ^ u := by
    rw [mul_comm, ← zpow_add_one₀ two_ne_zero]
    exact zpow_le_zpow_right₀ one_le_two (by omega)
  have hlarge := hmany.resolve_right (by have := hm.le_exponent; omega)
  have hbound : (m + 1 / 2 : ℚ) * 2 ^ q ≤ (2 ^ 53 - 1 / 2) * 2 ^ q :=
    mul_le_mul_of_nonneg_right (by linarith [hm.add_one_le]) hpow.le
  linarith [h.half.2.1]

/-- **A quotient in the interval of a number is rounded to it.** -/
theorem bitsOfQuotient_eq (hnum : 0 < num) (hden : 0 < den) (hm : IsCanonical m q)
    (h : (interval m q).Holds (q - 2) (num / den)) : bitsOfQuotient num den = bitsOf m q := by
  obtain ⟨hleast, hfew, hmany⟩ := lastPlace_spec hnum hden
  obtain ⟨hlow, hhigh, htie⟩ := h.half
  rw [bitsOfQuotient_eq_bitsOfRounded]
  obtain ⟨hden', hscaled⟩ := scaledQuotient_spec num hden (-lastPlace num den)
  generalize lastPlace num den = u at *
  generalize scaledQuotient num den (-u) = p at *
  generalize (num / den : ℚ) = x at *
  have hpow : ∀ e : Int, (0 : ℚ) < 2 ^ e := fun e => zpow_pos two_pos e
  rw [zpow_neg, ← div_eq_mul_inv] at hscaled
  obtain hlt | rfl := (place_le hm h hmany).lt_or_eq
  · -- rounding carries over to the power of two
    obtain ⟨rfl, rfl⟩ := eq_of_place_lt hm h hleast hfew hlt
    have hquarter := h.quarter (by omega)
    have hcarry : ((2 * leadingBit : Nat) : ℚ) = 2 ^ 53 := by norm_num [leadingBit]
    have hm' : IsCanonical leadingBit (q - 1 + 1) := by rwa [Int.sub_add_cancel]
    rw [roundedQuotient_eq_of_rat hden' (m := 2 * leadingBit), bitsOfRounded_carry hm',
      Int.sub_add_cancel]
    · rw [hscaled, le_div_iff₀ (hpow _), hcarry, two_zpow_sub_one]
      linarith
    · rw [two_zpow_sub_one] at hfew
      rw [hscaled, div_le_iff₀ (hpow _), hcarry, two_zpow_sub_one]
      linarith [hpow q]
    · exact Or.inl (Nat.mul_mod_right 2 leadingBit)
  · rw [roundedQuotient_eq_of_rat hden' (m := m), bitsOfRounded_eq hm]
    · rw [hscaled, le_div_iff₀ (hpow u)]
      exact hlow
    · rw [hscaled, div_le_iff₀ (hpow u)]
      exact hhigh
    · rw [hscaled, lt_div_iff₀ (hpow u), div_lt_iff₀ (hpow u)]
      exact htie

/-! ### Digits and a power of ten -/

/-- The powers of ten around a number that is written with its digits. -/
theorem length_toDigits_spec {n : Nat} (hn : n ≠ 0) :
    (10 ^ (((Nat.toDigits 10 n).length : Int) - 1) : ℚ) ≤ n ∧
      (n : ℚ) < 10 ^ ((Nat.toDigits 10 n).length : Int) := by
  have hpos : 0 < (Nat.toDigits 10 n).length := Nat.length_toDigits_pos
  have hiff : ∀ {k : Nat}, 0 < k → ((Nat.toDigits 10 n).length ≤ k ↔ n < 10 ^ k) :=
    Nat.length_toDigits_le_iff (by decide)
  have hlt : n < 10 ^ (Nat.toDigits 10 n).length := (hiff hpos).1 le_rfl
  have hle : 10 ^ ((Nat.toDigits 10 n).length - 1) ≤ n := by
    by_cases hone : (Nat.toDigits 10 n).length = 1
    · rw [hone]
      exact Nat.one_le_iff_ne_zero.2 hn
    · by_contra hfew
      have := (hiff (k := (Nat.toDigits 10 n).length - 1) (by omega)).2 (by omega)
      omega
  constructor
  · rw [show ((Nat.toDigits 10 n).length : Int) - 1 = ((Nat.toDigits 10 n).length - 1 : Nat) by
      omega, zpow_natCast]
    exact_mod_cast hle
  · rw [zpow_natCast]
    exact_mod_cast hlt

/-- Tens are more than eights. -/
theorem two_zpow_le_ten_zpow {e : Int} (h : 0 ≤ e) : (2 : ℚ) ^ (3 * e) ≤ 10 ^ e := by
  rw [zpow_mul]
  exact zpow_le_zpow_left₀ h (by norm_num) (by norm_num)

/-- What lies in the interval of a finite number is neither too large nor too small. -/
theorem Interval.Holds.bounds (h : (interval m q).Holds (q - 2) x) (hm : IsCanonical m q)
    (hne : m ≠ 0) : (2 : ℚ) ^ (-1200 : Int) < x ∧ x < 2 ^ (1200 : Int) := by
  obtain ⟨hlow, hhigh, -⟩ := h.half
  have hle := hm.le_exponent
  have hge := hm.exponent_le
  have hpow : (0 : ℚ) < 2 ^ q := zpow_pos two_pos q
  constructor
  · have hone : (1 : ℚ) ≤ m := by exact_mod_cast Nat.one_le_iff_ne_zero.2 hne
    calc
      (2 : ℚ) ^ (-1200 : Int) < 2 ^ (q - 1) := zpow_lt_zpow_right₀ one_lt_two (by omega)
      _ = 1 / 2 * 2 ^ q := by rw [two_zpow_sub_one]; ring
      _ ≤ (m - 1 / 2) * 2 ^ q := mul_le_mul_of_nonneg_right (by linarith) hpow.le
      _ ≤ x := hlow
  · have hmost : (m : ℚ) + 1 / 2 ≤ 2 ^ (53 : Int) := by
      have hcast := hm.add_one_le
      norm_num at hcast ⊢
      linarith
    calc
      x ≤ (m + 1 / 2) * 2 ^ q := hhigh
      _ ≤ 2 ^ (53 : Int) * 2 ^ q := mul_le_mul_of_nonneg_right hmost hpow.le
      _ = 2 ^ (53 + q) := (zpow_add₀ two_ne_zero _ _).symm
      _ < 2 ^ (1200 : Int) := zpow_lt_zpow_right₀ one_lt_two (by omega)

/-- Digits and a power of ten that are neither too large nor too small have a bounded size. -/
theorem size_bounds {digits : Nat} {e : Int} (hdigits : digits ≠ 0)
    (hlow : (2 : ℚ) ^ (-1200 : Int) < digits * 10 ^ e)
    (hhigh : (digits * 10 ^ e : ℚ) < 2 ^ (1200 : Int)) :
    -400 ≤ ((Nat.toDigits 10 digits).length : Int) + e ∧
      ((Nat.toDigits 10 digits).length : Int) + e ≤ 400 := by
  have hten : (10 : ℚ) ≠ 0 := by norm_num
  have htenpos : (0 : ℚ) < 10 ^ e := zpow_pos (by norm_num) e
  have htenmono : ∀ {a b : Int}, a ≤ b → (10 : ℚ) ^ a ≤ 10 ^ b :=
    zpow_le_zpow_right₀ (by norm_num)
  have hlarge : (2 : ℚ) ^ (1200 : Int) ≤ 10 ^ (400 : Int) :=
    two_zpow_le_ten_zpow (e := 400) (by decide)
  obtain ⟨hfew, hmany⟩ := length_toDigits_spec hdigits
  constructor
  · by_contra hsmall
    have hsmall' : (digits : ℚ) * 10 ^ e < 10 ^ (-400 : Int) :=
      calc
        (digits : ℚ) * 10 ^ e < 10 ^ ((Nat.toDigits 10 digits).length : Int) * 10 ^ e :=
          mul_lt_mul_of_pos_right hmany htenpos
        _ = 10 ^ (((Nat.toDigits 10 digits).length : Int) + e) := (zpow_add₀ hten _ _).symm
        _ ≤ 10 ^ (-400 : Int) := htenmono (by omega)
    rw [zpow_neg] at hsmall' hlow
    have hinv := inv_anti₀ (zpow_pos two_pos _) hlarge
    exact absurd (hsmall'.trans_le hinv) (not_lt.2 hlow.le)
  · by_contra hbig
    have hbig' : (10 : ℚ) ^ (400 : Int) ≤ digits * 10 ^ e :=
      calc
        (10 : ℚ) ^ (400 : Int)
            ≤ 10 ^ (((Nat.toDigits 10 digits).length : Int) - 1 + e) := htenmono (by omega)
        _ = 10 ^ (((Nat.toDigits 10 digits).length : Int) - 1) * 10 ^ e := zpow_add₀ hten _ _
        _ ≤ digits * 10 ^ e := mul_le_mul_of_nonneg_right hfew htenpos.le
    exact absurd (hhigh.trans_le hlarge) (not_lt.2 hbig')

/-- **Digits and a power of ten in the interval of a number are rounded to it.** -/
theorem ofParts_eq (negative : Bool) {digits : Nat} {e : Int} (hdigits : digits ≠ 0)
    (hm : IsCanonical m q) (hne : m ≠ 0)
    (h : (interval m q).Holds (q - 2) (digits * 10 ^ e)) :
    ofParts negative digits e = withSign negative (bitsOf m q) := by
  obtain ⟨hlow, hhigh⟩ := h.bounds hm hne
  obtain ⟨hleast, hmost⟩ := size_bounds hdigits hlow hhigh
  have htenpow : ∀ k, Nat.pow 10 k = 10 ^ k := fun k => rfl
  have hpos : 0 < digits := Nat.pos_of_ne_zero hdigits
  have hpowpos : ∀ k, 0 < Nat.pow 10 k := fun k => Nat.pow_pos (by decide)
  unfold ofParts
  simp only [hdigits, if_false]
  rw [if_neg (not_lt.2 hmost), if_neg (not_lt.2 hleast)]
  rw [zpow_eq_div 10] at h
  split
  · rename_i he
    rw [bitsOfQuotient_eq (Nat.mul_pos hpos (hpowpos _)) one_pos hm]
    rw [Int.toNat_of_nonpos (by omega : -e ≤ 0), pow_zero, div_one] at h
    push_cast [htenpow]
    rwa [div_one]
  · rename_i he
    rw [bitsOfQuotient_eq hpos (hpowpos _) hm]
    rw [Int.toNat_of_nonpos (by omega : e ≤ 0), pow_zero, mul_one_div] at h
    push_cast [htenpow]
    exact h

end

end ApiContract.Decimal
