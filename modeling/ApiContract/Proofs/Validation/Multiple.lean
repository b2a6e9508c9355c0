/-
**Multiples in exact arithmetic.**

A number counts as a multiple of a divisor if their quotient is near an integer.  How near is the
same for all divisors, so that it depends on the divisor how far the number itself may be from a
multiple.  In exact arithmetic nothing needs to be forgiven, and the integers that count as
multiples are seen to be too many for large divisors.

Main definitions:

* `Decimal.value`, `Json.Number.value` — the rational number that a finite number is;
* `Arithmetic.exact` — the arithmetic of rational numbers;
* `Schema.exactNumberFaults` — what is wrong with a number whose multiples are decided exactly.

Main results:

* `Arithmetic.abs_sub_nearest_le` — no integer is nearer than the one to which a quotient is
  rounded;
* `Arithmetic.isMultiple_exact_iff` — what counts as a multiple;
* `Schema.noMultiple_mem_numberFaultsIn_iff` — what is reported is what counts as no multiple, in
  any arithmetic;
* `Schema.noMultiple_mem_exactNumberFaults_iff` — which numbers are reported in exact arithmetic;
* `Schema.noMultiple_mem_int_iff` — **of the integers those are reported that are far from all
  multiples, which are those that are no multiples exactly if the divisor is less than `10 ^ 9`**.
-/

import ApiContract.Validation.Check
import Mathlib.Algebra.Order.Round
import Mathlib.Data.Rat.Floor
import Mathlib.Tactic.NormNum
import Mathlib.Tactic.Positivity

set_option relaxedAutoImplicit false
set_option autoImplicit false

namespace ApiContract

/-! ### Values -/

/-- The rational number of given parts. -/
def Decimal.Parts.value (p : Decimal.Parts) : ℚ :=
  (if p.negative then -1 else 1) * p.mantissa * 2 ^ p.exponent

/-- The rational number that a finite floating-point number is. -/
def Decimal.value (x : Float) : ℚ := (Decimal.parts x).value

/-- The rational number that a finite number is. -/
def Json.Number.value : Json.Number → ℚ
  | .int n => n
  | .float x => Decimal.value x

/-! ### Rational arithmetic -/

namespace Arithmetic

/-- The nearest integer; of two that are equally near, the one farther from zero. -/
def nearest (q : ℚ) : ℤ := if 0 ≤ q then round q else -round (-q)

/-- The arithmetic of rational numbers. -/
def exact : Arithmetic ℚ where
  isPositive d := decide (0 < d)
  quotient n d := n / d
  distance q := |q - nearest q|
  isLarge e := decide (1 / 10 ^ 9 < e)

/-- No integer is nearer than the nearest one. -/
theorem abs_sub_nearest_le (q : ℚ) (k : ℤ) : |q - nearest q| ≤ |q - k| := by
  unfold nearest
  split
  · exact round_le q k
  · -- Rounding below zero is rounding above zero with both signs changed.
    have h := round_le (-q) (-k)
    have hflip : ∀ j : ℤ, |-q - j| = |q - (-j : ℤ)| := fun j => by
      rw [← abs_neg, neg_sub', neg_neg, Int.cast_neg]
    rwa [hflip, hflip, neg_neg] at h

/-- **What counts as a multiple**: a number that is within a billionth part of the divisor from a
multiple, and any number if the divisor is not positive. -/
theorem isMultiple_exact_iff {x d : ℚ} :
    exact.isMultiple x d = true ↔ (0 < d → ∃ k : ℤ, |x - k * d| ≤ d / 10 ^ 9) := by
  have hscale : 0 < d → ∀ k : ℤ, |x / d - k| ≤ 1 / 10 ^ 9 ↔ |x - k * d| ≤ d / 10 ^ 9 := by
    intro hd k
    have hdistance : |x / d - k| = |x - k * d| / d := by
      rw [← abs_of_pos hd, ← abs_div, abs_of_pos hd, sub_div, mul_div_cancel_right₀ _ hd.ne']
    rw [hdistance, div_le_iff₀ hd, one_div_mul_eq_div]
  have hdecided : exact.isMultiple x d = true ↔
      (0 < d → |x / d - nearest (x / d)| ≤ 1 / 10 ^ 9) := by
    simp [isMultiple, exact, or_iff_not_imp_left]
  rw [hdecided]
  refine forall_congr' fun hd => ⟨fun h => ⟨_, (hscale hd _).1 h⟩, ?_⟩
  rintro ⟨k, hk⟩
  exact (abs_sub_nearest_le _ k).trans ((hscale hd k).2 hk)

end Arithmetic

/-! ### What is reported -/

namespace Schema

open Violation (Reason)

section

variable {ν : Type}

/-- A number that is no multiple in some arithmetic, in which divisors are read. -/
def multipleFaultsIn (a : Arithmetic ν) (read : Float → ν) (s : Schema) (y : ν) : List Reason :=
  match s.multipleOf with
  | some d => if a.isMultiple y (read d) then [] else [.noMultiple d]
  | none => []

/-- What is wrong with a number whose multiples are decided in some arithmetic. -/
def numberFaultsIn (a : Arithmetic ν) (read : Float → ν) (s : Schema) (x : Float) (y : ν) :
    List Reason :=
  s.minimumFaults x ++ s.maximumFaults x ++ s.exclusiveFaults x ++ s.multipleFaultsIn a read y ++
    s.int32Faults x

/-- Numbers are checked in floating-point arithmetic. -/
theorem numberFaults_eq (s : Schema) (x : Float) :
    s.numberFaults x = s.numberFaultsIn .floating id x x :=
  rfl

/-- What is wrong with a number whose multiples are decided exactly. -/
def exactNumberFaults (s : Schema) (n : Json.Number) : List Reason :=
  s.numberFaultsIn .exact Decimal.value n.toFloat n.value

variable {a : Arithmetic ν} {read : Float → ν} {s : Schema} {x m : Float} {y : ν}

/-- Bounds are not reported as divisors. -/
theorem noMultiple_notMem_boundFaults :
    Reason.noMultiple m ∉ s.minimumFaults x ∧ Reason.noMultiple m ∉ s.maximumFaults x ∧
      Reason.noMultiple m ∉ s.exclusiveFaults x ∧ Reason.noMultiple m ∉ s.int32Faults x := by
  refine ⟨?_, ?_, ?_, ?_⟩
  · unfold minimumFaults
    grind
  · unfold maximumFaults
    grind
  · unfold exclusiveFaults
    grind
  · unfold int32Faults
    grind

/-- A number is reported as no multiple exactly if there is a divisor of which it is none. -/
theorem noMultiple_mem_numberFaultsIn_iff :
    Reason.noMultiple m ∈ s.numberFaultsIn a read x y ↔
      s.multipleOf = some m ∧ a.isMultiple y (read m) = false := by
  have honly : Reason.noMultiple m ∈ s.numberFaultsIn a read x y ↔
      Reason.noMultiple m ∈ s.multipleFaultsIn a read y := by
    obtain ⟨hlower, hupper, hexclusive, hrange⟩ := @noMultiple_notMem_boundFaults s x m
    simp only [numberFaultsIn, List.mem_append, hlower, hupper, hexclusive, hrange, false_or,
      or_false]
  rw [honly, multipleFaultsIn]
  cases s.multipleOf with
  | none => simp
  | some d =>
      constructor
      · intro h
        dsimp only at h
        split at h
        · cases h
        · rename_i hnone
          cases List.mem_singleton.1 h
          exact ⟨rfl, Bool.eq_false_of_not_eq_true hnone⟩
      · rintro ⟨heq, hnone⟩
        cases heq
        simp [hnone]

/-- The same of numbers as they are checked. -/
theorem noMultiple_mem_numberFaults_iff :
    Reason.noMultiple m ∈ s.numberFaults x ↔
      s.multipleOf = some m ∧ Arithmetic.floating.isMultiple x m = false := by
  rw [numberFaults_eq, noMultiple_mem_numberFaultsIn_iff, id]

end

variable {s : Schema} {m : Float}

/-- **Which numbers are reported**: those that are farther than a billionth part of the divisor from
every multiple. -/
theorem noMultiple_mem_exactNumberFaults_iff {n : Json.Number} :
    Reason.noMultiple m ∈ s.exactNumberFaults n ↔
      s.multipleOf = some m ∧ 0 < Decimal.value m ∧
        ∀ k : ℤ, Decimal.value m / 10 ^ 9 < |n.value - k * Decimal.value m| := by
  rw [exactNumberFaults, noMultiple_mem_numberFaultsIn_iff, ← Bool.not_eq_true,
    Arithmetic.isMultiple_exact_iff]
  push Not
  rfl

/-- The integers that are far from all multiples of a divisor are those that are no multiples
exactly if the divisor is less than `10 ^ 9`. -/
theorem far_iff_not_dvd_iff {d : ℤ} (hd : 0 < d) :
    (∀ n : ℤ, (∀ k : ℤ, d < 10 ^ 9 * |n - k * d|) ↔ ¬ d ∣ n) ↔ d < 10 ^ 9 := by
  constructor
  · -- One is no multiple of a large divisor, and as near to zero as an integer can be.
    intro h
    by_contra! hlarge
    have hone : ¬ d ∣ 1 := fun hdvd => by
      have hle := Int.le_of_dvd one_pos hdvd
      omega
    have hfar := (h 1).2 hone 0
    rw [zero_mul, sub_zero, abs_one] at hfar
    omega
  · intro hsmall n
    constructor
    · rintro hfar ⟨c, rfl⟩
      have hself := hfar c
      rw [mul_comm d c, sub_self, abs_zero] at hself
      omega
    · intro hdvd k
      have hne : n - k * d ≠ 0 := fun heq =>
        hdvd ⟨k, by rw [mul_comm, sub_eq_zero.1 heq]⟩
      have hone := Int.one_le_abs hne
      omega

/-- **Which integers are reported**: those that are far from all multiples of the divisor, if that
is an integer as well.  They are those that are no multiples exactly if the divisor is less than
`10 ^ 9`. -/
theorem noMultiple_mem_int_iff {d : ℤ} (hs : s.multipleOf = some m) (hm : Decimal.value m = d)
    (hd : 0 < d) :
    (∀ n : ℤ, Reason.noMultiple m ∈ s.exactNumberFaults (.int n) ↔
      ∀ k : ℤ, d < 10 ^ 9 * |n - k * d|) ∧
    ((∀ n : ℤ, Reason.noMultiple m ∈ s.exactNumberFaults (.int n) ↔ ¬ d ∣ n) ↔ d < 10 ^ 9) := by
  have hreported : ∀ n : ℤ, Reason.noMultiple m ∈ s.exactNumberFaults (.int n) ↔
      ∀ k : ℤ, d < 10 ^ 9 * |n - k * d| := by
    intro n
    rw [noMultiple_mem_exactNumberFaults_iff, and_iff_right hs, hm,
      and_iff_right (by exact_mod_cast hd)]
    refine forall_congr' fun k => ?_
    rw [div_lt_iff₀ (by positivity), mul_comm |_|, Json.Number.value]
    norm_cast
  exact ⟨hreported, by rw [← far_iff_not_dvd_iff hd]; simp only [hreported]⟩

/-- One is no multiple of two billions, and is not reported. -/
theorem noMultiple_mem_int_iff_billions :
    ({ multipleOf := some 2000000000 } : Schema).multipleOf = some 2000000000 ∧
      Decimal.value 2000000000 = (2000000000 : ℤ) ∧ (0 : ℤ) < 2000000000 ∧
      Reason.noMultiple 2000000000 ∉
        ({ multipleOf := some 2000000000 } : Schema).exactNumberFaults (.int 1) ∧
      ¬ (2000000000 : ℤ) ∣ 1 := by
  have hvalue : Decimal.value 2000000000 = (2000000000 : ℤ) := by
    have hparts : Decimal.parts 2000000000 = ⟨false, 2000000000 * 2 ^ 22, -22⟩ := by
      decide +kernel
    rw [Decimal.value, hparts, Decimal.Parts.value]
    norm_num
  refine ⟨rfl, hvalue, by decide, fun hreported => ?_, by decide⟩
  have hfar := ((noMultiple_mem_int_iff rfl hvalue (by decide)).1 1).1 hreported 0
  revert hfar
  decide

end Schema

end ApiContract
