/-
**The fewest digits lie in the interval.**

Whatever is found on a grid lies in the interval of the number, as nothing else is looked for.
Something is found, as the finest grid that is tried has a multiple within a quarter of a place
below the number.  So the digits that are written for a number are rounded to it.

Main results:

* `Decimal.onGrid?_spec` — what is found on a grid lies in the interval;
* `Decimal.exists_onGrid?` — something is found on a fine grid;
* `Decimal.ten_zpow_le_two_zpow` — the finest grid that is tried is fine;
* `Decimal.shortest_spec` — **the fewest digits lie in the interval of the number**.
-/

import ApiContract.Proofs.Decimal.Rounding

set_option relaxedAutoImplicit false
set_option autoImplicit false

namespace ApiContract.Decimal

section

variable {i : Interval} {unit power : Int} {d m : Nat} {q : Int}

/-! ### Grids -/

/-- A place of `2 ^ unit` is to a multiple of `10 ^ power` as this whole number is to the next. -/
def gridUp (unit power : Int) : Nat := Nat.pow 2 unit.toNat * Nat.pow 10 (-power).toNat

/-- The whole number that a multiple of `10 ^ power` stands for beside a place of `2 ^ unit`. -/
def gridDown (unit power : Int) : Nat := Nat.pow 2 (-unit).toNat * Nat.pow 10 power.toNat

theorem gridDown_pos (unit power : Int) : 0 < gridDown unit power :=
  Nat.mul_pos (Nat.two_pow_pos _) (Nat.pow_pos (by decide))

theorem gridUp_mul_ten_zpow (unit power : Int) :
    (gridUp unit power : ℚ) * 10 ^ power = 2 ^ unit * gridDown unit power := by
  have htwo : ∀ k, Nat.pow 2 k = 2 ^ k := fun k => rfl
  have hten : ∀ k, Nat.pow 10 k = 10 ^ k := fun k => rfl
  rw [zpow_eq_div 10, zpow_eq_div 2, gridUp, gridDown]
  push_cast [htwo, hten]
  field_simp

theorem gridDown_le_gridUp (h : (10 : ℚ) ^ power ≤ 2 ^ unit) :
    gridDown unit power ≤ gridUp unit power := by
  have hten : (0 : ℚ) < 10 ^ power := zpow_pos (by norm_num) power
  have hmul : (gridDown unit power * 10 ^ power : ℚ) ≤ gridUp unit power * 10 ^ power := by
    rw [gridUp_mul_ten_zpow, mul_comm]
    exact mul_le_mul_of_nonneg_right h (Nat.cast_nonneg _)
  exact_mod_cast le_of_mul_le_mul_right hmul hten

/-- Places and multiples, brought to whole numbers. -/
theorem gridUp_mul_eq (unit power : Int) (a d : Nat) :
    (a * gridUp unit power * 10 ^ power : ℚ) = a * 2 ^ unit * gridDown unit power ∧
      (d * gridDown unit power * 10 ^ power : ℚ) = d * 10 ^ power * gridDown unit power := by
  constructor
  · rw [mul_assoc, gridUp_mul_ten_zpow, mul_assoc]
  · ring

theorem mul_gridUp_le_iff (a d : Nat) :
    a * gridUp unit power ≤ d * gridDown unit power ↔ (a * 2 ^ unit : ℚ) ≤ d * 10 ^ power := by
  have hdown : (0 : ℚ) < gridDown unit power := by exact_mod_cast gridDown_pos unit power
  have hten : (0 : ℚ) < 10 ^ power := zpow_pos (by norm_num) power
  obtain ⟨ha, hd⟩ := gridUp_mul_eq unit power a d
  rw [← mul_le_mul_iff_left₀ hdown, ← ha, ← hd, mul_le_mul_iff_left₀ hten]
  exact_mod_cast Iff.rfl

theorem mul_gridDown_le_iff (a d : Nat) :
    d * gridDown unit power ≤ a * gridUp unit power ↔ (d * 10 ^ power : ℚ) ≤ a * 2 ^ unit := by
  have hdown : (0 : ℚ) < gridDown unit power := by exact_mod_cast gridDown_pos unit power
  have hten : (0 : ℚ) < 10 ^ power := zpow_pos (by norm_num) power
  obtain ⟨ha, hd⟩ := gridUp_mul_eq unit power a d
  rw [← mul_le_mul_iff_left₀ hdown, ← ha, ← hd, mul_le_mul_iff_left₀ hten]
  exact_mod_cast Iff.rfl

theorem contains_gridDown_iff :
    i.contains (d * gridDown unit power) (gridUp unit power) = true ↔
      i.Holds unit (d * 10 ^ power) := by
  unfold Interval.contains Interval.Holds
  split
  · rw [Bool.and_eq_true, decide_eq_true_eq, decide_eq_true_eq, mul_gridUp_le_iff,
      mul_gridDown_le_iff]
  · rw [Bool.and_eq_true, decide_eq_true_eq, decide_eq_true_eq, ← not_le, ← not_le,
      mul_gridUp_le_iff, mul_gridDown_le_iff, not_le, not_le]

/-- A multiple is in the interval, and is not zero. -/
def Interval.holdsAt (i : Interval) (unit power : Int) (d : Nat) : Bool :=
  d ≠ 0 && i.contains (d * gridDown unit power) (gridUp unit power)

theorem holdsAt_iff : i.holdsAt unit power d = true ↔ d ≠ 0 ∧ i.Holds unit (d * 10 ^ power) := by
  rw [Interval.holdsAt, Bool.and_eq_true, decide_eq_true_eq, contains_gridDown_iff]

/-- Whichever of two neighbours is the nearer one, the other is the farther one. -/
theorem neighbours_order (below lower upper : Nat) {nearer : Nat}
    (h : nearer = if lower < upper then below
      else if upper < lower then below + 1
      else if below % 2 = 0 then below else below + 1) :
    (nearer = below ∧ (if nearer = below then below + 1 else below) = below + 1) ∨
      (nearer = below + 1 ∧ (if nearer = below then below + 1 else below) = below) := by
  have hchoice : nearer = below ∨ nearer = below + 1 := by
    rw [h]
    split_ifs <;> simp
  rcases hchoice with rfl | rfl
  · exact Or.inl ⟨rfl, if_pos rfl⟩
  · exact Or.inr ⟨rfl, if_neg (by omega)⟩

/-- The two neighbours are tried one after the other, in some order. -/
theorem onGrid?_eq (i : Interval) (unit power : Int) :
    ∃ nearer farther below, below = i.value * gridUp unit power / gridDown unit power ∧
      ((nearer = below ∧ farther = below + 1) ∨ (nearer = below + 1 ∧ farther = below)) ∧
      onGrid? i unit power =
        if i.holdsAt unit power nearer = true then some nearer
        else if i.holdsAt unit power farther = true then some farther
        else none := by
  refine ⟨_, _, _, rfl, ?_, rfl⟩
  exact neighbours_order _ _ _ rfl

/-- What is found on a grid lies in the interval. -/
theorem onGrid?_spec (h : onGrid? i unit power = some d) :
    d ≠ 0 ∧ i.Holds unit (d * 10 ^ power) := by
  obtain ⟨nearer, farther, -, -, -, heq⟩ := onGrid?_eq i unit power
  rw [heq] at h
  split at h
  · rename_i hnearer
    cases h
    exact holdsAt_iff.1 hnearer
  · split at h
    · rename_i hfarther
      cases h
      exact holdsAt_iff.1 hfarther
    · cases h

/-- Something is found on a grid whose multiples are no further apart than a place of the
interval: the neighbour below is above the lower end. -/
theorem exists_onGrid? (hfine : (10 : ℚ) ^ power ≤ 2 ^ unit) (hlow : i.low < i.value)
    (hhigh : i.value < i.high) : ∃ d, onGrid? i unit power = some d := by
  obtain ⟨nearer, farther, below, hbelow, horder, heq⟩ := onGrid?_eq i unit power
  have hinside : i.holdsAt unit power below = true := by
    have hdown := gridDown_pos unit power
    have hup := gridDown_le_gridUp hfine
    have hdiv := Nat.div_add_mod (i.value * gridUp unit power) (gridDown unit power)
    have hmod := Nat.mod_lt (i.value * gridUp unit power) hdown
    rw [← hbelow, Nat.mul_comm] at hdiv
    have hlow' : (i.low + 1) * gridUp unit power ≤ i.value * gridUp unit power :=
      Nat.mul_le_mul_right _ hlow
    have hhigh' : (i.value + 1) * gridUp unit power ≤ i.high * gridUp unit power :=
      Nat.mul_le_mul_right _ hhigh
    rw [Nat.add_mul, Nat.one_mul] at hlow' hhigh'
    have hne : below ≠ 0 := by
      rintro rfl
      omega
    unfold Interval.holdsAt Interval.contains
    split <;> simp [hne] <;> omega
  rw [heq]
  rcases horder with ⟨rfl, -⟩ | ⟨-, rfl⟩
  · exact ⟨nearer, if_pos hinside⟩
  · by_cases hnearer : i.holdsAt unit power nearer = true
    · exact ⟨nearer, if_pos hnearer⟩
    · exact ⟨farther, by rw [if_neg hnearer, if_pos hinside]⟩

/-! ### The finest grid -/

/-- A thousand is about `2 ^ 10`: the power of ten of the size of a number is at most its power of
two, with little lost over all finite numbers. -/
theorem ten_zpow_le_two_zpow {t : Int} (hlow : -1126 ≤ t) (hhigh : t ≤ 1023) :
    (10 : ℚ) ^ (t * 1233 / 4096) ≤ 2 ^ (t + 11) := by
  have htwo : ∀ e : Int, (0 : ℚ) ≤ 2 ^ e := fun e => (zpow_pos two_pos e).le
  have hten : ∀ e : Int, (0 : ℚ) < 10 ^ e := fun e => zpow_pos (by norm_num) e
  generalize hsize : t * 1233 / 4096 = size
  rcases le_total 0 size with hsign | hsign
  · rw [← zpow_le_zpow_iff_left₀ (hten size).le (htwo _) (show (0 : Int) < 3 by decide)]
    calc
      ((10 : ℚ) ^ size) ^ (3 : Int) = (10 ^ (3 : Int)) ^ size := zpow_comm 10 size 3
      _ ≤ (2 ^ (10 : Int)) ^ size := zpow_le_zpow_left₀ hsign (hten 3).le (by norm_num)
      _ = 2 ^ (10 * size) := (zpow_mul 2 10 size).symm
      _ ≤ 2 ^ ((t + 11) * 3) := zpow_le_zpow_right₀ one_le_two (by omega)
      _ = (2 ^ (t + 11)) ^ (3 : Int) := zpow_mul 2 (t + 11) 3
  · rw [← zpow_le_zpow_iff_left₀ (hten size).le (htwo _) (show (0 : Int) < 10 by decide)]
    have hflip : ((2 : ℚ) ^ (33 : Int)) ^ (-size) ≤ (10 ^ (10 : Int)) ^ (-size) :=
      zpow_le_zpow_left₀ (by omega) (htwo 33) (by norm_num)
    calc
      ((10 : ℚ) ^ size) ^ (10 : Int) = (10 ^ (10 : Int)) ^ size := zpow_comm 10 size 10
      _ = ((10 ^ (10 : Int)) ^ (-size))⁻¹ := by rw [zpow_neg, inv_inv]
      _ ≤ ((2 ^ (33 : Int)) ^ (-size))⁻¹ :=
        inv_anti₀ (zpow_pos (zpow_pos two_pos _) _) hflip
      _ = (2 ^ (33 : Int)) ^ size := by rw [zpow_neg, inv_inv]
      _ = 2 ^ (33 * size) := (zpow_mul 2 33 size).symm
      _ ≤ 2 ^ ((t + 11) * 10) := zpow_le_zpow_right₀ one_le_two (by omega)
      _ = (2 ^ (t + 11)) ^ (10 : Int) := zpow_mul 2 (t + 11) 10

/-- The finest grid that is tried is fine. -/
theorem finest_grid (hm : IsCanonical m q) (hne : m ≠ 0) :
    (10 : ℚ) ^ (((Nat.log2 m : Int) + q) * 1233 / 4096 - 20) ≤ 2 ^ (q - 2) := by
  have hlog : Nat.log2 m < 53 := (Nat.log2_lt hne).2 hm.mantissa_lt
  have hle := hm.le_exponent
  have hge := hm.exponent_le
  have hten : (10 : ℚ) ≠ 0 := by norm_num
  have hsize := ten_zpow_le_two_zpow (t := (Nat.log2 m : Int) + q) (by omega) (by omega)
  calc
    (10 : ℚ) ^ (((Nat.log2 m : Int) + q) * 1233 / 4096 - 20)
        = 10 ^ (((Nat.log2 m : Int) + q) * 1233 / 4096) * 10 ^ (-20 : Int) := by
      rw [← zpow_add₀ hten, Int.sub_eq_add_neg]
    _ ≤ 2 ^ ((Nat.log2 m : Int) + q + 11) * 2 ^ (-66 : Int) :=
      mul_le_mul hsize (by norm_num) (by positivity) (zpow_pos two_pos _).le
    _ = 2 ^ ((Nat.log2 m : Int) + q + 11 + -66) := (zpow_add₀ two_ne_zero _ _).symm
    _ ≤ 2 ^ (q - 2) := zpow_le_zpow_right₀ one_le_two (by omega)

/-! ### The fewest digits -/

/-- Zeros that are moved into the power leave the number as it is. -/
theorem withoutZeros_spec (n : Nat) (hd : d ≠ 0) (power : Int) :
    (withoutZeros n d power).1 ≠ 0 ∧
      ((withoutZeros n d power).1 * 10 ^ (withoutZeros n d power).2 : ℚ) = d * 10 ^ power := by
  induction n generalizing d power with
  | zero => exact ⟨hd, rfl⟩
  | succ n ih =>
      rw [withoutZeros]
      split
      · rename_i hzero
        have hten : (10 : ℚ) ≠ 0 := by norm_num
        have hdiv : d / 10 * 10 = d := Nat.div_mul_cancel (Nat.dvd_of_mod_eq_zero hzero.1)
        obtain ⟨hne, heq⟩ := ih (d := d / 10) (by omega) (power + 1)
        refine ⟨hne, heq.trans ?_⟩
        rw [zpow_add_one₀ hten, mul_comm (10 ^ power : ℚ), ← mul_assoc]
        congr 1
        exact_mod_cast hdiv
      · exact ⟨hd, rfl⟩

/-- **The fewest digits lie in the interval of the number**, and are not zero. -/
theorem shortest_spec (hm : IsCanonical m q) (hne : m ≠ 0) :
    (shortest m q).1 ≠ 0 ∧
      (interval m q).Holds (q - 2) ((shortest m q).1 * 10 ^ (shortest m q).2) := by
  unfold shortest
  simp only
  split
  · rename_i digits power hfound
    obtain ⟨grid, -, hgrid⟩ := List.exists_of_findSome?_eq_some hfound
    obtain ⟨d, hd, hpair⟩ := Option.map_eq_some_iff.1 hgrid
    cases hpair
    obtain ⟨hzero, hholds⟩ := onGrid?_spec hd
    obtain ⟨hzero', heq⟩ := withoutZeros_spec 20 hzero power
    exact ⟨hzero', by rwa [heq]⟩
  · rename_i hnone
    exfalso
    have hfinest : ((Nat.log2 m : Int) + q) * 1233 / 4096 - 20 ∈
        (List.range 24).map fun n : Nat =>
          ((Nat.log2 m : Int) + q) * 1233 / 4096 + 3 - (n : Int) :=
      List.mem_map.2 ⟨23, by decide, by omega⟩
    have hlow : (interval m q).low < (interval m q).value := by
      unfold interval
      simp only
      split <;> omega
    have hhigh : (interval m q).value < (interval m q).high := by
      unfold interval
      simp only
      omega
    obtain ⟨d, hd⟩ := exists_onGrid? (finest_grid hm hne) hlow hhigh
    have hmiss := List.findSome?_eq_none_iff.1 hnone _ hfinest
    rw [hd] at hmiss
    cases hmiss

end

end ApiContract.Decimal
