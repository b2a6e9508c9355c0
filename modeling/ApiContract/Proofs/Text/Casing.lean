/-
**Letter case.**

Only capital letters have another character for their lower-case form, and that is a letter too.
Digits and signs therefore have one spelling.

Main results:

* `Text.lowerAscii_cases` — what the lower-case form of a character is;
* `Text.eq_of_lowerAscii_eq` — what stands before the lower-case letters has one spelling;
* `Text.equalIgnoringCase_iff_lowerCased` — texts are spellings of one text if they have the same
  lower-case form.
-/

import ApiContract.Text.Basic

set_option relaxedAutoImplicit false
set_option autoImplicit false

namespace ApiContract.Text

variable {c d : Char} {cs ds : List Char} {s t u : String}

/-! ### Characters -/

/-- A character is its own lower-case form, or is a capital letter some way before it. -/
theorem lowerAscii_cases (c : Char) :
    lowerAscii c = c ∨
      65 ≤ c.toNat ∧ c.toNat ≤ 90 ∧ (lowerAscii c).toNat = c.toNat + 32 := by
  unfold lowerAscii
  split
  · rename_i hc
    have hlow : 65 ≤ c.toNat := hc.1
    have hhigh : c.toNat ≤ 90 := hc.2
    have hvalid : (c.toNat + 32).isValidChar := Or.inl (by omega)
    refine Or.inr ⟨hlow, hhigh, ?_⟩
    rw [Char.ofNat, dif_pos hvalid]
    rfl
  · exact Or.inl rfl

/-- What stands before the lower-case letters is the lower-case form of itself alone. -/
theorem eq_of_lowerAscii_eq (hd : d.toNat < 97) (h : lowerAscii c = d) : c = d := by
  rcases lowerAscii_cases c with hc | ⟨hlow, -, hc⟩
  · exact hc.symm.trans h
  · rw [h] at hc
    omega

theorem toNat_lt_of_isDigit (hd : d.isDigit = true) : d.toNat < 65 := by
  have hdigit : d.toNat ≤ 57 := (Char.isDigit_iff_toNat.1 hd).2
  omega

theorem lowerAscii_of_isDigit (hd : d.isDigit = true) : lowerAscii d = d := by
  rcases lowerAscii_cases d with h | ⟨hlow, -, -⟩
  · exact h
  · have hlt := toNat_lt_of_isDigit hd
    omega

/-- Digits have one spelling. -/
theorem eq_of_map_lowerAscii_eq (hds : ∀ d ∈ ds, d.isDigit = true)
    (h : cs.map lowerAscii = ds.map lowerAscii) : cs = ds := by
  induction ds generalizing cs with
  | nil => simpa using h
  | cons d ds ih =>
      rw [List.forall_mem_cons] at hds
      have hlt := toNat_lt_of_isDigit hds.1
      cases cs with
      | nil => cases h
      | cons c cs =>
          rw [List.map_cons, List.map_cons, List.cons.injEq, lowerAscii_of_isDigit hds.1] at h
          rw [eq_of_lowerAscii_eq (by omega) h.1, ih hds.2 h.2]

/-! ### Texts -/

theorem equalIgnoringCase_iff :
    equalIgnoringCase s t = true ↔ s.toList.map lowerAscii = t.toList.map lowerAscii :=
  decide_eq_true_iff

/-- Two spellings of one text are spellings of each other. -/
theorem equalIgnoringCase_symm (h : equalIgnoringCase s t = true) :
    equalIgnoringCase t s = true :=
  equalIgnoringCase_iff.2 (equalIgnoringCase_iff.1 h).symm

/-- Two spellings of one text have the same spellings. -/
theorem equalIgnoringCase_congr (h : equalIgnoringCase t u = true) :
    equalIgnoringCase s t = true ↔ equalIgnoringCase s u = true := by
  rw [equalIgnoringCase_iff] at h
  rw [equalIgnoringCase_iff, equalIgnoringCase_iff, h]

theorem equalIgnoringCase_iff_lowerCased :
    equalIgnoringCase s t = true ↔ lowerCased s = lowerCased t := by
  rw [equalIgnoringCase_iff, lowerCased, lowerCased, String.ofList_inj]

end ApiContract.Text
