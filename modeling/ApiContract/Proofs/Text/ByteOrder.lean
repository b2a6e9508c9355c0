/-
**The order of texts is the order of their bytes.**

Of two characters the lesser one has the lesser bytes, whatever stands behind them: the first byte
tells how many there are, and as many as there are hold the digits of the character.  So texts stand
in the order of their bytes.

Main results:

* `Utf8.encodeChar_append_lt` — the bytes of a lesser character are less;
* `Utf8.bytes_lt_iff` — **texts stand in the order of their bytes**.
-/

import ApiContract.Text.Utf8
import Mathlib.Tactic.SplitIfs

set_option relaxedAutoImplicit false
set_option autoImplicit false

namespace ApiContract.Utf8

/-- Bytes are in the order of their numbers. -/
theorem cons_ofNat_lt_iff {a b : Nat} (ha : a < 256) (hb : b < 256) {bs bs' : List UInt8} :
    UInt8.ofNat a :: bs < UInt8.ofNat b :: bs' ↔ a < b ∨ a = b ∧ bs < bs' := by
  rw [List.cons_lt_cons_iff, UInt8.lt_iff_toNat_lt, ← UInt8.toNat_inj, UInt8.toNat_ofNat_of_lt' ha,
    UInt8.toNat_ofNat_of_lt' hb]

/-- Of two numbers the lesser one has the lesser digits to the base of 64. -/
theorem digits_lt {v w : Nat} (h : v < w) :
    v / 262144 < w / 262144 ∨ v / 262144 = w / 262144 ∧
      (v / 4096 % 64 < w / 4096 % 64 ∨ v / 4096 % 64 = w / 4096 % 64 ∧
        (v / 64 % 64 < w / 64 % 64 ∨ v / 64 % 64 = w / 64 % 64 ∧ v % 64 < w % 64)) := by
  have hlast : v / 64 < w / 64 ∨ v / 64 = w / 64 ∧ v % 64 < w % 64 := by omega
  have hthird : v / 64 < w / 64 →
      v / 4096 < w / 4096 ∨ v / 4096 = w / 4096 ∧ v / 64 % 64 < w / 64 % 64 := by omega
  have hsecond : v / 4096 < w / 4096 →
      v / 262144 < w / 262144 ∨ v / 262144 = w / 262144 ∧ v / 4096 % 64 < w / 4096 % 64 := by
    omega
  omega

theorem toNat_val_lt (c : Char) : c.val.toNat < 0x110000 := by
  have hvalid := c.valid
  simp only [UInt32.isValidChar, Nat.isValidChar] at hvalid
  omega

/-- The bytes of a lesser character are less, whatever stands behind them. -/
theorem encodeChar_append_lt {c d : Char} (h : c < d) (bs bs' : List UInt8) :
    String.utf8EncodeChar c ++ bs < String.utf8EncodeChar d ++ bs' := by
  have hlt : c.val.toNat < d.val.toNat := h
  have hdigits := digits_lt hlt
  have hlead : ∀ e : Char, e.val.toNat / 262144 % 8 = e.val.toNat / 262144 := by
    intro e
    have := toNat_val_lt e
    omega
  have hbound := toNat_val_lt d
  simp only [String.utf8EncodeChar, hlead]
  split_ifs <;>
    simp (disch := omega) only [List.cons_append, List.nil_append, cons_ofNat_lt_iff] <;>
    omega

/-- The bytes of a lesser text are less. -/
theorem encode_lt {cs ds : List Char} (h : cs < ds) : encode cs < encode ds := by
  induction h with
  | nil =>
      rename_i d ds
      obtain ⟨b, bs, hb⟩ := List.exists_cons_of_ne_nil (String.utf8EncodeChar_ne_nil (c := d))
      rw [encode, List.flatMap_nil, encode, List.flatMap_cons, hb]
      exact List.nil_lt_cons b _
  | rel hcd =>
      rw [encode, List.flatMap_cons, encode, List.flatMap_cons]
      exact encodeChar_append_lt hcd _ _
  | cons _ ih =>
      rw [encode, List.flatMap_cons, encode, List.flatMap_cons]
      exact List.append_left_lt ih

/-- **Texts stand in the order of their bytes.** -/
theorem bytes_lt_iff {s t : String} : bytes s < bytes t ↔ s < t := by
  rw [String.lt_iff]
  refine ⟨fun h => Decidable.byContradiction fun hnot => ?_, encode_lt⟩
  rcases List.le_iff_lt_or_eq.1 (List.not_lt.1 hnot) with hlt | heq
  · exact List.lt_asymm h (encode_lt hlt)
  · rw [bytes, bytes, heq] at h
    exact List.lt_irrefl _ h

end ApiContract.Utf8
