/-
**Numbers as they are written in JSON.**

A number is written as an optional minus, digits without a needless zero in front, and perhaps a
fraction and an exponent.  A text that is such a number has a single token, and is read as an
integer exactly if it has neither fraction nor exponent, fits 64 bits and is not minus zero.

Main definitions:

* `Json.Numeral` — a number as it is written, with `Numeral.toList`, its characters;
* `Json.Numeral.whole` — the integer that the digits before a fraction stand for.

Main results:

* `Json.Numeral.parse?_toList` — a number is read as a whole;
* `Json.Numeral.numberOf?_eq_int_iff` — **which numbers are read as integers**;
* `Json.Numeral.readInt64?_toList_eq_some_iff` — which are integers of 64 bits with a sign.
-/

import ApiContract.Json.Parser
import ApiContract.Proofs.Decimal.Reading

set_option relaxedAutoImplicit false
set_option autoImplicit false

namespace ApiContract.Json

/-! ### The grammar -/

/-- Decimal digits, at least one. -/
def IsDigits (cs : List Char) : Prop := cs ≠ [] ∧ ∀ c ∈ cs, Text.isDigit c = true

/-- A point and digits. -/
def IsFraction (cs : List Char) : Prop := ∃ digits, cs = '.' :: digits ∧ IsDigits digits

/-- A letter, an optional sign and digits. -/
def IsExponent (cs : List Char) : Prop :=
  ∃ letter sign digits, cs = letter :: (sign ++ digits) ∧ letter ∈ ['e', 'E'] ∧
    sign ∈ [[], ['+'], ['-']] ∧ IsDigits digits

/-- **A number as it is written.** -/
structure Numeral where
  /-- Whether there is a minus in front. -/
  negative : Bool
  /-- The digits before the fraction. -/
  digits : List Char
  /-- The fraction. -/
  fraction : List Char
  /-- The exponent. -/
  exponent : List Char
  /-- There are digits before the fraction. -/
  isDigits_digits : IsDigits digits
  /-- A zero in front stands alone. -/
  eq_zero_of_head? : digits.head? = some '0' → digits = ['0']
  /-- The fraction may be left out. -/
  isFraction_fraction : fraction = [] ∨ IsFraction fraction
  /-- So may the exponent. -/
  isExponent_exponent : exponent = [] ∨ IsExponent exponent

namespace Numeral

variable {n : Numeral} {k : Int}

/-- The characters of a number. -/
def toList (n : Numeral) : List Char :=
  (if n.negative then ['-'] else []) ++ (n.digits ++ (n.fraction ++ n.exponent))

/-- The text of a number. -/
def text (n : Numeral) : String := String.ofList n.toList

/-- The number without its sign, its fraction and its exponent. -/
def magnitude (n : Numeral) : Nat := Nat.ofDigitChars 10 n.digits 0

/-- The integer that the digits before the fraction stand for. -/
def whole (n : Numeral) : Int := if n.negative then -(n.magnitude : Int) else n.magnitude

/-- The number has neither a fraction nor an exponent. -/
def IsPlain (n : Numeral) : Prop := n.fraction = [] ∧ n.exponent = []

/-! ### The characters of a number -/

theorem isNumberChar_of_isDigit {c : Char} (h : Text.isDigit c = true) : isNumberChar c = true := by
  simp [isNumberChar, h]

/-- A number holds no character that ends it. -/
theorem isNumberChar_of_mem {c : Char} (hc : c ∈ n.toList) : isNumberChar c = true := by
  have hdigits : ∀ {cs : List Char}, IsDigits cs → c ∈ cs → isNumberChar c = true :=
    fun hcs h => isNumberChar_of_isDigit (hcs.2 c h)
  simp only [toList, List.mem_append] at hc
  rcases hc with hc | hc | hc | hc
  · split at hc
    · obtain rfl := List.mem_singleton.1 hc
      decide
    · cases hc
  · exact hdigits n.isDigits_digits hc
  · rcases n.isFraction_fraction with hnil | ⟨digits, hfraction, hdigit⟩
    · rw [hnil] at hc
      cases hc
    · rw [hfraction] at hc
      rcases List.mem_cons.1 hc with rfl | hc
      · decide
      · exact hdigits hdigit hc
  · rcases n.isExponent_exponent with hnil | ⟨letter, sign, digits, hexponent, hl, hs, hdigit⟩
    · rw [hnil] at hc
      cases hc
    · rw [hexponent] at hc
      rcases List.mem_cons.1 hc with rfl | hc
      · have hletters : ['e', 'E'].all isNumberChar = true := by decide
        exact List.all_eq_true.1 hletters _ hl
      · rcases List.mem_append.1 hc with hc | hc
        · have hsigns : [[], ['+'], ['-']].all (·.all isNumberChar) = true := by decide
          exact List.all_eq_true.1 (List.all_eq_true.1 hsigns _ hs) _ hc
        · exact hdigits hdigit hc

/-- There is a first digit. -/
theorem exists_digits_eq_cons (n : Numeral) :
    ∃ d ds, n.digits = d :: ds ∧ Text.isDigit d = true := by
  obtain ⟨d, ds, hd⟩ := List.exists_cons_of_ne_nil n.isDigits_digits.1
  exact ⟨d, ds, hd, n.isDigits_digits.2 d (by rw [hd]; exact List.mem_cons_self)⟩

/-- A number begins with a minus or a digit. -/
theorem exists_toList_eq_cons (n : Numeral) :
    ∃ c cs, n.toList = c :: cs ∧ (c = '-' ∨ Text.isDigit c = true) := by
  obtain ⟨d, ds, hd, hdigit⟩ := n.exists_digits_eq_cons
  unfold toList
  split
  · exact ⟨_, _, rfl, Or.inl rfl⟩
  · exact ⟨d, _, by rw [hd]; rfl, Or.inr hdigit⟩

/-! ### One token -/

/-- Characters of a number stay in it to the end. -/
theorem tokensFrom?_number {cs collected : List Char} {read : Array Token}
    (h : ∀ c ∈ cs, isNumberChar c = true) :
    tokensFrom? (.number collected) read cs =
      (numberOf? (collected.reverse ++ cs)).map fun k => read.toList ++ [.atom (.number k)] := by
  induction cs generalizing collected with
  | nil =>
      rw [tokensFrom?, finish?, List.append_nil, Option.map_map]
      rfl
  | cons c cs ih =>
      rw [List.forall_mem_cons] at h
      simp only [tokensFrom?, step?, if_pos h.1]
      rw [show read ++ ([] : List Token) = read from by simp, ih h.2, List.reverse_cons,
        List.append_assoc, List.singleton_append]

/-- **A number is a single token.** -/
theorem tokens?_toList (n : Numeral) :
    tokens? n.toList = (numberOf? n.toList).map fun k => [.atom (.number k)] := by
  obtain ⟨c, cs, hcs, hc⟩ := n.exists_toList_eq_cons
  have hall : ∀ d ∈ cs, isNumberChar d = true := by
    intro d hd
    refine isNumberChar_of_mem (n := n) ?_
    rw [hcs]
    exact List.mem_cons_of_mem c hd
  have hbegin : begin? c = some ([], .number [c]) := by
    rcases hc with rfl | hdigit
    · rfl
    · have hne : ∀ d, Text.isDigit d = false → c ≠ d := by
        rintro d hd rfl
        rw [hdigit] at hd
        cases hd
      simp [begin?, isSpace, hdigit, hne ' ' (by decide), hne '\n' (by decide),
        hne '\t' (by decide), hne '\r' (by decide), hne '"' (by decide)]
  rw [hcs, tokens?, tokensFrom?]
  simp only [step?, hbegin]
  rw [tokensFrom?_number hall]
  rfl

/-- **A number is read as a whole.** -/
theorem parse?_toList (n : Numeral) :
    parse? n.toList = (numberOf? n.toList).map fun k => ofAtom (.number k) := by
  rw [parse?, tree?, tokens?_toList]
  cases numberOf? n.toList with
  | none => rfl
  | some k => rfl

/-! ### Which numbers are integers -/

/-- Behind the digits there is something else. -/
theorem isDigit_eq_false_of_head? {c : Char} (hc : c ∈ (n.fraction ++ n.exponent).head?) :
    Text.isDigit c = false := by
  rw [Option.mem_def] at hc
  rcases n.isFraction_fraction with hnil | ⟨digits, hfraction, -⟩
  · rcases n.isExponent_exponent with hnil' | ⟨letter, sign, digits, hexponent, hl, -⟩
    · rw [hnil, hnil'] at hc
      cases hc
    · rw [hnil, hexponent] at hc
      obtain rfl := Option.some.inj hc
      simp only [List.mem_cons, List.not_mem_nil, or_false] at hl
      rcases hl with rfl | rfl <;> decide
  · rw [hfraction] at hc
    obtain rfl := Option.some.inj hc
    decide

theorem takeWhile_digits (n : Numeral) :
    (n.digits ++ (n.fraction ++ n.exponent)).takeWhile Text.isDigit = n.digits :=
  Decimal.takeWhile_isDigit n.isDigits_digits.2 fun _ hc => isDigit_eq_false_of_head? hc

theorem dropWhile_digits (n : Numeral) :
    (n.digits ++ (n.fraction ++ n.exponent)).dropWhile Text.isDigit = n.fraction ++ n.exponent :=
  Decimal.dropWhile_isDigit n.isDigits_digits.2 fun _ hc => isDigit_eq_false_of_head? hc

theorem le_ofDigitChars (ds : List Char) (m : Nat) : m ≤ Nat.ofDigitChars 10 ds m := by
  induction ds generalizing m with
  | nil => exact le_rfl
  | cons d ds ih =>
      rw [Nat.ofDigitChars_cons]
      have := ih (10 * m + (d.toNat - '0'.toNat))
      omega

/-- Digits are taken as long as their number fits 64 bits. -/
theorem takeDigits_of_le {ds : List Char} {m : Nat} (h : Nat.ofDigitChars 10 ds m ≤ maxNatural) :
    takeDigits m ds = (Nat.ofDigitChars 10 ds m, []) := by
  induction ds generalizing m with
  | nil => rfl
  | cons d ds ih =>
      rw [Nat.ofDigitChars_cons, Nat.mul_comm] at h
      have hle := (le_ofDigitChars ds _).trans h
      simp only [takeDigits, if_pos hle, ih h]
      rw [Nat.ofDigitChars_cons, Nat.mul_comm]

theorem takeDigits_ne_nil {ds : List Char} {m : Nat} (hm : m ≤ maxNatural)
    (h : maxNatural < Nat.ofDigitChars 10 ds m) : (takeDigits m ds).2 ≠ [] := by
  induction ds generalizing m with
  | nil => exact absurd hm (Nat.not_le.2 h)
  | cons d ds ih =>
      rw [Nat.ofDigitChars_cons, Nat.mul_comm] at h
      rw [takeDigits]
      split
      · rename_i hle
        exact ih hle h
      · exact List.cons_ne_nil d ds

theorem floatOf?_ne_int (negative : Bool) (digits : Nat) (e : Int) :
    floatOf? negative digits e ≠ some (.int k) := by
  intro h
  obtain ⟨x, -, hx⟩ := Option.map_eq_some_iff.1 h
  cases hx

/-- Integers of 64 bits with a sign or without, other than minus zero. -/
theorem eq_whole_iff (hfits : n.magnitude ≤ maxNatural) :
    (if !n.negative then some (Number.int n.magnitude)
      else if n.magnitude = 0 ∨ Nat.pow 2 63 < n.magnitude then floatOf? true n.magnitude 0
      else some (.int (-(n.magnitude : Int)))) = some (.int k) ↔
      n.whole = k ∧ -(2 ^ 63 : Int) ≤ k ∧ k < 2 ^ 64 ∧ (n.negative = true → k ≠ 0) := by
  have hmax : maxNatural = 2 ^ 64 - 1 := rfl
  have hpow : Nat.pow 2 63 = 2 ^ 63 := rfl
  rw [hmax] at hfits
  unfold whole
  cases n.negative with
  | false =>
      simp only [Bool.not_false, if_true, Option.some.injEq, Number.int.injEq, Bool.false_eq_true,
        if_false, false_implies, and_true]
      omega
  | true =>
      simp only [Bool.not_true, Bool.false_eq_true, if_false, if_true, hpow, forall_const]
      split
      · rename_i hout
        refine iff_of_false (floatOf?_ne_int _ _ _) ?_
        omega
      · simp only [Option.some.injEq, Number.int.injEq]
        omega

/-- Only a minus is cut off. -/
theorem eq_of_cut {negative : Bool} {body : List Char}
    (h : (match n.toList with
      | '-' :: r => (true, r)
      | r => (false, r)) = (negative, body)) :
    n.negative = negative ∧ n.digits ++ (n.fraction ++ n.exponent) = body := by
  obtain ⟨d, ds, hd, hdigit⟩ := n.exists_digits_eq_cons
  unfold toList at h
  cases hnegative : n.negative with
  | true =>
      rw [hnegative] at h
      cases h
      exact ⟨rfl, rfl⟩
  | false =>
      rw [hnegative] at h
      split at h
      · rename_i hminus
        rw [hd] at hminus
        cases hminus
        exact absurd hdigit (by decide)
      · cases h
        exact ⟨rfl, rfl⟩

/-- A zero in front stands alone. -/
theorem startsWell_digits (n : Numeral) :
    (match n.digits with
      | [] => false
      | ['0'] => true
      | c :: _ => c != '0') = true := by
  split
  · rename_i hnil
    exact absurd hnil n.isDigits_digits.1
  · rfl
  · rename_i c cs hsingle hc
    rw [bne_iff_ne]
    rintro rfl
    have hdigits := n.eq_zero_of_head? (by rw [hc]; rfl)
    rw [hc] at hdigits
    exact hsingle rfl (List.cons.inj hdigits).2

/-- **Which numbers are read as integers**: those without fraction and exponent that fit 64 bits,
with a sign or without, other than minus zero. -/
theorem numberOf?_eq_int_iff :
    numberOf? n.toList = some (.int k) ↔
      n.IsPlain ∧ n.whole = k ∧ -(2 ^ 63 : Int) ≤ k ∧ k < 2 ^ 64 ∧
        (n.negative = true → k ≠ 0) := by
  rw [numberOf?.eq_def]
  split
  rename_i negative body hcut
  obtain ⟨rfl, rfl⟩ := eq_of_cut hcut
  simp only [takeWhile_digits, dropWhile_digits]
  rw [if_neg]
  swap
  · rw [Bool.not_eq_true, Bool.not_eq_false']
    exact n.startsWell_digits
  split
  · rename_i hplain
    have hparts : n.IsPlain := List.append_eq_nil_iff.1 hplain
    rw [iff_true_intro hparts, true_and]
    by_cases hfits : n.magnitude ≤ maxNatural
    · rw [takeDigits_of_le hfits]
      exact eq_whole_iff hfits
    · have hmax : maxNatural = 2 ^ 64 - 1 := rfl
      rw [if_pos (takeDigits_ne_nil (Nat.zero_le _) (Nat.lt_of_not_le hfits))]
      refine iff_of_false (floatOf?_ne_int _ _ _) ?_
      unfold whole
      split <;> omega
  · rename_i r hpoint
    refine iff_of_false (fun h => ?_) ?_
    · split at h
      · cases h
      · split at h
        · exact floatOf?_ne_int _ _ _ h
        · cases h
    · rintro ⟨⟨hfraction, hexponent⟩, -⟩
      rw [hfraction, hexponent] at hpoint
      cases hpoint
  · rename_i hne hpoint
    refine iff_of_false (fun h => ?_) ?_
    · split at h
      · exact floatOf?_ne_int _ _ _ h
      · cases h
    · rintro ⟨⟨hfraction, hexponent⟩, -⟩
      rw [hfraction, hexponent] at hne
      exact hne rfl

/-! ### Which numbers are integers of 64 bits with a sign -/

theorem splitSign_toList (n : Numeral) :
    Decimal.splitSign n.toList = (n.negative, n.digits ++ (n.fraction ++ n.exponent)) := by
  obtain ⟨d, ds, hd, hdigit⟩ := n.exists_digits_eq_cons
  unfold toList
  cases n.negative with
  | true => rfl
  | false =>
      rw [hd]
      exact Decimal.splitSign_of_isDigit hdigit

/-- Behind a sign, only a number without fraction and exponent has nothing but digits. -/
theorem digitsValue?_eq_some_iff {m : Nat} :
    Decimal.digitsValue? (n.digits ++ (n.fraction ++ n.exponent)) = some m ↔
      n.IsPlain ∧ n.magnitude = m := by
  cases htail : n.fraction ++ n.exponent with
  | nil =>
      rw [List.append_nil, Decimal.digitsValue?_of_isDigit n.isDigits_digits.1 n.isDigits_digits.2,
        Option.some.injEq]
      exact (and_iff_right (List.append_eq_nil_iff.1 htail)).symm
  | cons c cs =>
      have hc : Text.isDigit c = false :=
        isDigit_eq_false_of_head? (n := n) (by rw [htail]; exact rfl)
      rw [Decimal.digitsValue?_eq_none (c := c) (by simp) hc]
      refine iff_of_false nofun ?_
      rintro ⟨hplain, -⟩
      rw [hplain.1, hplain.2] at htail
      cases htail

/-- **Which numbers are integers of 64 bits with a sign**: those without fraction and exponent that
are within the bounds. -/
theorem readInt64?_toList_eq_some_iff :
    Decimal.readInt64? n.toList = some k ↔
      n.IsPlain ∧ n.whole = k ∧ -(2 ^ 63 : Int) ≤ k ∧ k < 2 ^ 63 := by
  rw [Decimal.readInt64?_eq_some_iff, splitSign_toList]
  constructor
  · rintro ⟨m, hm, hk, hbounds⟩
    obtain ⟨hplain, rfl⟩ := digitsValue?_eq_some_iff.1 hm
    exact ⟨hplain, hk.symm, hbounds⟩
  · rintro ⟨hplain, hk, hbounds⟩
    exact ⟨n.magnitude, digitsValue?_eq_some_iff.2 ⟨hplain, rfl⟩, hk.symm, hbounds⟩

/-- The only way to write minus zero without fraction and exponent. -/
theorem text_eq_of_whole_eq_zero (hplain : n.IsPlain) (hnegative : n.negative = true)
    (h : n.whole = 0) : n.text = "-0" := by
  obtain ⟨d, ds, hd, hdigit⟩ := n.exists_digits_eq_cons
  have hmagnitude : n.magnitude = 0 := by
    rw [whole, if_pos hnegative] at h
    omega
  have hzero : d = '0' := by
    rw [magnitude, hd, Nat.ofDigitChars_cons] at hmagnitude
    have hle := le_ofDigitChars ds (10 * 0 + (d.toNat - '0'.toNat))
    have hlow : '0'.toNat ≤ d.toNat := by
      rw [Text.isDigit_eq, Char.isDigit_iff_toNat] at hdigit
      exact hdigit.1
    exact Char.toNat_inj.1 (by omega)
  have hdigits := n.eq_zero_of_head? (by rw [hd, hzero]; rfl)
  rw [text, toList, if_pos hnegative, hdigits, hplain.1, hplain.2]
  rfl

end Numeral

end ApiContract.Json
