/-
**What escaped text stands for.**

Escapes are read on the bytes of a text: a percent sign with two hexadecimal digits behind it stands
for a byte, and every other byte stands for itself, so that a percent sign without its digits is
kept.  What comes out may be the bytes of a text or not.  If it is, the text is decoded; if it is
not, it is kept.  A path segment is kept as it was.  A name or a value of a query is kept with its
plus signs already replaced, so that it is as it was only if there are none.

Main definitions:

* `Percent.Unescaped` — the bytes that escaped bytes stand for;
* `Percent.StandsFor`, `Percent.Undecodable` — the texts that stand for a text, and those that stand
  for none;
* `Percent.spacedText` — a text with a space for each plus sign.

Main results:

* `Percent.Unescaped.unique` — escaped bytes are read in one way;
* `Percent.unescaped_unescape` — reading a text by its characters is reading its bytes;
* `Percent.decoded_or_kept` — **a text is decoded, or it is kept, in a path segment as it was and in
  a query with its plus signs replaced**.
-/

import ApiContract.Proofs.Text.Form

set_option relaxedAutoImplicit false
set_option autoImplicit false

namespace ApiContract.Percent

open Text (hexValue?)

/-! ### Escapes in bytes -/

/-- The value of a byte that is a hexadecimal digit. -/
def digitValue? (b : UInt8) : Option Nat :=
  if 48 ≤ b.toNat ∧ b.toNat ≤ 57 then some (b.toNat - 48)
  else if 97 ≤ b.toNat ∧ b.toNat ≤ 102 then some (b.toNat - 97 + 10)
  else if 65 ≤ b.toNat ∧ b.toNat ≤ 70 then some (b.toNat - 65 + 10)
  else none

/-- A percent sign with two digits stands at the beginning. -/
def BeginsEscape (bs : List UInt8) : Prop :=
  ∃ a b x y rest, bs = 0x25 :: a :: b :: rest ∧ digitValue? a = some x ∧ digitValue? b = some y

/-- `Unescaped bs out`: the escaped bytes `bs` stand for the bytes `out`. -/
inductive Unescaped : List UInt8 → List UInt8 → Prop
  /-- No bytes stand for no bytes. -/
  | nil : Unescaped [] []
  /-- An escape stands for the byte with its two digits. -/
  | escape {a b : UInt8} {x y : Nat} {rest out : List UInt8} (ha : digitValue? a = some x)
      (hb : digitValue? b = some y) (h : Unescaped rest out) :
      Unescaped (0x25 :: a :: b :: rest) (UInt8.ofNat (16 * x + y) :: out)
  /-- Every other byte stands for itself, also a percent sign without two digits. -/
  | kept {b : UInt8} {rest out : List UInt8} (hb : ¬ BeginsEscape (b :: rest))
      (h : Unescaped rest out) : Unescaped (b :: rest) (b :: out)

section

variable {bs out out' rest : List UInt8} {b : UInt8}

theorem not_beginsEscape_of_ne (h : b ≠ 0x25) : ¬ BeginsEscape (b :: rest) := by
  rintro ⟨_, _, _, _, _, heq, -⟩
  exact h (List.cons.inj heq).1

/-- **Escaped bytes are read in one way.** -/
theorem Unescaped.unique (h : Unescaped bs out) (h' : Unescaped bs out') : out = out' := by
  induction h generalizing out' with
  | nil =>
      cases h'
      rfl
  | escape ha hb _ ih =>
      cases h' with
      | escape ha' hb' h' =>
          obtain rfl := Option.some.inj (ha.symm.trans ha')
          obtain rfl := Option.some.inj (hb.symm.trans hb')
          rw [ih h']
      | kept hno _ => exact absurd ⟨_, _, _, _, _, rfl, ha, hb⟩ hno
  | kept hno _ ih =>
      cases h' with
      | escape ha hb _ => exact absurd ⟨_, _, _, _, _, rfl, ha, hb⟩ hno
      | kept _ h' => rw [ih h']

/-- Bytes that are no percent signs stand for themselves. -/
theorem Unescaped.append (hbs : ∀ b ∈ bs, b ≠ 0x25) (h : Unescaped rest out) :
    Unescaped (bs ++ rest) (bs ++ out) := by
  induction bs with
  | nil => exact h
  | cons b bs ih =>
      rw [List.forall_mem_cons] at hbs
      exact (ih hbs.2).kept (not_beginsEscape_of_ne hbs.1)

end

/-! ### Escapes in characters -/

section

variable {c : Char} {x : Nat} {cs : List Char} {b : UInt8} {bs out : List UInt8}

/-- A character is a single byte, or all of its bytes are beyond those. -/
theorem utf8EncodeChar_cases (c : Char) :
    (c.toNat < 0x80 ∧ String.utf8EncodeChar c = [UInt8.ofNat c.toNat]) ∨
      (0x80 ≤ c.toNat ∧ ∀ b ∈ String.utf8EncodeChar c, 0x80 ≤ b.toNat) := by
  have hval : c.val.toNat = c.toNat := rfl
  unfold String.utf8EncodeChar
  simp only [hval]
  -- one case for each number of bytes
  split
  · exact Or.inl ⟨by omega, rfl⟩
  · refine Or.inr ⟨by omega, ?_⟩
    split
    · simp; omega
    · split
      · simp; omega
      · simp; omega

/-- The digits among the bytes are the digits among the characters. -/
theorem digitValue?_ofNat (h : c.toNat < 0x80) :
    digitValue? (UInt8.ofNat c.toNat) = hexValue? c := by
  have hbyte : (UInt8.ofNat c.toNat).toNat = c.toNat :=
    UInt8.toNat_ofNat_of_lt' (Nat.lt_trans h (by decide))
  rw [digitValue?, hbyte]
  rfl

theorem digitValue?_eq_none (h : 0x80 ≤ b.toNat) : digitValue? b = none := by
  rw [digitValue?, if_neg (by omega), if_neg (by omega), if_neg (by omega)]

theorem encode_cons_of_lt (h : c.toNat < 0x80) (cs : List Char) :
    Utf8.encode (c :: cs) = UInt8.ofNat c.toNat :: Utf8.encode cs := by
  rcases utf8EncodeChar_cases c with ⟨-, hbytes⟩ | ⟨hc, -⟩
  · rw [Utf8.encode, List.flatMap_cons, hbytes, List.singleton_append, ← Utf8.encode]
  · omega

/-- A character that is a digit is a byte that is. -/
theorem exists_of_hexValue? (h : hexValue? c = some x) (cs : List Char) :
    ∃ b, digitValue? b = some x ∧ Utf8.encode (c :: cs) = b :: Utf8.encode cs := by
  have hrange := range_of_isAlphanum (isAlphanum_of_hexValue? h)
  have hsmall : c.toNat < 0x80 := by omega
  exact ⟨UInt8.ofNat c.toNat, (digitValue?_ofNat hsmall).trans h, encode_cons_of_lt hsmall cs⟩

/-- A byte that is a digit is a character that is. -/
theorem exists_of_digitValue? (hb : digitValue? b = some x) (h : Utf8.encode cs = b :: bs) :
    ∃ c rest, cs = c :: rest ∧ hexValue? c = some x ∧ Utf8.encode rest = bs := by
  cases cs with
  | nil => cases h
  | cons c rest =>
      rcases utf8EncodeChar_cases c with ⟨hc, -⟩ | ⟨-, hbytes⟩
      · rw [encode_cons_of_lt hc, List.cons.injEq] at h
        obtain ⟨rfl, hrest⟩ := h
        exact ⟨c, rest, rfl, digitValue?_ofNat hc ▸ hb, hrest⟩
      · -- the byte is one of a longer character
        obtain ⟨first, others, hfirst⟩ := List.exists_cons_of_ne_nil
          (String.utf8EncodeChar_ne_nil (c := c))
        rw [Utf8.encode, List.flatMap_cons, hfirst, List.cons_append, List.cons.injEq] at h
        have hlarge := hbytes first (hfirst ▸ List.mem_cons_self)
        rw [h.1] at hlarge
        rw [digitValue?_eq_none hlarge] at hb
        cases hb

/-- An escape in the bytes of a text is an escape in the text. -/
theorem beginsEscape_encode_iff :
    BeginsEscape (Utf8.encode ('%' :: cs)) ↔
      ∃ c d rest x y, cs = c :: d :: rest ∧ hexValue? c = some x ∧ hexValue? d = some y := by
  rw [encode_cons_of_lt (by decide)]
  constructor
  · rintro ⟨a, b, x, y, bytes, heq, ha, hb⟩
    obtain ⟨c, cs', rfl, hc, hrest⟩ := exists_of_digitValue? ha (List.cons.inj heq).2
    obtain ⟨d, rest, rfl, hd, -⟩ := exists_of_digitValue? hb hrest
    exact ⟨c, d, rest, x, y, rfl, hc, hd⟩
  · rintro ⟨c, d, rest, x, y, rfl, hc, hd⟩
    obtain ⟨a, ha, hfirst⟩ := exists_of_hexValue? hc (d :: rest)
    obtain ⟨b, hb, hsecond⟩ := exists_of_hexValue? hd rest
    rw [hfirst, hsecond]
    exact ⟨a, b, x, y, _, rfl, ha, hb⟩

/-- No byte of another character is a percent sign. -/
theorem ne_percent_of_mem (hc : c ≠ '%') (hb : b ∈ String.utf8EncodeChar c) : b ≠ 0x25 := by
  rintro rfl
  rcases utf8EncodeChar_cases c with ⟨hsmall, hbytes⟩ | ⟨-, hbytes⟩
  · rw [hbytes, List.mem_singleton] at hb
    have hcode := congrArg UInt8.toNat hb
    rw [UInt8.toNat_ofNat_of_lt' (Nat.lt_trans hsmall (by decide))] at hcode
    exact hc (Char.toNat_inj.1 hcode.symm)
  · exact absurd (hbytes _ hb) (by decide)

/-- A percent sign without two digits behind it is kept. -/
theorem Unescaped.percent (h : Unescaped (Utf8.encode cs) out)
    (hno : ¬ BeginsEscape (Utf8.encode ('%' :: cs))) :
    Unescaped (Utf8.encode ('%' :: cs)) (String.utf8EncodeChar '%' ++ out) := by
  rw [encode_cons_of_lt (by decide)] at hno ⊢
  exact h.kept hno

/-- **Reading a text by its characters is reading its bytes.** -/
theorem unescaped_unescape (cs : List Char) : Unescaped (Utf8.encode cs) (unescape cs) := by
  -- an escape, a percent sign without two digits, one too near to the end, any other character
  fun_induction unescape cs with
  | case1 => exact .nil
  | case2 c d rest x y hd hc ih =>
      obtain ⟨a, ha, hfirst⟩ := exists_of_hexValue? hc (d :: rest)
      obtain ⟨b, hb, hsecond⟩ := exists_of_hexValue? hd rest
      rw [encode_cons_of_lt (by decide), hfirst, hsecond]
      exact ih.escape ha hb
  | case3 c d rest hno ih =>
      refine ih.percent fun hescape => ?_
      obtain ⟨c, d, rest, x, y, heq, hc, hd⟩ := beginsEscape_encode_iff.1 hescape
      cases heq
      exact hno x y hc hd
  | case4 rest hno ih =>
      refine ih.percent fun hescape => ?_
      obtain ⟨c, d, rest, x, y, heq, -⟩ := beginsEscape_encode_iff.1 hescape
      exact hno c d rest heq
  | case5 c cs hc ih =>
      rw [Utf8.encode, List.flatMap_cons, ← Utf8.encode]
      exact ih.append fun b hb => ne_percent_of_mem hc hb

theorem unescaped_encode_iff : Unescaped (Utf8.encode cs) out ↔ out = unescape cs := by
  constructor
  · intro h
    exact h.unique (unescaped_unescape cs)
  · rintro rfl
    exact unescaped_unescape cs

end

/-! ### Texts that stand for texts -/

/-- An escaped text stands for another one: its bytes stand for the bytes of that one. -/
def StandsFor (s t : String) : Prop := Unescaped (Utf8.bytes s) (Utf8.bytes t)

/-- An escaped text stands for bytes that are no text. -/
def Undecodable (s : String) : Prop := ∃ bs, Unescaped (Utf8.bytes s) bs ∧ ¬ Utf8.IsText bs

/-- A text with a space for each plus sign. -/
def spacedText (s : String) : String := String.ofList (spaced s.toList)

section

variable {s t : String}

theorem standsFor_iff : StandsFor s t ↔ Utf8.decode? (unescape s.toList) = some t.toList := by
  rw [StandsFor, Utf8.bytes, unescaped_encode_iff, Utf8.decode?_eq_some_iff, Utf8.bytes]

theorem undecodable_iff : Undecodable s ↔ Utf8.decode? (unescape s.toList) = none := by
  simp only [Undecodable, Utf8.bytes, unescaped_encode_iff, exists_eq_left, Utf8.isText_iff,
    not_exists]
  exact Option.eq_none_iff_forall_ne_some.symm

/-- A text stands for bytes that are no text exactly if it stands for no text. -/
theorem undecodable_iff_forall : Undecodable s ↔ ∀ u, ¬ StandsFor s u := by
  rw [undecodable_iff, Option.eq_none_iff_forall_ne_some]
  simp only [standsFor_iff]
  constructor
  · intro h u
    exact h u.toList
  · intro h cs hcs
    refine h (String.ofList cs) ?_
    rw [hcs, String.toList_ofList]

/-- A path segment is read as the text that it stands for, or kept as it was. -/
theorem decodeSegment_eq_iff :
    decodeSegment s = t ↔ StandsFor s t ∨ Undecodable s ∧ t = s := by
  rw [standsFor_iff, undecodable_iff, decodeSegment, decode]
  cases Utf8.decode? (unescape s.toList) with
  | none => simp [eq_comm]
  | some cs =>
      rw [Option.getD_some, Option.some.injEq]
      constructor
      · rintro rfl
        exact Or.inl String.toList_ofList.symm
      · rintro (rfl | ⟨⟨⟩, -⟩)
        exact String.ofList_toList

theorem decodeComponent_eq_decodeSegment (s : String) :
    decodeComponent s = decodeSegment (spacedText s) := by
  rw [decodeComponent, decodeSegment, spacedText, String.toList_ofList]

/-- Only a text without plus signs is left alone. -/
theorem spacedText_eq_self_iff : spacedText s = s ↔ '+' ∉ s.toList := by
  constructor
  · intro h hplus
    rw [← h, spacedText, String.toList_ofList, spaced] at hplus
    obtain ⟨c, -, hc⟩ := List.mem_map.1 hplus
    split at hc
    · cases hc
    · contradiction
  · intro h
    rw [spacedText, spaced_of_not_mem h, String.ofList_toList]

/-- **A text is decoded, or it is kept, in a path segment as it was and in a query with its plus
signs replaced.**  Escaped text stands for a text, or for bytes that are none.  A path segment is
read as the text that it stands for, and kept as it was if there is none.  A name or a value of a
query is read so after each plus sign has given way to a space; if it stands for no text, the text
with spaces is kept, which is the text as it was exactly if there is no plus sign in it.  Without
plus signs both are read alike. -/
theorem decoded_or_kept (s t : String) :
    (Undecodable s ↔ ∀ u, ¬ StandsFor s u) ∧
      (decodeSegment s = t ↔ StandsFor s t ∨ Undecodable s ∧ t = s) ∧
      (decodeComponent s = t ↔
        StandsFor (spacedText s) t ∨ Undecodable (spacedText s) ∧ t = spacedText s) ∧
      (Undecodable (spacedText s) → (decodeComponent s = s ↔ '+' ∉ s.toList)) ∧
      ('+' ∉ s.toList → decodeComponent s = decodeSegment s) := by
  refine ⟨undecodable_iff_forall, decodeSegment_eq_iff, ?_, fun hundecodable => ?_, fun hplus => ?_⟩
  · rw [decodeComponent_eq_decodeSegment, decodeSegment_eq_iff]
  · have hkept : decodeComponent s = spacedText s := by
      rw [decodeComponent_eq_decodeSegment]
      exact decodeSegment_eq_iff.2 (Or.inr ⟨hundecodable, rfl⟩)
    rw [hkept, spacedText_eq_self_iff]
  · rw [decodeComponent_eq_decodeSegment, spacedText_eq_self_iff.2 hplus]

/-- A value with a plus sign and a byte that begins no text is not kept as it was. -/
theorem decoded_or_kept_plus :
    Undecodable (spacedText "a+%FF") ∧ decodeComponent "a+%FF" ≠ "a+%FF" ∧
      decodeSegment "a+%FF" = "a+%FF" := by
  have hcomponent : Undecodable (spacedText "a+%FF") := undecodable_iff.2 (by decide +kernel)
  have hsegment : Undecodable "a+%FF" := undecodable_iff.2 (by decide +kernel)
  obtain ⟨-, hread, -, hkept, -⟩ := decoded_or_kept "a+%FF" "a+%FF"
  refine ⟨hcomponent, fun h => ?_, hread.2 (Or.inr ⟨hsegment, rfl⟩)⟩
  exact (hkept hcomponent).1 h (by decide)

end

end ApiContract.Percent
