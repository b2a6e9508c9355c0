/-
**Forms are read back.**

In a query, a form or a cookie there is more than one way to write a text: a byte is written as the
unreserved character that it is, or as an escape with digits of either case, and a space as `+` as
well.  A `+` of the text itself is always an escape, and so is every separator, so that what is
written in any of these ways is read back as it was.

Main definitions:

* `Percent.Writes` — the ways to write a byte;
* `Percent.Written` — the ways to write a text;
* `Percent.IsForm` — the ways to write names and values between separators;
* `Percent.plusText` — a text with `+` for a space;
* `Percent.joinedForm` — names and values as one writer writes them.

Main results:

* `Percent.Written.decodeComponent_eq` — **a text is read back, in whatever way it is written**;
* `Percent.written_encodeText`, `Percent.written_plusText` — two writers of texts;
* `Percent.pairs_of_isForm` — **names and values are read back from a form**.
-/

import ApiContract.Proofs.Text.Percent
import Mathlib.Data.List.Forall2

set_option relaxedAutoImplicit false
set_option autoImplicit false

namespace ApiContract.Percent

open Text (hexValue?)

/-! ### Ways of writing -/

/-- The ways to write a byte. -/
inductive Writes : UInt8 → List Char → Prop
  /-- An unreserved character stands for itself. -/
  | kept {c : Char} (h : isUnreserved c = true) : Writes (UInt8.ofNat c.toNat) [c]
  /-- A plus sign stands for a space. -/
  | plus : Writes 0x20 ['+']
  /-- An escape stands for any byte; the case of its digits does not matter. -/
  | escaped {b : UInt8} {x y : Char} (hx : hexValue? x = some (b.toNat / 16))
      (hy : hexValue? y = some (b.toNat % 16)) : Writes b ['%', x, y]

/-- The ways to write a text: each of its bytes in some way. -/
def Written (s written : String) : Prop :=
  ∃ pieces, List.Forall₂ Writes (Utf8.bytes s) pieces ∧ written.toList = pieces.flatten

/-- Texts as `name=value` between separators. -/
def joinedForm (separator : Char) (ps : List (String × String)) : String :=
  Text.joined (String.singleton separator) (ps.map fun p => p.1 ++ "=" ++ p.2)

/-- The ways to write names and values as `name=value` between separators. -/
def IsForm (separator : Char) (ps : List (String × String)) (form : String) : Prop :=
  ∃ written : List (String × String),
    List.Forall₂ (fun p w => Written p.1 w.1 ∧ Written p.2 w.2) ps written ∧
      form = joinedForm separator written

/-- A character as `encodeChar` writes it, but a space as `+`. -/
def plusChar (c : Char) : List Char := if c = ' ' then ['+'] else encodeChar c

/-- A text with escapes, and with `+` for a space. -/
def plusText (s : String) : String := String.ofList (s.toList.flatMap plusChar)

/-! ### Reading what is written -/

section

variable {b : UInt8} {bs : List UInt8} {c : Char} {n : Nat} {piece : List Char}
  {pieces : List (List Char)} {s written : String}

theorem isAlphanum_of_hexValue? (h : hexValue? c = some n) : c.isAlphanum = true := by
  rw [isAlphanum_iff]
  unfold hexValue? at h
  split at h
  · exact Or.inr ‹_›
  split at h
  · rename_i hlower
    exact Or.inl (Or.inr ⟨hlower.1, Nat.le_trans hlower.2 (by decide)⟩)
  split at h
  · rename_i hupper
    exact Or.inl (Or.inl ⟨hupper.1, Nat.le_trans hupper.2 (by decide)⟩)
  · cases h

theorem isUnreserved_of_hexValue? (h : hexValue? c = some n) : isUnreserved c = true := by
  simp [isUnreserved, isAlphanum_of_hexValue? h]

theorem spaced_of_isUnreserved (h : isUnreserved c = true) (cs : List Char) :
    spaced (c :: cs) = c :: spaced cs := by
  rw [spaced, List.map_cons, if_neg (ne_of_class isUnreserved h (by decide))]
  rfl

/-- An unreserved character is a single byte. -/
theorem utf8EncodeChar_of_isUnreserved (h : isUnreserved c = true) :
    String.utf8EncodeChar c = [UInt8.ofNat c.toNat] := by
  have hwritten : isWritten c = true := by simp [isWritten, h]
  have hascii := (range_of_isWritten hwritten).2
  have hval : c.val.toNat = c.toNat := rfl
  unfold String.utf8EncodeChar
  simp only [hval]
  rw [if_pos (by omega)]

/-- What is written has no separator and no blank in it. -/
theorem Writes.isWritten (h : Writes b piece) (hc : c ∈ piece) : isWritten c = true := by
  cases h with
  | kept h =>
      obtain rfl := List.mem_singleton.1 hc
      simp [Percent.isWritten, h]
  | plus =>
      obtain rfl := List.mem_singleton.1 hc
      rfl
  | escaped hx hy =>
      simp only [List.mem_cons, List.not_mem_nil, or_false] at hc
      rcases hc with rfl | rfl | rfl
      · rfl
      · simp [Percent.isWritten, isUnreserved_of_hexValue? hx]
      · simp [Percent.isWritten, isUnreserved_of_hexValue? hy]

/-- **A byte is read back**, in whatever way it is written and whatever stands behind it. -/
theorem Writes.unescape_append (h : Writes b piece) (rest : List Char) :
    unescape (spaced (piece ++ rest)) = b :: unescape (spaced rest) := by
  cases h with
  | kept h =>
      rw [List.singleton_append, spaced_of_isUnreserved h,
        unescape_of_ne (ne_of_class isUnreserved h (by decide)), utf8EncodeChar_of_isUnreserved h]
      rfl
  | plus =>
      have hspaced : spaced ('+' :: rest) = ' ' :: spaced rest := rfl
      rw [List.singleton_append, hspaced, unescape_of_ne (by decide)]
      rfl
  | escaped hx hy =>
      rename_i x y
      have hdigits : 16 * (b.toNat / 16) + b.toNat % 16 = b.toNat := by omega
      have hspaced : spaced ('%' :: x :: y :: rest) = '%' :: x :: y :: spaced rest := by
        rw [← spaced_of_isUnreserved (isUnreserved_of_hexValue? hy),
          ← spaced_of_isUnreserved (isUnreserved_of_hexValue? hx)]
        rfl
      simp only [List.cons_append, List.nil_append]
      rw [hspaced, unescape, if_pos rfl]
      simp only [hx, hy, hdigits, UInt8.ofNat_toNat]

theorem unescape_flatten (h : List.Forall₂ Writes bs pieces) :
    unescape (spaced pieces.flatten) = bs := by
  induction h with
  | nil => rfl
  | cons hb _ ih => rw [List.flatten_cons, hb.unescape_append, ih]

/-- **A text is read back, in whatever way it is written.** -/
theorem Written.decodeComponent_eq (h : Written s written) : decodeComponent written = s := by
  obtain ⟨pieces, hpieces, htext⟩ := h
  rw [decodeComponent, decode, htext, unescape_flatten hpieces, Utf8.bytes, Utf8.decode?_encode,
    Option.getD_some, String.ofList_toList]

/-- What is written for two texts is written for the two together. -/
theorem Written.append {t written' : String} (h : Written s written) (h' : Written t written') :
    Written (s ++ t) (written ++ written') := by
  obtain ⟨pieces, hpieces, htext⟩ := h
  obtain ⟨pieces', hpieces', htext'⟩ := h'
  refine ⟨pieces ++ pieces', ?_, ?_⟩
  · rw [Utf8.bytes, String.toList_append, Utf8.encode, List.flatMap_append]
    exact List.rel_append hpieces hpieces'
  · rw [String.toList_append, htext, htext', List.flatten_append]

theorem isWritten_of_mem_flatten (h : List.Forall₂ Writes bs pieces) (hc : c ∈ pieces.flatten) :
    isWritten c = true := by
  induction h with
  | nil => cases hc
  | cons hb _ ih =>
      rcases List.mem_append.1 hc with hc | hc
      · exact hb.isWritten hc
      · exact ih hc

theorem Written.isWritten (h : Written s written) : ∀ c ∈ written.toList, isWritten c = true := by
  obtain ⟨pieces, hpieces, htext⟩ := h
  intro c hc
  rw [htext] at hc
  exact isWritten_of_mem_flatten hpieces hc

end

/-! ### Two writers -/

section

variable {c : Char} {write : Char → List Char}

/-- A writer of characters that writes the bytes of each of them writes the bytes of a text. -/
theorem written_flatMap
    (h : ∀ c, ∃ pieces, List.Forall₂ Writes (String.utf8EncodeChar c) pieces ∧
      write c = pieces.flatten) (s : String) :
    Written s (String.ofList (s.toList.flatMap write)) := by
  rw [Written, Utf8.bytes, Utf8.encode, String.toList_ofList]
  induction s.toList with
  | nil => exact ⟨[], .nil, rfl⟩
  | cons c cs ih =>
      obtain ⟨first, hfirst, hwrite⟩ := h c
      obtain ⟨rest, hrest, hcs⟩ := ih
      refine ⟨first ++ rest, ?_, ?_⟩
      · exact List.rel_append hfirst hrest
      · rw [List.flatMap_cons, hwrite, hcs, List.flatten_append]

theorem writes_escape (b : UInt8) : Writes b (escape b) := by
  have hb := b.toNat_lt
  exact .escaped (hexValue?_upperHexDigit _ (by omega)) (hexValue?_upperHexDigit _ (by omega))

theorem exists_writes_encodeChar (c : Char) :
    ∃ pieces, List.Forall₂ Writes (String.utf8EncodeChar c) pieces ∧
      encodeChar c = pieces.flatten := by
  unfold encodeChar
  split
  · rename_i hc
    rw [utf8EncodeChar_of_isUnreserved hc]
    exact ⟨[[c]], .cons (.kept hc) .nil, rfl⟩
  · refine ⟨(String.utf8EncodeChar c).map escape, ?_, List.flatMap_def⟩
    rw [List.forall₂_map_right_iff]
    exact List.forall₂_same.2 fun b _ => writes_escape b

theorem exists_writes_plusChar (c : Char) :
    ∃ pieces, List.Forall₂ Writes (String.utf8EncodeChar c) pieces ∧
      plusChar c = pieces.flatten := by
  unfold plusChar
  split
  · rename_i hc
    rw [hc]
    exact ⟨[['+']], .cons .plus .nil, rfl⟩
  · exact exists_writes_encodeChar c

/-- A text may be written with escapes alone. -/
theorem written_encodeText (s : String) : Written s (encodeText s) :=
  written_flatMap exists_writes_encodeChar s

/-- A text may be written with `+` for a space. -/
theorem written_plusText (s : String) : Written s (plusText s) :=
  written_flatMap exists_writes_plusChar s

end

/-! ### Forms -/

section

variable {separator : Char} {ps : List (String × String)} {form : String}

theorem isForm_of_written {write : String → String} (h : ∀ s, Written s (write s)) :
    IsForm separator ps (joinedForm separator (ps.map fun p => (write p.1, write p.2))) := by
  refine ⟨_, ?_, rfl⟩
  rw [List.forall₂_map_right_iff]
  exact List.forall₂_same.2 fun p _ => ⟨h p.1, h p.2⟩

theorem writtenPair_of_forall₂ {written : List (String × String)}
    (h : List.Forall₂ (fun p w => Written p.1 w.1 ∧ Written p.2 w.2) ps written) :
    ∀ w ∈ written, WrittenPair w := by
  induction h with
  | nil => simp
  | cons hp _ ih => exact List.forall_mem_cons.2 ⟨⟨hp.1.isWritten, hp.2.isWritten⟩, ih⟩

theorem map_decodeComponent_of_forall₂ {written : List (String × String)}
    (h : List.Forall₂ (fun p w => Written p.1 w.1 ∧ Written p.2 w.2) ps written) :
    written.map (fun w => (decodeComponent w.1, decodeComponent w.2)) = ps := by
  induction h with
  | nil => rfl
  | cons hp _ ih => rw [List.map_cons, ih, hp.1.decodeComponent_eq, hp.2.decodeComponent_eq]

/-- Names and values are read back from a form, whatever sign stands between them that is in no
written text. -/
theorem pairs_of_isForm (hsep : isWritten separator = false) (hne : separator ≠ '=')
    (h : IsForm separator ps form) : pairs separator form = ps := by
  obtain ⟨written, hwritten, rfl⟩ := h
  rw [joinedForm, pairs_joined hsep hne (writtenPair_of_forall₂ hwritten),
    map_decodeComponent_of_forall₂ hwritten]

/-- **Names and values are read back from a form.**  For the separators of queries and of cookies
and for all names and values, what is read from any way of writing them is this list, in order;
among these ways are writing escapes alone and writing a space as `+`. -/
theorem pairs_form (hsep : separator ∈ ['&', ';']) (ps : List (String × String)) :
    (∀ form, IsForm separator ps form → pairs separator form = ps) ∧
      ∀ write ∈ [encodeText, plusText],
        IsForm separator ps (joinedForm separator (ps.map fun p => (write p.1, write p.2))) := by
  simp only [List.mem_cons, List.not_mem_nil, or_false, forall_eq_or_imp, forall_eq] at hsep ⊢
  refine ⟨fun form h => ?_, isForm_of_written written_encodeText,
    isForm_of_written written_plusText⟩
  rcases hsep with rfl | rfl
  · exact pairs_of_isForm (by decide) (by decide) h
  · exact pairs_of_isForm (by decide) (by decide) h

/-- A space may be written in two ways in one text, a name may come twice, and both a name and its
value may be empty. -/
theorem pairs_form_mixed :
    IsForm '&' [("q", "a b c"), ("", ""), ("q", "é&=;%+")] "q=a+b%20c&=&q=%C3%A9%26%3D%3B%25%2B" ∧
      pairs '&' "q=a+b%20c&=&q=%C3%A9%26%3D%3B%25%2B" =
        [("q", "a b c"), ("", ""), ("q", "é&=;%+")] := by
  have hform : IsForm '&' [("q", "a b c"), ("", ""), ("q", "é&=;%+")]
      "q=a+b%20c&=&q=%C3%A9%26%3D%3B%25%2B" := by
    refine ⟨[(encodeText "q", plusText "a b" ++ encodeText " c"), (encodeText "", encodeText ""),
      (encodeText "q", encodeText "é&=;%+")], ?_, by decide +kernel⟩
    have htwo : Written "a b c" (plusText "a b" ++ encodeText " c") :=
      (written_plusText "a b").append (written_encodeText " c")
    exact .cons ⟨written_encodeText _, htwo⟩
      (.cons ⟨written_encodeText _, written_encodeText _⟩
        (.cons ⟨written_encodeText _, written_encodeText _⟩ .nil))
  exact ⟨hform, (pairs_form (by decide) _).1 _ hform⟩

end

end ApiContract.Percent
