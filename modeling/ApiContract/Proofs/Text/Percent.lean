/-
**Escaped text is read back.**

A text is written with escapes when every character that is reserved gives way to the escapes of its
bytes.  What is written so holds unreserved characters and escapes alone, so that it can stand
between separators, and it is read back as the text, in a path as well as in a query.

Main definitions:

* `Percent.isUnreserved` — the characters that need no escape;
* `Percent.encode`, `Percent.encodeText` — a text with escapes;
* `Percent.isWritten`, `Percent.WrittenPair` — what may stand between separators;
* `Percent.joinedPairs` — names and values with escapes, between separators.

Main results:

* `Percent.unescape_encode_append` — the escapes of a text stand for its bytes;
* `Percent.decodeSegment_encodeText`, `Percent.decodeComponent_encodeText` — **an escaped text is
  read back**;
* `Percent.pairs_joined` — names and values that are free of separators are cut apart again;
* `Percent.pairs_joinedPairs` — **escaped names and values are read back**.
-/

import ApiContract.Proofs.Text.Cutting
import ApiContract.Proofs.Text.Utf8
import ApiContract.Text.Percent

set_option relaxedAutoImplicit false
set_option autoImplicit false

namespace ApiContract.Percent

open Text (hexValue?)

/-! ### Writing escapes -/

/-- The characters that need no escape: ASCII letters and digits, and four marks. -/
def isUnreserved (c : Char) : Bool :=
  c.isAlphanum || c = '-' || c = '.' || c = '_' || c = '~'

/-- The upper-case hexadecimal digit of a number below sixteen. -/
def upperHexDigit (n : Nat) : Char :=
  if n < 10 then Char.ofNat ('0'.toNat + n) else Char.ofNat ('A'.toNat + (n - 10))

/-- The escape of a byte. -/
def escape (b : UInt8) : List Char :=
  ['%', upperHexDigit (b.toNat / 16), upperHexDigit (b.toNat % 16)]

/-- A character that needs no escape stays, any other one gives way to the escapes of its bytes. -/
def encodeChar (c : Char) : List Char :=
  if isUnreserved c then [c] else (String.utf8EncodeChar c).flatMap escape

/-- A text with escapes, as characters. -/
def encode (cs : List Char) : List Char := cs.flatMap encodeChar

/-- A text with escapes. -/
def encodeText (s : String) : String := String.ofList (encode s.toList)

/-- Names and values with escapes, as `name=value` between separators. -/
def joinedPairs (separator : Char) (pairs : List (String × String)) : String :=
  Text.joined (String.singleton separator)
    (pairs.map fun p => encodeText p.1 ++ "=" ++ encodeText p.2)

/-! ### What escaped text is made of -/

/-- The characters of escaped text, and the mark that stands for a space in a query. -/
def isWritten (c : Char) : Bool := isUnreserved c || c = '%' || c = '+'

section

variable {c d : Char} {cs : List Char}

/-- A character of a class is none of those outside it. -/
theorem ne_of_class (inClass : Char → Bool) (h : inClass c = true) (hd : inClass d = false) :
    c ≠ d := by
  rintro rfl
  rw [h] at hd
  cases hd

/-- ASCII letters and digits are in three ranges. -/
theorem isAlphanum_iff : c.isAlphanum = true ↔
    (65 ≤ c.toNat ∧ c.toNat ≤ 90 ∨ 97 ≤ c.toNat ∧ c.toNat ≤ 122) ∨
      48 ≤ c.toNat ∧ c.toNat ≤ 57 := by
  change ((decide (65 ≤ c.toNat ∧ c.toNat ≤ 90) ||
      (decide (97 ≤ c.toNat) && decide (c.toNat ≤ 122))) ||
    (decide (48 ≤ c.toNat) && decide (c.toNat ≤ 57))) = true ↔ _
  simp only [Bool.or_eq_true, Bool.and_eq_true, decide_eq_true_eq]

theorem range_of_isAlphanum (h : c.isAlphanum = true) : 0x30 ≤ c.toNat ∧ c.toNat < 0x7B := by
  rw [isAlphanum_iff] at h
  omega

/-- Written characters are visible ASCII characters. -/
theorem range_of_isWritten (h : isWritten c = true) : 0x21 ≤ c.toNat ∧ c.toNat < 0x80 := by
  simp only [isWritten, isUnreserved, Bool.or_eq_true, decide_eq_true_eq] at h
  rcases h with (((((h | rfl) | rfl) | rfl) | rfl) | rfl) | rfl
  · obtain ⟨hlow, hhigh⟩ := range_of_isAlphanum h
    omega
  all_goals decide

theorem isBlank_of_range (hlow : 0x21 ≤ c.toNat) (hhigh : c.toNat < 0x80) :
    Text.isBlank c = false := by
  simp [Text.isBlank]
  omega

theorem isUnreserved_upperHexDigit : ∀ n < 16, isUnreserved (upperHexDigit n) = true := by
  decide

theorem mem_escape {b : UInt8} (h : c ∈ escape b) : isUnreserved c = true ∨ c = '%' := by
  have hb := b.toNat_lt
  simp only [escape, List.mem_cons, List.not_mem_nil, or_false] at h
  rcases h with rfl | rfl | rfl
  · exact Or.inr rfl
  · exact Or.inl (isUnreserved_upperHexDigit _ (by omega))
  · exact Or.inl (isUnreserved_upperHexDigit _ (by omega))

/-- Escaped text has unreserved characters and escapes in it, and nothing else. -/
theorem mem_encode (h : c ∈ encode cs) : isUnreserved c = true ∨ c = '%' := by
  obtain ⟨d, -, hd⟩ := List.mem_flatMap.1 h
  unfold encodeChar at hd
  split at hd
  · rename_i hplain
    rw [List.mem_singleton.1 hd]
    exact Or.inl hplain
  · obtain ⟨b, -, hb⟩ := List.mem_flatMap.1 hd
    exact mem_escape hb

theorem isWritten_of_mem_encode (h : c ∈ encode cs) : isWritten c = true := by
  rcases mem_encode h with h | rfl
  · simp [isWritten, h]
  · rfl

theorem slash_not_mem_encode (cs : List Char) : '/' ∉ encode cs := by
  intro h
  exact ne_of_class isWritten (isWritten_of_mem_encode h) (by decide) rfl

theorem encode_ne_nil (h : cs ≠ []) : encode cs ≠ [] := by
  obtain ⟨c, hc⟩ := List.exists_mem_of_ne_nil cs h
  intro hnil
  have hchar : encodeChar c = [] := List.flatMap_eq_nil_iff.1 hnil c hc
  unfold encodeChar at hchar
  split at hchar
  · cases hchar
  · obtain ⟨b, hb⟩ := List.exists_mem_of_ne_nil (String.utf8EncodeChar c)
      String.utf8EncodeChar_ne_nil
    cases List.flatMap_eq_nil_iff.1 hchar b hb

end

/-! ### Reading escapes -/

theorem hexValue?_upperHexDigit : ∀ n < 16, hexValue? (upperHexDigit n) = some n := by
  decide

/-- The escape of a byte stands for the byte. -/
theorem unescape_escape_append (b : UInt8) (rest : List Char) :
    unescape (escape b ++ rest) = b :: unescape rest := by
  have hb := b.toNat_lt
  have hdigits : 16 * (b.toNat / 16) + b.toNat % 16 = b.toNat := by omega
  simp only [escape, List.cons_append, List.nil_append]
  rw [unescape, if_pos rfl]
  simp only [hexValue?_upperHexDigit (b.toNat / 16) (by omega),
    hexValue?_upperHexDigit (b.toNat % 16) (by omega), hdigits, UInt8.ofNat_toNat]

theorem unescape_escapes_append (bs : List UInt8) (rest : List Char) :
    unescape (bs.flatMap escape ++ rest) = bs ++ unescape rest := by
  induction bs with
  | nil => rfl
  | cons b bs ih =>
      rw [List.flatMap_cons, List.append_assoc, unescape_escape_append, ih, List.cons_append]

theorem unescape_of_ne {c : Char} (h : c ≠ '%') (cs : List Char) :
    unescape (c :: cs) = String.utf8EncodeChar c ++ unescape cs := by
  rw [unescape.eq_def]
  simp only [if_neg h]

/-- **The escapes of a text stand for its bytes**, whatever stands behind them. -/
theorem unescape_encode_append (cs rest : List Char) :
    unescape (encode cs ++ rest) = Utf8.encode cs ++ unescape rest := by
  induction cs with
  | nil => rfl
  | cons c cs ih =>
      rw [encode, List.flatMap_cons, List.append_assoc, ← encode, Utf8.encode, List.flatMap_cons,
        List.append_assoc, ← Utf8.encode, ← ih]
      unfold encodeChar
      split
      · rename_i hplain
        exact unescape_of_ne (ne_of_class isUnreserved hplain (by decide)) _
      · exact unescape_escapes_append _ _

theorem decode_encode (cs : List Char) : decode (encode cs) = cs := by
  have hbytes : unescape (encode cs) = Utf8.encode cs := by
    simpa [unescape] using unescape_encode_append cs []
  rw [decode, hbytes, Utf8.decode?_encode, Option.getD_some]

/-- **A text is read back from a path segment.** -/
theorem decodeSegment_encodeText (s : String) : decodeSegment (encodeText s) = s := by
  rw [decodeSegment, encodeText, String.toList_ofList, decode_encode, String.ofList_toList]

theorem spaced_of_not_mem {cs : List Char} (h : '+' ∉ cs) : spaced cs = cs := by
  have hkept : ∀ c ∈ cs, (if c = '+' then ' ' else c) = c := by
    intro c hc
    refine if_neg ?_
    rintro rfl
    exact h hc
  rw [spaced, List.map_congr_left hkept, List.map_id']

/-- **A text is read back from a name or a value**: it is written without the mark that stands for a
space. -/
theorem decodeComponent_encodeText (s : String) : decodeComponent (encodeText s) = s := by
  have hplus : '+' ∉ encode s.toList := by
    intro h
    rcases mem_encode h with h | h
    · exact ne_of_class isUnreserved h (by decide) rfl
    · cases h
  rw [decodeComponent, encodeText, String.toList_ofList, spaced_of_not_mem hplus, decode_encode,
    String.ofList_toList]

/-! ### Names and values -/

/-- A text without white space is not trimmed. -/
theorem trimmed_of_forall {cs : List Char} (h : ∀ c ∈ cs, Text.isBlank c = false) :
    Text.trimmed cs = cs := by
  have hkept : ∀ ds : List Char, (∀ d ∈ ds, Text.isBlank d = false) →
      ds.dropWhile Text.isBlank = ds := by
    intro ds hds
    cases ds with
    | nil => rfl
    | cons d ds => rw [List.dropWhile_cons, if_neg (by simp [hds d List.mem_cons_self])]
  rw [Text.trimmed, Text.trimEnds, Text.trimRight, hkept cs h,
    hkept cs.reverse (fun d hd => h d (List.mem_reverse.1 hd)), List.reverse_reverse]

/-- A name ends at the first `=`. -/
theorem pairOf_append {name value : List Char} (h : '=' ∉ name) :
    pairOf (name ++ '=' :: value) =
      (decodeComponent (String.ofList name), decodeComponent (String.ofList value)) := by
  have hname : ∀ c ∈ name, (decide (c ≠ '=')) = true := by
    intro c hc
    exact decide_eq_true fun heq => h (heq ▸ hc)
  simp only [pairOf, List.takeWhile_append_of_pos hname, List.dropWhile_append_of_pos hname]
  simp

/-- The characters of texts with a separator between every two of them. -/
theorem toList_joined (sep s : String) (ss : List String) :
    (Text.joined sep (s :: ss)).toList =
      s.toList ++ ss.flatMap fun t => sep.toList ++ t.toList := by
  induction ss generalizing s with
  | nil => simp [Text.joined]
  | cons t ss ih =>
      rw [Text.joined, String.toList_append, String.toList_append, ih, List.flatMap_cons,
        List.append_assoc]
      simp

/-- Texts without separators are cut apart again. -/
theorem fields_joined {separator : Char} {ss : List String} (hne : ss ≠ [])
    (h : ∀ s ∈ ss, separator ∉ s.toList) :
    Text.fields separator (Text.joined (String.singleton separator) ss).toList =
      ss.map String.toList := by
  cases ss with
  | nil => exact absurd rfl hne
  | cons s ss =>
      obtain ⟨hs, hss⟩ := List.forall_mem_cons.1 h
      have hrest : ∀ g ∈ ss.map String.toList, separator ∉ g := by
        intro g hg
        obtain ⟨t, ht, rfl⟩ := List.mem_map.1 hg
        exact hss t ht
      rw [toList_joined, String.toList_singleton, List.map_cons, ← Text.fields_flatMap hs hrest,
        List.flatMap_map]
      rfl

section

variable {separator : Char} {p : String × String}

/-- A pair of written texts. -/
def WrittenPair (p : String × String) : Prop :=
  (∀ c ∈ p.1.toList, isWritten c = true) ∧ ∀ c ∈ p.2.toList, isWritten c = true

theorem WrittenPair.of_mem (h : WrittenPair p) {c : Char} (hc : c ∈ (p.1 ++ "=" ++ p.2).toList) :
    isWritten c = true ∨ c = '=' := by
  rw [String.toList_append, String.toList_append, List.mem_append, List.mem_append] at hc
  rcases hc with (hc | hc) | hc
  · exact Or.inl (h.1 c hc)
  · exact Or.inr (by simpa using hc)
  · exact Or.inl (h.2 c hc)

theorem WrittenPair.not_mem (h : WrittenPair p) (hsep : isWritten separator = false)
    (hne : separator ≠ '=') : separator ∉ (p.1 ++ "=" ++ p.2).toList := by
  intro hmem
  rcases h.of_mem hmem with hwritten | heq
  · exact ne_of_class isWritten hwritten hsep rfl
  · exact hne heq

theorem WrittenPair.trimmed_eq (h : WrittenPair p) :
    Text.trimmed (p.1 ++ "=" ++ p.2).toList = (p.1 ++ "=" ++ p.2).toList := by
  refine trimmed_of_forall fun c hc => ?_
  rcases h.of_mem hc with hwritten | rfl
  · obtain ⟨hlow, hhigh⟩ := range_of_isWritten hwritten
    exact isBlank_of_range hlow hhigh
  · decide

theorem WrittenPair.pairOf_eq (h : WrittenPair p) :
    pairOf (p.1 ++ "=" ++ p.2).toList = (decodeComponent p.1, decodeComponent p.2) := by
  have hname : '=' ∉ p.1.toList :=
    fun hmem => ne_of_class isWritten (h.1 '=' hmem) (by decide) rfl
  have hchars : (p.1 ++ "=" ++ p.2).toList = p.1.toList ++ '=' :: p.2.toList := by simp
  rw [hchars, pairOf_append hname, String.ofList_toList, String.ofList_toList]

/-- **Names and values of written characters are cut apart again**, and decoded one by one. -/
theorem pairs_joined (hsep : isWritten separator = false) (hne : separator ≠ '=')
    {written : List (String × String)} (hwritten : ∀ p ∈ written, WrittenPair p) :
    pairs separator (Text.joined (String.singleton separator)
        (written.map fun p => p.1 ++ "=" ++ p.2)) =
      written.map fun p => (decodeComponent p.1, decodeComponent p.2) := by
  by_cases hsome : written = []
  · rw [hsome]
    rfl
  · have hfree : ∀ s ∈ written.map fun p => p.1 ++ "=" ++ p.2, separator ∉ s.toList := by
      intro s hs
      obtain ⟨p, hp, rfl⟩ := List.mem_map.1 hs
      exact (hwritten p hp).not_mem hsep hne
    have hfields : Text.fields separator (Text.joined (String.singleton separator)
        (written.map fun p => p.1 ++ "=" ++ p.2)).toList =
          written.map fun p => (p.1 ++ "=" ++ p.2).toList := by
      rw [fields_joined (mt List.map_eq_nil_iff.1 hsome) hfree, List.map_map]
      rfl
    have htrimmed : (written.map fun p => (p.1 ++ "=" ++ p.2).toList).map Text.trimmed =
        written.map fun p => (p.1 ++ "=" ++ p.2).toList := by
      rw [List.map_map]
      exact List.map_congr_left fun p hp => (hwritten p hp).trimmed_eq
    -- no piece is blank, for each has the sign between name and value in it
    have hfilled : ∀ f ∈ written.map fun p => (p.1 ++ "=" ++ p.2).toList,
        decide (f ≠ []) = true := by
      intro f hf
      obtain ⟨p, -, rfl⟩ := List.mem_map.1 hf
      simp
    rw [pairs, hfields, htrimmed, List.filter_eq_self.2 hfilled, List.map_map]
    exact List.map_congr_left fun p hp => (hwritten p hp).pairOf_eq

/-- **Escaped names and values are read back.** -/
theorem pairs_joinedPairs (hsep : isWritten separator = false) (hne : separator ≠ '=')
    (ps : List (String × String)) : pairs separator (joinedPairs separator ps) = ps := by
  have hencoded : ∀ s : String, ∀ c ∈ (encodeText s).toList, isWritten c = true := by
    intro s c hc
    rw [encodeText, String.toList_ofList] at hc
    exact isWritten_of_mem_encode hc
  have hwritten : ∀ p ∈ ps.map fun p => (encodeText p.1, encodeText p.2), WrittenPair p := by
    intro p hp
    obtain ⟨q, -, rfl⟩ := List.mem_map.1 hp
    exact ⟨hencoded q.1, hencoded q.2⟩
  have hpairs := pairs_joined hsep hne hwritten
  rw [List.map_map, List.map_map] at hpairs
  rw [joinedPairs]
  refine hpairs.trans ?_
  simp [Function.comp_def, decodeComponent_encodeText]

end

end ApiContract.Percent
