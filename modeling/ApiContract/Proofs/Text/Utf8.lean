/-
**Text is read back from its bytes.**

The first byte of a character tells how many bytes the character has, and the bytes behind it hold
its digits to the base of 64.  The reader finds in the first byte and in these digits the character
again, and goes on behind them.

Main definitions:

* `Utf8.IsText` — bytes that are the bytes of some text.

Main results:

* `Utf8.pieces_one` to `Utf8.pieces_four` — what the reader makes of one to four bytes;
* `Utf8.pieces_encodeChar_append` — the bytes of a character are read as the character;
* `Utf8.decode?_encode` — **the bytes of a text are read as the text**;
* `Utf8.decode?_eq_some_iff` — and only they are;
* `Utf8.decodeLossy_inj` — bytes that are text are known from what the lenient reader makes of them.
-/

import ApiContract.Proofs.Text.ByteOrder

set_option relaxedAutoImplicit false
set_option autoImplicit false

namespace ApiContract.Utf8

/-! ### Characters of one to four bytes -/

section

variable {a b c d : UInt8}

theorem isContinuation_iff : isContinuation b = true ↔ 0x80 ≤ b.toNat ∧ b.toNat ≤ 0xBF := by
  simp [isContinuation, UInt8.le_iff_toNat_le]

/-- The second of three bytes goes on with a character that has no shorter form and is no half of a
pair. -/
theorem isSecondOfThree_of (hb : isContinuation b = true)
    (hlow : a.toNat = 0xE0 → 0xA0 ≤ b.toNat) (hhigh : a.toNat = 0xED → b.toNat ≤ 0x9F) :
    isSecondOfThree a b = true := by
  have hrange := isContinuation_iff.1 hb
  unfold isSecondOfThree
  split
  · rename_i ha
    have := hlow (by rw [ha]; rfl)
    simp [UInt8.le_iff_toNat_le]
    omega
  · split
    · rename_i ha
      have := hhigh (by rw [ha]; rfl)
      simp [UInt8.le_iff_toNat_le]
      omega
    · exact hb

/-- The second of four bytes goes on with a character that has no shorter form and is not beyond the
last one. -/
theorem isSecondOfFour_of (hb : isContinuation b = true)
    (hlow : a.toNat = 0xF0 → 0x90 ≤ b.toNat) (hhigh : a.toNat = 0xF4 → b.toNat ≤ 0x8F) :
    isSecondOfFour a b = true := by
  have hrange := isContinuation_iff.1 hb
  unfold isSecondOfFour
  split
  · rename_i ha
    have := hlow (by rw [ha]; rfl)
    simp [UInt8.le_iff_toNat_le]
    omega
  · split
    · rename_i ha
      have := hhigh (by rw [ha]; rfl)
      simp [UInt8.le_iff_toNat_le]
      omega
    · exact hb

theorem pieces_one (ha : a.toNat < 0x80) (bs : List UInt8) :
    pieces (a :: bs) = .char (Char.ofNat a.toNat) :: pieces bs := by
  have hlead : a < 0x80 := UInt8.lt_iff_toNat_lt.2 ha
  rw [pieces.eq_def]
  simp only [if_pos hlead]

theorem pieces_two (ha : 0xC2 ≤ a.toNat ∧ a.toNat ≤ 0xDF) (hb : isContinuation b = true)
    (bs : List UInt8) :
    pieces (a :: b :: bs) =
      .char (Char.ofNat (a.toNat % 32 * 64 + payload b)) :: pieces bs := by
  have hone : ¬ a < 0x80 := by simp [UInt8.lt_iff_toNat_lt]; omega
  have hlead : (0xC2 ≤ a && a ≤ 0xDF) = true := by simp [UInt8.le_iff_toNat_le]; omega
  rw [pieces.eq_def]
  simp only [if_neg hone, if_pos hlead, if_pos hb]

theorem pieces_three (ha : 0xE0 ≤ a.toNat ∧ a.toNat ≤ 0xEF) (hb : isSecondOfThree a b = true)
    (hc : isContinuation c = true) (bs : List UInt8) :
    pieces (a :: b :: c :: bs) =
      .char (Char.ofNat ((a.toNat % 16 * 64 + payload b) * 64 + payload c)) :: pieces bs := by
  have hone : ¬ a < 0x80 := by simp [UInt8.lt_iff_toNat_lt]; omega
  have htwo : ¬ (0xC2 ≤ a && a ≤ 0xDF) = true := by simp [UInt8.le_iff_toNat_le]; omega
  have hlead : (0xE0 ≤ a && a ≤ 0xEF) = true := by simp [UInt8.le_iff_toNat_le]; omega
  rw [pieces.eq_def]
  simp only [if_neg hone, if_neg htwo, if_pos hlead, if_pos hb, if_pos hc]

theorem pieces_four (ha : 0xF0 ≤ a.toNat ∧ a.toNat ≤ 0xF4) (hb : isSecondOfFour a b = true)
    (hc : isContinuation c = true) (hd : isContinuation d = true) (bs : List UInt8) :
    pieces (a :: b :: c :: d :: bs) =
      .char (Char.ofNat
        (((a.toNat % 8 * 64 + payload b) * 64 + payload c) * 64 + payload d)) :: pieces bs := by
  have hone : ¬ a < 0x80 := by simp [UInt8.lt_iff_toNat_lt]; omega
  have htwo : ¬ (0xC2 ≤ a && a ≤ 0xDF) = true := by simp [UInt8.le_iff_toNat_le]; omega
  have hthree : ¬ (0xE0 ≤ a && a ≤ 0xEF) = true := by simp [UInt8.le_iff_toNat_le]; omega
  have hlead : (0xF0 ≤ a && a ≤ 0xF4) = true := by simp [UInt8.le_iff_toNat_le]; omega
  rw [pieces.eq_def]
  simp only [if_neg hone, if_neg htwo, if_neg hthree, if_pos hlead, if_pos hb, if_pos hc, if_pos hd]

end

/-! ### Every character -/

theorem isContinuation_ofNat (n : Nat) : isContinuation (UInt8.ofNat (n % 64 + 128)) = true := by
  rw [isContinuation_iff, UInt8.toNat_ofNat_of_lt' (by simp [UInt8.size]; omega)]
  omega

/-- A digit to the base of 64 is found again in the byte that holds it. -/
theorem payload_ofNat (n : Nat) : payload (UInt8.ofNat (n % 64 + 128)) = n % 64 := by
  rw [payload, UInt8.toNat_ofNat_of_lt' (by simp [UInt8.size]; omega)]
  omega

/-- **The bytes of a character are read as the character**, whatever stands behind them. -/
theorem pieces_encodeChar_append (c : Char) (bs : List UInt8) :
    pieces (String.utf8EncodeChar c ++ bs) = .char c :: pieces bs := by
  have hvalid := c.valid
  simp only [UInt32.isValidChar, Nat.isValidChar] at hvalid
  have hchar : ∀ n, n = c.val.toNat → Char.ofNat n = c := by
    rintro n rfl
    exact Char.ofNat_toNat c
  have hbyte : ∀ n, n < 256 → (UInt8.ofNat n).toNat = n := by
    intro n hn
    exact UInt8.toNat_ofNat_of_lt' hn
  unfold String.utf8EncodeChar
  generalize c.val.toNat = v at hvalid hchar
  simp only
  -- one case for each number of bytes; in each the digits make up the character
  split
  · have hlead : (UInt8.ofNat v).toNat = v := hbyte v (by omega)
    rw [List.singleton_append, pieces_one (by omega), hlead, hchar v rfl]
  split
  · have hlead : (UInt8.ofNat (v / 64 % 32 + 192)).toNat = v / 64 % 32 + 192 :=
      hbyte _ (by omega)
    rw [List.cons_append, List.singleton_append,
      pieces_two (by omega) (isContinuation_ofNat v), hlead, payload_ofNat, hchar _ (by omega)]
  split
  · have hlead : (UInt8.ofNat (v / 4096 % 16 + 224)).toNat = v / 4096 % 16 + 224 :=
      hbyte _ (by omega)
    have hdigit : (UInt8.ofNat (v / 64 % 64 + 128)).toNat = v / 64 % 64 + 128 :=
      hbyte _ (by omega)
    have hsecond : isSecondOfThree (UInt8.ofNat (v / 4096 % 16 + 224))
        (UInt8.ofNat (v / 64 % 64 + 128)) = true :=
      isSecondOfThree_of (isContinuation_ofNat (v / 64)) (by omega) (by omega)
    rw [List.cons_append, List.cons_append, List.singleton_append,
      pieces_three (by omega) hsecond (isContinuation_ofNat v), hlead, payload_ofNat,
      payload_ofNat, hchar _ (by omega)]
  · have hlead : (UInt8.ofNat (v / 262144 % 8 + 240)).toNat = v / 262144 % 8 + 240 :=
      hbyte _ (by omega)
    have hdigit : (UInt8.ofNat (v / 4096 % 64 + 128)).toNat = v / 4096 % 64 + 128 :=
      hbyte _ (by omega)
    have hsecond : isSecondOfFour (UInt8.ofNat (v / 262144 % 8 + 240))
        (UInt8.ofNat (v / 4096 % 64 + 128)) = true :=
      isSecondOfFour_of (isContinuation_ofNat (v / 4096)) (by omega) (by omega)
    rw [List.cons_append, List.cons_append, List.cons_append, List.singleton_append,
      pieces_four (by omega) hsecond (isContinuation_ofNat (v / 64)) (isContinuation_ofNat v),
      hlead, payload_ofNat, payload_ofNat, payload_ofNat, hchar _ (by omega)]

/-! ### Texts -/

theorem pieces_encode (cs : List Char) : pieces (encode cs) = cs.map .char := by
  induction cs with
  | nil => rw [encode, List.flatMap_nil, pieces.eq_def, List.map_nil]
  | cons c cs ih =>
      rw [encode, List.flatMap_cons, pieces_encodeChar_append, ← encode, ih, List.map_cons]

theorem collect_map_char (i : Nat) (cs : List Char) : collect i (cs.map .char) = .ok cs := by
  induction cs generalizing i with
  | nil => rfl
  | cons c cs ih => simp only [List.map_cons, collect, ih]

/-- **The bytes of a text are read as the text.** -/
theorem decode?_encode (cs : List Char) : decode? (encode cs) = some cs := by
  rw [decode?, decode, pieces_encode, collect_map_char]

/-! ### Bytes that are text -/

/-- Bytes are the bytes of some text. -/
def IsText (bs : List UInt8) : Prop := ∃ cs, encode cs = bs

section

variable {a b c d : UInt8}

/-- The bytes of the character with a number. -/
theorem utf8EncodeChar_ofNat {n : Nat} (h : n.isValidChar) :
    String.utf8EncodeChar (Char.ofNat n) =
      if n ≤ 0x7F then [UInt8.ofNat n]
      else if n ≤ 0x7FF then [UInt8.ofNat (n / 64 % 32 + 192), UInt8.ofNat (n % 64 + 128)]
      else if n ≤ 0xFFFF then
        [UInt8.ofNat (n / 4096 % 16 + 224), UInt8.ofNat (n / 64 % 64 + 128),
          UInt8.ofNat (n % 64 + 128)]
      else
        [UInt8.ofNat (n / 262144 % 8 + 240), UInt8.ofNat (n / 4096 % 64 + 128),
          UInt8.ofNat (n / 64 % 64 + 128), UInt8.ofNat (n % 64 + 128)] := by
  have hval : (Char.ofNat n).val.toNat = n := by
    rw [Char.ofNat, dif_pos h]
    rfl
  unfold String.utf8EncodeChar
  rw [hval]

/-- A byte is known from its number. -/
theorem ofNat_eq {n : Nat} (h : n = b.toNat) : UInt8.ofNat n = b := by
  rw [h, UInt8.ofNat_toNat]

theorem utf8EncodeChar_one (ha : a < 0x80) :
    String.utf8EncodeChar (Char.ofNat a.toNat) = [a] := by
  have ha' : a.toNat < 0x80 := UInt8.lt_iff_toNat_lt.1 ha
  rw [utf8EncodeChar_ofNat (Or.inl (by omega)), if_pos (by omega), UInt8.ofNat_toNat]

theorem utf8EncodeChar_two (ha : (0xC2 ≤ a && a ≤ 0xDF) = true) (hb : isContinuation b = true) :
    String.utf8EncodeChar (Char.ofNat (a.toNat % 32 * 64 + payload b)) = [a, b] := by
  have ha' : 0xC2 ≤ a.toNat ∧ a.toNat ≤ 0xDF := by simpa [UInt8.le_iff_toNat_le] using ha
  have hb' := isContinuation_iff.1 hb
  unfold payload
  rw [utf8EncodeChar_ofNat (Or.inl (by omega)), if_neg (by omega), if_pos (by omega),
    ofNat_eq (b := a) (by omega), ofNat_eq (b := b) (by omega)]

/-- What is known of the second of three bytes. -/
theorem isSecondOfThree_spec (h : isSecondOfThree a b = true) :
    (0x80 ≤ b.toNat ∧ b.toNat ≤ 0xBF) ∧ (a.toNat = 0xE0 → 0xA0 ≤ b.toNat) ∧
      (a.toNat = 0xED → b.toNat ≤ 0x9F) := by
  have hfirst : a = 0xE0 ↔ a.toNat = 0xE0 := UInt8.toNat_inj.symm
  have hlast : a = 0xED ↔ a.toNat = 0xED := UInt8.toNat_inj.symm
  simp only [isSecondOfThree, hfirst, hlast] at h
  split at h
  · simp [UInt8.le_iff_toNat_le] at h
    omega
  · split at h
    · simp [UInt8.le_iff_toNat_le] at h
      omega
    · have := isContinuation_iff.1 h
      omega

/-- What is known of the second of four bytes. -/
theorem isSecondOfFour_spec (h : isSecondOfFour a b = true) :
    (0x80 ≤ b.toNat ∧ b.toNat ≤ 0xBF) ∧ (a.toNat = 0xF0 → 0x90 ≤ b.toNat) ∧
      (a.toNat = 0xF4 → b.toNat ≤ 0x8F) := by
  have hfirst : a = 0xF0 ↔ a.toNat = 0xF0 := UInt8.toNat_inj.symm
  have hlast : a = 0xF4 ↔ a.toNat = 0xF4 := UInt8.toNat_inj.symm
  simp only [isSecondOfFour, hfirst, hlast] at h
  split at h
  · simp [UInt8.le_iff_toNat_le] at h
    omega
  · split at h
    · simp [UInt8.le_iff_toNat_le] at h
      omega
    · have := isContinuation_iff.1 h
      omega

theorem utf8EncodeChar_three (ha : (0xE0 ≤ a && a ≤ 0xEF) = true)
    (hb : isSecondOfThree a b = true) (hc : isContinuation c = true) :
    String.utf8EncodeChar (Char.ofNat ((a.toNat % 16 * 64 + payload b) * 64 + payload c)) =
      [a, b, c] := by
  have ha' : 0xE0 ≤ a.toNat ∧ a.toNat ≤ 0xEF := by simpa [UInt8.le_iff_toNat_le] using ha
  have hb' := isSecondOfThree_spec hb
  have hc' := isContinuation_iff.1 hc
  unfold payload
  have hvalid : ((a.toNat % 16 * 64 + b.toNat % 64) * 64 + c.toNat % 64).isValidChar := by
    unfold Nat.isValidChar
    omega
  rw [utf8EncodeChar_ofNat hvalid, if_neg (by omega), if_neg (by omega), if_pos (by omega),
    ofNat_eq (b := a) (by omega), ofNat_eq (b := b) (by omega), ofNat_eq (b := c) (by omega)]

theorem utf8EncodeChar_four (ha : (0xF0 ≤ a && a ≤ 0xF4) = true)
    (hb : isSecondOfFour a b = true) (hc : isContinuation c = true)
    (hd : isContinuation d = true) :
    String.utf8EncodeChar
        (Char.ofNat (((a.toNat % 8 * 64 + payload b) * 64 + payload c) * 64 + payload d)) =
      [a, b, c, d] := by
  have ha' : 0xF0 ≤ a.toNat ∧ a.toNat ≤ 0xF4 := by simpa [UInt8.le_iff_toNat_le] using ha
  have hb' := isSecondOfFour_spec hb
  have hc' := isContinuation_iff.1 hc
  have hd' := isContinuation_iff.1 hd
  unfold payload
  have hvalid : (((a.toNat % 8 * 64 + b.toNat % 64) * 64 + c.toNat % 64) * 64 +
      d.toNat % 64).isValidChar := by
    unfold Nat.isValidChar
    omega
  rw [utf8EncodeChar_ofNat hvalid, if_neg (by omega), if_neg (by omega), if_neg (by omega),
    ofNat_eq (b := a) (by omega), ofNat_eq (b := b) (by omega), ofNat_eq (b := c) (by omega),
    ofNat_eq (b := d) (by omega)]

end

/-- A first piece that is a character stands for the bytes of the character. -/
theorem exists_of_pieces_eq_cons {bs : List UInt8} {ch : Char} {ps : List Piece}
    (h : pieces bs = .char ch :: ps) :
    ∃ rest, bs = String.utf8EncodeChar ch ++ rest ∧ pieces rest = ps := by
  rw [pieces.eq_def] at h
  -- the pieces that are no characters are not met; the others are told apart by their length
  split at h
  · cases h
  · rename_i a r
    split at h
    · rename_i ha
      cases h
      exact ⟨r, by rw [utf8EncodeChar_one ha]; rfl, rfl⟩
    split at h
    · rename_i ha
      split at h
      · cases h
      · rename_i b r
        split at h
        · rename_i hb
          cases h
          exact ⟨r, by rw [utf8EncodeChar_two ha hb]; rfl, rfl⟩
        · cases h
    split at h
    · rename_i ha
      split at h
      · cases h
      · rename_i b r
        split at h
        · rename_i hb
          split at h
          · cases h
          · rename_i c r
            split at h
            · rename_i hc
              cases h
              exact ⟨r, by rw [utf8EncodeChar_three ha hb hc]; rfl, rfl⟩
            · cases h
        · cases h
    split at h
    · rename_i ha
      split at h
      · cases h
      · rename_i b r
        split at h
        · rename_i hb
          split at h
          · cases h
          · rename_i c r
            split at h
            · rename_i hc
              split at h
              · cases h
              · rename_i d r
                split at h
                · rename_i hd
                  cases h
                  exact ⟨r, by rw [utf8EncodeChar_four ha hb hc hd]; rfl, rfl⟩
                · cases h
            · cases h
        · cases h
    · cases h

/-- Only no bytes have no pieces. -/
theorem eq_nil_of_pieces {bs : List UInt8} (h : pieces bs = []) : bs = [] := by
  rw [pieces.eq_def] at h
  repeat' split at h
  all_goals first
    | rfl
    | cases h

/-- Bytes that are cut into characters alone are the bytes of these. -/
theorem encode_of_pieces {bs : List UInt8} {cs : List Char} (h : pieces bs = cs.map .char) :
    encode cs = bs := by
  induction cs generalizing bs with
  | nil => rw [eq_nil_of_pieces h]; rfl
  | cons c cs ih =>
      obtain ⟨rest, rfl, hrest⟩ := exists_of_pieces_eq_cons h
      rw [encode, List.flatMap_cons, ← encode, ih hrest]

theorem eq_map_char_of_collect {i : Nat} {ps : List Piece} {cs : List Char}
    (h : collect i ps = .ok cs) : ps = cs.map .char := by
  induction ps generalizing i cs with
  | nil =>
      cases h
      rfl
  | cons p ps ih =>
      cases p with
      | char c =>
          simp only [collect] at h
          split at h
          · rename_i hcs
            cases h
            rw [List.map_cons, ih hcs]
          · cases h
      | broken n => cases h
      | unfinished n => cases h

/-- **Bytes are read as a text exactly if they are the bytes of the text.** -/
theorem decode?_eq_some_iff {bs : List UInt8} {cs : List Char} :
    decode? bs = some cs ↔ encode cs = bs := by
  constructor
  · intro h
    unfold decode? at h
    split at h
    · rename_i hdecode
      cases h
      exact encode_of_pieces (eq_map_char_of_collect hdecode)
    · cases h
  · rintro rfl
    exact decode?_encode cs

theorem isText_iff {bs : List UInt8} : IsText bs ↔ ∃ cs, decode? bs = some cs :=
  exists_congr fun _ => decode?_eq_some_iff.symm

/-- Nothing is replaced in the bytes of a text. -/
theorem decodeLossy_encode (cs : List Char) : decodeLossy (encode cs) = cs := by
  rw [decodeLossy, pieces_encode, List.map_map]
  exact List.map_id cs

theorem encode_decodeLossy {bs : List UInt8} (h : IsText bs) : encode (decodeLossy bs) = bs := by
  obtain ⟨cs, rfl⟩ := h
  rw [decodeLossy_encode]

/-- **Bytes that are text are known from what is read of them.** -/
theorem decodeLossy_inj {bs bs' : List UInt8} (h : IsText bs) (h' : IsText bs') :
    decodeLossy bs = decodeLossy bs' ↔ bs = bs' := by
  constructor
  · intro heq
    rw [← encode_decodeLossy h, heq, encode_decodeLossy h']
  · rintro rfl
    rfl

end ApiContract.Utf8
