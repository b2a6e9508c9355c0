/-
**Response keys.**

A status falls under its own code if that is documented, else under the first key that is its range
in some spelling, else under `default`.  Codes and `default` have one spelling; a range has several,
so that the order of the keys decides which of them counts.

Main definitions:

* `StatusKey.Foremost` — a key that comes first among its spellings.

Main results:

* `StatusKey.resolve_eq_some_iff` — **the key that a status falls under**;
* `StatusKey.eq_of_resolve_toString` — only one status falls under a code;
* `StatusKey.exists_resolve_iff_foremost` — **when two lists of the same keys give a status the same
  key**.
-/

import ApiContract.Proofs.Text.Casing
import ApiContract.Specification.StatusKey

set_option relaxedAutoImplicit false
set_option autoImplicit false

namespace ApiContract

namespace StatusKey

/-! ### Codes -/

/-- The text of a status is that of no other status. -/
theorem eq_of_toString_eq {m n : Nat} (h : toString m = toString n) : m = n := by
  have hdigits : Nat.toDigits 10 m = Nat.toDigits 10 n := by
    rw [← Nat.toList_repr, ← Nat.toList_repr]
    exact congrArg String.toList h
  rw [← @Nat.ofDigitChars_ten_toDigits m, hdigits, Nat.ofDigitChars_ten_toDigits]

theorem isDigit_of_mem_toString {n : Nat} {c : Char} (h : c ∈ (toString n).toList) :
    c.isDigit = true := by
  rw [show toString n = n.repr from rfl, Nat.toList_repr] at h
  exact Nat.isDigit_of_mem_toDigits (by decide) (by decide) h

/-- A code has one spelling. -/
theorem eq_of_equalIgnoringCase_toString {s : String} {n : Nat}
    (h : Text.equalIgnoringCase s (toString n) = true) : s = toString n := by
  rw [Text.equalIgnoringCase_iff] at h
  rw [← String.toList_inj]
  exact Text.eq_of_map_lowerAscii_eq (fun _ => isDigit_of_mem_toString) h

/-! ### The key of a status -/

variable {keys : List String} {status : Nat} {key : String}

/-- A key is found by itself if it is there. -/
theorem find?_beq_eq_some_iff {wanted : String} :
    keys.find? (· == wanted) = some key ↔ key = wanted ∧ key ∈ keys := by
  constructor
  · intro h
    exact ⟨by simpa using List.find?_some h, List.mem_of_find?_eq_some h⟩
  · rintro ⟨rfl, hmem⟩
    cases hfind : keys.find? (· == key) with
    | none => exact absurd (List.find?_eq_none.1 hfind key hmem) (by simp)
    | some found => rw [show found = key by simpa using List.find?_some hfind]

theorem find?_beq_eq_none_iff {wanted : String} :
    keys.find? (· == wanted) = none ↔ wanted ∉ keys := by
  rw [List.find?_eq_none]
  constructor
  · intro h hmem
    exact h wanted hmem (by simp)
  · intro h k hk heq
    exact h (by simpa using (show k = wanted by simpa using heq) ▸ hk)

/-- **The key that a status falls under**: its code, else the first spelling of its range, else
`default`. -/
theorem resolve_eq_some_iff :
    resolve keys status = some key ↔
      (key = toString status ∧ key ∈ keys) ∨
      (toString status ∉ keys ∧
        keys.find? (Text.equalIgnoringCase · (rangeOf status)) = some key) ∨
      (toString status ∉ keys ∧ (∀ k ∈ keys, Text.equalIgnoringCase k (rangeOf status) = false) ∧
        key = "default" ∧ key ∈ keys) := by
  simp only [resolve, Option.or_eq_some_iff, find?_beq_eq_some_iff, find?_beq_eq_none_iff]
  simp only [List.find?_eq_none, Bool.not_eq_true]
  constructor
  · rintro (h | ⟨hcode, h | ⟨hrange, h⟩⟩)
    · exact Or.inl h
    · exact Or.inr (Or.inl ⟨hcode, h⟩)
    · exact Or.inr (Or.inr ⟨hcode, hrange, h⟩)
  · rintro (h | ⟨hcode, h⟩ | ⟨hcode, hrange, h⟩)
    · exact Or.inl h
    · exact Or.inr ⟨hcode, Or.inl h⟩
    · exact Or.inr ⟨hcode, Or.inr ⟨hrange, h⟩⟩

/-- The key that a status falls under is one of the keys. -/
theorem mem_of_resolve (h : resolve keys status = some key) : key ∈ keys := by
  rcases resolve_eq_some_iff.1 h with ⟨-, h⟩ | ⟨-, h⟩ | ⟨-, -, -, h⟩
  · exact h
  · exact List.mem_of_find?_eq_some h
  · exact h

/-- A range has letters in it, so that it is no code. -/
theorem not_equalIgnoringCase_rangeOf (n status : Nat) :
    Text.equalIgnoringCase (toString n) (rangeOf status) = false := by
  rw [← Bool.not_eq_true, Text.equalIgnoringCase_iff, eq_comm, ← Text.equalIgnoringCase_iff]
  intro h
  have hx : 'X' ∈ (toString n).toList := by
    rw [← eq_of_equalIgnoringCase_toString h, rangeOf, String.toList_append]
    exact List.mem_append_right _ (by decide)
  exact absurd (isDigit_of_mem_toString hx) (by decide)

/-- Only one status falls under a code. -/
theorem eq_of_resolve_toString {n : Nat} (h : resolve keys status = some (toString n)) :
    status = n := by
  rcases resolve_eq_some_iff.1 h with ⟨h, -⟩ | ⟨-, h⟩ | ⟨-, -, h, -⟩
  · exact (eq_of_toString_eq h).symm
  · have hrange := List.find?_some h
    rw [not_equalIgnoringCase_rangeOf] at hrange
    cases hrange
  · have hd : 'd' ∈ (toString n).toList := by
      rw [h]
      decide
    exact absurd (isDigit_of_mem_toString hd) (by decide)

/-- The key `default` has one spelling among keys. -/
theorem eq_default_of_isValid (hvalid : isValid key = true)
    (h : Text.equalIgnoringCase key "default" = true) : key = "default" := by
  rw [isValid, Bool.or_eq_true] at hvalid
  rcases hvalid with hdefault | hcode
  · simpa using hdefault
  · -- every other key has three characters
    have hlength := congrArg List.length (Text.equalIgnoringCase_iff.1 h)
    rw [List.length_map, List.length_map] at hlength
    split at hcode
    · rename_i hlist
      rw [hlist] at hlength
      cases hlength
    · cases hcode

/-! ### Two lists of keys -/

/-- What is found first in a list in order is the least that could be found. -/
theorem le_of_find?_of_sorted {p : String → Bool} {sorted : List String} {found other : String}
    (hsorted : sorted.Pairwise (· < ·)) (h : sorted.find? p = some found) (ho : other ∈ sorted)
    (hp : p other = true) : found ≤ other := by
  obtain ⟨-, before, after, rfl, hbefore⟩ := List.find?_eq_some_iff_append.1 h
  rw [List.pairwise_append, List.pairwise_cons] at hsorted
  rcases List.mem_append.1 ho with ho | ho
  · have := hbefore other ho
    rw [hp] at this
    cases this
  · rcases List.mem_cons.1 ho with rfl | ho
    · exact String.le_refl _
    · exact Std.le_of_lt (hsorted.2.1.1 other ho)

/-- A key is said to come first among its spellings in a list if no other spelling is less. -/
def Foremost (keys : List String) (key : String) : Prop :=
  ∀ other ∈ keys, Text.equalIgnoringCase other key = true → key ≤ other

/-- A key with one spelling comes first among its spellings. -/
theorem foremost_of_eq (h : ∀ other ∈ keys, Text.equalIgnoringCase other key = true → other = key) :
    Foremost keys key := by
  intro other ho hspelling
  obtain rfl := h other ho hspelling
  exact String.le_refl other

/-- The first spelling of a range in a list and the first one of the same list in order agree
exactly if the former is the foremost. -/
theorem exists_find?_iff_foremost {sorted : List String} {range found : String}
    (hsorted : sorted.Pairwise (· < ·))
    (hmem : ∀ k, Text.equalIgnoringCase k range = true → (k ∈ sorted ↔ k ∈ keys))
    (h : sorted.find? (Text.equalIgnoringCase · range) = some found) :
    ∃ key, keys.find? (Text.equalIgnoringCase · range) = some key ∧
      (found = key ↔ Foremost keys key) := by
  have hfound := List.find?_some h
  have hfoundKeys := (hmem found hfound).1 (List.mem_of_find?_eq_some h)
  cases hfind : keys.find? (Text.equalIgnoringCase · range) with
  | none => exact absurd hfound (List.find?_eq_none.1 hfind found hfoundKeys)
  | some key =>
      have hkey := List.find?_some hfind
      have hspelling : ∀ k, Text.equalIgnoringCase k key = true ↔
          Text.equalIgnoringCase k range = true := fun k => Text.equalIgnoringCase_congr hkey
      have hleast : ∀ k ∈ keys, Text.equalIgnoringCase k range = true → found ≤ k :=
        fun k hk hrange => le_of_find?_of_sorted hsorted h ((hmem k hrange).2 hk) hrange
      refine ⟨key, rfl, ?_, fun hforemost => ?_⟩
      · rintro rfl other ho hother
        exact hleast other ho ((hspelling other).1 hother)
      · exact Std.le_antisymm (hleast key (List.mem_of_find?_eq_some hfind) hkey)
          (hforemost found hfoundKeys ((hspelling found).2 hfound))

/-- **Two lists of the same keys**: the keys of an operation, and the same keys in order, one code
left out.  They give a status the same key exactly if the first of them gives it the foremost of its
spellings. -/
theorem exists_resolve_iff_foremost {sorted : List String} {n : Nat} {all : Bool}
    {found : String} (hsorted : sorted.Pairwise (· < ·))
    (hmem : ∀ k, k ∈ sorted ↔ k ∈ keys ∧ (all = true ∨ k ≠ toString n))
    (hvalid : ∀ k ∈ keys, isValid k = true)
    (hnot : ¬ (all = false ∧ resolve keys status = some (toString n)))
    (h : resolve sorted status = some found) :
    ∃ key, resolve keys status = some key ∧ (found = key ↔ Foremost keys key) := by
  have hkeys : ∀ k ∈ sorted, k ∈ keys := fun k hk => ((hmem k).1 hk).1
  -- no spelling of a range is the code that is left out
  have hrange : ∀ k, Text.equalIgnoringCase k (rangeOf status) = true →
      (k ∈ sorted ↔ k ∈ keys) := by
    intro k hk
    refine ⟨hkeys k, fun hmemKeys => (hmem k).2 ⟨hmemKeys, Or.inr ?_⟩⟩
    rintro rfl
    rw [not_equalIgnoringCase_rangeOf] at hk
    cases hk
  -- if the code is documented, and not the one left out, it is found in both lists
  have hcode : toString status ∉ sorted → toString status ∉ keys := by
    intro hnotSorted hcodeKeys
    cases all with
    | true => exact hnotSorted ((hmem _).2 ⟨hcodeKeys, Or.inl rfl⟩)
    | false =>
        by_cases hn : toString status = toString n
        · exact hnot ⟨rfl, hn ▸ resolve_eq_some_iff.2 (Or.inl ⟨rfl, hcodeKeys⟩)⟩
        · exact hnotSorted ((hmem _).2 ⟨hcodeKeys, Or.inr hn⟩)
  rcases resolve_eq_some_iff.1 h with ⟨rfl, hfound⟩ | ⟨hnone, hfind⟩ | ⟨hnone, hranges, rfl, hfound⟩
  · refine ⟨_, resolve_eq_some_iff.2 (Or.inl ⟨rfl, hkeys _ hfound⟩), iff_of_true rfl ?_⟩
    exact foremost_of_eq fun other _ => eq_of_equalIgnoringCase_toString
  · obtain ⟨key, hkey, hiff⟩ := exists_find?_iff_foremost hsorted hrange hfind
    exact ⟨key, resolve_eq_some_iff.2 (Or.inr (Or.inl ⟨hcode hnone, hkey⟩)), hiff⟩
  · refine ⟨_, resolve_eq_some_iff.2 (Or.inr (Or.inr ⟨hcode hnone, fun k hk => ?_, rfl,
      hkeys _ hfound⟩)), iff_of_true rfl ?_⟩
    · rw [← Bool.not_eq_true]
      intro hk'
      rw [hranges k ((hrange k hk').2 hk)] at hk'
      cases hk'
    · exact foremost_of_eq fun other ho => eq_default_of_isValid (hvalid other ho)

end StatusKey

end ApiContract
