/-
**Response keys that no status falls under.**

A status falls under its own code before it falls under a range, so that nothing falls under a range
whose codes are all documented.  Something falls under every other key: its own status under a code,
and under `default` a status that is in no range.

Main definitions:

* `StatusKey.SpelledOnce` — no key has a second spelling;
* `StatusKey.Open` — a code of the range is not documented on its own.

Main results:

* `StatusKey.cases_of_isValid` — the keys that are valid;
* `StatusKey.exists_resolve_iff_open` — **a status falls under a key exactly if the key is open**.
-/

import ApiContract.Http.Status
import ApiContract.Proofs.Specification.StatusKey

set_option relaxedAutoImplicit false
set_option autoImplicit false

namespace ApiContract

namespace StatusKey

/-- No key has a second spelling. -/
def SpelledOnce (keys : List String) : Prop :=
  ∀ key ∈ keys, ∀ other ∈ keys, Text.equalIgnoringCase key other = true → key = other

instance (keys : List String) : Decidable (SpelledOnce keys) :=
  inferInstanceAs (Decidable (∀ key ∈ keys, ∀ other ∈ keys,
    Text.equalIgnoringCase key other = true → key = other))

/-- If a key is a range, some code of it is not documented on its own. -/
def Open (keys : List String) (key : String) : Prop :=
  ∀ n, Text.equalIgnoringCase key (rangeOf n) = true →
    ∃ status, status / 100 = n / 100 ∧ toString status ∉ keys

/-! ### Ranges -/

/-- Different hundreds have different ranges. -/
theorem div_eq_of_equalIgnoringCase_rangeOf {m n : Nat}
    (h : Text.equalIgnoringCase (rangeOf m) (rangeOf n) = true) : m / 100 = n / 100 := by
  rw [Text.equalIgnoringCase_iff, rangeOf, rangeOf, String.toList_append, String.toList_append,
    List.map_append, List.map_append] at h
  have hdigits := (List.append_inj' h rfl).1
  refine eq_of_toString_eq (eq_of_equalIgnoringCase_toString ?_)
  exact Text.equalIgnoringCase_iff.2 hdigits

/-- A key is the range of one hundred only. -/
theorem div_eq_of_range {key : String} {m n : Nat}
    (hm : Text.equalIgnoringCase key (rangeOf m) = true)
    (hn : Text.equalIgnoringCase key (rangeOf n) = true) : m / 100 = n / 100 :=
  div_eq_of_equalIgnoringCase_rangeOf
    ((Text.equalIgnoringCase_congr hn).1 (Text.equalIgnoringCase_symm hm))

theorem not_equalIgnoringCase_default (n : Nat) :
    Text.equalIgnoringCase "default" (rangeOf n) = false := by
  rw [← Bool.not_eq_true, Text.equalIgnoringCase_iff, rangeOf, String.toList_append,
    List.map_append]
  intro h
  have hlast := congrArg List.getLast? h
  have hx : ("XX".toList.map Text.lowerAscii).getLast? = some 'x' := by decide
  rw [List.getLast?_append, hx, Option.some_or] at hlast
  exact absurd hlast (by decide)

/-! ### Valid keys -/

/-- A number with one more digit. -/
theorem toList_toString_digit {n d : Nat} (hn : 0 < n) (hd : d < 10) :
    (toString (10 * n + d)).toList = (toString n).toList ++ [Nat.digitChar d] := by
  rw [show toString (10 * n + d) = (10 * n + d).repr from rfl, show toString n = n.repr from rfl,
    Nat.toList_repr, Nat.toList_repr, ← Nat.toDigits_append_toDigits (by decide) hn hd,
    Nat.toDigits_of_lt_base hd]

theorem toList_toString_of_lt {d : Nat} (hd : d < 10) :
    (toString d).toList = [Nat.digitChar d] := by
  rw [show toString d = d.repr from rfl, Nat.toList_repr, Nat.toDigits_of_lt_base hd]

theorem exists_digitChar {c : Char} {low high : Nat} (hlow : 48 + low ≤ c.toNat)
    (hhigh : c.toNat ≤ 48 + high) (h : high < 10) :
    ∃ d, low ≤ d ∧ d ≤ high ∧ c = Nat.digitChar d := by
  refine ⟨c.toNat - 48, by omega, by omega, Char.toNat_inj.1 ?_⟩
  rw [Nat.toNat_digitChar_of_lt_ten (by omega)]
  omega

theorem exists_digitChar_of_isDigit {c : Char} (h : Text.isDigit c = true) :
    ∃ d, d ≤ 9 ∧ c = Nat.digitChar d := by
  rw [Text.isDigit, Bool.and_eq_true, decide_eq_true_eq, decide_eq_true_eq] at h
  have hlow : 48 + 0 ≤ c.toNat := h.1
  have hhigh : c.toNat ≤ 48 + 9 := h.2
  obtain ⟨d, -, hd, hc⟩ := exists_digitChar hlow hhigh (by decide)
  exact ⟨d, hd, hc⟩

theorem lowerAscii_of_isX {c : Char} (h : c = 'x' ∨ c = 'X') :
    Text.lowerAscii c = Text.lowerAscii 'X' := by
  rcases h with rfl | rfl <;> decide

/-- **The valid keys** are `default`, codes of three digits, and their ranges. -/
theorem cases_of_isValid {key : String} (h : isValid key = true) :
    key = "default" ∨ ∃ n, 100 ≤ n ∧ n < 600 ∧
      (key = toString n ∨ Text.equalIgnoringCase key (rangeOf n) = true) := by
  rw [isValid, Bool.or_eq_true] at h
  rcases h with hdefault | h
  · exact Or.inl (by simpa using hdefault)
  · split at h
    · rename_i a b c hkey
      simp only [Bool.and_eq_true, Bool.or_eq_true, decide_eq_true_eq, beq_iff_eq] at h
      obtain ⟨⟨hlow, hhigh⟩, hrest⟩ := h
      have hlow' : 48 + 1 ≤ a.toNat := hlow
      have hhigh' : a.toNat ≤ 48 + 5 := hhigh
      obtain ⟨i, hi, hi', rfl⟩ := exists_digitChar hlow' hhigh' (by decide)
      refine Or.inr ?_
      rcases hrest with ⟨hb, hc⟩ | ⟨hb, hc⟩
      · obtain ⟨j, hj, rfl⟩ := exists_digitChar_of_isDigit hb
        obtain ⟨k, hk, rfl⟩ := exists_digitChar_of_isDigit hc
        refine ⟨10 * (10 * i + j) + k, by omega, by omega, Or.inl ?_⟩
        rw [← String.toList_inj, hkey, toList_toString_digit (by omega) (by omega),
          toList_toString_digit (by omega) (by omega), toList_toString_of_lt (by omega)]
        rfl
      · refine ⟨100 * i, by omega, by omega, Or.inr ?_⟩
        rw [Text.equalIgnoringCase_iff, rangeOf, hkey, String.toList_append,
          show 100 * i / 100 = i by omega, toList_toString_of_lt (by omega)]
        simp [lowerAscii_of_isX hb, lowerAscii_of_isX hc]
    · cases h

/-! ### What falls under a key -/

section

variable {keys table : List String} {key : String} {left : Nat} {all : Bool}

theorem isValid_of_toString_lt {n : Nat} (h : isValid (toString n) = true) : n < 600 := by
  rcases cases_of_isValid h with hdefault | ⟨m, -, hm, hcode | hrange⟩
  · have hd : 'd' ∈ (toString n).toList := by
      rw [hdefault]
      decide
    exact absurd (isDigit_of_mem_toString hd) (by decide)
  · rwa [eq_of_toString_eq hcode]
  · rw [not_equalIgnoringCase_rangeOf] at hrange
    cases hrange

/-- Under a range falls nothing but codes of it that are not documented on their own. -/
theorem open_of_resolve {status : Nat} (hmem : ∀ k, k ∈ table ↔ k ∈ keys ∧
      (all = true ∨ k ≠ toString left))
    (hnot : ¬ (all = false ∧ resolve keys status = some (toString left)))
    (h : resolve table status = some key) : Open keys key := by
  intro n hn
  have hcode : toString status ∉ table → toString status ∉ keys := by
    intro htable hkeys
    cases all with
    | true => exact htable ((hmem _).2 ⟨hkeys, Or.inl rfl⟩)
    | false =>
        by_cases hleft : toString status = toString left
        · exact hnot ⟨rfl, hleft ▸ resolve_eq_some_iff.2 (Or.inl ⟨rfl, hkeys⟩)⟩
        · exact htable ((hmem _).2 ⟨hkeys, Or.inr hleft⟩)
  rcases resolve_eq_some_iff.1 h with ⟨rfl, -⟩ | ⟨hnone, hfind⟩ | ⟨-, -, rfl, -⟩
  · rw [not_equalIgnoringCase_rangeOf] at hn
    cases hn
  · have hstatus := List.find?_some hfind
    exact ⟨status, div_eq_of_range hstatus hn, hcode hnone⟩
  · rw [not_equalIgnoringCase_default] at hn
    cases hn

/-- A range that is open is found for some code of it. -/
theorem find?_range {n : Nat} (honce : SpelledOnce keys) (hsub : ∀ k ∈ table, k ∈ keys)
    (hkey : key ∈ table) (hn : Text.equalIgnoringCase key (rangeOf n) = true) :
    table.find? (Text.equalIgnoringCase · (rangeOf n)) = some key := by
  cases hfind : table.find? (Text.equalIgnoringCase · (rangeOf n)) with
  | none => exact absurd hn (List.find?_eq_none.1 hfind key hkey)
  | some found =>
      have hfound := List.find?_some hfind
      have hmem := List.mem_of_find?_eq_some hfind
      have hspelled : Text.equalIgnoringCase found key = true :=
        (Text.equalIgnoringCase_congr (Text.equalIgnoringCase_symm hn)).1 hfound
      rw [honce found (hsub found hmem) key (hsub key hkey) hspelled]

/-- The status 999 falls under `default`, for there are no keys of its own. -/
theorem resolve_default (hvalid : ∀ k ∈ table, isValid k = true) (hkey : "default" ∈ table) :
    resolve table 999 = some "default" := by
  refine resolve_eq_some_iff.2 (Or.inr (Or.inr ⟨fun hcode => ?_, fun k hk => ?_, rfl, hkey⟩))
  · exact absurd (isValid_of_toString_lt (hvalid _ hcode)) (by decide)
  · rcases cases_of_isValid (hvalid k hk) with rfl | ⟨n, -, hn, rfl | hrange⟩
    · exact not_equalIgnoringCase_default 999
    · exact not_equalIgnoringCase_rangeOf n 999
    · rw [← Bool.not_eq_true]
      intro h
      have := div_eq_of_range hrange h
      omega

/-- A code is no range, so that it is open. -/
theorem open_toString (keys : List String) (n : Nat) : Open keys (toString n) := by
  intro m hm
  rw [not_equalIgnoringCase_rangeOf] at hm
  cases hm

/-- A range is open if one code of it is not documented on its own. -/
theorem open_of_not_mem (status : Nat) (hkey : Text.equalIgnoringCase key (rangeOf status) = true)
    (h : toString status ∉ keys) : Open keys key :=
  fun _ hn => ⟨status, div_eq_of_range hkey hn, h⟩

/-- **A status falls under a key exactly if the key is open.**  The keys are those of an operation;
of these one code may be missing in the table that is looked at, and then nothing counts that falls
under it. -/
theorem exists_resolve_iff_open (hvalid : ∀ k ∈ keys, isValid k = true) (honce : SpelledOnce keys)
    (hmem : ∀ k, k ∈ table ↔ k ∈ keys ∧ (all = true ∨ k ≠ toString left))
    (hkey : key ∈ table) :
    (∃ status : Http.Status, resolve table status.code = some key ∧
      ¬ (all = false ∧ resolve keys status.code = some (toString left))) ↔ Open keys key := by
  have hsub : ∀ k ∈ table, k ∈ keys := fun k hk => ((hmem k).1 hk).1
  -- what falls under the code that is missing is its own status
  have hleft : ∀ status, resolve keys status = some (toString left) →
      status = left ∧ toString status ∈ keys := by
    intro status h
    obtain rfl := eq_of_resolve_toString h
    exact ⟨rfl, mem_of_resolve h⟩
  constructor
  · rintro ⟨status, hstatus, hnot⟩
    exact open_of_resolve hmem hnot hstatus
  · intro hopen
    rcases cases_of_isValid (hvalid key (hsub key hkey)) with rfl | ⟨n, hlow, hhigh, rfl | hrange⟩
    · refine ⟨⟨999, by decide⟩, resolve_default (fun k hk => hvalid k (hsub k hk)) hkey, ?_⟩
      rintro ⟨-, h⟩
      exact absurd (isValid_of_toString_lt (hvalid _ (hleft 999 h).2)) (by decide)
    · have hstatus : Http.leastStatus ≤ n ∧ n ≤ Http.greatestStatus := ⟨hlow, by
        unfold Http.greatestStatus
        omega⟩
      refine ⟨⟨n, hstatus⟩, resolve_eq_some_iff.2 (Or.inl ⟨rfl, hkey⟩), ?_⟩
      rintro ⟨hall, h⟩
      rw [(hleft n h).1, hmem, hall] at hkey
      rcases hkey.2 with hfalse | hne
      · cases hfalse
      · exact hne rfl
    · obtain ⟨status, hdiv, hcode⟩ := hopen n hrange
      have hstatus : Http.leastStatus ≤ status ∧ status ≤ Http.greatestStatus := by
        unfold Http.leastStatus Http.greatestStatus
        omega
      have hsame : rangeOf n = rangeOf status := by
        rw [rangeOf, rangeOf, hdiv]
      refine ⟨⟨status, hstatus⟩, resolve_eq_some_iff.2 (Or.inr (Or.inl ⟨?_, ?_⟩)), ?_⟩
      · exact fun h => hcode (hsub _ h)
      · exact find?_range honce hsub hkey (hsame ▸ hrange)
      · rintro ⟨-, h⟩
        exact hcode (hleft status h).2

end

end StatusKey

end ApiContract
