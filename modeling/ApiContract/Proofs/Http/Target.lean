/-
**Targets of requests and their paths.**

Whatever path the target of a request has, some target has the same path and no query: the path
alone, if it begins with the slash, or the target itself.

Main definitions:

* `Http.Uri.IsTarget` — a target that some text is.

Main results:

* `Http.Uri.fst_of_splitPath?`, `Http.Uri.splitPath?_of_all` — the path of a text, and of a path;
* `Http.Uri.IsTarget.exists_of_path` — **every path can be requested without a query**.
-/

import ApiContract.Http.Uri
import Mathlib.Data.List.Infix
import Mathlib.Data.List.TakeWhile

set_option relaxedAutoImplicit false
set_option autoImplicit false

namespace ApiContract.Http.Uri

/-- A target that some text is. -/
def IsTarget (u : Uri) : Prop := ∃ text, ofString? text = some u

/-! ### Paths -/

theorem fst_of_splitPath? {cs : List Char} {p : String × Option String}
    (h : splitPath? cs = some p) : p.1 = String.ofList (cs.takeWhile isPathChar) := by
  unfold splitPath? at h
  simp only at h
  split at h
  · cases h
    rfl
  · cases h
    rfl
  · split at h
    · cases h
      rfl
    · cases h
      rfl
    · cases h
  · cases h

theorem splitPath?_of_all {cs : List Char} (h : ∀ c ∈ cs, isPathChar c = true) :
    splitPath? cs = some (String.ofList cs, none) := by
  have hcs : cs.takeWhile isPathChar = cs := List.takeWhile_eq_self_iff.2 h
  simp [splitPath?, hcs]

/-- A part of a text is not longer than the text. -/
theorem utf8ByteSize_le_of_infix {as bs : List Char} (h : as <:+: bs) :
    (String.ofList as).utf8ByteSize ≤ (String.ofList bs).utf8ByteSize := by
  obtain ⟨before, after, rfl⟩ := h
  simp only [String.ofList_append, String.utf8ByteSize_append]
  omega

/-- The slash belongs to the path that it begins. -/
theorem head?_takeWhile {cs : List Char} (h : cs.head? = some '/') :
    (cs.takeWhile isPathChar).head? = some '/' := by
  cases cs with
  | nil => cases h
  | cons c cs =>
      obtain rfl := Option.some.inj h
      rfl

/-- A path is a target if it is not too long. -/
theorem isTarget_path {cs : List Char} (hlength : (String.ofList cs).utf8ByteSize ≤ maxLength)
    (hhead : cs.head? = some '/') (hall : ∀ c ∈ cs, isPathChar c = true) :
    IsTarget ⟨none, "", String.ofList cs, none⟩ := by
  refine ⟨String.ofList cs, ?_⟩
  have hne : cs ≠ [] := by
    rintro rfl
    cases hhead
  have hasterisk : cs ≠ ['*'] := by
    rintro rfl
    cases hhead
  rw [ofString?, if_neg (Nat.not_lt.2 hlength), String.toList_ofList, ofChars?, if_neg hne,
    if_neg hasterisk, if_pos hhead, splitPath?_of_all hall]
  rfl

/-! ### Full addresses -/

/-- What follows a scheme stands at the end of the text. -/
theorem exists_of_splitScheme? {cs rest : List Char} {scheme : Option String}
    (h : splitScheme? cs = some (scheme, rest)) : ∃ before, cs = before ++ rest := by
  unfold splitScheme? at h
  simp only at h
  split at h
  · rename_i hdrop
    split at h
    · cases h
    · cases h
      refine ⟨cs.takeWhile isSchemeChar ++ [':', '/', '/'], ?_⟩
      have happend := List.prefix_iff_eq_append.1 (List.takeWhile_prefix (l := cs) isSchemeChar)
      rw [hdrop] at happend
      rw [List.append_assoc]
      exact happend.symm
  · cases h
    exact ⟨[], rfl⟩

/-- A character that is not taken is none of the class. -/
theorem eq_false_of_drop_takeWhile {p : Char → Bool} {cs rest : List Char} {c : Char}
    (h : cs.drop (cs.takeWhile p).length = c :: rest) : p c = false := by
  induction cs with
  | nil => cases h
  | cons d cs ih =>
      rw [List.takeWhile_cons] at h
      split at h
      · exact ih h
      · rename_i hd
        cases h
        simpa using hd

/-- After a host there is no path, unless the slash comes first. -/
theorem takeWhile_eq_nil_of_host {cs : List Char}
    (hhead : (cs.drop (cs.takeWhile fun c => !endsHost c).length).head? ≠ some '/') :
    (cs.drop (cs.takeWhile fun c => !endsHost c).length).takeWhile isPathChar = [] := by
  cases hrest : cs.drop (cs.takeWhile fun c => !endsHost c).length with
  | nil => rfl
  | cons c rest =>
      rw [hrest] at hhead
      have hends := eq_false_of_drop_takeWhile hrest
      simp only [Bool.not_eq_false', endsHost, Bool.or_eq_true, decide_eq_true_eq] at hends
      rcases hends with (rfl | rfl) | rfl
      · exact absurd rfl hhead
      · rfl
      · rfl

/-! ### Targets -/

/-- What the characters of a path are taken from is a target, if it begins with the slash. -/
theorem isTarget_takeWhile {text : String} {before cs : List Char}
    (hlength : text.utf8ByteSize ≤ maxLength) (htext : text.toList = before ++ cs)
    (hhead : cs.head? = some '/') :
    IsTarget ⟨none, "", String.ofList (cs.takeWhile isPathChar), none⟩ := by
  have hinfix : cs.takeWhile isPathChar <:+: text.toList := by
    rw [htext]
    exact (List.takeWhile_prefix _).isInfix.trans (List.suffix_append _ _).isInfix
  have hle := utf8ByteSize_le_of_infix hinfix
  rw [String.ofList_toList] at hle
  exact isTarget_path (hle.trans hlength) (head?_takeWhile hhead)
    fun c hc => List.all_eq_true.1 List.all_takeWhile c hc

/-- **Every path can be requested without a query.** -/
theorem IsTarget.exists_of_path {u : Uri} (h : u.IsTarget) :
    ∃ v : Uri, v.IsTarget ∧ v.path = u.path ∧ v.query = none := by
  obtain ⟨text, h⟩ := id h
  unfold ofString? at h
  split at h
  · cases h
  rename_i hlength
  rw [Nat.not_lt] at hlength
  unfold ofChars? at h
  split at h
  · cases h
  split at h
  · cases h
    exact ⟨_, ‹_›, rfl, rfl⟩
  split at h
  -- a path alone, a host alone, and a full address
  · rename_i hhead
    obtain ⟨p, hp, rfl⟩ := Option.map_eq_some_iff.1 h
    exact ⟨_, isTarget_takeWhile hlength (List.nil_append _).symm hhead,
      (fst_of_splitPath? hp).symm, rfl⟩
  split at h
  · cases h
  · split at h
    · cases h
    · cases h
      exact ⟨_, ‹_›, rfl, rfl⟩
  · rename_i scheme rest hscheme
    dsimp only at h
    split at h
    · cases h
    obtain ⟨p, hp, rfl⟩ := Option.map_eq_some_iff.1 h
    obtain ⟨before, htext⟩ := exists_of_splitScheme? hscheme
    rw [fst_of_splitPath? hp]
    by_cases hhead : (rest.drop (rest.takeWhile fun c => !endsHost c).length).head? = some '/'
    · have hhost := List.take_append_drop (rest.takeWhile fun c => !endsHost c).length rest
      rw [← hhost, ← List.append_assoc] at htext
      refine ⟨_, isTarget_takeWhile hlength htext hhead, (if_neg fun hempty => ?_).symm, rfl⟩
      have hnil := String.ofList_eq_empty_iff.1 hempty
      have hslash := head?_takeWhile hhead
      rw [hnil] at hslash
      cases hslash
    · rw [takeWhile_eq_nil_of_host hhead]
      exact ⟨⟨none, "", "/", none⟩, ⟨"/", by decide⟩, rfl, rfl⟩

end ApiContract.Http.Uri
