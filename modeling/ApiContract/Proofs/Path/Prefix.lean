/-
**What prefixes leave of a path.**

The segments of a path are the fields after its first slash.  What is left of a path after a prefix
is the slash alone or an end of the path that begins with a slash, and therefore known from the
number of its segments.

Main results:

* `Path.segments_eq_some_iff` — the segments of a path;
* `Path.stripPrefixChars_eq_some` — what a prefix leaves;
* `Path.stripPrefix_unique` — **prefixes that leave as many segments of a path leave the same**.
-/

import ApiContract.Path.Prefix
import ApiContract.Proofs.Text.Cutting

set_option relaxedAutoImplicit false
set_option autoImplicit false

namespace ApiContract.Path

/-! ### Segments -/

theorem segments_slash : segments ['/'] = some [] := rfl

theorem segments_of_ne_nil {rest : List Char} (h : rest ≠ []) :
    segments ('/' :: rest) = some (Text.fields '/' rest) := by
  cases rest with
  | nil => exact absurd rfl h
  | cons c rest => rfl

/-- A path has no segment, or those between its slashes. -/
theorem segments_eq_some_iff {cs : List Char} {pieces : List (List Char)} :
    segments cs = some pieces ↔
      (cs = ['/'] ∧ pieces = []) ∨
        ∃ rest, rest ≠ [] ∧ cs = '/' :: rest ∧ pieces = Text.fields '/' rest := by
  constructor
  · intro h
    unfold segments at h
    split at h
    · cases h
      exact Or.inl ⟨rfl, rfl⟩
    · rename_i rest hne
      cases h
      exact Or.inr ⟨rest, fun hr => hne (by rw [hr]), rfl, rfl⟩
    · cases h
  · rintro (⟨rfl, rfl⟩ | ⟨rest, hne, rfl, rfl⟩)
    · exact segments_slash
    · exact segments_of_ne_nil hne

/-- A path that is not a slash alone has as many segments as slashes. -/
theorem length_of_segments {cs : List Char} {pieces : List (List Char)}
    (h : segments cs = some pieces) :
    (cs = ['/'] ∧ pieces.length = 0) ∨
      ∃ rest, cs = '/' :: rest ∧ pieces.length = cs.count '/' ∧ pieces.length ≠ 0 := by
  rcases segments_eq_some_iff.1 h with ⟨rfl, rfl⟩ | ⟨rest, -, rfl, rfl⟩
  · exact Or.inl ⟨rfl, rfl⟩
  · refine Or.inr ⟨rest, rfl, ?_, ?_⟩
    · rw [Text.length_fields, List.count_cons_self]
    · rw [Text.length_fields]
      omega

/-! ### Prefixes -/

/-- A prefix leaves the slash alone, or an end of the path. -/
theorem stripPrefixChars_eq_some {path head rest : List Char}
    (h : stripPrefixChars path head = some rest) : rest = ['/'] ∨ rest <:+ path := by
  unfold stripPrefixChars at h
  split at h
  · cases h
    exact Or.inr (List.suffix_refl path)
  · split at h
    · cases h
      exact Or.inl rfl
    · rename_i rest' hr
      cases h
      rw [Text.isPrefixOf?_eq_some_iff.1 hr]
      exact Or.inr (List.suffix_append ..)
    · cases h

/-- The empty prefix leaves every path as it is. -/
theorem stripPrefix_empty (path : String) : stripPrefix path "" = some path := by
  simp [stripPrefix, stripPrefixChars]

theorem stripPrefix_eq_some {path head rest : String} (h : stripPrefix path head = some rest) :
    rest.toList = ['/'] ∨ rest.toList <:+ path.toList := by
  obtain ⟨cs, hcs, rfl⟩ := Option.map_eq_some_iff.1 h
  rw [String.toList_ofList]
  exact stripPrefixChars_eq_some hcs

/-- An end of a text that begins with a slash is known from the number of its slashes. -/
theorem eq_of_suffix_of_count_eq {cs r₁ r₂ : List Char} (h₁ : '/' :: r₁ <:+ cs)
    (h₂ : '/' :: r₂ <:+ cs) (hc : ('/' :: r₁).count '/' = ('/' :: r₂).count '/') : r₁ = r₂ := by
  -- neither end goes beyond the other, for it would have a slash more
  have hle : ∀ {s t : List Char}, '/' :: s <:+ '/' :: t →
      ('/' :: s).count '/' = ('/' :: t).count '/' → s = t := by
    intro s t hst hc
    rcases List.suffix_cons_iff.1 hst with heq | ⟨first, hfirst⟩
    · exact (List.cons.inj heq).2
    · rw [← hfirst, List.count_cons_self, List.count_cons_self, List.count_append,
        List.count_cons_self] at hc
      omega
  rcases List.suffix_or_suffix_of_suffix h₁ h₂ with h | h
  · exact hle h hc
  · exact (hle h hc.symm).symm

/-- What is left of a path and has segments is an end of it. -/
theorem suffix_of_stripPrefix {path head rest : String} {pieces : List (List Char)}
    (h : stripPrefix path head = some rest) (hp : segments rest.toList = some pieces)
    (hne : pieces.length ≠ 0) : rest.toList <:+ path.toList := by
  rcases stripPrefix_eq_some h with hslash | hsuffix
  · rw [hslash, segments_slash] at hp
    cases hp
    exact absurd rfl hne
  · exact hsuffix

/-- **Prefixes that leave as many segments of a path leave the same.** -/
theorem stripPrefix_unique {path b₁ b₂ r₁ r₂ : String} {p₁ p₂ : List (List Char)}
    (h₁ : stripPrefix path b₁ = some r₁) (h₂ : stripPrefix path b₂ = some r₂)
    (hp₁ : segments r₁.toList = some p₁) (hp₂ : segments r₂.toList = some p₂)
    (hlen : p₁.length = p₂.length) : r₁ = r₂ := by
  rw [← String.toList_inj]
  rcases length_of_segments hp₁ with ⟨hr₁, hz₁⟩ | ⟨t₁, hr₁, hc₁, hz₁⟩
  · rcases length_of_segments hp₂ with ⟨hr₂, -⟩ | ⟨t₂, -, -, hz₂⟩
    · rw [hr₁, hr₂]
    · omega
  · rcases length_of_segments hp₂ with ⟨-, hz₂⟩ | ⟨t₂, hr₂, hc₂, hz₂⟩
    · omega
    · have hs₁ := suffix_of_stripPrefix h₁ hp₁ hz₁
      have hs₂ := suffix_of_stripPrefix h₂ hp₂ hz₂
      rw [hr₁] at hs₁ hc₁ ⊢
      rw [hr₂] at hs₂ hc₂ ⊢
      rw [eq_of_suffix_of_count_eq hs₁ hs₂ (by omega)]

end ApiContract.Path
