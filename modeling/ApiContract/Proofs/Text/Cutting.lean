/-
**What cutting a text gives.**

A pattern is found where it stands first.  The fields of a text are free of the separator, and
joined by it they give the text back.

Main results:

* `Text.cutAt_eq_some_iff` — a text is cut at the first place where the pattern stands;
* `Text.fields_of_not_mem`, `Text.fields_append_cons` — the fields of a text, from the left;
* `Text.length_fields` — one field more than there are separators;
* `Text.flatMap_fields`, `Text.fields_flatMap` — the fields of a text give the text back, and are
  given back by it.
-/

import ApiContract.Text.Basic

set_option relaxedAutoImplicit false
set_option autoImplicit false

namespace ApiContract.Text

/-! ### Beginnings -/

theorem isPrefixOf?_nil (cs : List Char) : List.isPrefixOf? [] cs = some cs := rfl

theorem isPrefixOf?_cons_cons (p c : Char) (pattern cs : List Char) :
    (p :: pattern).isPrefixOf? (c :: cs) = if p == c then pattern.isPrefixOf? cs else none := rfl

/-- A text begins with a pattern exactly if it is the pattern followed by what is left. -/
theorem isPrefixOf?_eq_some_iff {pattern cs rest : List Char} :
    pattern.isPrefixOf? cs = some rest ↔ cs = pattern ++ rest := by
  induction pattern generalizing cs with
  | nil => rw [isPrefixOf?_nil, Option.some.injEq, List.nil_append]
  | cons p pattern ih =>
      cases cs with
      | nil =>
          constructor
          · rintro ⟨⟩
          · rintro ⟨⟩
      | cons c cs =>
          rw [isPrefixOf?_cons_cons, List.cons_append, List.cons.injEq]
          by_cases h : p = c
          · rw [if_pos (beq_iff_eq.2 h), ih]
            exact ⟨fun hcs => ⟨h.symm, hcs⟩, And.right⟩
          · rw [if_neg (fun hbeq => h (beq_iff_eq.1 hbeq))]
            constructor
            · rintro ⟨⟩
            · rintro ⟨hc, -⟩
              exact absurd hc.symm h

theorem isPrefixOf?_eq_none_iff {pattern cs : List Char} :
    pattern.isPrefixOf? cs = none ↔ ¬ pattern <+: cs := by
  constructor
  · rintro h ⟨rest, rfl⟩
    rw [isPrefixOf?_eq_some_iff.2 rfl] at h
    cases h
  · intro h
    cases hr : pattern.isPrefixOf? cs with
    | none => rfl
    | some rest => exact absurd ⟨rest, (isPrefixOf?_eq_some_iff.1 hr).symm⟩ h

/-! ### The first occurrence of a pattern -/

/-- A text is cut at the first place where the pattern stands: it stands there, and at no place
before. -/
theorem cutAt_eq_some_iff {pattern cs before after : List Char} :
    cutAt pattern cs = some (before, after) ↔
      cs = before ++ (pattern ++ after) ∧
        ∀ first last, before = first ++ last → last ≠ [] →
          ¬ pattern <+: last ++ (pattern ++ after) := by
  induction cs generalizing before with
  | nil =>
      simp only [cutAt]
      constructor
      · intro h
        split at h
        · rename_i hp
          cases h
          exact ⟨by simp [hp], fun first last hl hne => absurd hl.symm (by simp [hne])⟩
        · cases h
      · rintro ⟨h, -⟩
        obtain ⟨hb, h⟩ := List.append_eq_nil_iff.1 h.symm
        obtain ⟨hp, ha⟩ := List.append_eq_nil_iff.1 h
        rw [if_pos hp, hb, ha]
  | cons c cs ih =>
      simp only [cutAt]
      cases hp : pattern.isPrefixOf? (c :: cs) with
      | some rest =>
          have hcs := isPrefixOf?_eq_some_iff.1 hp
          constructor
          · intro h
            cases h
            exact ⟨hcs, fun first last hl hne => absurd hl.symm (by simp [hne])⟩
          · rintro ⟨h, hfirst⟩
            cases before with
            | nil =>
                have : rest = after := List.append_cancel_left (hcs.symm.trans h)
                rw [this]
            | cons b before =>
                refine absurd ?_ (hfirst [] (b :: before) rfl (by simp))
                exact ⟨rest, hcs.symm.trans h⟩
      | none =>
          have hno := isPrefixOf?_eq_none_iff.1 hp
          simp only [Option.map_eq_some_iff, Prod.mk.injEq, Prod.exists]
          constructor
          · rintro ⟨b, a, hb, rfl, rfl⟩
            obtain ⟨hcs, hfirst⟩ := ih.1 hb
            refine ⟨by rw [hcs]; rfl, fun first last hl hne => ?_⟩
            cases first with
            | nil =>
                obtain rfl : c :: b = last := hl
                rwa [List.cons_append, ← hcs]
            | cons f first =>
                obtain ⟨rfl, hb'⟩ := List.cons_eq_cons.1 hl
                exact hfirst first last hb' hne
          · rintro ⟨h, hfirst⟩
            cases before with
            | nil => exact absurd ⟨after, h.symm⟩ hno
            | cons b before =>
                obtain ⟨rfl, hcs⟩ := List.cons_eq_cons.1 h
                exact ⟨before, after,
                  ih.2 ⟨hcs, fun first last hl hne =>
                    hfirst (c :: first) last (by rw [hl]; rfl) hne⟩,
                  rfl, rfl⟩

/-! ### Fields -/

/-- A text without separators is its only field. -/
theorem fields_of_not_mem {sep : Char} {cs : List Char} (h : sep ∉ cs) : fields sep cs = [cs] := by
  induction cs with
  | nil => rfl
  | cons c cs ih =>
      obtain ⟨hc, hcs⟩ := not_or.1 (mt List.mem_cons.2 h)
      simp only [fields, if_neg (Ne.symm hc), ih hcs]

/-- The first field of a text ends at the first separator. -/
theorem fields_append_cons {sep : Char} {f : List Char} (h : sep ∉ f) (cs : List Char) :
    fields sep (f ++ sep :: cs) = f :: fields sep cs := by
  induction f with
  | nil => simp [fields]
  | cons c f ih =>
      obtain ⟨hc, hf⟩ := not_or.1 (mt List.mem_cons.2 h)
      simp only [List.cons_append, fields, if_neg (Ne.symm hc), ih hf]

/-- A text has no separator, or it has a first one. -/
theorem not_mem_or_eq_append_cons (sep : Char) (cs : List Char) :
    sep ∉ cs ∨ ∃ f rest, sep ∉ f ∧ cs = f ++ sep :: rest := by
  by_cases h : sep ∈ cs
  · obtain ⟨f, rest, rfl, hf⟩ := List.eq_append_cons_of_mem h
    exact Or.inr ⟨f, rest, hf, rfl⟩
  · exact Or.inl h

/-- The first separator of a text stands at one place. -/
theorem append_cons_inj {sep : Char} {f₁ f₂ r₁ r₂ : List Char} (h₁ : sep ∉ f₁) (h₂ : sep ∉ f₂)
    (h : f₁ ++ sep :: r₁ = f₂ ++ sep :: r₂) : f₁ = f₂ ∧ r₁ = r₂ := by
  have hfields := congrArg (fields sep) h
  rw [fields_append_cons h₁, fields_append_cons h₂, List.cons.injEq] at hfields
  obtain ⟨rfl, -⟩ := hfields
  exact ⟨rfl, (List.cons.inj (List.append_cancel_left h)).2⟩

/-- There is one field more than there are separators. -/
theorem length_fields (sep : Char) (cs : List Char) :
    (fields sep cs).length = cs.count sep + 1 := by
  induction cs with
  | nil => rfl
  | cons c cs ih =>
      by_cases hc : c = sep
      · simp [fields, hc, ih]
      · simp only [fields, if_neg hc, List.count_cons_of_ne hc]
        split
        · rename_i hf
          exact absurd hf (fields_ne_nil sep cs)
        · rename_i f fs hf
          rw [← ih, hf]
          rfl

/-- No field has a separator in it. -/
theorem not_mem_of_mem_fields {sep : Char} {cs f : List Char} (hf : f ∈ fields sep cs) :
    sep ∉ f := by
  induction cs generalizing f with
  | nil =>
      obtain rfl := List.mem_singleton.1 hf
      exact List.not_mem_nil
  | cons c cs ih =>
      simp only [fields] at hf
      split at hf
      · rcases List.mem_cons.1 hf with rfl | hf
        · exact List.not_mem_nil
        · exact ih hf
      · rename_i hc
        split at hf
        · rename_i hn
          exact absurd hn (fields_ne_nil sep cs)
        · rename_i g gs hg
          rcases List.mem_cons.1 hf with rfl | hf
          · rw [List.mem_cons, not_or]
            exact ⟨Ne.symm hc, ih (by simp [hg])⟩
          · exact ih (by simp [hg, hf])

/-- The fields of a text, each after a separator, give the text back. -/
theorem flatMap_fields (sep : Char) (cs : List Char) :
    (fields sep cs).flatMap (fun f => sep :: f) = sep :: cs := by
  induction cs with
  | nil => rfl
  | cons c cs ih =>
      simp only [fields]
      split
      · rename_i hc
        rw [List.flatMap_cons, ih, hc]
        rfl
      · split
        · rename_i hf
          exact absurd hf (fields_ne_nil sep cs)
        · rename_i f fs hf
          rw [hf, List.flatMap_cons, List.cons_append, List.cons.injEq] at ih
          rw [List.flatMap_cons, List.cons_append, List.cons_append, ih.2]

/-- Texts without separators are the fields of the text in which a separator stands between them. -/
theorem fields_flatMap {sep : Char} {f : List Char} {fs : List (List Char)} (hf : sep ∉ f)
    (hfs : ∀ g ∈ fs, sep ∉ g) :
    fields sep (f ++ fs.flatMap fun g => sep :: g) = f :: fs := by
  induction fs generalizing f with
  | nil => rw [List.flatMap_nil, List.append_nil, fields_of_not_mem hf]
  | cons g fs ih =>
      rw [List.forall_mem_cons] at hfs
      rw [List.flatMap_cons, List.cons_append, fields_append_cons hf, ih hfs.1 hfs.2]

end ApiContract.Text
