/-
**The texts that fill a template.**

A text is filled into steps when every character stands as it is and every placeholder is replaced
by a non-empty text free of slashes.  Many fillings may give one text; the search finds one of them,
in which each placeholder is as short as what follows it allows.

Main definitions:

* `Cut.Fills` — the fillings;
* `Cut.Least` — what the search takes for a placeholder.

Main results:

* `Cut.Fills.append`, `Cut.Fills.exists_of_append` — steps one after the other are filled one after
  the other;
* `Cut.first?_hole_eq_some_iff` — what the search takes for a placeholder, and why nothing shorter;
* `Cut.fills_of_first?` — **what the search finds is a filling**.
-/

import ApiContract.Path.Cut

set_option relaxedAutoImplicit false
set_option autoImplicit false

namespace ApiContract.Cut

/-! ### Fillings -/

/-- `Fills steps texts cs`: the characters `cs` are the steps with the texts in place of the
placeholders. -/
inductive Fills : List Step → List (List Char) → List Char → Prop
  | nil : Fills [] [] []
  | char (c : Char) {steps : List Step} {texts : List (List Char)} {cs : List Char} :
      Fills steps texts cs → Fills (.char c :: steps) texts (c :: cs)
  | hole {text : List Char} {steps : List Step} {texts : List (List Char)} {cs : List Char} :
      text ≠ [] → '/' ∉ text → Fills steps texts cs →
      Fills (.hole :: steps) (text :: texts) (text ++ cs)

namespace Fills

/-- Steps one after the other are filled one after the other. -/
theorem append {s₁ s₂ : List Step} {t₁ t₂ : List (List Char)} {c₁ c₂ : List Char}
    (h₁ : Fills s₁ t₁ c₁) (h₂ : Fills s₂ t₂ c₂) : Fills (s₁ ++ s₂) (t₁ ++ t₂) (c₁ ++ c₂) := by
  induction h₁ with
  | nil => exact h₂
  | char c _ ih => exact ih.char c
  | hole hne hs _ ih =>
      rw [List.append_assoc]
      exact ih.hole hne hs

/-- A filling of steps one after the other falls into two. -/
theorem exists_of_append {s₁ s₂ : List Step} {texts : List (List Char)} {cs : List Char}
    (h : Fills (s₁ ++ s₂) texts cs) :
    ∃ t₁ t₂ c₁ c₂, texts = t₁ ++ t₂ ∧ cs = c₁ ++ c₂ ∧ Fills s₁ t₁ c₁ ∧ Fills s₂ t₂ c₂ := by
  induction s₁ generalizing texts cs with
  | nil => exact ⟨[], texts, [], cs, rfl, rfl, .nil, h⟩
  | cons step s₁ ih =>
      cases h with
      | char c h =>
          obtain ⟨t₁, t₂, c₁, c₂, rfl, rfl, h₁, h₂⟩ := ih h
          exact ⟨t₁, t₂, c :: c₁, c₂, rfl, rfl, h₁.char c, h₂⟩
      | @hole text _ _ _ hne hs h =>
          obtain ⟨t₁, t₂, c₁, c₂, rfl, rfl, h₁, h₂⟩ := ih h
          exact ⟨text :: t₁, t₂, text ++ c₁, c₂, rfl, by rw [List.append_assoc], h₁.hole hne hs, h₂⟩

/-- Literal text is filled by itself. -/
theorem literal (text : List Char) : Fills (text.map .char) [] text := by
  induction text with
  | nil => exact .nil
  | cons c text ih => exact ih.char c

/-- Literal text stands at the beginning of every filling. -/
theorem exists_of_literal {text : List Char} {steps : List Step} {texts : List (List Char)}
    {cs : List Char} (h : Fills (text.map .char ++ steps) texts cs) :
    ∃ rest, cs = text ++ rest ∧ Fills steps texts rest := by
  induction text generalizing cs with
  | nil => exact ⟨cs, rfl, h⟩
  | cons c text ih =>
      cases h with
      | char _ h =>
          obtain ⟨rest, rfl, hr⟩ := ih h
          exact ⟨rest, rfl, hr⟩

/-- There is one text for each placeholder. -/
theorem length_eq {steps : List Step} {texts : List (List Char)} {cs : List Char}
    (h : Fills steps texts cs) : texts.length = steps.count .hole := by
  induction h with
  | nil => rfl
  | char c _ ih => rw [ih, List.count_cons_of_ne (by simp)]
  | hole _ _ _ ih => rw [List.length_cons, ih, List.count_cons_self]

/-- The slashes of a filling are those of the steps. -/
theorem count_slash {steps : List Step} {texts : List (List Char)} {cs : List Char}
    (h : Fills steps texts cs) : cs.count '/' = steps.count (.char '/') := by
  induction h with
  | nil => rfl
  | char c _ ih => simp [List.count_cons, ih]
  | hole _ hs _ ih =>
      rw [List.count_append, List.count_eq_zero.2 hs, ih, List.count_cons_of_ne (by simp),
        Nat.zero_add]

end Fills

/-! ### The search -/

/-- What the search takes for a placeholder before a rest: a non-empty text free of slashes, after
no shorter part of which the search could have gone on. -/
def Least (continue? : List Char → Option (List (List Char))) (text rest : List Char) : Prop :=
  text ≠ [] ∧ '/' ∉ text ∧ ∀ first last, text = first ++ last → first ≠ [] → last ≠ [] →
    continue? (last ++ rest) = none

section

variable {continue? : List Char → Option (List (List Char))} {c : Char} {text rest : List Char}

theorem least_singleton (hc : c ≠ '/') : Least continue? [c] rest := by
  refine ⟨by simp, by simpa using hc.symm, ?_⟩
  intro first last h hf hl
  have hlength := congrArg List.length h
  have hfirst := List.length_pos_iff.2 hf
  have hlast := List.length_pos_iff.2 hl
  rw [List.length_append, List.length_singleton] at hlength
  omega

/-- A longer text is taken if nothing goes on after its first character, and the rest of it is
taken there. -/
theorem least_cons_iff (hne : text ≠ []) :
    Least continue? (c :: text) rest ↔
      c ≠ '/' ∧ continue? (text ++ rest) = none ∧ Least continue? text rest := by
  constructor
  · rintro ⟨-, hs, hmin⟩
    rw [List.mem_cons, not_or] at hs
    refine ⟨Ne.symm hs.1, hmin [c] text rfl (by simp) hne, hne, hs.2, ?_⟩
    intro first last h _ hl
    exact hmin (c :: first) last (by rw [h]; rfl) (by simp) hl
  · rintro ⟨hc, hnone, -, hs, hmin⟩
    refine ⟨by simp, ?_, ?_⟩
    · rw [List.mem_cons, not_or]
      exact ⟨Ne.symm hc, hs⟩
    · intro first last h hf hl
      cases first with
      | nil => exact absurd rfl hf
      | cons d first =>
          obtain ⟨rfl, rfl⟩ := List.cons_eq_cons.1 h
          cases first with
          | nil => exact hnone
          | cons e first => exact hmin _ last rfl (by simp) hl

/-- The search for a placeholder tries the non-empty beginnings free of slashes, the shortest
first, and takes the first one after which it can go on. -/
theorem shortest_eq_some_iff {taken cs : List Char} {texts : List (List Char)} :
    shortest continue? taken cs = some texts ↔
      ∃ text rest ts, cs = text ++ rest ∧ texts = (taken ++ text) :: ts ∧
        Least continue? text rest ∧ continue? rest = some ts := by
  induction cs generalizing taken with
  | nil =>
      constructor
      · rintro ⟨⟩
      · rintro ⟨text, rest, ts, h, -, hleast, -⟩
        exact absurd (List.append_eq_nil_iff.1 h.symm).1 hleast.1
  | cons c cs ih =>
      simp only [shortest]
      by_cases hc : c = '/'
      · rw [if_pos hc]
        constructor
        · rintro ⟨⟩
        · rintro ⟨text, rest, ts, h, -, ⟨hne, hs, -⟩, -⟩
          cases text with
          | nil => exact absurd rfl hne
          | cons d text =>
              obtain ⟨rfl, -⟩ := List.cons_eq_cons.1 h
              exact absurd List.mem_cons_self (hc ▸ hs)
      · rw [if_neg hc]
        cases hk : continue? cs with
        | some ts =>
            -- the search goes on after the first character
            constructor
            · rintro ⟨⟩
              exact ⟨[c], cs, ts, rfl, rfl, least_singleton hc, hk⟩
            · rintro ⟨text, rest, ts', h, rfl, hleast, hr⟩
              cases text with
              | nil => exact absurd rfl hleast.1
              | cons d text =>
                  rw [List.cons_append, List.cons.injEq] at h
                  obtain ⟨rfl, rfl⟩ := h
                  by_cases hne : text = []
                  · subst hne
                    rw [List.nil_append, hr] at hk
                    cases hk
                    rfl
                  · rw [((least_cons_iff hne).1 hleast).2.1] at hk
                    cases hk
        | none =>
            -- it does not, so that the text is longer
            constructor
            · intro h
              obtain ⟨text, rest, ts, rfl, rfl, hleast, hr⟩ := ih.1 h
              exact ⟨c :: text, rest, ts, rfl, by simp,
                (least_cons_iff hleast.1).2 ⟨hc, hk, hleast⟩, hr⟩
            · rintro ⟨text, rest, ts, h, rfl, hleast, hr⟩
              cases text with
              | nil => exact absurd rfl hleast.1
              | cons d text =>
                  rw [List.cons_append, List.cons.injEq] at h
                  obtain ⟨rfl, rfl⟩ := h
                  have hne : text ≠ [] := by
                    rintro rfl
                    rw [List.nil_append, hr] at hk
                    cases hk
                  exact ih.2 ⟨text, rest, ts, rfl, by simp, ((least_cons_iff hne).1 hleast).2.2, hr⟩

end

/-- A placeholder takes a non-empty text free of slashes after which the search goes on; after
nothing shorter it does. -/
theorem first?_hole_eq_some_iff {steps : List Step} {cs : List Char} {texts : List (List Char)} :
    first? (.hole :: steps) cs = some texts ↔
      ∃ text rest ts, cs = text ++ rest ∧ texts = text :: ts ∧ Least (first? steps) text rest ∧
        first? steps rest = some ts := by
  rw [first?_hole, shortest_eq_some_iff]
  rfl

/-- **What the search finds is a filling.** -/
theorem fills_of_first? {steps : List Step} {cs : List Char} {texts : List (List Char)}
    (h : first? steps cs = some texts) : Fills steps texts cs := by
  induction steps generalizing cs texts with
  | nil =>
      rw [first?_nil] at h
      split at h
      · rename_i hcs
        cases h
        rw [hcs]
        exact .nil
      · cases h
  | cons step steps ih =>
      cases step with
      | char a =>
          cases cs with
          | nil => simp [first?] at h
          | cons c cs =>
              rw [first?_char] at h
              split at h
              · rename_i hac
                rw [hac]
                exact (ih h).char c
              · cases h
      | hole =>
          obtain ⟨text, rest, ts, rfl, rfl, ⟨hne, hs, -⟩, hr⟩ := first?_hole_eq_some_iff.1 h
          exact (ih hr).hole hne hs

/-- The search passes over literal text that stands there. -/
theorem first?_literal_append (text : List Char) (steps : List Step) (cs : List Char) :
    first? (text.map .char ++ steps) (text ++ cs) = first? steps cs := by
  induction text with
  | nil => rfl
  | cons c text ih =>
      rw [List.map_cons, List.cons_append, List.cons_append, first?_char, if_pos rfl]
      exact ih

/-- The search ends at literal text that does not stand there. -/
theorem first?_literal_eq_none {text : List Char} {cs : List Char} (steps : List Step)
    (h : ¬ text <+: cs) : first? (text.map .char ++ steps) cs = none := by
  induction text generalizing cs with
  | nil => exact absurd (List.nil_prefix) h
  | cons c text ih =>
      cases cs with
      | nil => simp [first?]
      | cons d cs =>
          rw [List.map_cons, List.cons_append, first?_char]
          split
          · rename_i hcd
            refine ih fun hp => h ?_
            rw [hcd]
            exact List.cons_prefix_cons.2 ⟨rfl, hp⟩
          · rfl

end ApiContract.Cut
