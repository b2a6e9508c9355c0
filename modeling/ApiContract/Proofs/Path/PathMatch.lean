/-
**The two ways to match a path.**

A path is matched by a template segment by segment in a single pass, or as a whole by a search.  The
single pass finds the swift fillings, those in which every text before a literal is prompt and
begins with a single byte.  The search finds these fillings as well, so that what the single pass
answers the search answers too.

Main definitions:

* `Template.AllPrompt`, `Template.AllPlain` — what makes texts swift, told of all of them.

Main results:

* `Template.exists_matchSegments?_iff` — **what the single pass finds in a path**;
* `Template.first?_of_fills` — **the search finds every prompt filling**;
* `Template.matchSegments?_iff_of_first?` — of a path that the search matches, the single pass finds
  the same texts exactly if they are swift;
* `Template.length_segments_of_fills` — a path that a template matches has as many segments.
-/

import ApiContract.Proofs.Path.Prefix
import ApiContract.Proofs.Path.SegmentMatch

set_option relaxedAutoImplicit false
set_option autoImplicit false

namespace ApiContract.Template

open Cut (Step Fills first? partSteps stepsOf fills_of_first? first?_hole_eq_some_iff
  first?_literal_append first?_literal_eq_none)

/-! ### A path and its segments -/

section

variable {segments : List Segment} {texts : List (List Char)} {cs : List Char}

/-- The template without segments is filled by a slash alone. -/
theorem fills_stepsOf_nil_iff : Fills (stepsOf []) texts cs ↔ texts = [] ∧ cs = ['/'] := by
  constructor
  · intro h
    cases h with
    | char _ h =>
        cases h
        exact ⟨rfl, rfl⟩
  · rintro ⟨rfl, rfl⟩
    exact Fills.nil.char '/'

/-- Nothing but an empty text fills the parts of a segment with no characters. -/
theorem segmentChars_eq_nil_of_fills {segment : Segment}
    (h : Fills (segment.flatMap partSteps) texts []) : segmentChars segment = [] := by
  induction segment with
  | nil => rfl
  | cons part parts ih =>
      cases part with
      | literal text =>
          obtain ⟨rest, hrest, h⟩ := fills_literal_iff.1 h
          obtain ⟨htext, rfl⟩ := List.append_eq_nil_iff.1 hrest.symm
          rw [segmentChars, List.flatMap_cons, ← segmentChars, ih h, Part.chars, htext]
          rfl
      | param name =>
          obtain ⟨text, ts, rest, -, heq, hne, -⟩ := fills_hole_iff.1 h
          exact absurd (List.append_eq_nil_iff.1 heq.symm).1 hne

/-- The slash alone fills no template but the one without segments. -/
theorem ne_nil_of_fills (hw : WellFormed segments) (hne : segments ≠ []) {rest : List Char}
    (h : Fills (segmentSteps segments) texts ('/' :: rest)) : rest ≠ [] := by
  rintro rfl
  cases segments with
  | nil => exact hne rfl
  | cons segment segments =>
      obtain ⟨t₁, t₂, c₁, c₂, rfl, heq, h₁, h₂⟩ := fills_segmentSteps_cons_iff.1 h
      obtain ⟨rfl, rfl⟩ := List.append_eq_nil_iff.1 (List.cons.inj heq).2.symm
      rcases eq_nil_or_exists_of_fills h₂ with ⟨rfl, -, -⟩ | ⟨-, rest, hrest⟩
      · refine hw.chars_ne (by simp) ?_
        rw [chars_of_ne_nil (by simp), List.flatMap_cons, segmentChars_eq_nil_of_fills h₁]
        rfl
      · cases hrest

/-- **What the single pass finds in a path**: a swift filling. -/
theorem exists_matchSegments?_iff (hw : WellFormed segments) :
    (∃ pieces, Path.segments cs = some pieces ∧ matchSegments? segments pieces = some texts) ↔
      Fills (stepsOf segments) texts cs ∧ Swift (segments.flatMap stops) texts := by
  by_cases hne : segments = []
  · subst hne
    constructor
    · rintro ⟨pieces, hp, hm⟩
      cases pieces with
      | nil =>
          cases hm
          rcases Path.segments_eq_some_iff.1 hp with ⟨rfl, -⟩ | ⟨rest, -, -, hf⟩
          · exact ⟨fills_stepsOf_nil_iff.2 ⟨rfl, rfl⟩, swift_nil _⟩
          · exact absurd hf.symm (Text.fields_ne_nil '/' rest)
      | cons piece pieces => cases hm
    · rintro ⟨h, -⟩
      obtain ⟨rfl, rfl⟩ := fills_stepsOf_nil_iff.1 h
      exact ⟨[], Path.segments_slash, rfl⟩
  · rw [stepsOf_of_ne_nil hne]
    constructor
    · rintro ⟨pieces, hp, hm⟩
      rcases Path.segments_eq_some_iff.1 hp with ⟨rfl, rfl⟩ | ⟨rest, -, rfl, rfl⟩
      · cases segments with
        | nil => exact absurd rfl hne
        | cons segment segments => cases hm
      · exact (matchSegments?_fields_eq_some_iff hw.separated hw.slashFree hne).1 hm
    · rintro ⟨h, hswift⟩
      rcases eq_nil_or_exists_of_fills h with ⟨hnil, -⟩ | ⟨-, rest, rfl⟩
      · exact absurd hnil hne
      · exact ⟨Text.fields '/' rest, Path.segments_of_ne_nil (ne_nil_of_fills hw hne h),
          (matchSegments?_fields_eq_some_iff hw.separated hw.slashFree hne).2 ⟨h, hswift⟩⟩

/-- A path that a template matches has as many segments as the template. -/
theorem length_segments_of_fills (hw : WellFormed segments)
    (h : Fills (stepsOf segments) texts cs) :
    ∃ pieces, Path.segments cs = some pieces ∧ pieces.length = segments.length := by
  by_cases hne : segments = []
  · subst hne
    obtain ⟨rfl, rfl⟩ := fills_stepsOf_nil_iff.1 h
    exact ⟨[], Path.segments_slash, rfl⟩
  · rw [stepsOf_of_ne_nil hne] at h
    rcases eq_nil_or_exists_of_fills h with ⟨hnil, -⟩ | ⟨-, rest, rfl⟩
    · exact absurd hnil hne
    · refine ⟨_, Path.segments_of_ne_nil (ne_nil_of_fills hw hne h), ?_⟩
      rw [Text.length_fields, ← List.count_cons_self, h.count_slash]
      exact count_slash_segmentSteps hw.slashFree

/-! ### The search and the single pass -/

/-- The texts that placeholders take before given literals are prompt. -/
def AllPrompt (stops : List (Option String)) (texts : List (List Char)) : Prop :=
  ∀ p ∈ stops.zip texts, Prompt p.1 p.2

theorem allPrompt_cons_iff {stop : Option String} {stops : List (Option String)} {text : List Char}
    {texts : List (List Char)} :
    AllPrompt (stop :: stops) (text :: texts) ↔ Prompt stop text ∧ AllPrompt stops texts := by
  simp only [AllPrompt, List.zip_cons_cons, List.forall_mem_cons]

theorem allPrompt_append_iff {stops₁ stops₂ : List (Option String)}
    {texts₁ texts₂ : List (List Char)} (h : stops₁.length = texts₁.length) :
    AllPrompt (stops₁ ++ stops₂) (texts₁ ++ texts₂) ↔
      AllPrompt stops₁ texts₁ ∧ AllPrompt stops₂ texts₂ := by
  simp only [AllPrompt, List.zip_append h, List.forall_mem_append]

theorem literalSteps_append (literal : String) (parts : Segment) (more : List Step) :
    (Part.literal literal :: parts).flatMap partSteps ++ more =
      literal.toList.map .char ++ (parts.flatMap partSteps ++ more) := by
  rw [List.flatMap_cons, partSteps, List.append_assoc]

theorem holeSteps_append (name : String) (parts : Segment) (more : List Step) :
    (Part.param name :: parts).flatMap partSteps ++ more =
      .hole :: (parts.flatMap partSteps ++ more) := rfl

/-- The search finds the prompt filling of a segment if it goes on after the segment, and only
there. -/
theorem first?_append_of_fills {parts : Segment} {more : List Step} {tail : List Char}
    {ts : List (List Char)} (hmore : first? more tail = some ts)
    (hend : ∀ last, last ≠ [] → '/' ∉ last → first? more (last ++ tail) = none)
    (hsep : Separated parts) (h : Fills (parts.flatMap partSteps) texts cs)
    (hprompt : AllPrompt (stops parts) texts) :
    first? (parts.flatMap partSteps ++ more) (cs ++ tail) = some (texts ++ ts) := by
  fun_induction stops parts generalizing texts cs with
  | case1 =>
      cases h
      exact hmore
  | case2 literal parts ih =>
      obtain ⟨rest, rfl, hrest⟩ := fills_literal_iff.1 h
      rw [literalSteps_append, List.append_assoc, first?_literal_append]
      exact ih hsep hrest hprompt
  | case3 name literal parts ih =>
      obtain ⟨text, texts, rest, rfl, rfl, hne, hs, hrest⟩ := fills_hole_iff.1 h
      obtain ⟨after, rfl, hafter⟩ := fills_literal_iff.1 hrest
      obtain ⟨hfirst, hothers⟩ := allPrompt_cons_iff.1 hprompt
      rw [holeSteps_append, literalSteps_append, first?_hole_eq_some_iff]
      refine ⟨text, literal.toList ++ after ++ tail, texts ++ ts, List.append_assoc .., rfl,
        ⟨hne, hs, ?_⟩, ?_⟩
      · intro first last htext hf hl
        -- a shorter text would have to be followed by the literal
        refine first?_literal_eq_none _ ?_
        rw [List.append_assoc, prefix_append_iff]
        exact hfirst literal rfl first last htext hf hl
      · rw [List.append_assoc, first?_literal_append]
        exact ih hsep hafter hothers
  | case4 name parts hne ih =>
      obtain ⟨text, texts, rest, rfl, rfl, htext, hs, hrest⟩ := fills_hole_iff.1 h
      cases parts with
      | cons part parts =>
          cases part with
          | literal literal => exact absurd rfl (hne literal parts)
          | param name => exact absurd hsep id
      | nil =>
          cases hrest
          rw [holeSteps_append, first?_hole_eq_some_iff]
          refine ⟨text, tail, ts, by simp, rfl, ⟨htext, hs, ?_⟩, hmore⟩
          intro first last heq _ hl
          refine hend last hl fun hslash => hs ?_
          rw [heq]
          exact List.mem_append_right first hslash

/-- The search finds every prompt filling of segments. -/
theorem first?_segmentSteps_of_fills (hsep : ∀ segment ∈ segments, Separated segment)
    (h : Fills (segmentSteps segments) texts cs)
    (hprompt : AllPrompt (segments.flatMap stops) texts) :
    first? (segmentSteps segments) cs = some texts := by
  induction segments generalizing texts cs with
  | nil =>
      cases h
      rfl
  | cons segment segments ih =>
      obtain ⟨t₁, t₂, c₁, c₂, rfl, rfl, h₁, h₂⟩ := fills_segmentSteps_cons_iff.1 h
      rw [List.flatMap_cons, allPrompt_append_iff (by rw [length_stops, h₁.length_eq])] at hprompt
      have hmore := ih (fun s hs => hsep s (List.mem_cons_of_mem segment hs)) h₂ hprompt.2
      rw [segmentSteps, List.flatMap_cons, ← segmentSteps, List.cons_append, Cut.first?_char,
        if_pos rfl]
      refine first?_append_of_fills hmore ?_ (hsep segment List.mem_cons_self) h₁ hprompt.1
      -- what follows a segment is the end or a slash, so no text of it goes further
      intro last hl hslash
      cases last with
      | nil => exact absurd rfl hl
      | cons c last =>
          cases segments with
          | nil => rfl
          | cons s ss =>
              have hc : '/' ≠ c := fun hc => hslash (hc ▸ List.mem_cons_self)
              rw [segmentSteps, List.flatMap_cons, List.cons_append, List.cons_append,
                Cut.first?_char, if_neg hc]

/-- **The search finds every prompt filling.** -/
theorem first?_of_fills (hw : WellFormed segments) (h : Fills (stepsOf segments) texts cs)
    (hprompt : AllPrompt (segments.flatMap stops) texts) :
    first? (stepsOf segments) cs = some texts := by
  by_cases hne : segments = []
  · subst hne
    obtain ⟨rfl, rfl⟩ := fills_stepsOf_nil_iff.1 h
    rfl
  · rw [stepsOf_of_ne_nil hne] at h ⊢
    exact first?_segmentSteps_of_fills hw.separated h hprompt

/-- The texts that placeholders take before given literals begin with a single byte. -/
def AllPlain (stops : List (Option String)) (texts : List (List Char)) : Prop :=
  ∀ p ∈ stops.zip texts, Plain p.1 p.2

theorem swift_iff {stops : List (Option String)} :
    Swift stops texts ↔ AllPrompt stops texts ∧ AllPlain stops texts := by
  simp only [Swift, AllPrompt, AllPlain, forall_and]

/-- The search answers every path that the single pass answers, with the same texts. -/
theorem first?_of_matchSegments? (hw : WellFormed segments) {pieces : List (List Char)}
    (hp : Path.segments cs = some pieces) (hm : matchSegments? segments pieces = some texts) :
    first? (stepsOf segments) cs = some texts := by
  obtain ⟨hfills, hswift⟩ := (exists_matchSegments?_iff hw).1 ⟨pieces, hp, hm⟩
  exact first?_of_fills hw hfills (swift_iff.1 hswift).1

/-- **Of a path that the search answers, the single pass answers with the same texts exactly if
they are swift**, and with no others. -/
theorem matchSegments?_iff_of_first? (hw : WellFormed segments) {found : List (List Char)}
    (h : first? (stepsOf segments) cs = some found) :
    (∃ pieces, Path.segments cs = some pieces ∧ matchSegments? segments pieces = some texts) ↔
      texts = found ∧ Swift (segments.flatMap stops) found := by
  constructor
  · rintro ⟨pieces, hp, hm⟩
    have hfirst := first?_of_matchSegments? hw hp hm
    obtain rfl : found = texts := by
      rw [h] at hfirst
      exact Option.some.inj hfirst
    exact ⟨rfl, ((exists_matchSegments?_iff hw).1 ⟨pieces, hp, hm⟩).2⟩
  · rintro ⟨rfl, hswift⟩
    exact (exists_matchSegments?_iff hw).2 ⟨fills_of_first? h, hswift⟩

end

end ApiContract.Template
