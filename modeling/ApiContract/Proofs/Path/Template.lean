/-
**What is known of a template that was read.**

A template that is read is written back as it was.  Its literal text has no slashes in it, and no
two of its placeholders touch.

Main definitions:

* `Template.Separated` — no two placeholders of a segment touch;
* `Template.WellFormed` — what holds of the segments of every template.

Main results:

* `Template.segmentChars_of_parseSegment`, `Template.chars_of_parseChars` — **reading loses
  nothing**;
* `Template.separated_of_parseSegment` — the reader keeps placeholders apart;
* `Template.wellFormed_of_parse` — the segments of a template are well-formed.
-/

import ApiContract.Path.Template
import ApiContract.Proofs.Text.Cutting

set_option relaxedAutoImplicit false
set_option autoImplicit false

namespace ApiContract.Template

/-! ### Reading loses nothing -/

theorem segmentChars_literalPart (collected : List Char) :
    segmentChars (literalPart collected) = collected.reverse := by
  unfold literalPart
  split
  · rename_i h
    rw [h]
    rfl
  · simp [segmentChars, Part.chars]

/-- The two readers of a segment, together: what they have collected and what is left of the text
are the characters of the parts that they give. -/
theorem segmentChars_of_read (cs : List Char) :
    (∀ touching collected parts, readLiteral touching collected cs = .ok parts →
      segmentChars parts = collected.reverse ++ cs) ∧
    (∀ touching collected parts, readName touching collected cs = .ok parts →
      segmentChars parts = '\x7b' :: collected.reverse ++ cs) := by
  -- each reader hands the rest of the text to the other, so that both are told of at once
  induction cs with
  | nil =>
      constructor
      · intro touching collected parts h
        simp only [readLiteral, Except.ok.injEq] at h
        rw [← h, segmentChars_literalPart, List.append_nil]
      · intro touching collected parts h
        simp [readName] at h
  | cons c cs ih =>
      obtain ⟨ihLiteral, ihName⟩ := ih
      constructor
      · intro touching collected parts h
        simp only [readLiteral] at h
        split at h
        · cases h
        · split at h
          · rename_i hc
            split at h
            · rename_i ps hps
              cases h
              have := ihName _ _ _ hps
              simp only [List.reverse_nil] at this
              rw [segmentChars, List.flatMap_append, ← segmentChars, ← segmentChars, this,
                segmentChars_literalPart, hc]
              rfl
            · cases h
          · rw [ihLiteral _ _ _ h, List.reverse_cons, List.append_assoc]
            rfl
      · intro touching collected parts h
        simp only [readName] at h
        split at h
        · rename_i hc
          split at h
          · cases h
          · split at h
            · cases h
            · split at h
              · cases h
              · split at h
                · rename_i ps hps
                  cases h
                  have := ihLiteral _ _ _ hps
                  simp only [List.reverse_nil, List.nil_append] at this
                  rw [segmentChars, List.flatMap_cons, ← segmentChars, this, hc]
                  simp [Part.chars]
                · cases h
        · rw [ihName _ _ _ h, List.reverse_cons, List.cons_append, List.append_assoc]
          rfl

/-- A segment that is read is written back as it was. -/
theorem segmentChars_of_parseSegment {cs : List Char} {parts : Segment}
    (h : parseSegment cs = .ok parts) : segmentChars parts = cs :=
  (segmentChars_of_read cs).1 _ _ _ h

/-- The segments that are read are those of the texts, one by one. -/
theorem parseSegments_eq_ok_cons {cs : List Char} {rest : List (List Char)}
    {segments : List Segment} (h : parseSegments (cs :: rest) = .ok segments) :
    ∃ segment others, segments = segment :: others ∧ parseSegment cs = .ok segment ∧
      parseSegments rest = .ok others := by
  simp only [parseSegments] at h
  split at h
  · cases h
  · rename_i segment hs
    split at h
    · cases h
    · rename_i others ho
      cases h
      exact ⟨segment, others, rfl, hs, ho⟩

theorem parseSegment_of_mem {fs : List (List Char)} {segments : List Segment}
    (h : parseSegments fs = .ok segments) {segment : Segment} (hs : segment ∈ segments) :
    ∃ cs ∈ fs, parseSegment cs = .ok segment := by
  induction fs generalizing segments with
  | nil =>
      cases h
      cases hs
  | cons cs rest ih =>
      obtain ⟨first, others, rfl, hf, ho⟩ := parseSegments_eq_ok_cons h
      rcases List.mem_cons.1 hs with rfl | hs
      · exact ⟨cs, List.mem_cons_self, hf⟩
      · obtain ⟨ds, hd, hp⟩ := ih ho hs
        exact ⟨ds, List.mem_cons_of_mem _ hd, hp⟩

theorem flatMap_of_parseSegments {fs : List (List Char)} {segments : List Segment}
    (h : parseSegments fs = .ok segments) :
    segments.flatMap (fun segment => '/' :: segmentChars segment) =
      fs.flatMap fun cs => '/' :: cs := by
  induction fs generalizing segments with
  | nil =>
      cases h
      rfl
  | cons cs rest ih =>
      obtain ⟨first, others, rfl, hf, ho⟩ := parseSegments_eq_ok_cons h
      rw [List.flatMap_cons, List.flatMap_cons, segmentChars_of_parseSegment hf, ih ho]

/-- The characters of a template: a slash alone, or the fields after the first slash. -/
theorem parseChars_eq_ok {cs : List Char} {segments : List Segment}
    (h : parseChars cs = .ok segments) :
    (cs = ['/'] ∧ segments = []) ∨
      ∃ rest, rest ≠ [] ∧ cs = '/' :: rest ∧
        parseSegments (Text.fields '/' rest) = .ok segments := by
  unfold parseChars at h
  split at h
  · cases h
    exact Or.inl ⟨rfl, rfl⟩
  · rename_i rest hne
    exact Or.inr ⟨rest, fun hr => hne (by rw [hr]), rfl, h⟩
  · cases h

theorem chars_of_ne_nil {segments : List Segment} (h : segments ≠ []) :
    chars segments = segments.flatMap fun segment => '/' :: segmentChars segment := by
  cases segments with
  | nil => exact absurd rfl h
  | cons segment segments => rfl

/-- **Reading loses nothing**: a template that is read is written back as it was. -/
theorem chars_of_parseChars {cs : List Char} {segments : List Segment}
    (h : parseChars cs = .ok segments) : chars segments = cs := by
  rcases parseChars_eq_ok h with ⟨rfl, rfl⟩ | ⟨rest, -, rfl, hs⟩
  · rfl
  · have hne : segments ≠ [] := by
      rintro rfl
      have := flatMap_of_parseSegments hs
      rw [Text.flatMap_fields] at this
      cases this
    rw [chars_of_ne_nil hne, flatMap_of_parseSegments hs, Text.flatMap_fields]

theorem parseChars_of_parse {template : String} {segments : List Segment}
    (h : parse template = .ok segments) : parseChars template.toList = .ok segments := by
  unfold parse at h
  split at h
  · rename_i ss hs
    cases h
    exact hs
  · cases h

/-! ### Placeholders that do not touch -/

/-- No two placeholders of a segment touch. -/
def Separated : Segment → Prop
  | [] => True
  | .literal _ :: parts => Separated parts
  | .param _ :: [] => True
  | .param _ :: .literal _ :: parts => Separated parts
  | .param _ :: .param _ :: _ => False

/-- The two readers of a segment, together: a placeholder may stand before the parts of the first
one if literal text was collected or a placeholder was announced; the second one begins with a
placeholder, and only if none was announced. -/
theorem separated_of_read (cs : List Char) :
    (∀ touching collected parts, readLiteral touching collected cs = .ok parts →
      Separated parts ∧
        (touching = true ∨ collected ≠ [] → ∀ name, Separated (.param name :: parts))) ∧
    (∀ touching collected parts, readName touching collected cs = .ok parts →
      Separated parts ∧ touching = false) := by
  induction cs with
  | nil =>
      constructor
      · intro touching collected parts h
        simp only [readLiteral, Except.ok.injEq] at h
        subst h
        unfold literalPart
        split <;> simp [Separated]
      · intro touching collected parts h
        simp [readName] at h
  | cons c cs ih =>
      obtain ⟨ihLiteral, ihName⟩ := ih
      constructor
      · intro touching collected parts h
        simp only [readLiteral] at h
        split at h
        · cases h
        · split at h
          · split at h
            · rename_i ps hps
              cases h
              obtain ⟨hsep, htouch⟩ := ihName _ _ _ hps
              unfold literalPart
              split
              · rename_i hcol
                -- no literal stands between: what was announced before is announced still
                simp only [hcol, decide_true, Bool.and_true] at htouch
                exact ⟨hsep, by simp [htouch, hcol]⟩
              · exact ⟨hsep, fun _ _ => hsep⟩
            · cases h
          · obtain ⟨hsep, hbefore⟩ := ihLiteral _ _ _ h
            exact ⟨hsep, fun _ => hbefore (Or.inr (by simp))⟩
      · intro touching collected parts h
        simp only [readName] at h
        split at h
        · split at h
          · cases h
          · split at h
            · cases h
            · split at h
              · cases h
              · rename_i htouch
                split at h
                · rename_i ps hps
                  cases h
                  exact ⟨(ihLiteral _ _ _ hps).2 (Or.inl rfl) _, by simpa using htouch⟩
                · cases h
        · exact ihName _ _ _ h

/-- The reader keeps placeholders apart. -/
theorem separated_of_parseSegment {cs : List Char} {parts : Segment}
    (h : parseSegment cs = .ok parts) : Separated parts :=
  ((separated_of_read cs).1 _ _ _ h).1

/-! ### Well-formed segments -/

/-- What holds of the segments of every template. -/
structure WellFormed (segments : List Segment) : Prop where
  /-- No two placeholders touch. -/
  separated : ∀ segment ∈ segments, Separated segment
  /-- Literal text has no slashes in it. -/
  slashFree : ∀ segment ∈ segments, ∀ text, Part.literal text ∈ segment → '/' ∉ text.toList
  /-- Only the template without segments is a slash alone. -/
  chars_ne : segments ≠ [] → chars segments ≠ ['/']

/-- A literal of a segment is part of its text. -/
theorem subset_segmentChars {text : String} {segment : Segment}
    (h : Part.literal text ∈ segment) : text.toList ⊆ segmentChars segment :=
  fun _ hc => List.mem_flatMap.2 ⟨_, h, hc⟩

/-- **The segments of a template are well-formed.** -/
theorem wellFormed_of_parse {template : String} {segments : List Segment}
    (h : parse template = .ok segments) : WellFormed segments := by
  have hchars := parseChars_of_parse h
  rcases parseChars_eq_ok hchars with ⟨-, rfl⟩ | ⟨rest, hrest, htemplate, hs⟩
  · exact ⟨by simp, by simp, by simp⟩
  · refine ⟨?_, ?_, ?_⟩
    · intro segment hm
      obtain ⟨cs, -, hcs⟩ := parseSegment_of_mem hs hm
      exact separated_of_parseSegment hcs
    · intro segment hm text ht hslash
      obtain ⟨cs, hmem, hcs⟩ := parseSegment_of_mem hs hm
      refine Text.not_mem_of_mem_fields hmem ?_
      rw [← segmentChars_of_parseSegment hcs]
      exact subset_segmentChars ht hslash
    · intro _ h
      rw [chars_of_parseChars hchars, htemplate, List.cons.injEq] at h
      exact hrest h.2

end ApiContract.Template
