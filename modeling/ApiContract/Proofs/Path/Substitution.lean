/-
**Templates with texts in place of placeholders.**

A path is made from a template by putting a text in place of each placeholder.  If the texts are not
empty and free of slashes, the path fills the template with these texts.  If moreover each
placeholder is a segment of its own, nothing stands between a text and the slashes around it, so
that the search and the segment matcher both find these texts and no others.

Main definitions:

* `Template.filled` — a template with a text for each placeholder;
* `Template.Whole` — every placeholder is a segment of its own.

Main results:

* `Template.fills_filled` — a template is filled by the texts that were put into it;
* `Template.Whole.swift` — texts for whole segments are swift;
* `Template.Whole.exists_matchSegments?`, `Template.Whole.first?_filled` — **both ways to match find
  the texts again**.
-/

import ApiContract.Proofs.Path.PathMatch

set_option relaxedAutoImplicit false
set_option autoImplicit false

namespace ApiContract.Template

open Cut (Step Fills first? partSteps stepsOf)

/-! ### Filling a template -/

/-- The characters of a part, with a text for a placeholder. -/
def Part.filled (value : String → List Char) : Part → List Char
  | .literal text => text.toList
  | .param name => value name

/-- The characters of a template, with a text for each placeholder. -/
def filled (value : String → List Char) : List Segment → List Char
  | [] => ['/']
  | segments => segments.flatMap fun segment => '/' :: segment.flatMap (Part.filled value)

section

variable {value : String → List Char} {segment : Segment} {segments : List Segment}

/-- A text can be put in place of a placeholder: it is not empty and has no slash in it. -/
def Fit (text : List Char) : Prop := text ≠ [] ∧ '/' ∉ text

/-- The parts of a segment are filled by the texts of its placeholders. -/
theorem fills_segment (h : ∀ name ∈ segment.filterMap Part.name?, Fit (value name)) :
    Fills (segment.flatMap partSteps) ((segment.filterMap Part.name?).map value)
      (segment.flatMap (Part.filled value)) := by
  induction segment with
  | nil => exact .nil
  | cons part parts ih =>
      cases part with
      | literal text =>
          have hparts := ih fun name hname => h name (by simpa [Part.name?] using hname)
          exact (Fills.literal text.toList).append hparts
      | param name =>
          obtain ⟨hne, hslash⟩ := h name (by simp [Part.name?])
          have hparts := ih fun other hother => h other (by simpa [Part.name?] using Or.inr hother)
          exact hparts.hole hne hslash

/-- The segments of a template are filled by the texts of their placeholders. -/
theorem fills_segments (h : ∀ name ∈ names segments, Fit (value name)) :
    Fills (segmentSteps segments) ((names segments).map value)
      (segments.flatMap fun segment => '/' :: segment.flatMap (Part.filled value)) := by
  induction segments with
  | nil => exact .nil
  | cons segment segments ih =>
      rw [names_cons] at h ⊢
      have hsegment := fills_segment fun name hname => h name (List.mem_append_left _ hname)
      have hsegments := ih fun name hname => h name (List.mem_append_right _ hname)
      rw [List.map_append]
      exact fills_segmentSteps_cons_iff.2
        ⟨_, _, _, _, rfl, rfl, hsegment, hsegments⟩

/-- **A template is filled by the texts that are put into it.** -/
theorem fills_filled (h : ∀ name ∈ names segments, Fit (value name)) :
    Fills (stepsOf segments) ((names segments).map value) (filled value segments) := by
  cases segments with
  | nil => exact fills_stepsOf_nil_iff.2 ⟨rfl, rfl⟩
  | cons segment segments =>
      rw [stepsOf_of_ne_nil (by simp)]
      exact fills_segments h

/-! ### Placeholders that are whole segments -/

/-- Every placeholder is a segment of its own. -/
def Whole (segments : List Segment) : Prop :=
  ∀ segment ∈ segments, ∀ name, .param name ∈ segment → segment = [.param name]

/-- What stands after a placeholder is asked for where there is one. -/
theorem exists_param_of_mem_stops {stop : Option String} (h : stop ∈ stops segment) :
    ∃ name, .param name ∈ segment := by
  fun_induction stops segment with
  | case1 => cases h
  | case2 text parts ih =>
      obtain ⟨name, hname⟩ := ih h
      exact ⟨name, List.mem_cons_of_mem _ hname⟩
  | case3 name text parts ih => exact ⟨name, List.mem_cons_self⟩
  | case4 name parts hne ih => exact ⟨name, List.mem_cons_self⟩

/-- No literal stands after a placeholder that is a segment of its own. -/
theorem Whole.eq_none_of_mem_stops (h : Whole segments) {stop : Option String}
    (hstop : stop ∈ segments.flatMap stops) : stop = none := by
  obtain ⟨segment, hsegment, hstop⟩ := List.mem_flatMap.1 hstop
  obtain ⟨name, hname⟩ := exists_param_of_mem_stops hstop
  rw [h segment hsegment name hname] at hstop
  exact List.mem_singleton.1 hstop

/-- Whatever texts are put in place of whole segments, they are swift. -/
theorem Whole.swift (h : Whole segments) (texts : List (List Char)) :
    Swift (segments.flatMap stops) texts := by
  intro p hp
  rw [h.eq_none_of_mem_stops (List.of_mem_zip hp).1]
  exact ⟨prompt_none _, plain_none _⟩

/-- **The segment matcher finds the texts again.** -/
theorem Whole.exists_matchSegments? (h : Whole segments) (hw : WellFormed segments)
    (hfit : ∀ name ∈ names segments, Fit (value name)) :
    ∃ pieces, Path.segments (filled value segments) = some pieces ∧
      matchSegments? segments pieces = some ((names segments).map value) :=
  (exists_matchSegments?_iff hw).2 ⟨fills_filled hfit, h.swift _⟩

/-- **The search finds the texts again.** -/
theorem Whole.first?_filled (h : Whole segments) (hw : WellFormed segments)
    (hfit : ∀ name ∈ names segments, Fit (value name)) :
    first? (stepsOf segments) (filled value segments) = some ((names segments).map value) :=
  first?_of_fills hw (fills_filled hfit) (swift_iff.1 (h.swift _)).1

end

end ApiContract.Template
