/-
**The grammar of path templates.**

A template is a slash, and segments with slashes between them.  A segment is made of text without
braces and of placeholders, whose names are not empty and have no braces in them; no placeholder
stands directly after another.  These texts are the templates that can be read.  What is read is
written back as it was, and parts that could stand in no other way are read back as they were
written.

Main definitions:

* `Template.Spells` — the texts of segments;
* `Template.Grammatical` — the texts of templates;
* `Template.Regular` — parts without braces, none of them empty and no two of one kind that touch;
* `Template.Canonical` — the segments of templates.

Main results:

* `Template.exists_parseSegment_iff`, `Template.exists_parseChars_iff` — **what is read is what
  follows the grammar**;
* `Template.canonical_of_parseChars` — what is read is canonical;
* `Template.parseChars_chars` — what is canonical is read back;
* `Template.parse_eq_ok_iff` — **the templates that can be read, and what they are read as**.
-/

import ApiContract.Proofs.Path.Template
import Mathlib.Data.List.Chain

set_option relaxedAutoImplicit false
set_option autoImplicit false

namespace ApiContract.Template

/-! ### The grammar -/

/-- Text that can stand in a template as it is, and as a name: it is not empty and has no braces. -/
structure Braceless (cs : List Char) : Prop where
  ne_nil : cs ≠ []
  not_mem_open : '\x7b' ∉ cs
  not_mem_close : '\x7d' ∉ cs

/-- The texts of segments; `touching` says that a placeholder stands directly before. -/
inductive Spells : Bool → List Char → Prop
  /-- There may be nothing more. -/
  | nil (touching : Bool) : Spells touching []
  /-- Text without braces. -/
  | literal {text rest : List Char} (touching : Bool) (h : Braceless text)
      (hrest : Spells false rest) : Spells touching (text ++ rest)
  /-- A placeholder, unless one stands directly before. -/
  | param {name rest : List Char} (h : Braceless name) (hrest : Spells true rest) :
      Spells false ('\x7b' :: (name ++ '\x7d' :: rest))

/-- The texts of templates: segments without slashes, each after a slash. -/
def Grammatical (cs : List Char) : Prop :=
  ∃ fields : List (List Char), fields ≠ [] ∧ (∀ f ∈ fields, '/' ∉ f ∧ Spells false f) ∧
    cs = fields.flatMap fun f => '/' :: f

/-! ### Canonical segments -/

/-- The text of a part: the literal text, or the name of the placeholder. -/
def Part.text : Part → List Char
  | .literal text => text.toList
  | .param name => name.toList

/-- Whether a part is a placeholder. -/
def Part.isParam : Part → Bool
  | .literal _ => false
  | .param _ => true

/-- No two parts of one kind touch. -/
def Alternating (parts : Segment) : Prop := parts.IsChain fun p q => p.isParam ≠ q.isParam

/-- The parts of a segment are without braces and not empty, and no two of one kind touch. -/
structure Regular (parts : Segment) : Prop where
  braceless : ∀ p ∈ parts, Braceless p.text
  alternating : Alternating parts

/-- The segments of templates: regular ones, without slashes in their texts and names. -/
structure Canonical (segments : List Segment) : Prop where
  regular : ∀ segment ∈ segments, Regular segment
  slashFree : ∀ segment ∈ segments, ∀ p ∈ segment, '/' ∉ p.text

theorem alternating_cons_cons_iff {p q : Part} {parts : Segment} :
    Alternating (p :: q :: parts) ↔ p.isParam ≠ q.isParam ∧ Alternating (q :: parts) :=
  List.isChain_cons_cons

theorem alternating_singleton (p : Part) : Alternating [p] := List.isChain_singleton p

theorem Alternating.tail {p : Part} {parts : Segment} (h : Alternating (p :: parts)) :
    Alternating parts := List.IsChain.tail h

theorem regular_nil : Regular [] := ⟨List.forall_mem_nil _, List.isChain_nil⟩

/-- A part without braces goes before regular ones if it is of another kind than the first. -/
theorem regular_cons_iff {p : Part} {parts : Segment} :
    Regular (p :: parts) ↔ Braceless p.text ∧ Regular parts ∧ Alternating (p :: parts) := by
  constructor
  · rintro ⟨hbraceless, halt⟩
    rw [List.forall_mem_cons] at hbraceless
    exact ⟨hbraceless.1, ⟨hbraceless.2, halt.tail⟩, halt⟩
  · rintro ⟨hp, hparts, halt⟩
    exact ⟨List.forall_mem_cons.2 ⟨hp, hparts.braceless⟩, halt⟩

/-- Literal text may stand before a placeholder. -/
theorem Alternating.literal_param {name : String} {parts : Segment}
    (h : Alternating (.param name :: parts)) (text : String) :
    Alternating (.literal text :: .param name :: parts) :=
  alternating_cons_cons_iff.2 ⟨Bool.false_ne_true, h⟩

/-- A placeholder may stand before literal text. -/
theorem Alternating.param_literal {text : String} {parts : Segment}
    (h : Alternating (.literal text :: parts)) (name : String) :
    Alternating (.param name :: .literal text :: parts) :=
  alternating_cons_cons_iff.2 ⟨Bool.false_ne_true.symm, h⟩

/-- Where one placeholder may stand, another may. -/
theorem Alternating.rename {name : String} {parts : Segment}
    (h : Alternating (.param name :: parts)) (name' : String) :
    Alternating (.param name' :: parts) := by
  cases parts with
  | nil => exact alternating_singleton (.param name')
  | cons q parts => exact alternating_cons_cons_iff.2 (alternating_cons_cons_iff.1 h :)

/-- Two placeholders do not touch. -/
theorem not_alternating_params {name name' : String} {parts : Segment} :
    ¬ Alternating (.param name :: .param name' :: parts) :=
  fun h => (alternating_cons_cons_iff.1 h).1 rfl

/-! ### What is read is canonical -/

theorem literalPart_of_ne_nil {collected : List Char} (h : collected ≠ []) :
    literalPart collected = [.literal (String.ofList collected.reverse)] := if_neg h

/-- Collected text goes before parts that literal text can stand before. -/
theorem regular_literalPart_append {collected : List Char} {parts : Segment}
    (hopen : '\x7b' ∉ collected) (hclose : '\x7d' ∉ collected) (hparts : Regular parts)
    (hbefore : ∀ text, Alternating (.literal text :: parts)) :
    Regular (literalPart collected ++ parts) ∧
      (collected ≠ [] → ∀ name, Alternating (.param name :: (literalPart collected ++ parts))) := by
  by_cases hcol : collected = []
  · subst hcol
    exact ⟨hparts, absurd rfl⟩
  · rw [literalPart_of_ne_nil hcol]
    have hbraceless : Braceless (Part.literal (String.ofList collected.reverse)).text := by
      rw [Part.text, String.toList_ofList]
      exact ⟨by simpa using hcol, by simpa using hopen, by simpa using hclose⟩
    exact ⟨regular_cons_iff.2 ⟨hbraceless, hparts, hbefore _⟩,
      fun _ name => (hbefore _).param_literal name⟩

/-- The two readers of a segment, together.  Both give regular parts.  A placeholder may stand
before those of the first one if literal text was collected or a placeholder was announced.  Those
of the second one begin with a placeholder, so that literal text may stand before them. -/
theorem regular_of_read (cs : List Char) :
    (∀ touching collected parts, readLiteral touching collected cs = .ok parts →
      '\x7b' ∉ collected → '\x7d' ∉ collected →
      Regular parts ∧
        (touching = true ∨ collected ≠ [] → ∀ name, Alternating (.param name :: parts))) ∧
    (∀ touching collected parts, readName touching collected cs = .ok parts → '\x7d' ∉ collected →
      Regular parts ∧ touching = false ∧ ∀ text, Alternating (.literal text :: parts)) := by
  -- as the readers call each other, each one needs what is known of the other on a shorter text
  induction cs with
  | nil =>
      constructor
      · intro touching collected parts h hopen hclose
        simp only [readLiteral, Except.ok.injEq] at h
        obtain ⟨hregular, hbefore⟩ :=
          regular_literalPart_append hopen hclose regular_nil
            fun text => alternating_singleton (.literal text)
        rw [List.append_nil, h] at hregular hbefore
        refine ⟨hregular, fun _ name => ?_⟩
        by_cases hcol : collected = []
        · rw [← h, hcol]
          exact alternating_singleton (.param name)
        · exact hbefore hcol name
      · intro touching collected parts h
        simp [readName] at h
  | cons c cs ih =>
      obtain ⟨ihLiteral, ihName⟩ := ih
      constructor
      · intro touching collected parts h hopen hclose
        simp only [readLiteral] at h
        split at h
        · cases h
        · rename_i hcclose
          split at h
          · split at h
            · rename_i ps hps
              cases h
              obtain ⟨hregular, htouch, hbefore⟩ := ihName _ _ _ hps List.not_mem_nil
              obtain ⟨hall, hname⟩ := regular_literalPart_append hopen hclose hregular hbefore
              refine ⟨hall, ?_⟩
              rintro (rfl | hcol)
              · exact hname (by simpa using htouch)
              · exact hname hcol
            · cases h
          · rename_i hcopen
            obtain ⟨hregular, hbefore⟩ := ihLiteral _ _ _ h
              (List.not_mem_cons_of_ne_of_not_mem (Ne.symm hcopen) hopen)
              (List.not_mem_cons_of_ne_of_not_mem (Ne.symm hcclose) hclose)
            exact ⟨hregular, fun _ => hbefore (Or.inr (List.cons_ne_nil c collected))⟩
      · intro touching collected parts h hclose
        simp only [readName] at h
        split at h
        · split at h
          · cases h
          · rename_i hne
            split at h
            · cases h
            · rename_i hopen
              split at h
              · cases h
              · rename_i htouch
                split at h
                · rename_i ps hps
                  cases h
                  obtain ⟨hregular, hbefore⟩ :=
                    ihLiteral _ _ _ hps List.not_mem_nil List.not_mem_nil
                  have halt := hbefore (Or.inl rfl) (String.ofList collected.reverse)
                  have hbraceless :
                      Braceless (Part.param (String.ofList collected.reverse)).text := by
                    rw [Part.text, String.toList_ofList]
                    exact ⟨by simpa using hne, by simpa using hopen, by simpa using hclose⟩
                  exact ⟨regular_cons_iff.2 ⟨hbraceless, hregular, halt⟩, by simpa using htouch,
                    halt.literal_param⟩
                · cases h
        · rename_i hcclose
          exact ihName _ _ _ h (List.not_mem_cons_of_ne_of_not_mem (Ne.symm hcclose) hclose)

/-- A segment is read as regular parts. -/
theorem regular_of_parseSegment {cs : List Char} {parts : Segment}
    (h : parseSegment cs = .ok parts) : Regular parts :=
  ((regular_of_read cs).1 _ _ _ h List.not_mem_nil List.not_mem_nil).1

/-! ### The readers, part by part -/

/-- Text without braces is collected. -/
theorem readLiteral_append {text : List Char} (hopen : '\x7b' ∉ text) (hclose : '\x7d' ∉ text)
    (touching : Bool) (collected cs : List Char) :
    readLiteral touching collected (text ++ cs) =
      readLiteral touching (text.reverse ++ collected) cs := by
  induction text generalizing collected with
  | nil => rfl
  | cons c text ih =>
      rw [List.mem_cons, not_or] at hopen hclose
      rw [List.cons_append, readLiteral, if_neg (Ne.symm hclose.1), if_neg (Ne.symm hopen.1),
        ih hopen.2 hclose.2, List.reverse_cons, List.append_assoc]
      rfl

/-- A name is collected up to its end. -/
theorem readName_append {name : List Char} (hclose : '\x7d' ∉ name) (touching : Bool)
    (collected cs : List Char) :
    readName touching collected (name ++ cs) =
      readName touching (name.reverse ++ collected) cs := by
  induction name generalizing collected with
  | nil => rfl
  | cons c name ih =>
      rw [List.mem_cons, not_or] at hclose
      rw [List.cons_append, readName, if_neg (Ne.symm hclose.1), ih hclose.2, List.reverse_cons,
        List.append_assoc]
      rfl

/-- A placeholder is read if none is announced directly before it. -/
theorem readLiteral_param {touching : Bool} {collected name cs : List Char} {parts : Segment}
    (htouch : touching = true → collected ≠ []) (hname : Braceless name)
    (hparts : readLiteral true [] cs = .ok parts) :
    readLiteral touching collected ('\x7b' :: (name ++ '\x7d' :: cs)) =
      .ok (literalPart collected ++ .param (String.ofList name) :: parts) := by
  have hfree : (touching && decide (collected = [])) = false := by
    cases touching with
    | false => rfl
    | true => simpa using htouch rfl
  have hrev : name.reverse ≠ [] := by simpa using hname.ne_nil
  have hopen : '\x7b' ∉ name.reverse := by simpa using hname.not_mem_open
  have hread : readName false [] (name ++ '\x7d' :: cs) =
      .ok (.param (String.ofList name) :: parts) := by
    rw [readName_append hname.not_mem_close, List.append_nil, readName, if_pos rfl, if_neg hrev,
      if_neg hopen, if_neg Bool.false_ne_true, hparts, List.reverse_reverse]
  rw [readLiteral, if_neg (by decide), if_pos rfl, hfree, hread]

/-- Behind collected text it does not matter what was announced before it. -/
theorem readLiteral_of_collected {collected : List Char} (h : collected ≠ []) (touching : Bool)
    (cs : List Char) :
    readLiteral touching collected cs = readLiteral false collected cs := by
  induction cs generalizing collected with
  | nil => rfl
  | cons c cs ih =>
      rw [readLiteral, readLiteral, ih (List.cons_ne_nil c collected), decide_eq_false h,
        Bool.and_false, Bool.and_false]

/-! ### The segments that are read -/

theorem segmentChars_literal (text : String) (parts : Segment) :
    segmentChars (.literal text :: parts) = text.toList ++ segmentChars parts := rfl

theorem segmentChars_param (name : String) (parts : Segment) :
    segmentChars (.param name :: parts) =
      '\x7b' :: (name.toList ++ '\x7d' :: segmentChars parts) := by
  simp [segmentChars, Part.chars]

/-- What follows the grammar is read. -/
theorem readLiteral_of_spells {touching : Bool} {cs : List Char} (h : Spells touching cs) :
    ∀ collected, ∃ parts, readLiteral touching collected cs = .ok parts := by
  induction h with
  | nil touching => exact fun collected => ⟨literalPart collected, rfl⟩
  | @literal text rest touching hbraceless _ ih =>
      intro collected
      obtain ⟨parts, hparts⟩ := ih (text.reverse ++ collected)
      refine ⟨parts, ?_⟩
      rw [readLiteral_append hbraceless.not_mem_open hbraceless.not_mem_close,
        readLiteral_of_collected (by simp [hbraceless.ne_nil]), hparts]
  | param hname _ ih =>
      intro collected
      obtain ⟨parts, hparts⟩ := ih []
      exact ⟨_, readLiteral_param (absurd · Bool.false_ne_true) hname hparts⟩

/-- The text of regular parts follows the grammar. -/
theorem spells_of_regular {parts : Segment} (h : Regular parts) {touching : Bool}
    (htouch : touching = true → ∀ name, Alternating (.param name :: parts)) :
    Spells touching (segmentChars parts) := by
  induction parts generalizing touching with
  | nil => exact .nil touching
  | cons p parts ih =>
      obtain ⟨hbraceless, hparts, halt⟩ := regular_cons_iff.1 h
      cases p with
      | literal text =>
          exact .literal touching hbraceless (ih hparts (absurd · Bool.false_ne_true))
      | param name =>
          obtain rfl : touching = false := by
            cases touching with
            | false => rfl
            | true => exact absurd (htouch rfl name) not_alternating_params
          rw [segmentChars_param]
          exact .param hbraceless (ih hparts fun _ => halt.rename)

/-- **A segment is read exactly if it follows the grammar.** -/
theorem exists_parseSegment_iff (cs : List Char) :
    (∃ parts, parseSegment cs = .ok parts) ↔ Spells false cs := by
  constructor
  · rintro ⟨parts, hparts⟩
    rw [← segmentChars_of_parseSegment hparts]
    exact spells_of_regular (regular_of_parseSegment hparts) (absurd · Bool.false_ne_true)
  · exact fun h => readLiteral_of_spells h []

theorem literalPart_reverse {text : String} (h : text.toList ≠ []) :
    literalPart text.toList.reverse = [.literal text] := by
  rw [literalPart_of_ne_nil (by simpa using h), List.reverse_reverse, String.ofList_toList]

/-- Regular parts are read back behind text that was collected before the first of them. -/
theorem readLiteral_segmentChars {parts : Segment} {touching : Bool} {collected : List Char}
    (h : Regular (literalPart collected ++ parts))
    (htouch : touching = true →
      ∀ name, Alternating (.param name :: (literalPart collected ++ parts))) :
    readLiteral touching collected (segmentChars parts) = .ok (literalPart collected ++ parts) := by
  induction parts generalizing touching collected with
  | nil =>
      rw [List.append_nil]
      rfl
  | cons p parts ih =>
      cases p with
      | literal text =>
          -- nothing was collected, since two literal texts do not touch
          obtain rfl : collected = [] := by
            by_contra hcol
            rw [literalPart_of_ne_nil hcol] at h
            exact (alternating_cons_cons_iff.1 h.alternating).1 rfl
          have hbraceless : Braceless text.toList := (regular_cons_iff.1 h).1
          have hpart := literalPart_reverse hbraceless.ne_nil
          rw [segmentChars_literal,
            readLiteral_append hbraceless.not_mem_open hbraceless.not_mem_close, List.append_nil,
            ih (by rwa [hpart]) (by rwa [hpart]), hpart]
          rfl
      | param name =>
          have hregular : Regular (.param name :: parts) := by
            by_cases hcol : collected = []
            · rwa [hcol] at h
            · rw [literalPart_of_ne_nil hcol] at h
              exact (regular_cons_iff.1 h).2.1
          obtain ⟨hbraceless, hparts, halt⟩ := regular_cons_iff.1 hregular
          have hfree : touching = true → collected ≠ [] := by
            rintro htrue rfl
            exact not_alternating_params (htouch htrue name)
          have hrest : readLiteral true [] (segmentChars parts) = .ok parts :=
            ih hparts fun _ => halt.rename
          have hname : Braceless name.toList := hbraceless
          rw [segmentChars_param, readLiteral_param hfree hname hrest, String.ofList_toList]

/-- Regular parts are read back. -/
theorem parseSegment_segmentChars {parts : Segment} (h : Regular parts) :
    parseSegment (segmentChars parts) = .ok parts :=
  readLiteral_segmentChars h (absurd · Bool.false_ne_true)

/-! ### Segment by segment -/

theorem parseSegments_cons {cs : List Char} {rest : List (List Char)} {segment : Segment}
    {segments : List Segment} (h : parseSegment cs = .ok segment)
    (hrest : parseSegments rest = .ok segments) :
    parseSegments (cs :: rest) = .ok (segment :: segments) := by
  rw [parseSegments, h, hrest]

/-- Texts that follow the grammar are read. -/
theorem exists_parseSegments {fs : List (List Char)} (h : ∀ f ∈ fs, Spells false f) :
    ∃ segments, parseSegments fs = .ok segments := by
  induction fs with
  | nil => exact ⟨[], rfl⟩
  | cons f fs ih =>
      rw [List.forall_mem_cons] at h
      obtain ⟨segment, hsegment⟩ := (exists_parseSegment_iff f).2 h.1
      obtain ⟨segments, hsegments⟩ := ih h.2
      exact ⟨segment :: segments, parseSegments_cons hsegment hsegments⟩

/-- If the texts are read, each of them is. -/
theorem exists_parseSegment_of_mem {fs : List (List Char)} {segments : List Segment}
    (h : parseSegments fs = .ok segments) {f : List Char} (hf : f ∈ fs) :
    ∃ segment, parseSegment f = .ok segment := by
  induction fs generalizing segments with
  | nil => cases hf
  | cons g fs ih =>
      obtain ⟨segment, others, -, hsegment, hothers⟩ := parseSegments_eq_ok_cons h
      rcases List.mem_cons.1 hf with rfl | hf
      · exact ⟨segment, hsegment⟩
      · exact ih hothers hf

/-- Segments with regular parts are read back. -/
theorem parseSegments_segmentChars {segments : List Segment} (h : ∀ s ∈ segments, Regular s) :
    parseSegments (segments.map segmentChars) = .ok segments := by
  induction segments with
  | nil => rfl
  | cons segment segments ih =>
      rw [List.forall_mem_cons] at h
      exact parseSegments_cons (parseSegment_segmentChars h.1) (ih h.2)

theorem parseChars_of_ne_nil {rest : List Char} (h : rest ≠ []) :
    parseChars ('/' :: rest) = parseSegments (Text.fields '/' rest) := by
  cases rest with
  | nil => exact absurd rfl h
  | cons c rest => rfl

/-! ### Templates -/

/-- **A template is read exactly if it follows the grammar.** -/
theorem exists_parseChars_iff (cs : List Char) :
    (∃ segments, parseChars cs = .ok segments) ↔ Grammatical cs := by
  constructor
  · rintro ⟨segments, hsegments⟩
    rcases parseChars_eq_ok hsegments with ⟨rfl, rfl⟩ | ⟨rest, -, rfl, hs⟩
    · refine ⟨[[]], List.cons_ne_nil _ _, ?_, rfl⟩
      rintro f hf
      obtain rfl := List.mem_singleton.1 hf
      exact ⟨List.not_mem_nil, .nil false⟩
    · refine ⟨Text.fields '/' rest, Text.fields_ne_nil '/' rest, fun f hf => ?_,
        (Text.flatMap_fields '/' rest).symm⟩
      exact ⟨Text.not_mem_of_mem_fields hf,
        (exists_parseSegment_iff f).1 (exists_parseSegment_of_mem hs hf)⟩
  · rintro ⟨fs, hne, hfs, rfl⟩
    obtain ⟨f, gs, rfl⟩ := List.exists_cons_of_ne_nil hne
    rw [List.flatMap_cons, List.cons_append]
    by_cases hrest : f ++ gs.flatMap (fun g => '/' :: g) = []
    · exact ⟨[], by rw [hrest]; rfl⟩
    · have hfields : Text.fields '/' (f ++ gs.flatMap fun g => '/' :: g) = f :: gs :=
        Text.fields_flatMap (hfs f List.mem_cons_self).1
          fun g hg => (hfs g (List.mem_cons_of_mem f hg)).1
      rw [parseChars_of_ne_nil hrest, hfields]
      exact exists_parseSegments fun g hg => (hfs g hg).2

/-- Parts that are free of slashes have a text that is. -/
theorem slash_not_mem_segmentChars {segment : Segment} (h : ∀ p ∈ segment, '/' ∉ p.text) :
    '/' ∉ segmentChars segment := by
  intro hmem
  obtain ⟨p, hp, hc⟩ := List.mem_flatMap.1 hmem
  cases p with
  | literal text => exact h _ hp hc
  | param name =>
      simp only [Part.chars, List.cons_append, List.mem_cons, List.mem_append] at hc
      rcases hc with hc | hc | hc | hc
      · cases hc
      · exact h _ hp hc
      · cases hc
      · cases hc

theorem text_subset_segmentChars {p : Part} {segment : Segment} (h : p ∈ segment) :
    p.text ⊆ segmentChars segment := by
  intro c hc
  refine List.mem_flatMap.2 ⟨p, h, ?_⟩
  cases p with
  | literal text => exact hc
  | param name => exact List.mem_append_left _ (List.mem_cons_of_mem _ hc)

/-- Braceless parts give a segment a text. -/
theorem segmentChars_ne_nil {segment : Segment} (h : Regular segment) (hne : segment ≠ []) :
    segmentChars segment ≠ [] := by
  obtain ⟨p, parts, rfl⟩ := List.exists_cons_of_ne_nil hne
  intro hnil
  have hsub := text_subset_segmentChars (List.mem_cons_self (a := p) (l := parts))
  rw [hnil, List.subset_nil] at hsub
  exact (regular_cons_iff.1 h).1.ne_nil hsub

/-- What is read is canonical. -/
theorem canonical_of_parseChars {cs : List Char} {segments : List Segment}
    (h : parseChars cs = .ok segments) : Canonical segments := by
  rcases parseChars_eq_ok h with ⟨-, rfl⟩ | ⟨rest, -, -, hs⟩
  · exact ⟨List.forall_mem_nil _, List.forall_mem_nil _⟩
  · constructor
    · intro segment hm
      obtain ⟨f, -, hf⟩ := parseSegment_of_mem hs hm
      exact regular_of_parseSegment hf
    · intro segment hm p hp hslash
      obtain ⟨f, hmem, hf⟩ := parseSegment_of_mem hs hm
      refine Text.not_mem_of_mem_fields hmem ?_
      rw [← segmentChars_of_parseSegment hf]
      exact text_subset_segmentChars hp hslash

/-- **What is canonical is read back**, unless it is one empty segment. -/
theorem parseChars_chars {segments : List Segment} (h : Canonical segments)
    (hne : segments ≠ [[]]) : parseChars (chars segments) = .ok segments := by
  cases segments with
  | nil => rfl
  | cons segment segments =>
      have hslash : ∀ s ∈ segment :: segments, '/' ∉ segmentChars s :=
        fun s hs => slash_not_mem_segmentChars (h.slashFree s hs)
      have hchars : chars (segment :: segments) = '/' :: (segmentChars segment ++
          (segments.map segmentChars).flatMap fun f => '/' :: f) := by
        rw [chars_of_ne_nil (List.cons_ne_nil _ _), List.flatMap_cons, List.flatMap_map,
          List.cons_append]
      have hrest : segmentChars segment ++
          (segments.map segmentChars).flatMap (fun f => '/' :: f) ≠ [] := by
        intro hnil
        obtain ⟨hfirst, hothers⟩ := List.append_eq_nil_iff.1 hnil
        cases segments with
        | nil =>
            refine segmentChars_ne_nil (h.regular _ List.mem_cons_self) ?_ hfirst
            rintro rfl
            exact hne rfl
        | cons other others => cases hothers
      rw [List.forall_mem_cons] at hslash
      rw [hchars, parseChars_of_ne_nil hrest, Text.fields_flatMap hslash.1
        (List.forall_mem_map.2 hslash.2), ← List.map_cons, parseSegments_segmentChars h.regular]

theorem parse_eq_ok_iff_parseChars {template : String} {segments : List Segment} :
    parse template = .ok segments ↔ parseChars template.toList = .ok segments := by
  refine ⟨parseChars_of_parse, fun h => ?_⟩
  rw [parse, h]

/-- **The templates that can be read, and what they are read as.**  A template is read exactly if it
follows the grammar.  It is read as given segments exactly if they are canonical, not one empty
segment, and printed as the template. -/
theorem parse_eq_ok_iff (template : String) :
    ((∃ segments, parse template = .ok segments) ↔ Grammatical template.toList) ∧
      ∀ segments, parse template = .ok segments ↔
        Canonical segments ∧ segments ≠ [[]] ∧ print segments = template := by
  simp only [parse_eq_ok_iff_parseChars]
  refine ⟨exists_parseChars_iff template.toList, fun segments => ⟨fun h => ?_, ?_⟩⟩
  · refine ⟨canonical_of_parseChars h, ?_, ?_⟩
    · rintro rfl
      exact (wellFormed_of_parse (parse_eq_ok_iff_parseChars.2 h)).chars_ne
        (List.cons_ne_nil _ _) rfl
    · rw [print, chars_of_parseChars h, String.ofList_toList]
  · rintro ⟨hcanonical, hne, rfl⟩
    rw [print, String.toList_ofList]
    exact parseChars_chars hcanonical hne

end ApiContract.Template
