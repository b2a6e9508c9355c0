/-
**Which fillings a single pass finds.**

The single pass never takes a text back.  It therefore finds a filling exactly if each placeholder
before a literal is filled as shortly as the literal allows, wherever the rest of the template would
want a longer text; and if the text of such a placeholder begins with a single byte.

Main definitions:

* `Template.stops` — the literals that end the placeholders of a segment;
* `Template.Prompt`, `Template.Plain` — a text that ends at the first place where the literal
  stands, and one that begins with a single byte;
* `Template.Swift` — texts that are both;
* `Template.segmentSteps` — the steps of segments.

Main results:

* `Template.matchSegment?_eq_some_iff` — **what the single pass finds in a segment**;
* `Template.matchSegments?_fields_eq_some_iff` — what it finds in the segments of a path;
* `Template.length_names` — a template has as many names as holes.
-/

import ApiContract.Path.Prefix
import ApiContract.Path.SegmentMatch
import ApiContract.Proofs.Path.Filling
import ApiContract.Proofs.Path.Template

set_option relaxedAutoImplicit false
set_option autoImplicit false

namespace ApiContract.Template

open Cut (Step Fills first? partSteps stepsOf)

/-! ### Prompt texts -/

/-- The literal after each placeholder of a segment; none after one at the end. -/
def stops : Segment → List (Option String)
  | [] => []
  | .literal _ :: parts => stops parts
  | .param _ :: .literal text :: parts => some text :: stops parts
  | .param _ :: parts => none :: stops parts

/-- The literal after a placeholder begins nowhere within the text of the placeholder, its first
character apart: no shorter text could be taken. -/
def Prompt (stop : Option String) (text : List Char) : Prop :=
  ∀ literal, stop = some literal → ∀ first last, text = first ++ last → first ≠ [] → last ≠ [] →
    ¬ literal.toList <+: last ++ literal.toList

/-- The text of a placeholder before a literal begins with a single byte. -/
def Plain (stop : Option String) (text : List Char) : Prop :=
  stop.isSome → ∀ c, text.head? = some c → isSingleByte c = true

theorem prompt_none (text : List Char) : Prompt none text := by
  rintro literal ⟨⟩

theorem plain_none (text : List Char) : Plain none text := by
  rintro ⟨⟩

/-- The texts that placeholders take before given literals are prompt, and begin with a single
byte. -/
def Swift (stops : List (Option String)) (texts : List (List Char)) : Prop :=
  ∀ p ∈ stops.zip texts, Prompt p.1 p.2 ∧ Plain p.1 p.2

theorem swift_nil (texts : List (List Char)) : Swift [] texts := by
  intro p hp
  cases hp

theorem swift_cons_iff {stop : Option String} {stops : List (Option String)} {text : List Char}
    {texts : List (List Char)} :
    Swift (stop :: stops) (text :: texts) ↔
      (Prompt stop text ∧ Plain stop text) ∧ Swift stops texts := by
  simp only [Swift, List.zip_cons_cons, List.forall_mem_cons]

theorem swift_append_iff {stops₁ stops₂ : List (Option String)} {texts₁ texts₂ : List (List Char)}
    (h : stops₁.length = texts₁.length) :
    Swift (stops₁ ++ stops₂) (texts₁ ++ texts₂) ↔ Swift stops₁ texts₁ ∧ Swift stops₂ texts₂ := by
  simp only [Swift, List.zip_append h, List.forall_mem_append]

/-- A literal that begins before its own end begins in what stands before its end, whatever comes
after. -/
theorem prefix_append_iff (literal last after : List Char) :
    literal <+: last ++ (literal ++ after) ↔ literal <+: last ++ literal := by
  rw [← List.append_assoc]
  constructor
  · intro h
    exact List.prefix_of_prefix_length_le h (List.prefix_append ..) (by simp)
  · intro h
    exact h.trans (List.prefix_append ..)

/-- A text is prompt exactly if the literal is first found at its end. -/
theorem prompt_iff_cutAt (literal : String) (c : Char) (before after : List Char) :
    Prompt (some literal) (c :: before) ↔
      Text.cutAt literal.toList (before ++ (literal.toList ++ after)) = some (before, after) := by
  rw [Text.cutAt_eq_some_iff]
  constructor
  · intro h
    refine ⟨rfl, fun first last hb hne => ?_⟩
    rw [prefix_append_iff]
    exact h literal rfl (c :: first) last (by rw [hb]; rfl) (by simp) hne
  · rintro ⟨-, h⟩ _ ⟨⟩ first last hb hf hne
    cases first with
    | nil => exact absurd rfl hf
    | cons d first =>
        rw [List.cons_append, List.cons.injEq] at hb
        rw [← prefix_append_iff _ _ after]
        exact h first last hb.2 hne

/-- There is one stop for each placeholder. -/
theorem length_stops (parts : Segment) :
    (stops parts).length = (parts.flatMap partSteps).count .hole := by
  fun_induction stops parts with
  | case1 => rfl
  | case2 text parts ih =>
      have hliteral : (text.toList.map Step.char).count .hole = 0 :=
        List.count_eq_zero.2 (by simp)
      rw [ih, List.flatMap_cons, List.count_append, partSteps, hliteral, Nat.zero_add]
  | case3 name text parts ih =>
      have hliteral : (text.toList.map Step.char).count .hole = 0 :=
        List.count_eq_zero.2 (by simp)
      rw [List.length_cons, ih, List.flatMap_cons, List.flatMap_cons, List.count_append,
        List.count_append, partSteps, partSteps, hliteral, List.count_singleton_self]
      omega
  | case4 name parts hne ih =>
      rw [List.length_cons, ih, List.flatMap_cons, List.count_append, partSteps,
        List.count_singleton_self, Nat.add_comm]

/-! ### One segment -/

section

variable {parts : Segment} {texts : List (List Char)} {cs : List Char}

/-- A placeholder is filled by a non-empty beginning of the text. -/
theorem fills_hole_iff {steps : List Step} :
    Fills (.hole :: steps) texts cs ↔
      ∃ text ts rest, texts = text :: ts ∧ cs = text ++ rest ∧ text ≠ [] ∧ '/' ∉ text ∧
        Fills steps ts rest := by
  constructor
  · intro h
    cases h with
    | @hole text _ ts rest hne hs h => exact ⟨text, ts, rest, rfl, rfl, hne, hs, h⟩
  · rintro ⟨text, ts, rest, rfl, rfl, hne, hs, h⟩
    exact h.hole hne hs

/-- The pass goes over a literal as every filling does. -/
theorem fills_literal_iff {literal : String} :
    Fills ((Part.literal literal :: parts).flatMap partSteps) texts cs ↔
      ∃ rest, cs = literal.toList ++ rest ∧ Fills (parts.flatMap partSteps) texts rest := by
  rw [List.flatMap_cons, partSteps]
  constructor
  · exact Fills.exists_of_literal
  · rintro ⟨rest, rfl, h⟩
    exact (Fills.literal _).append h

/-- A filling that the pass can find ends its first placeholder where the literal is first found. -/
theorem exists_cutAt {name literal : String} {c : Char} {rest : List Char}
    (h : Fills ((Part.param name :: .literal literal :: parts).flatMap partSteps) texts (c :: rest))
    (hswift : Swift (stops (.param name :: .literal literal :: parts)) texts) :
    isSingleByte c = true ∧ ∃ before after ts, texts = (c :: before) :: ts ∧
      Text.cutAt literal.toList rest = some (before, after) ∧
        Fills (parts.flatMap partSteps) ts after ∧ Swift (stops parts) ts := by
  obtain ⟨text, ts, rest', rfl, heq, hne, -, h⟩ := fills_hole_iff.1 h
  obtain ⟨after, rfl, hparts⟩ := fills_literal_iff.1 h
  obtain ⟨⟨hprompt, hplain⟩, hts⟩ := swift_cons_iff.1 hswift
  cases text with
  | nil => exact absurd rfl hne
  | cons d before =>
      rw [List.cons_append, List.cons.injEq] at heq
      obtain ⟨rfl, rfl⟩ := heq
      exact ⟨hplain rfl c rfl, before, after, ts, rfl, (prompt_iff_cutAt ..).1 hprompt, hparts, hts⟩

/-- A placeholder that ends where the literal is first found is filled, and its text is one that the
pass can find. -/
theorem fills_of_cutAt {name literal : String} {c : Char} {rest before after : List Char}
    (hc : isSingleByte c = true) (hcut : Text.cutAt literal.toList rest = some (before, after))
    (hs : '/' ∉ c :: before) (h : Fills ((Part.literal literal :: parts).flatMap partSteps) texts
      (literal.toList ++ after)) (hswift : Swift (stops parts) texts) :
    Fills ((Part.param name :: .literal literal :: parts).flatMap partSteps)
        ((c :: before) :: texts) (c :: rest) ∧
      Swift (stops (.param name :: .literal literal :: parts)) ((c :: before) :: texts) := by
  obtain ⟨hrest, -⟩ := Text.cutAt_eq_some_iff.1 hcut
  have hprompt : Prompt (some literal) (c :: before) := by
    rwa [prompt_iff_cutAt literal c before after, ← hrest]
  constructor
  · rw [hrest]
    exact fills_hole_iff.2 ⟨c :: before, texts, _, rfl, rfl, by simp, hs, h⟩
  · refine swift_cons_iff.2 ⟨⟨hprompt, ?_⟩, hswift⟩
    rintro - d ⟨⟩
    exact hc

/-- **What the single pass finds in a segment**: the filling in which every text before a literal
is prompt and begins with a single byte. -/
theorem matchSegment?_eq_some_iff (hsep : Separated parts) (hcs : '/' ∉ cs) :
    matchSegment? parts cs = some texts ↔
      Fills (parts.flatMap partSteps) texts cs ∧ Swift (stops parts) texts := by
  -- one case for each clause of the pass; where it fails, the filling is shown to be none
  fun_induction matchSegment? parts cs generalizing texts with
  | case1 =>
      constructor
      · rintro ⟨⟩
        exact ⟨.nil, swift_nil _⟩
      · rintro ⟨h, -⟩
        cases h
        rfl
  | case2 c cs =>
      constructor
      · rintro ⟨⟩
      · rintro ⟨h, -⟩
        cases h
  | case3 literal parts cs rest hrest ih =>
      obtain rfl := Text.isPrefixOf?_eq_some_iff.1 hrest
      rw [ih hsep (fun h => hcs (List.mem_append_right _ h)), fills_literal_iff]
      constructor
      · rintro ⟨h, hswift⟩
        exact ⟨⟨rest, rfl, h⟩, hswift⟩
      · rintro ⟨⟨rest', heq, h⟩, hswift⟩
        obtain rfl := List.append_cancel_left heq
        exact ⟨h, hswift⟩
  | case4 literal parts cs hnone =>
      rw [fills_literal_iff]
      constructor
      · rintro ⟨⟩
      · rintro ⟨⟨rest, rfl, -⟩, -⟩
        exact absurd (List.prefix_append ..) (Text.isPrefixOf?_eq_none_iff.1 hnone)
  | case5 name =>
      constructor
      · rintro ⟨⟩
      · rintro ⟨h, -⟩
        obtain ⟨text, ts, rest, -, heq, hne, -⟩ := fills_hole_iff.1 h
        exact absurd (List.append_eq_nil_iff.1 heq.symm).1 hne
  | case6 name cs hne =>
      constructor
      · rintro ⟨⟩
        refine ⟨fills_hole_iff.2 ⟨cs, [], [], rfl, by simp, hne, hcs, .nil⟩, ?_⟩
        exact swift_cons_iff.2 ⟨⟨prompt_none cs, plain_none cs⟩, swift_nil _⟩
      · rintro ⟨h, -⟩
        obtain ⟨text, ts, rest, rfl, rfl, -, -, h⟩ := fills_hole_iff.1 h
        cases h
        rw [List.append_nil]
  | case7 name literal parts =>
      constructor
      · rintro ⟨⟩
      · rintro ⟨h, -⟩
        obtain ⟨text, ts, rest, -, heq, hne, -⟩ := fills_hole_iff.1 h
        exact absurd (List.append_eq_nil_iff.1 heq.symm).1 hne
  | case8 name literal parts c rest hc before after hcut ih =>
      obtain ⟨hrest, -⟩ := Text.cutAt_eq_some_iff.1 hcut
      have hdrop : rest.drop before.length = literal.toList ++ after := by
        rw [hrest, List.drop_left]
      have hslash : '/' ∉ c :: before ∧ '/' ∉ literal.toList ++ after := by
        rw [hrest, ← List.cons_append, List.mem_append, not_or] at hcs
        exact hcs
      rw [hdrop] at ih ⊢
      rw [Option.map_eq_some_iff]
      constructor
      · rintro ⟨ts, hts, rfl⟩
        obtain ⟨h, hswift⟩ := (ih hsep hslash.2).1 hts
        exact fills_of_cutAt hc hcut hslash.1 h hswift
      · rintro ⟨h, hswift⟩
        obtain ⟨-, before', after', ts, rfl, hcut', hparts, hts⟩ := exists_cutAt h hswift
        obtain ⟨rfl, rfl⟩ : before = before' ∧ after = after' := by
          rw [hcut] at hcut'
          simpa using hcut'
        exact ⟨ts, (ih hsep hslash.2).2 ⟨fills_literal_iff.2 ⟨after, rfl, hparts⟩, hts⟩, rfl⟩
  | case9 name literal parts c rest hc hcut =>
      constructor
      · rintro ⟨⟩
      · rintro ⟨h, hswift⟩
        obtain ⟨-, _, _, _, -, hcut', -⟩ := exists_cutAt h hswift
        rw [hcut] at hcut'
        cases hcut'
  | case10 name literal parts c rest hc =>
      constructor
      · rintro ⟨⟩
      · rintro ⟨h, hswift⟩
        exact absurd (exists_cutAt h hswift).1 hc
  | case11 => exact absurd hsep id

end

/-! ### A whole path -/

/-- The steps of segments, with a slash before each. -/
def segmentSteps (segments : List Segment) : List Step :=
  segments.flatMap fun segment => .char '/' :: segment.flatMap partSteps

theorem stepsOf_of_ne_nil {segments : List Segment} (h : segments ≠ []) :
    stepsOf segments = segmentSteps segments := by
  cases segments with
  | nil => exact absurd rfl h
  | cons segment segments => rfl

section

variable {segments : List Segment} {texts : List (List Char)} {cs : List Char}

/-- A filling of segments is one of the first segment and one of the others. -/
theorem fills_segmentSteps_cons_iff {segment : Segment} :
    Fills (segmentSteps (segment :: segments)) texts cs ↔
      ∃ t₁ t₂ c₁ c₂, texts = t₁ ++ t₂ ∧ cs = '/' :: (c₁ ++ c₂) ∧
        Fills (segment.flatMap partSteps) t₁ c₁ ∧ Fills (segmentSteps segments) t₂ c₂ := by
  constructor
  · intro h
    cases h with
    | char _ h =>
        obtain ⟨t₁, t₂, c₁, c₂, rfl, rfl, h₁, h₂⟩ := Fills.exists_of_append h
        exact ⟨t₁, t₂, c₁, c₂, rfl, rfl, h₁, h₂⟩
  · rintro ⟨t₁, t₂, c₁, c₂, rfl, rfl, h₁, h₂⟩
    exact (h₁.append h₂).char '/'

/-- No step of a segment is a slash if its literals have none. -/
theorem not_mem_steps {segment : Segment}
    (hlit : ∀ text, Part.literal text ∈ segment → '/' ∉ text.toList) :
    Step.char '/' ∉ segment.flatMap partSteps := by
  rw [List.mem_flatMap]
  rintro ⟨part, hpart, hstep⟩
  cases part with
  | literal text =>
      obtain ⟨c, hc, heq⟩ := List.mem_map.1 hstep
      cases heq
      exact hlit text hpart hc
  | param name => simp [partSteps] at hstep

/-- A text that fills a segment has no slash in it if the literals of the segment have none. -/
theorem not_mem_of_fills {segment : Segment}
    (hlit : ∀ text, Part.literal text ∈ segment → '/' ∉ text.toList)
    (h : Fills (segment.flatMap partSteps) texts cs) : '/' ∉ cs := by
  rw [← List.count_eq_zero, h.count_slash, List.count_eq_zero]
  exact not_mem_steps hlit

/-- The steps of segments have one slash for each of them. -/
theorem count_slash_segmentSteps
    (hlit : ∀ segment ∈ segments, ∀ text, Part.literal text ∈ segment → '/' ∉ text.toList) :
    (segmentSteps segments).count (.char '/') = segments.length := by
  induction segments with
  | nil => rfl
  | cons segment segments ih =>
      rw [segmentSteps, List.flatMap_cons, ← segmentSteps, List.count_append,
        List.count_cons_self,
        List.count_eq_zero.2 (not_mem_steps (hlit segment List.mem_cons_self)),
        ih fun s hs => hlit s (List.mem_cons_of_mem segment hs), List.length_cons]
      omega

/-- What fills segments begins with a slash, or there are none. -/
theorem eq_nil_or_exists_of_fills (h : Fills (segmentSteps segments) texts cs) :
    (segments = [] ∧ texts = [] ∧ cs = []) ∨ segments ≠ [] ∧ ∃ rest, cs = '/' :: rest := by
  cases segments with
  | nil =>
      cases h
      exact Or.inl ⟨rfl, rfl, rfl⟩
  | cons segment segments =>
      obtain ⟨_, _, c₁, c₂, _, rfl, _⟩ := fills_segmentSteps_cons_iff.1 h
      exact Or.inr ⟨by simp, c₁ ++ c₂, rfl⟩

theorem matchSegments?_cons_eq_some_iff {segment : Segment} {rest : List (List Char)} :
    matchSegments? (segment :: segments) (cs :: rest) = some texts ↔
      ∃ t₁ t₂, texts = t₁ ++ t₂ ∧ matchSegment? segment cs = some t₁ ∧
        matchSegments? segments rest = some t₂ := by
  simp only [matchSegments?]
  cases hs : matchSegment? segment cs with
  | none => simp
  | some t₁ =>
      simp only [Option.map_eq_some_iff]
      constructor
      · rintro ⟨t₂, ht, rfl⟩
        exact ⟨t₁, t₂, rfl, rfl, ht⟩
      · rintro ⟨_, t₂, rfl, ⟨⟩, ht⟩
        exact ⟨t₂, ht, rfl⟩

/-- The pass over the last segment. -/
theorem matchSegments?_fields_last {segment : Segment} (hcs : '/' ∉ cs) :
    matchSegments? (segment :: segments) (Text.fields '/' cs) = some texts ↔
      segments = [] ∧ matchSegment? segment cs = some texts := by
  rw [Text.fields_of_not_mem hcs, matchSegments?_cons_eq_some_iff]
  constructor
  · rintro ⟨t₁, t₂, rfl, h₁, h₂⟩
    cases segments with
    | nil =>
        cases h₂
        rw [List.append_nil]
        exact ⟨rfl, h₁⟩
    | cons s ss => cases h₂
  · rintro ⟨rfl, h⟩
    exact ⟨texts, [], (List.append_nil _).symm, h, rfl⟩

/-- The pass over a segment with others after it. -/
theorem matchSegments?_fields_append {segment : Segment} {rest : List Char} (hcs : '/' ∉ cs) :
    matchSegments? (segment :: segments) (Text.fields '/' (cs ++ '/' :: rest)) = some texts ↔
      segments ≠ [] ∧ ∃ t₁ t₂, texts = t₁ ++ t₂ ∧ matchSegment? segment cs = some t₁ ∧
        matchSegments? segments (Text.fields '/' rest) = some t₂ := by
  rw [Text.fields_append_cons hcs, matchSegments?_cons_eq_some_iff]
  refine ⟨fun h => ⟨?_, h⟩, And.right⟩
  rintro rfl
  obtain ⟨t₁, t₂, -, -, h⟩ := h
  cases hfields : Text.fields '/' rest with
  | nil => exact Text.fields_ne_nil '/' rest hfields
  | cons f fs =>
      rw [hfields] at h
      cases h

/-- A filling of the last segment. -/
theorem fills_segmentSteps_last {segment : Segment} (hcs : '/' ∉ cs) :
    Fills (segmentSteps (segment :: segments)) texts ('/' :: cs) ↔
      segments = [] ∧ Fills (segment.flatMap partSteps) texts cs := by
  rw [fills_segmentSteps_cons_iff]
  constructor
  · rintro ⟨t₁, t₂, c₁, c₂, rfl, heq, h₁, h₂⟩
    obtain rfl : cs = c₁ ++ c₂ := (List.cons.inj heq).2
    rcases eq_nil_or_exists_of_fills h₂ with ⟨rfl, rfl, rfl⟩ | ⟨-, rest, rfl⟩
    · rw [List.append_nil, List.append_nil]
      exact ⟨rfl, h₁⟩
    · exact absurd (List.mem_append_right c₁ List.mem_cons_self) hcs
  · rintro ⟨rfl, h⟩
    exact ⟨texts, [], cs, [], by simp, by simp, h, .nil⟩

/-- A filling of a segment with others after it. -/
theorem fills_segmentSteps_append {segment : Segment} {rest : List Char}
    (hlit : ∀ text, Part.literal text ∈ segment → '/' ∉ text.toList) (hcs : '/' ∉ cs) :
    Fills (segmentSteps (segment :: segments)) texts ('/' :: (cs ++ '/' :: rest)) ↔
      segments ≠ [] ∧ ∃ t₁ t₂, texts = t₁ ++ t₂ ∧ Fills (segment.flatMap partSteps) t₁ cs ∧
        Fills (segmentSteps segments) t₂ ('/' :: rest) := by
  rw [fills_segmentSteps_cons_iff]
  constructor
  · rintro ⟨t₁, t₂, c₁, c₂, rfl, heq, h₁, h₂⟩
    have hc₁ := not_mem_of_fills hlit h₁
    have happ : cs ++ '/' :: rest = c₁ ++ c₂ := (List.cons.inj heq).2
    rcases eq_nil_or_exists_of_fills h₂ with ⟨-, -, rfl⟩ | ⟨hne, rest', rfl⟩
    · rw [List.append_nil] at happ
      exact absurd (happ ▸ List.mem_append_right cs List.mem_cons_self) hc₁
    · obtain ⟨rfl, rfl⟩ := Text.append_cons_inj hcs hc₁ happ
      exact ⟨hne, t₁, t₂, rfl, h₁, h₂⟩
  · rintro ⟨-, t₁, t₂, rfl, h₁, h₂⟩
    exact ⟨t₁, t₂, cs, '/' :: rest, rfl, rfl, h₁, h₂⟩

/-- **What the single pass finds in the segments of a path**, told by the text after the first
slash. -/
theorem matchSegments?_fields_eq_some_iff
    (hsep : ∀ segment ∈ segments, Separated segment)
    (hlit : ∀ segment ∈ segments, ∀ text, Part.literal text ∈ segment → '/' ∉ text.toList)
    (hne : segments ≠ []) {rest : List Char} :
    matchSegments? segments (Text.fields '/' rest) = some texts ↔
      Fills (segmentSteps segments) texts ('/' :: rest) ∧
        Swift (segments.flatMap stops) texts := by
  induction segments generalizing texts rest with
  | nil => exact absurd rfl hne
  | cons segment segments ih =>
      have hsep₁ := hsep segment List.mem_cons_self
      have hlit₁ := hlit segment List.mem_cons_self
      have hsep₂ := fun s hs => hsep s (List.mem_cons_of_mem segment hs)
      have hlit₂ := fun s hs => hlit s (List.mem_cons_of_mem segment hs)
      rcases Text.not_mem_or_eq_append_cons '/' rest with hr | ⟨f, rest, hf, rfl⟩
      · -- no slash is left, so that this segment is the last one
        rw [matchSegments?_fields_last hr, fills_segmentSteps_last hr,
          matchSegment?_eq_some_iff hsep₁ hr, and_assoc]
        refine and_congr_right ?_
        rintro rfl
        rw [List.flatMap_singleton]
      · rw [matchSegments?_fields_append hf, fills_segmentSteps_append hlit₁ hf, and_assoc]
        refine and_congr_right fun hss => ?_
        constructor
        · rintro ⟨t₁, t₂, rfl, h₁, h₂⟩
          obtain ⟨hfill, hswift₁⟩ := (matchSegment?_eq_some_iff hsep₁ hf).1 h₁
          obtain ⟨hfills, hswift₂⟩ := (ih hsep₂ hlit₂ hss).1 h₂
          rw [List.flatMap_cons, swift_append_iff (by rw [length_stops, hfill.length_eq])]
          exact ⟨⟨t₁, t₂, rfl, hfill, hfills⟩, hswift₁, hswift₂⟩
        · rintro ⟨⟨t₁, t₂, rfl, hfill, hfills⟩, hswift⟩
          rw [List.flatMap_cons, swift_append_iff (by rw [length_stops, hfill.length_eq])] at hswift
          exact ⟨t₁, t₂, rfl, (matchSegment?_eq_some_iff hsep₁ hf).2 ⟨hfill, hswift.1⟩,
            (ih hsep₂ hlit₂ hss).2 ⟨hfills, hswift.2⟩⟩

end

/-! ### Names and holes -/

section

variable {segments : List Segment}

theorem length_names_segment (segment : Segment) :
    (segment.filterMap Part.name?).length = (segment.flatMap partSteps).count .hole := by
  induction segment with
  | nil => rfl
  | cons part parts ih =>
      rw [List.flatMap_cons, List.count_append, ← ih]
      cases part with
      | literal text =>
          have hliteral : (text.toList.map Step.char).count .hole = 0 :=
            List.count_eq_zero.2 (by simp)
          rw [partSteps, hliteral, Nat.zero_add]
          rfl
      | param name =>
          rw [partSteps, List.count_singleton_self, Nat.add_comm]
          rfl

theorem names_cons (segment : Segment) (segments : List Segment) :
    names (segment :: segments) = segment.filterMap Part.name? ++ names segments := by
  rw [names, List.flatten_cons, List.filterMap_append, names]

theorem length_names_segmentSteps :
    (names segments).length = (segmentSteps segments).count .hole := by
  induction segments with
  | nil => rfl
  | cons segment segments ih =>
      have hslash : (Step.char '/' :: segment.flatMap partSteps).count .hole =
          (segment.flatMap partSteps).count .hole :=
        List.count_cons_of_ne (by decide)
      rw [names_cons, List.length_append, length_names_segment, ih, segmentSteps, segmentSteps,
        List.flatMap_cons, List.count_append, hslash]

theorem length_names : (names segments).length = (stepsOf segments).count .hole := by
  by_cases hne : segments = []
  · subst hne
    rfl
  · rw [stepsOf_of_ne_nil hne, length_names_segmentSteps]

end

end ApiContract.Template
