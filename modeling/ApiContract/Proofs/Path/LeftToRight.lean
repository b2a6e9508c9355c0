/-
**The rule that the single pass follows.**

The parts of a segment take a text from left to right.  A literal takes itself, a placeholder before
a literal takes the shortest non-empty text after which the literal stands, and a placeholder at the
end takes all that is left, which must not be empty.  The rule leaves no choice, so that there is at
most one way to take a text; it gives one text to each placeholder, and nothing is lost.

The single pass follows the rule as long as no text before a literal begins with a character of
several bytes.  It steps over one byte there, and finds nothing where the rule takes such a text.

Main definitions:

* `Template.ShortestBefore` — the shortest text after which a literal stands;
* `Template.Consumes` — the rule;
* `Template.assemble` — the text of a segment with given texts for its placeholders;
* `Template.Bytewise` — texts that the pass can step into.

Main results:

* `Template.shortestBefore_cons_iff` — the search for a literal finds the shortest text before it;
* `Template.Consumes.unique` — the rule leaves no choice;
* `Template.Consumes.assemble_eq` — nothing is lost;
* `Template.matchSegment?_eq_some_iff_consumes` — what the pass finds;
* `Template.matchSegment?_follows` — **the pass follows the rule on texts that begin with a single
byte, and finds nothing otherwise**.
-/

import ApiContract.Proofs.Path.SegmentMatch

set_option relaxedAutoImplicit false
set_option autoImplicit false

namespace ApiContract.Template

/-! ### The rule -/

/-- A text is the shortest non-empty beginning of another one after which a literal stands. -/
structure ShortestBefore (literal text cs : List Char) : Prop where
  /-- It is not empty. -/
  ne_nil : text ≠ []
  /-- The literal stands after it. -/
  stands : text ++ literal <+: cs
  /-- The literal stands after no shorter one. -/
  least : ∀ other, other ≠ [] → other ++ literal <+: cs → text.length ≤ other.length

/-- `Consumes parts texts cs`: the parts take the whole text `cs` from left to right, and the
placeholders among them take `texts`. -/
inductive Consumes : Segment → List (List Char) → List Char → Prop
  /-- No parts take no text. -/
  | nil : Consumes [] [] []
  /-- A literal must stand at the current position. -/
  | literal (text : String) {parts : Segment} {texts : List (List Char)} {rest : List Char}
      (h : Consumes parts texts rest) :
      Consumes (.literal text :: parts) texts (text.toList ++ rest)
  /-- A placeholder at the end takes all that is left. -/
  | last (name : String) {cs : List Char} (h : cs ≠ []) : Consumes [.param name] [cs] cs
  /-- A placeholder before a literal takes the shortest text after which the literal stands. -/
  | before (name : String) {literal : String} {parts : Segment} {texts : List (List Char)}
      {text rest : List Char} (hshortest : ShortestBefore literal.toList text (text ++ rest))
      (h : Consumes (.literal literal :: parts) texts rest) :
      Consumes (.param name :: .literal literal :: parts) (text :: texts) (text ++ rest)

/-- The text of a segment with texts in place of its placeholders, in order; there must be one for
each of them and no more. -/
def assemble : Segment → List (List Char) → Option (List Char)
  | [], [] => some []
  | [], _ :: _ => none
  | .literal text :: parts, texts => (assemble parts texts).map (text.toList ++ ·)
  | .param _ :: _, [] => none
  | .param _ :: parts, text :: texts => (assemble parts texts).map (text ++ ·)

/-- No text that stands before a literal begins with a character of several bytes. -/
def Bytewise (parts : Segment) (texts : List (List Char)) : Prop :=
  ∀ p ∈ (stops parts).zip texts, Plain p.1 p.2

section

variable {parts : Segment} {texts texts' : List (List Char)} {cs : List Char}
  {name literal : String} {c : Char} {text rest : List Char}

/-! ### The shortest text before a literal -/

/-- Of two beginnings after which a literal stands the shorter one begins the longer one. -/
theorem prefix_of_stands {literal text' : List Char} (h : text ++ literal <+: cs)
    (h' : text' ++ literal <+: cs) (hle : text.length ≤ text'.length) : text <+: text' :=
  List.prefix_of_prefix_length_le ((List.prefix_append text literal).trans h)
    ((List.prefix_append text' literal).trans h') hle

/-- The search for a literal behind the first character finds the shortest text before it. -/
theorem shortestBefore_cons_iff {literal before : List Char} :
    ShortestBefore literal (c :: before) (c :: rest) ↔
      ∃ after, Text.cutAt literal rest = some (before, after) := by
  simp only [Text.cutAt_eq_some_iff]
  constructor
  · rintro ⟨-, ⟨after, hafter⟩, hleast⟩
    have hrest : rest = before ++ (literal ++ after) := by simpa using hafter.symm
    refine ⟨after, hrest, fun first last hbefore hlast hstands => hlast ?_⟩
    -- a text that ends before `last` is no shorter than the least one
    have hother : c :: first ++ literal <+: c :: rest := by
      rw [hrest, hbefore, List.cons_append, List.append_assoc, List.cons_prefix_cons,
        List.prefix_append_right_inj]
      exact ⟨rfl, hstands⟩
    have hlength := hleast (c :: first) (List.cons_ne_nil c first) hother
    rw [hbefore, List.length_cons, List.length_cons, List.length_append] at hlength
    exact List.length_eq_zero_iff.1 (by omega)
  · rintro ⟨after, rfl, hfirst⟩
    have hbefore : c :: before ++ literal <+: c :: (before ++ (literal ++ after)) :=
      ⟨after, by simp⟩
    refine ⟨List.cons_ne_nil c before, hbefore, fun other hother hstands => ?_⟩
    refine Nat.le_of_not_lt fun hlength => ?_
    -- a shorter text is a beginning of this one, and the literal stands where it ends
    obtain ⟨last, hlast⟩ := prefix_of_stands hstands hbefore (by omega)
    obtain ⟨d, first, rfl⟩ := List.exists_cons_of_ne_nil hother
    rw [List.cons_append, List.cons.injEq] at hlast
    obtain ⟨rfl, rfl⟩ := hlast
    rw [List.cons_append, List.cons_prefix_cons, List.append_assoc,
      List.prefix_append_right_inj] at hstands
    refine hfirst first last rfl ?_ hstands.2
    rintro rfl
    simp at hlength

/-- The shortest text begins as the whole one does. -/
theorem ShortestBefore.exists_cons {literal : List Char}
    (h : ShortestBefore literal text (c :: rest)) : ∃ before, text = c :: before := by
  obtain ⟨d, before, rfl⟩ := List.exists_cons_of_ne_nil h.ne_nil
  have hstands := h.stands
  rw [List.cons_append, List.cons_prefix_cons] at hstands
  exact ⟨before, by rw [hstands.1]⟩

theorem ShortestBefore.unique {literal text' : List Char} (h : ShortestBefore literal text cs)
    (h' : ShortestBefore literal text' cs) : text = text' := by
  have hle := h.least text' h'.ne_nil h'.stands
  have hge := h'.least text h.ne_nil h.stands
  exact (prefix_of_stands h.stands h'.stands hle).eq_of_length (by omega)

/-! ### One part -/

theorem consumes_nil_iff : Consumes [] texts cs ↔ texts = [] ∧ cs = [] := by
  constructor
  · rintro ⟨⟩
    exact ⟨rfl, rfl⟩
  · rintro ⟨rfl, rfl⟩
    exact .nil

theorem consumes_literal_iff :
    Consumes (.literal literal :: parts) texts cs ↔
      ∃ rest, cs = literal.toList ++ rest ∧ Consumes parts texts rest := by
  constructor
  · rintro (_ | @⟨_, _, _, rest, h⟩)
    exact ⟨rest, rfl, h⟩
  · rintro ⟨rest, rfl, h⟩
    exact h.literal literal

theorem consumes_last_iff : Consumes [.param name] texts cs ↔ cs ≠ [] ∧ texts = [cs] := by
  constructor
  · rintro ⟨⟩
    exact ⟨‹_›, rfl⟩
  · rintro ⟨h, rfl⟩
    exact .last name h

theorem consumes_before_iff :
    Consumes (.param name :: .literal literal :: parts) texts cs ↔
      ∃ text ts rest, texts = text :: ts ∧ cs = text ++ rest ∧
        ShortestBefore literal.toList text cs ∧ Consumes (.literal literal :: parts) ts rest := by
  constructor
  · rintro (_ | _ | _ | ⟨_, hshortest, h⟩)
    exact ⟨_, _, _, rfl, rfl, hshortest, h⟩
  · rintro ⟨text, ts, rest, rfl, rfl, hshortest, h⟩
    exact .before name hshortest h

/-! ### The first byte -/

theorem plain_cons_iff {stop : String} :
    Plain (some stop) (c :: text) ↔ isSingleByte c = true := by
  simp [Plain]

theorem bytewise_last : Bytewise [.param name] [cs] := by
  rintro p hp
  obtain rfl := List.mem_singleton.1 hp
  exact plain_none cs

theorem bytewise_before_iff :
    Bytewise (.param name :: .literal literal :: parts) (text :: texts) ↔
      Plain (some literal) text ∧ Bytewise (.literal literal :: parts) texts := by
  rw [Bytewise, stops, List.zip_cons_cons, List.forall_mem_cons]
  rfl

/-! ### The rule as a whole -/

/-- **The rule leaves no choice.** -/
theorem Consumes.unique (h : Consumes parts texts cs) (h' : Consumes parts texts' cs) :
    texts = texts' := by
  induction h generalizing texts' with
  | nil => exact (consumes_nil_iff.1 h').1.symm
  | literal text _ ih =>
      obtain ⟨rest, heq, h'⟩ := consumes_literal_iff.1 h'
      obtain rfl := List.append_cancel_left heq
      exact ih h'
  | last name _ => exact (consumes_last_iff.1 h').2.symm
  | before name hshortest _ ih =>
      obtain ⟨text', ts, rest, rfl, heq, hshortest', h'⟩ := consumes_before_iff.1 h'
      obtain rfl := hshortest.unique hshortest'
      obtain rfl := List.append_cancel_left heq
      rw [ih h']

/-- **Nothing is lost**: the literals and the texts of the placeholders make up the whole text. -/
theorem Consumes.assemble_eq (h : Consumes parts texts cs) : assemble parts texts = some cs := by
  induction h with
  | nil => rfl
  | literal text _ ih => rw [assemble, ih, Option.map_some]
  | last name _ => rw [assemble, assemble, Option.map_some, List.append_nil]
  | before name _ _ ih => rw [assemble, ih, Option.map_some]

/-- Placeholders take texts of single bytes from a text of single bytes. -/
theorem Consumes.bytewise (h : Consumes parts texts cs) (hcs : ∀ c ∈ cs, isSingleByte c = true) :
    Bytewise parts texts := by
  induction h with
  | nil => exact List.forall_mem_nil _
  | literal text _ ih => exact ih fun c hc => hcs c (List.mem_append_right _ hc)
  | last name _ => exact bytewise_last
  | before name _ _ ih =>
      refine bytewise_before_iff.2 ⟨fun _ c hc => ?_, ih fun c hc => ?_⟩
      · exact hcs c (List.mem_append_left _ (List.mem_of_mem_head? hc))
      · exact hcs c (List.mem_append_right _ hc)

/-- There is one text for each placeholder. -/
theorem length_of_assemble (h : assemble parts texts = some cs) :
    texts.length = (parts.filterMap Part.name?).length := by
  fun_induction assemble parts texts generalizing cs with
  | case1 => rfl
  | case2 => cases h
  | case3 text parts texts ih =>
      obtain ⟨rest, hrest, -⟩ := Option.map_eq_some_iff.1 h
      exact ih hrest
  | case4 => cases h
  | case5 name parts text texts ih =>
      obtain ⟨rest, hrest, -⟩ := Option.map_eq_some_iff.1 h
      rw [List.length_cons, ih hrest]
      rfl

/-! ### The single pass -/

/-- What the pass finds: what the rule takes, if it can step into the texts. -/
theorem matchSegment?_eq_some_iff_consumes :
    matchSegment? parts cs = some texts ↔ Consumes parts texts cs ∧ Bytewise parts texts := by
  -- one case for each clause of the pass; where it fails, the rule takes nothing or is not bytewise
  fun_induction matchSegment? parts cs generalizing texts with
  | case1 =>
      rw [consumes_nil_iff, Option.some.injEq]
      constructor
      · rintro rfl
        exact ⟨⟨rfl, rfl⟩, List.forall_mem_nil _⟩
      · rintro ⟨⟨rfl, -⟩, -⟩
        rfl
  | case2 c cs => simp [consumes_nil_iff]
  | case3 literal parts cs rest hrest ih =>
      obtain rfl := Text.isPrefixOf?_eq_some_iff.1 hrest
      rw [ih, consumes_literal_iff]
      constructor
      · rintro ⟨h, hbytes⟩
        exact ⟨⟨rest, rfl, h⟩, hbytes⟩
      · rintro ⟨⟨rest', heq, h⟩, hbytes⟩
        obtain rfl := List.append_cancel_left heq
        exact ⟨h, hbytes⟩
  | case4 literal parts cs hnone =>
      rw [consumes_literal_iff]
      constructor
      · rintro ⟨⟩
      · rintro ⟨⟨rest, rfl, -⟩, -⟩
        exact absurd (List.prefix_append ..) (Text.isPrefixOf?_eq_none_iff.1 hnone)
  | case5 name => simp [consumes_last_iff]
  | case6 name cs hne =>
      rw [consumes_last_iff, Option.some.injEq]
      constructor
      · rintro rfl
        exact ⟨⟨hne, rfl⟩, bytewise_last⟩
      · rintro ⟨⟨-, rfl⟩, -⟩
        rfl
  | case7 name literal parts =>
      rw [consumes_before_iff]
      constructor
      · rintro ⟨⟩
      · rintro ⟨⟨text, ts, rest, -, heq, hshortest, -⟩, -⟩
        exact absurd (List.append_eq_nil_iff.1 heq.symm).1 hshortest.ne_nil
  | case8 name literal parts c rest hc before after hcut ih =>
      have hshortest : ShortestBefore literal.toList (c :: before) (c :: rest) :=
        shortestBefore_cons_iff.2 ⟨after, hcut⟩
      obtain ⟨hrest, -⟩ := Text.cutAt_eq_some_iff.1 hcut
      have hdrop : rest.drop before.length = literal.toList ++ after := by
        rw [hrest, List.drop_left]
      rw [hdrop] at ih ⊢
      simp only [Option.map_eq_some_iff, ih]
      constructor
      · rintro ⟨ts, ⟨h, hbytes⟩, rfl⟩
        refine ⟨consumes_before_iff.2 ⟨_, ts, _, rfl, ?_, hshortest, h⟩,
          bytewise_before_iff.2 ⟨plain_cons_iff.2 hc, hbytes⟩⟩
        rw [hrest, List.cons_append]
      · rintro ⟨h, hbytes⟩
        obtain ⟨text, ts, rest', rfl, heq, hshortest', h⟩ := consumes_before_iff.1 h
        obtain rfl := hshortest.unique hshortest'
        rw [hrest, ← List.cons_append] at heq
        obtain rfl := List.append_cancel_left heq
        exact ⟨ts, ⟨h, (bytewise_before_iff.1 hbytes).2⟩, rfl⟩
  | case9 name literal parts c rest hc hcut =>
      rw [consumes_before_iff]
      constructor
      · rintro ⟨⟩
      · rintro ⟨⟨text, ts, rest', -, -, hshortest, -⟩, -⟩
        obtain ⟨before, rfl⟩ := hshortest.exists_cons
        obtain ⟨after, hafter⟩ := shortestBefore_cons_iff.1 hshortest
        rw [hcut] at hafter
        cases hafter
  | case10 name literal parts c rest hc =>
      rw [consumes_before_iff]
      constructor
      · rintro ⟨⟩
      · rintro ⟨⟨text, ts, rest', rfl, -, hshortest, -⟩, hbytes⟩
        obtain ⟨before, rfl⟩ := hshortest.exists_cons
        exact absurd (plain_cons_iff.1 (bytewise_before_iff.1 hbytes).1) hc
  | case11 =>
      constructor
      · rintro ⟨⟩
      · rintro ⟨⟨⟩, -⟩

end

/-- **The pass follows the rule on texts that begin with a single byte, and finds nothing
otherwise.**  It finds what the rule takes, unless a placeholder before a literal takes a text that
begins with a character of several bytes; then it finds nothing.  A segment of single bytes is
matched as the rule says.  What is found is one text for each placeholder, and with the literals
these make up the segment. -/
theorem matchSegment?_follows (parts : Segment) (cs : List Char) (texts : List (List Char)) :
    (matchSegment? parts cs = some texts ↔ Consumes parts texts cs ∧ Bytewise parts texts) ∧
      (Consumes parts texts cs → ¬ Bytewise parts texts → matchSegment? parts cs = none) ∧
      ((∀ c ∈ cs, isSingleByte c = true) →
        (matchSegment? parts cs = some texts ↔ Consumes parts texts cs)) ∧
      (matchSegment? parts cs = some texts →
        texts.length = (parts.filterMap Part.name?).length ∧ assemble parts texts = some cs) := by
  refine ⟨matchSegment?_eq_some_iff_consumes, fun hconsumes hbytes => ?_, fun hcs => ?_,
    fun h => ?_⟩
  · -- whatever the pass found would be what the rule takes
    refine Option.eq_none_iff_forall_ne_some.2 fun found hfound => ?_
    obtain ⟨hconsumes', hbytes'⟩ := matchSegment?_eq_some_iff_consumes.1 hfound
    rw [hconsumes'.unique hconsumes] at hbytes'
    exact hbytes hbytes'
  · rw [matchSegment?_eq_some_iff_consumes]
    exact ⟨And.left, fun hconsumes => ⟨hconsumes, hconsumes.bytewise hcs⟩⟩
  · have hassemble := (matchSegment?_eq_some_iff_consumes.1 h).1.assemble_eq
    exact ⟨length_of_assemble hassemble, hassemble⟩

/-- A name that begins with a character of two bytes is taken by the rule, but it is not found. -/
theorem matchSegment?_follows_accented :
    Consumes [.param "name", .literal ".", .param "ext"] ["é".toList, "txt".toList] "é.txt".toList ∧
      matchSegment? [.param "name", .literal ".", .param "ext"] "é.txt".toList = none := by
  have hshortest : ShortestBefore ".".toList "é".toList "é.txt".toList :=
    shortestBefore_cons_iff.2 ⟨"txt".toList, by decide⟩
  have hext : Consumes [.param "ext"] ["txt".toList] "txt".toList := .last "ext" (by decide)
  have hconsumes : Consumes [.param "name", .literal ".", .param "ext"] ["é".toList, "txt".toList]
      "é.txt".toList := .before "name" hshortest (hext.literal ".")
  refine ⟨hconsumes, (matchSegment?_follows _ _ _).2.1 hconsumes fun hbytes => ?_⟩
  have hplain : isSingleByte 'é' = true := plain_cons_iff.1 (bytewise_before_iff.1 hbytes).1
  exact absurd hplain (by decide)

/-- The first placeholder takes the shortest text, the last one all that is left. -/
example : matchSegment? [.param "name", .literal ".", .param "ext"] "report.tar.gz".toList =
    some ["report".toList, "tar.gz".toList] := by decide

end ApiContract.Template
