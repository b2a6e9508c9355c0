/-
**Templates that cover others.**

A template covers another one if it is filled by all paths that fill the other.  To see this one
path is enough: the one in which a character that occurs in no template stands for each placeholder,
for what the covering template makes of that character it makes of any other text.

A path reaches a template if the router answers with it.  Where such a character exists, a template
is reached by some path exactly if no template that comes before it covers it.

Main definitions:

* `Cut.sample` — steps with one character in place of each placeholder;
* `Cut.Expands` — that character replaced by texts;
* `Template.FilledBy`, `Template.Covers` — what fills a template, and what covers it;
* `Template.Admits` — a prefix leaves what fills a template;
* `Template.Reaches` — a path reaches a template.

Main results:

* `Cut.Fills.of_expands` — a filling stays one when the character is replaced;
* `Template.covers_iff_filledBy_sampleOf` — **one path decides what covers a template**;
* `Router.Serves.isSome_matchPath_iff` — a path is answered if some prefix admits it;
* `Router.Serves.exists_matchPath_iff` — the router answers with the template that is reached;
* `Template.exists_reaches_iff` — **a template is reached exactly if none before it covers it**.
-/

import ApiContract.Proofs.Path.Route
import ApiContract.Proofs.Path.SegmentMatch

set_option relaxedAutoImplicit false
set_option autoImplicit false

namespace ApiContract

namespace Cut

/-! ### One character for each placeholder -/

/-- The characters of steps, with one character in place of each placeholder. -/
def sample (x : Char) (steps : List Step) : List Char :=
  steps.map fun
    | .char c => c
    | .hole => x

/-- `Expands x cs ds`: the characters `ds` are `cs` with a non-empty text free of slashes in place
of each `x`. -/
inductive Expands (x : Char) : List Char → List Char → Prop
  | nil : Expands x [] []
  | keep {c : Char} {cs ds : List Char} : c ≠ x → Expands x cs ds → Expands x (c :: cs) (c :: ds)
  | replace {text cs ds : List Char} : text ≠ [] → '/' ∉ text → Expands x cs ds →
      Expands x (x :: cs) (text ++ ds)

section

variable {x : Char} {steps : List Step} {texts : List (List Char)} {cs ds : List Char}

/-- The sample of steps is one of their fillings. -/
theorem exists_fills_sample (hx : x ≠ '/') (steps : List Step) :
    ∃ texts, Fills steps texts (sample x steps) := by
  induction steps with
  | nil => exact ⟨[], .nil⟩
  | cons step steps ih =>
      obtain ⟨texts, h⟩ := ih
      cases step with
      | char c => exact ⟨texts, h.char c⟩
      | hole => exact ⟨[x] :: texts, h.hole (by simp) (by simpa using hx.symm)⟩

/-- Every filling is the sample with texts in place of the character. -/
theorem Fills.expands_sample (h : Fills steps texts cs) (hx : .char x ∉ steps) :
    Expands x (sample x steps) cs := by
  induction h with
  | nil => exact .nil
  | char c _ ih =>
      rw [List.mem_cons, not_or] at hx
      exact (ih hx.2).keep fun hc => hx.1 (congrArg Step.char hc.symm)
  | hole hne hs _ ih =>
      rw [List.mem_cons, not_or] at hx
      exact (ih hx.2).replace hne hs

theorem Expands.exists_of_append {cs₁ cs₂ : List Char} (h : Expands x (cs₁ ++ cs₂) ds) :
    ∃ ds₁ ds₂, ds = ds₁ ++ ds₂ ∧ Expands x cs₁ ds₁ ∧ Expands x cs₂ ds₂ := by
  induction cs₁ generalizing ds with
  | nil => exact ⟨[], ds, rfl, .nil, h⟩
  | cons c cs₁ ih =>
      cases h with
      | keep hc h =>
          obtain ⟨ds₁, ds₂, rfl, h₁, h₂⟩ := ih h
          exact ⟨c :: ds₁, ds₂, rfl, h₁.keep hc, h₂⟩
      | @replace text _ _ hne hs h =>
          obtain ⟨ds₁, ds₂, rfl, h₁, h₂⟩ := ih h
          exact ⟨text ++ ds₁, ds₂, (List.append_assoc ..).symm, h₁.replace hne hs, h₂⟩

theorem Expands.ne_nil (h : Expands x cs ds) (hne : cs ≠ []) : ds ≠ [] := by
  cases h with
  | nil => exact absurd rfl hne
  | keep _ _ => exact List.cons_ne_nil _ _
  | replace htext _ _ => exact fun h => htext (List.append_eq_nil_iff.1 h).1

theorem Expands.not_mem_slash (h : Expands x cs ds) (hs : '/' ∉ cs) : '/' ∉ ds := by
  induction h with
  | nil => exact hs
  | keep _ _ ih =>
      rw [List.mem_cons, not_or] at hs ⊢
      exact ⟨hs.1, ih hs.2⟩
  | replace _ htext _ ih =>
      rw [List.mem_append, not_or]
      exact ⟨htext, ih fun h => hs (List.mem_cons_of_mem _ h)⟩

/-- **A filling stays one when a character that occurs in none of the steps is replaced.** -/
theorem Fills.of_expands (h : Fills steps texts cs) (hx : .char x ∉ steps)
    (hd : Expands x cs ds) : ∃ texts', Fills steps texts' ds := by
  induction h generalizing ds with
  | nil =>
      cases hd
      exact ⟨[], .nil⟩
  | char c _ ih =>
      rw [List.mem_cons, not_or] at hx
      cases hd with
      | keep _ hd =>
          obtain ⟨texts', h'⟩ := ih hx.2 hd
          exact ⟨texts', h'.char c⟩
      | replace _ _ _ => exact absurd rfl hx.1
  | hole hne hs _ ih =>
      rw [List.mem_cons, not_or] at hx
      -- the text of the placeholder is replaced by one that does as well
      obtain ⟨text', ds', rfl, htext, hd'⟩ := hd.exists_of_append
      obtain ⟨texts', h'⟩ := ih hx.2 hd'
      exact ⟨text' :: texts', h'.hole (htext.ne_nil hne) (htext.not_mem_slash hs)⟩

end

/-! ### The search finds a filling if there is one -/

/-- A placeholder takes some text if any would do. -/
theorem isSome_shortest {continue? : List Char → Option (List (List Char))} {text rest : List Char}
    (hne : text ≠ []) (hs : '/' ∉ text) (h : (continue? rest).isSome = true)
    (taken : List Char) : (shortest continue? taken (text ++ rest)).isSome = true := by
  induction text generalizing taken with
  | nil => exact absurd rfl hne
  | cons c text ih =>
      rw [List.mem_cons, not_or] at hs
      rw [List.cons_append, shortest, if_neg (Ne.symm hs.1)]
      split
      · rfl
      · rename_i hnone
        -- the rest does not follow this character, so that more of the text is left
        refine ih ?_ hs.2 _
        rintro rfl
        rw [List.nil_append] at hnone
        rw [hnone] at h
        cases h

theorem isSome_first?_iff {steps : List Step} {cs : List Char} :
    (first? steps cs).isSome = true ↔ ∃ texts, Fills steps texts cs := by
  constructor
  · intro h
    obtain ⟨texts, htexts⟩ := Option.isSome_iff_exists.1 h
    exact ⟨texts, fills_of_first? htexts⟩
  · rintro ⟨texts, h⟩
    induction h with
    | nil => rfl
    | char c _ ih => rwa [first?_char, if_pos rfl]
    | hole hne hs _ ih =>
        rw [first?_hole]
        exact isSome_shortest hne hs ih []

end Cut

/-! ### What fills a template -/

namespace Template

open Cut (Step Fills stepsOf sample)

/-- A text fills a template. -/
def FilledBy (template rest : String) : Prop :=
  ∃ segments texts, parse template = .ok segments ∧ Fills (stepsOf segments) texts rest.toList

/-- **A template covers another one**: whatever fills the other fills it. -/
def Covers (cover template : String) : Prop :=
  ∀ rest, FilledBy template rest → FilledBy cover rest

section

variable {template cover rest : String} {segments : List Segment} {x : Char}

/-- The characters of steps are those of the template. -/
theorem mem_chars_of_mem_stepsOf {c : Char} (h : .char c ∈ stepsOf segments) :
    c ∈ chars segments := by
  by_cases hne : segments = []
  · subst hne
    simpa [stepsOf, chars] using h
  · rw [chars_of_ne_nil hne, List.mem_flatMap]
    rw [stepsOf_of_ne_nil hne, segmentSteps, List.mem_flatMap] at h
    obtain ⟨segment, hsegment, h⟩ := h
    refine ⟨segment, hsegment, ?_⟩
    rw [List.mem_cons, List.mem_flatMap] at h
    rcases h with h | ⟨part, hpart, h⟩
    · cases h
      exact List.mem_cons_self
    · refine List.mem_cons_of_mem _ (List.mem_flatMap.2 ⟨part, hpart, ?_⟩)
      cases part with
      | literal text => simpa [Cut.partSteps, Part.chars] using h
      | param name => simp [Cut.partSteps] at h

theorem not_mem_stepsOf (h : parse template = .ok segments) (hx : x ∉ template.toList) :
    .char x ∉ stepsOf segments := by
  intro hmem
  refine hx ?_
  rw [← chars_of_parseChars (parseChars_of_parse h)]
  exact mem_chars_of_mem_stepsOf hmem

/-- The template with a character in place of each placeholder; no text if it is malformed. -/
def sampleOf (x : Char) (template : String) : String :=
  match parse template with
  | .ok segments => String.ofList (sample x (stepsOf segments))
  | .error _ => ""

theorem filledBy_sampleOf (h : parse template = .ok segments) (hx : x ≠ '/') :
    FilledBy template (sampleOf x template) := by
  obtain ⟨texts, htexts⟩ := Cut.exists_fills_sample hx (stepsOf segments)
  refine ⟨segments, texts, h, ?_⟩
  simpa [sampleOf, h] using htexts

/-- **One path decides what covers a template.** -/
theorem covers_iff_filledBy_sampleOf (h : parse template = .ok segments) (hx : x ≠ '/')
    (htemplate : x ∉ template.toList) (hcover : x ∉ cover.toList) :
    Covers cover template ↔ FilledBy cover (sampleOf x template) := by
  constructor
  · intro hall
    exact hall _ (filledBy_sampleOf h hx)
  · rintro ⟨others, texts, hothers, hfills⟩ rest ⟨segments', texts', hsegments', hrest⟩
    obtain rfl : segments = segments' := Except.ok.inj (h.symm.trans hsegments')
    simp only [sampleOf, h, String.toList_ofList] at hfills
    have hexpands := hrest.expands_sample (not_mem_stepsOf h htemplate)
    obtain ⟨texts'', h''⟩ := hfills.of_expands (not_mem_stepsOf hothers hcover) hexpands
    exact ⟨others, texts'', hothers, h''⟩

end

/-! ### What reaches a template -/

/-- A prefix admits a path: what it leaves fills one of the templates. -/
def Admits (templates : List String) (base path : String) : Prop :=
  ∃ rest, Path.stripPrefix path base = some rest ∧ ∃ template ∈ templates, FilledBy template rest

/-- A path reaches a template: what a prefix leaves of it fills the template and none that comes
before; and what the prefixes before that one leave fills no template. -/
def Reaches (templates bases : List String) (template path : String) : Prop :=
  ∃ before base after rest, bases = before ++ base :: after ∧
    Path.stripPrefix path base = some rest ∧ FilledBy template rest ∧
    (∀ other ∈ templates, FilledBy other rest → precedes template other = true) ∧
    ∀ base' ∈ before, ∀ rest', Path.stripPrefix path base' = some rest' →
      ∀ other ∈ templates, ¬ FilledBy other rest'

end Template

namespace Router

variable [Libraries]

section

variable {router : Router} {templates bases : List String} {template base path rest : String}
  {m : RouteMatch}

theorem Serves.isSome_cut?_iff (h : router.Serves templates bases) {route : Route}
    (hr : route ∈ router.routes) :
    (route.cut? rest).isSome = true ↔ Template.FilledBy route.template rest := by
  obtain ⟨segments, hparse, -, hroute⟩ :=
    Route.compile_eq_ok_iff.1 (h.compile_of_mem route hr).2
  rw [Route.cut?, Cut.isSome_first?_iff]
  obtain ⟨template, steps, names⟩ := route
  cases hroute
  constructor
  · rintro ⟨texts, htexts⟩
    exact ⟨segments, texts, hparse, htexts⟩
  · rintro ⟨segments', texts, hparse', htexts⟩
    obtain rfl : segments = segments' := Except.ok.inj (hparse.symm.trans hparse')
    exact ⟨texts, htexts⟩

/-- The routes that a rest fills are the templates that it fills. -/
theorem Serves.forall_cut?_iff (h : router.Serves templates bases) {P : String → Prop} :
    (∀ route ∈ router.routes, (route.cut? rest).isSome = true → P route.template) ↔
      ∀ other ∈ templates, Template.FilledBy other rest → P other := by
  constructor
  · intro hall other ho hfilled
    obtain ⟨route, hr, hc⟩ := h.exists_route other ho
    obtain ⟨segments, -, -, hroute⟩ := Route.compile_eq_ok_iff.1 hc
    obtain rfl : route.template = other := congrArg Route.template hroute
    exact hall route hr ((h.isSome_cut?_iff hr).2 hfilled)
  · intro hall route hr hcut
    exact hall _ (h.compile_of_mem route hr).1 ((h.isSome_cut?_iff hr).1 hcut)

/-- What answers for the rest of a path is the first template that the rest fills. -/
theorem Serves.of_matchRest (h : router.Serves templates bases)
    (hm : router.matchRest base rest = some m) :
    m.base = base ∧ m.template ∈ templates ∧ Template.FilledBy m.template rest ∧
      ∀ other ∈ templates, Template.FilledBy other rest →
        Template.precedes m.template other = true := by
  obtain ⟨route, hr, texts, htexts, rfl, hleast⟩ := h.matchRest_eq_some hm
  exact ⟨rfl, (h.compile_of_mem route hr).1,
    (h.isSome_cut?_iff hr).1 (Option.isSome_of_eq_some htexts),
    (h.forall_cut?_iff (P := (Template.precedes route.template · = true))).1 hleast⟩

/-- What is left of a path is answered if it fills a template. -/
theorem Serves.isSome_matchRest_iff (h : router.Serves templates bases) :
    (router.matchRest base rest).isSome = true ↔
      ∃ template ∈ templates, Template.FilledBy template rest := by
  constructor
  · intro hsome
    obtain ⟨m, hm⟩ := Option.isSome_iff_exists.1 hsome
    obtain ⟨-, hmem, hfilled, -⟩ := h.of_matchRest hm
    exact ⟨m.template, hmem, hfilled⟩
  · rintro ⟨template, ht, hfilled⟩
    rw [Option.isSome_iff_ne_none]
    intro hnone
    refine (h.forall_cut?_iff (P := fun _ => False)).1 (fun route hr hcut => ?_) template ht hfilled
    rw [matchRest_eq_none_iff.1 hnone route hr] at hcut
    cases hcut

/-! ### Prefixes -/

/-- What a prefix has to say of a path. -/
def matchUnder (router : Router) (path base : String) : Option RouteMatch :=
  (Path.stripPrefix path base).bind (router.matchRest base)

omit [Libraries] in
theorem matchPath_eq_findSome? :
    router.matchPath path = router.prefixes.findSome? (router.matchUnder path) := by
  unfold matchPath matchUnder
  congr 1
  funext base
  cases Path.stripPrefix path base <;> rfl

theorem Serves.isSome_matchUnder_iff (h : router.Serves templates bases) :
    (router.matchUnder path base).isSome = true ↔ Template.Admits templates base path := by
  unfold matchUnder Template.Admits
  cases Path.stripPrefix path base with
  | none => simp
  | some rest => simp [h.isSome_matchRest_iff]

/-- **A path is answered if some prefix admits it.** -/
theorem Serves.isSome_matchPath_iff (h : router.Serves templates bases) :
    (router.matchPath path).isSome = true ↔
      ∃ base ∈ bases, Template.Admits templates base path := by
  rw [matchPath_eq_findSome?, List.findSome?_isSome_iff, h.prefixes_eq]
  simp only [h.isSome_matchUnder_iff]

/-- The answer is that of the first prefix that admits the path. -/
theorem Serves.matchPath_eq_some (h : router.Serves templates bases)
    (hm : router.matchPath path = some m) :
    ∃ before after rest, bases = before ++ m.base :: after ∧
      (∀ base ∈ before, ¬ Template.Admits templates base path) ∧
      Path.stripPrefix path m.base = some rest ∧ router.matchRest m.base rest = some m := by
  rw [matchPath_eq_findSome?] at hm
  obtain ⟨before, base, after, hbases, hbase, hnone⟩ := List.findSome?_eq_some_iff.1 hm
  obtain ⟨rest, hrest, hmatch⟩ := Option.bind_eq_some_iff.1 hbase
  obtain ⟨rfl, -⟩ := h.of_matchRest hmatch
  refine ⟨before, after, rest, h.prefixes_eq ▸ hbases, ?_, hrest, hmatch⟩
  intro base hb hadmits
  rw [← h.isSome_matchUnder_iff, hnone base hb] at hadmits
  cases hadmits

/-- **The router answers with the template that is reached.** -/
theorem Serves.exists_matchPath_iff (h : router.Serves templates bases)
    (ht : template ∈ templates) :
    (∃ m, router.matchPath path = some m ∧ m.template = template) ↔
      Template.Reaches templates bases template path := by
  constructor
  · rintro ⟨m, hm, rfl⟩
    obtain ⟨before, after, rest, hbases, hbefore, hrest, hmatch⟩ := h.matchPath_eq_some hm
    obtain ⟨-, -, hfilled, hleast⟩ := h.of_matchRest hmatch
    refine ⟨before, m.base, after, rest, hbases, hrest, hfilled, hleast, ?_⟩
    intro base hb rest' hrest' other ho hother
    exact hbefore base hb ⟨rest', hrest', other, ho, hother⟩
  · rintro ⟨before, base, after, rest, hbases, hrest, hfilled, hleast, hnone⟩
    obtain ⟨m, hm⟩ :=
      Option.isSome_iff_exists.1 (h.isSome_matchRest_iff.2 ⟨template, ht, hfilled⟩)
    obtain ⟨-, hmem, hanswer, hfirst⟩ := h.of_matchRest hm
    -- the template and the one that answers precede each other
    have htemplate : m.template = template :=
      Template.precedes_antisymm (hfirst template ht hfilled) (hleast _ hmem hanswer)
    refine ⟨m, ?_, htemplate⟩
    rw [matchPath_eq_findSome?, h.prefixes_eq, List.findSome?_eq_some_iff]
    refine ⟨before, base, after, hbases, by rw [matchUnder, hrest]; exact hm, fun base' hb => ?_⟩
    rw [← Option.not_isSome_iff_eq_none, h.isSome_matchUnder_iff]
    rintro ⟨rest', hrest', other, ho, hother⟩
    exact hnone base' hb rest' hrest' other ho hother

end

end Router

namespace Template

section

variable {templates bases : List String} {base template : String} {x : Char}

/-- A template that is covered by one before it is reached by no path. -/
theorem not_reaches_of_covers {cover path : String} (hcover : cover ∈ templates)
    (hne : cover ≠ template) (hbefore : precedes cover template = true)
    (h : Covers cover template) : ¬ Reaches templates bases template path := by
  rintro ⟨-, -, -, rest, -, -, hfilled, hleast, -⟩
  exact hne (precedes_antisymm hbefore (hleast cover hcover (h rest hfilled)))

/-- **A template is reached exactly if none before it covers it.**  This is said of paths among
which there is one that leaves the sample of the template under the first prefix. -/
theorem exists_reaches_iff {P : String → Prop} (ht : template ∈ templates)
    (hparse : ∃ segments, parse template = .ok segments) (hx : x ≠ '/')
    (hfresh : ∀ other ∈ templates, x ∉ other.toList)
    (hpath : ∃ path, P path ∧ Path.stripPrefix path base = some (sampleOf x template)) :
    (∃ path, P path ∧ Reaches templates (base :: bases) template path) ↔
      ∀ other ∈ templates, other ≠ template → precedes other template = true →
        ¬ Covers other template := by
  constructor
  · rintro ⟨path, -, h⟩ other ho hne hbefore hcovers
    exact not_reaches_of_covers ho hne hbefore hcovers h
  · intro h
    obtain ⟨path, hP, hstrip⟩ := hpath
    obtain ⟨segments, hparse⟩ := hparse
    refine ⟨path, hP, [], base, bases, _, rfl, hstrip, filledBy_sampleOf hparse hx, ?_, by simp⟩
    intro other ho hfilled
    have hcovers : Covers other template :=
      (covers_iff_filledBy_sampleOf hparse hx (hfresh _ ht) (hfresh _ ho)).2 hfilled
    rcases precedes_total template other with hle | hbefore
    · exact hle
    · by_cases hne : other = template
      · rw [hne]
        exact precedes_refl _
      · exact absurd hcovers (h other ho hne hbefore)

end

end Template

end ApiContract
