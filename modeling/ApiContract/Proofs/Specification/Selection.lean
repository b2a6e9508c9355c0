/-
**Which operation the look-up selects.**

Under a prefix the segment matcher goes over what is left of a path for every template that declares
the method.  The look-up selects, under the first prefix that leaves something to select from, the
template that comes before all others it accepts.  What is left of the path is the template with a
text for every placeholder, and each name is bound to the decoded text of its last occurrence.

Main definitions:

* `Template.Accepts` — the segment matcher accepts what is left of a path;
* `Specification.Offers`, `Specification.OffersUnder` — a template declares the method and is
  accepted;
* `Specification.Selects` — an answer that is correct, and the most specific one.

Main results:

* `Specification.get?_decodedParams` — the last occurrence of a name counts;
* `Specification.matchRest?_eq_none_iff` — when there is nothing to select from;
* `Specification.findOperation?_exact` — **what the look-up answers, and when it does not**.
-/

import ApiContract.Pattern.Library
import ApiContract.Proofs.Path.RouteMatch
import ApiContract.Proofs.Specification.PathParameters

set_option relaxedAutoImplicit false
set_option autoImplicit false

namespace ApiContract

open Cut (stepsOf Fills)

/-! ### Accepted templates -/

/-- The segment matcher accepts what is left of a path for a template. -/
def Template.Accepts (template rest : String) : Prop :=
  ∃ segments pieces texts, parse template = .ok segments ∧
    Path.segments rest.toList = some pieces ∧ matchSegments? segments pieces = some texts

namespace Specification

/-- A template declares the method, and is accepted for what is left of a path. -/
def Offers (s : Specification) (method : Http.Method) (rest template : String) : Prop :=
  (s.operation? template method).isSome = true ∧ Template.Accepts template rest

/-- Some template declares the method and is accepted for what a prefix leaves of a path. -/
def OffersUnder (s : Specification) (method : Http.Method) (path base : String) : Prop :=
  ∃ rest template, Path.stripPrefix path base = some rest ∧ s.Offers method rest template

section

variable {s : Specification} {method : Http.Method} {path rest template base : String}
  {m : OperationMatch}

/-- The templates of the matches are those that are offered. -/
theorem WellFormed.exists_answers_iff (h : s.WellFormed) :
    (∃ m, s.Answers method rest m ∧ m.template = template) ↔ s.Offers method rest template := by
  constructor
  · rintro ⟨m, ⟨r, hr, pieces, hp, hm⟩, rfl⟩
    obtain ⟨e, segments, texts, he, hparse, htexts, rfl⟩ := matchResource?_eq_some_iff.1 hm
    refine ⟨?_, segments, pieces, texts, hparse, hp, htexts⟩
    rw [h.operation?_eq_some_iff.2 ⟨r, hr, rfl, he⟩]
    rfl
  · rintro ⟨hoperation, segments, pieces, texts, hparse, hp, htexts⟩
    obtain ⟨e, he⟩ := Option.isSome_iff_exists.1 hoperation
    obtain ⟨r, hr, rfl, hre⟩ := h.operation?_eq_some_iff.1 he
    exact ⟨_, ⟨r, hr, pieces, hp,
      matchResource?_eq_some_iff.2 ⟨e, segments, texts, hre, hparse, htexts, rfl⟩⟩, rfl⟩

/-- **Nothing is found under a prefix exactly if nothing is offered there.** -/
theorem matchRest?_eq_none_iff (h : s.WellFormed) :
    s.matchRest? method rest = none ↔ ∀ template, ¬ s.Offers method rest template := by
  constructor
  · intro hnone template hoffers
    obtain ⟨m, hm, -⟩ := h.exists_answers_iff.2 hoffers
    obtain ⟨best, hbest, -⟩ := matchRest?_eq_some hm
    rw [hnone] at hbest
    cases hbest
  · intro hnone
    cases hbest : s.matchRest? method rest with
    | none => rfl
    | some best =>
        exact absurd (h.exists_answers_iff.1 ⟨best, answers_of_matchRest? hbest, rfl⟩)
          (hnone best.template)

/-- A prefix is passed over exactly if nothing is offered under it. -/
theorem bind_matchRest?_eq_none_iff (h : s.WellFormed) :
    (Path.stripPrefix path base).bind (s.matchRest? method) = none ↔
      ¬ s.OffersUnder method path base := by
  rw [Option.bind_eq_none_iff]
  constructor
  · rintro hnone ⟨rest, template, hrest, hoffers⟩
    exact (matchRest?_eq_none_iff h).1 (hnone rest hrest) template hoffers
  · intro hnone rest hrest
    rw [matchRest?_eq_none_iff h]
    intro template hoffers
    exact hnone ⟨rest, template, hrest, hoffers⟩

end

/-! ### Bound names -/

end Specification

/-- What is found among replaced values is replaced. -/
theorem Dict.get?_map {α β : Type} (f : α → β) (d : Dict α) (key : String) :
    get? (d.map fun p => (p.1, f p.2)) key = (get? d key).map f := by
  induction d with
  | nil => rfl
  | cons p d ih =>
      rw [List.map_cons, get?_cons, get?_cons, ih]
      split
      · rfl
      · rfl

namespace Specification

section

variable {segments : List Template.Segment} {texts : List (List Char)}

/-- A name is bound to the decoded text of its last occurrence. -/
theorem get?_decodedParams {name value : String} :
    (decodedParams segments texts).get? name = some value ↔
      ∃ before text after, (Template.names segments).zip texts = before ++ (name, text) :: after ∧
        name ∉ after.map Prod.fst ∧ value = Percent.decodeSegment (String.ofList text) := by
  -- the texts are decoded after they are bound
  rw [← Contract.decodedParams_bindings "" "", Contract.decodedParams, Dict.get?_map,
    Option.map_eq_some_iff]
  constructor
  · rintro ⟨bound, hbound, rfl⟩
    obtain ⟨before, text, after, hzip, hlast, rfl⟩ := Router.get?_bindings.1 hbound
    exact ⟨before, text, after, hzip, hlast, rfl⟩
  · rintro ⟨before, text, after, hzip, hlast, rfl⟩
    exact ⟨_, Router.get?_bindings.2 ⟨before, text, after, hzip, hlast, rfl⟩, rfl⟩

theorem nodup_keys_decodedParams : (decodedParams segments texts).keys.Nodup :=
  Dict.nodup_keys_ofList _

end

/-! ### The answer -/

/-- An answer that is correct, and the most specific one: under the prefix `base`, which stands
after the prefixes `before` and leaves `rest` of the path, with the texts `texts` for the
placeholders of its template. -/
structure Selects (s : Specification) (method : Http.Method) (path : String)
    (found : OperationMatch) (before : List String) (base rest : String)
    (segments : List Template.Segment) (texts : List (List Char)) : Prop where
  /-- The prefix is one of those of the specification. -/
  bases_eq : ∃ after, s.bases = before ++ base :: after
  /-- It leaves the rest of the path. -/
  rest_eq : Path.stripPrefix path base = some rest
  /-- The template declares the method, with the operation of the answer. -/
  operation_eq : s.operation? found.template method = some found.endpoint
  /-- The template is made of the segments. -/
  parse_eq : Template.parse found.template = .ok segments
  /-- The rest is the template with a non-empty text without slashes for every placeholder. -/
  fills : Fills (stepsOf segments) texts rest.toList
  /-- There is one text for each placeholder. -/
  length_eq : texts.length = (Template.names segments).length
  /-- The names of the placeholders are bound, each once, and no others. -/
  keys : found.params.keys.Nodup ∧
    ∀ name, name ∈ found.params.keys ↔ name ∈ Template.names segments
  /-- A name is bound to the decoded text of its last occurrence. -/
  params : ∀ name value, found.params.get? name = some value ↔
    ∃ earlier text later, (Template.names segments).zip texts = earlier ++ (name, text) :: later ∧
      name ∉ later.map Prod.fst ∧ value = Percent.decodeSegment (String.ofList text)
  /-- It comes before every other template that is offered. -/
  least : s.Offers method rest found.template ∧
    ∀ template, s.Offers method rest template →
      Template.precedes found.template template = true
  /-- Nothing is offered under an earlier prefix. -/
  first : ∀ earlier ∈ before, ¬ s.OffersUnder method path earlier

variable {s : Specification}

/-- **What the look-up answers, and when it does not.**  Of every specification that was loaded, for
every method and path: an answer is correct and the most specific one; and there is none exactly if
no template that declares the method is accepted under any prefix. -/
theorem findOperation?_exact [Libraries] (hs : s.Loads) (method : Http.Method) (path : String) :
    (∀ found, s.findOperation? method path = some found →
      ∃ before base rest segments texts,
        s.Selects method path found before base rest segments texts) ∧
    (s.findOperation? method path = none ↔
      ∀ base ∈ s.bases, ¬ s.OffersUnder method path base) := by
  have hw := hs.wellFormed
  constructor
  · intro found hfound
    obtain ⟨before, base, after, hbases, hbase, hbefore⟩ := List.findSome?_eq_some_iff.1 hfound
    obtain ⟨rest, hrest, hmatch⟩ := Option.bind_eq_some_iff.1 hbase
    obtain ⟨best, hbest, hanswers, hleast⟩ := matchRest?_eq_some (answers_of_matchRest? hmatch)
    obtain rfl : best = found := by
      rw [hmatch] at hbest
      exact (Option.some.inj hbest).symm
    have hoffers := hw.exists_answers_iff.1 ⟨best, hanswers, rfl⟩
    obtain ⟨r, hr, pieces, hp, hm⟩ := hanswers
    obtain ⟨e, segments, texts, he, hparse, htexts, rfl⟩ := matchResource?_eq_some_iff.1 hm
    obtain ⟨hfills, -⟩ := (Template.exists_matchSegments?_iff
      (Template.wellFormed_of_parse hparse)).1 ⟨pieces, hp, htexts⟩
    refine ⟨before, base, rest, segments, texts, ?_⟩
    exact
      { bases_eq := ⟨after, hbases⟩
        rest_eq := hrest
        operation_eq := hw.operation?_eq_some_iff.2 ⟨r, hr, rfl, he⟩
        parse_eq := hparse
        fills := hfills
        length_eq := by rw [hfills.length_eq, Template.length_names]
        keys := ⟨nodup_keys_decodedParams, fun name => keys_decodedParams hfills.length_eq⟩
        params := fun name value => get?_decodedParams
        least := by
          refine ⟨hoffers, fun template hoffered => ?_⟩
          obtain ⟨m, hm, rfl⟩ := hw.exists_answers_iff.2 hoffered
          exact hleast m hm
        first := fun earlier hearlier =>
          (bind_matchRest?_eq_none_iff hw).1 (hbefore earlier hearlier) }
  · rw [findOperation?, List.findSome?_eq_none_iff]
    exact forall₂_congr fun base _ => bind_matchRest?_eq_none_iff hw

/-- The dot before the last one is part of the text. -/
theorem findOperation?_exact_suffixed :
    suffixed.Loads ∧ suffixed.findOperation? .get "/a.y.x" =
        some ⟨"/\x7bname\x7d.x", suffixedEndpoint, [("name", "a.y")]⟩ ∧
      (∃ before base rest segments texts, suffixed.Selects .get "/a.y.x"
        ⟨"/\x7bname\x7d.x", suffixedEndpoint, [("name", "a.y")]⟩ before base rest segments texts) ∧
      ¬ suffixed.OffersUnder .post "/a.y.x" "" := by
  have hloads : suffixed.Loads := ⟨suffixedDocument, by decide, rfl⟩
  have hfound : suffixed.findOperation? .get "/a.y.x" =
      some ⟨"/\x7bname\x7d.x", suffixedEndpoint, [("name", "a.y")]⟩ := by
    have hparams : decodedParams [[.param "name", .literal ".x"]] [['a', '.', 'y']] =
        [("name", "a.y")] := by decide +kernel
    rw [← hparams]
    rfl
  obtain ⟨hselects, -⟩ := findOperation?_exact hloads .get "/a.y.x"
  obtain ⟨-, hnone⟩ := findOperation?_exact hloads .post "/a.y.x"
  exact ⟨hloads, hfound, hselects _ hfound, hnone.1 rfl "" List.mem_cons_self⟩

end Specification

end ApiContract
