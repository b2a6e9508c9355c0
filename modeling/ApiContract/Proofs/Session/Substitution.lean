/-
**Path parameters survive the round trip.**

A caller puts escaped texts in place of the placeholders of a template.  Where every placeholder is
a segment of its own, the path that results is answered by the look-up and by the router.  Whichever
of them answers with that template finds the texts again: escaped text has no slash in it, so that
it is taken as a whole, and it is read back as it was.

Main definitions:

* `Template.pathOf` — the path for a template and texts;
* `Template.Takes` — a template whose placeholders take any texts.

Main results:

* `Template.Takes.decodedParams_eq` — escaped texts are bound and read back;
* `Template.Takes.exists_findOperation?`, `Template.Takes.exists_matchPath` — the look-up and the
  router;
* `Specification.roundTrip` — **path parameters survive the round trip**.
-/

import ApiContract.Pattern.Library
import ApiContract.Proofs.Document.Record
import ApiContract.Proofs.Path.Substitution
import ApiContract.Proofs.Session.Reordering
import ApiContract.Proofs.Specification.Selection
import ApiContract.Proofs.Text.Percent

set_option relaxedAutoImplicit false
set_option autoImplicit false

namespace ApiContract

open Cut (stepsOf first? Fills)

namespace Template

/-! ### The path for some texts -/

/-- The path that a template becomes when each placeholder gives way to an escaped text. -/
def pathOf (segments : List Segment) (value : String → String) : String :=
  String.ofList (filled (fun name => Percent.encode (value name).toList) segments)

/-- The escaped texts, one for each placeholder. -/
def escapedTexts (segments : List Segment) (value : String → String) : List (List Char) :=
  (names segments).map fun name => Percent.encode (value name).toList

/-- The names of the placeholders with their texts. -/
def assigned (segments : List Segment) (value : String → String) : Dict String :=
  (names segments).map fun name => (name, value name)

/-- A template whose placeholders are segments of their own and have different names, and texts for
them that are not empty. -/
structure Takes (template : String) (segments : List Segment) (value : String → String) : Prop where
  /-- The template is made of the segments. -/
  parse_eq : parse template = .ok segments
  /-- Every placeholder is a segment of its own. -/
  whole : Whole segments
  /-- No name occurs twice. -/
  nodup_names : (names segments).Nodup
  /-- No text is empty. -/
  ne_empty : ∀ name ∈ names segments, value name ≠ ""

section

variable {template : String} {segments : List Segment} {value : String → String}

/-- Escaped texts can be put in place of placeholders. -/
theorem Takes.fit (h : Takes template segments value) :
    ∀ name ∈ names segments, Fit (Percent.encode (value name).toList) := by
  intro name hname
  refine ⟨Percent.encode_ne_nil ?_, Percent.slash_not_mem_encode _⟩
  intro hnil
  exact h.ne_empty name hname (String.toList_eq_nil_iff.1 hnil)

theorem Takes.fills (h : Takes template segments value) :
    Fills (stepsOf segments) (escapedTexts segments value) (pathOf segments value).toList := by
  rw [pathOf, String.toList_ofList]
  exact fills_filled h.fit

theorem Takes.first?_eq (h : Takes template segments value) :
    first? (stepsOf segments) (pathOf segments value).toList =
      some (escapedTexts segments value) := by
  rw [pathOf, String.toList_ofList]
  exact h.whole.first?_filled (wellFormed_of_parse h.parse_eq) h.fit

theorem Takes.exists_matchSegments? (h : Takes template segments value) :
    ∃ pieces, Path.segments (pathOf segments value).toList = some pieces ∧
      matchSegments? segments pieces = some (escapedTexts segments value) := by
  rw [pathOf, String.toList_ofList]
  exact h.whole.exists_matchSegments? (wellFormed_of_parse h.parse_eq) h.fit

/-- **Escaped texts are bound to the names, and read back.** -/
theorem Takes.decodedParams_eq (h : Takes template segments value) :
    Specification.decodedParams segments (escapedTexts segments value) =
      assigned segments value := by
  have htexts : (escapedTexts segments value).map
      (fun cs => Percent.decodeSegment (String.ofList cs)) = (names segments).map value := by
    rw [escapedTexts, List.map_map]
    refine List.map_congr_left fun name _ => ?_
    exact Percent.decodeSegment_encodeText (value name)
  have hkeys : ((assigned segments value).map Prod.fst).Nodup := by
    simpa [assigned, Function.comp_def] using h.nodup_names
  rw [Specification.decodedParams, htexts, ← List.map_prod_left_eq_zip, ← assigned,
    Dict.ofList_of_nodup hkeys]

/-! ### The look-up and the router -/

variable [Libraries]

/-- The look-up without prefixes answers the path, if the template declares the method.  If it
answers with that template, it gives the texts back. -/
theorem Takes.exists_findOperation? (h : Takes template segments value) {s : Specification}
    (hs : s.Loads) (hbases : s.bases = [""]) {method : Http.Method}
    (hdeclared : (s.operation? template method).isSome = true) :
    ∃ found, s.findOperation? method (pathOf segments value) = some found ∧
      (found.template = template → found.params = assigned segments value) := by
  have hw := hs.wellFormed
  obtain ⟨e, he⟩ := Option.isSome_iff_exists.1 hdeclared
  obtain ⟨r, hr, rfl, hre⟩ := hw.operation?_eq_some_iff.1 he
  obtain ⟨pieces, hpieces, hmatch⟩ := h.exists_matchSegments?
  -- the template is among those that match, with the escaped texts
  have hanswers : s.Answers method (pathOf segments value)
      ⟨r.template, e, Specification.decodedParams segments (escapedTexts segments value)⟩ :=
    ⟨r, hr, pieces, hpieces, Specification.matchResource?_eq_some_iff.2
      ⟨e, segments, _, hre, h.parse_eq, hmatch, rfl⟩⟩
  obtain ⟨found, hfound, hbest, -⟩ := Specification.matchRest?_eq_some hanswers
  refine ⟨found, ?_, fun htemplate => ?_⟩
  · rw [Specification.findOperation?, hbases, List.findSome?_cons, Path.stripPrefix_empty,
      Option.bind_some, hfound]
  · rw [hw.eq_of_answers hbest hanswers htemplate]
    exact h.decodedParams_eq

/-- A router without prefixes answers the path, if the template is one of its own.  If it answers
with that template, what it gives is decoded to the texts. -/
theorem Takes.exists_matchPath (h : Takes template segments value) {router : Router}
    {templates : List String} (hserves : router.Serves templates [""])
    (htemplate : template ∈ templates) :
    ∃ m, router.matchPath (pathOf segments value) = some m ∧
      (m.template = template → Contract.decodedParams m = assigned segments value) := by
  have hadmits : Admits templates "" (pathOf segments value) :=
    ⟨_, Path.stripPrefix_empty _, template, htemplate, segments, _, h.parse_eq, h.fills⟩
  obtain ⟨m, hm⟩ := Option.isSome_iff_exists.1
    (hserves.isSome_matchPath_iff.2 ⟨"", List.mem_singleton_self _, hadmits⟩)
  refine ⟨m, hm, ?_⟩
  rintro rfl
  obtain ⟨before, after, rest, hbases, -, hrest, hmatch⟩ := hserves.matchPath_eq_some hm
  obtain ⟨segments', texts, hparse, htexts, hanswer, -⟩ := hserves.exists_segments hmatch
  obtain rfl : segments = segments' := Except.ok.inj (h.parse_eq.symm.trans hparse)
  have hbase : m.base = "" := by
    have hmem : m.base ∈ [""] := hbases ▸ List.mem_append_right before List.mem_cons_self
    exact List.mem_singleton.1 hmem
  obtain rfl : pathOf segments value = rest := by
    rw [hbase, Path.stripPrefix_empty] at hrest
    exact Option.some.inj hrest
  obtain rfl : escapedTexts segments value = texts :=
    Option.some.inj (h.first?_eq.symm.trans htexts)
  rw [hanswer, Contract.decodedParams_bindings]
  exact h.decodedParams_eq

end

end Template

namespace Specification

/-- **Path parameters survive the round trip.**  Of every specification without servers, for every
template whose placeholders are segments of their own and have different names, every method that it
declares and all texts that are not empty: the path made by putting the escaped texts in place of
the placeholders is answered by the look-up, and by the router if there is one; and if the answer is
this template, its parameters, decoded, are exactly these texts. -/
theorem roundTrip [Libraries] {d : Document} {s : Specification} (hpaths : d.paths.keys.Nodup)
    (hd : ofDocument d = .ok s) (hservers : d.servers = []) {template : String}
    {method : Http.Method} (hdeclared : (s.operation? template method).isSome = true)
    {segments : List Template.Segment} {value : String → String}
    (h : Template.Takes template segments value) :
    (∃ found, s.findOperation? method (Template.pathOf segments value) = some found ∧
      (found.template = template → found.params = Template.assigned segments value)) ∧
    ∀ router, s.router none = .ok router →
      ∃ m, router.matchPath (Template.pathOf segments value) = some m ∧
        (m.template = template →
          Contract.decodedParams m = Template.assigned segments value) := by
  have hs : s.Loads := ⟨d, hpaths, hd⟩
  have hbases : s.bases = [""] := by
    obtain ⟨-, -, -, rfl⟩ := ofDocument_eq_ok_iff.1 hd
    rw [followed, hservers]
    rfl
  refine ⟨h.exists_findOperation? hs hbases hdeclared, fun router hrouter => ?_⟩
  have hserves := serves_of_router hrouter
  rw [hbases] at hserves
  obtain ⟨e, he⟩ := Option.isSome_iff_exists.1 hdeclared
  obtain ⟨r, hr, rfl, -⟩ := hs.wellFormed.operation?_eq_some_iff.1 he
  exact h.exists_matchPath hserves (List.mem_map_of_mem hr)

/-- A document with one path, in which two placeholders are segments of their own. -/
def folderDocument : Document :=
  { format := "3.0.3"
    info := { title := "Folders", version := "1" }
    paths := [("/\x7bfolder\x7d/files/\x7bname\x7d",
      { get := some
          { parameters := [{ name := "folder", location := some .path, required := true },
              { name := "name", location := some .path, required := true }]
            responses := [("200", {})] } })] }

/-- Slashes, escapes, braces and other letters come back. -/
theorem roundTrip_folder :
    Template.pathOf [[.param "folder"], [.literal "files"], [.param "name"]]
        (fun name => if name = "folder" then "a/%41" else "\x7bé+") =
      "/a%2F%2541/files/%7B%C3%A9%2B" ∧
    ∃ s found, ofDocument folderDocument = .ok s ∧
      s.findOperation? .get "/a%2F%2541/files/%7B%C3%A9%2B" = some found ∧
      found.params = [("folder", "a/%41"), ("name", "\x7bé+")] := by
  have hpath : Template.pathOf [[.param "folder"], [.literal "files"], [.param "name"]]
      (fun name => if name = "folder" then "a/%41" else "\x7bé+") =
        "/a%2F%2541/files/%7B%C3%A9%2B" := by decide +kernel
  have hd : ofDocument folderDocument = .ok (followed folderDocument) := by rfl
  have htakes : Template.Takes "/\x7bfolder\x7d/files/\x7bname\x7d"
      [[.param "folder"], [.literal "files"], [.param "name"]]
      (fun name => if name = "folder" then "a/%41" else "\x7bé+") :=
    { parse_eq := by rfl
      whole := by
        intro segment hsegment name hname
        simp only [List.mem_cons, List.not_mem_nil, or_false] at hsegment
        rcases hsegment with rfl | rfl | rfl <;> simp_all
      nodup_names := by decide
      ne_empty := by decide }
  have hdeclared : ((followed folderDocument).operation?
      "/\x7bfolder\x7d/files/\x7bname\x7d" .get).isSome = true := rfl
  obtain ⟨⟨found, hfound, hparams⟩, -⟩ := roundTrip (by decide) hd rfl hdeclared htakes
  rw [hpath] at hfound
  refine ⟨hpath, _, found, hd, hfound, hparams ?_⟩
  -- there is no other template
  obtain ⟨base, -, hbase⟩ := List.exists_of_findSome?_eq_some hfound
  obtain ⟨rest, -, hrest⟩ := Option.bind_eq_some_iff.1 hbase
  obtain ⟨r, hr, pieces, -, hm⟩ := answers_of_matchRest? hrest
  obtain ⟨e, segments, texts, -, -, -, rfl⟩ := matchResource?_eq_some_iff.1 hm
  rw [List.mem_singleton.1 hr]
  rfl

end Specification

end ApiContract
