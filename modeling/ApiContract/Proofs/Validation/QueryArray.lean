/-
**Arrays in a query.**

An array of texts stands in a query as one pair for each text, under the name of the parameter.  The
reader groups the pairs by name and takes every text as an item.  A single text is also a way to
write an array: its items are what stands between the commas, escaped or not.  So a list of texts is
read back, unless it is one text with a comma in it.

Main results:

* `Percent.valuesOf_joinedPairs` — the texts of a parameter are what was sent under its name;
* `Coercion.itemTexts_eq_self_iff` — which texts are the items of an array as they are;
* `Schemas.coerce_texts` — texts as an array of texts;
* `Schemas.coerce_query` — **which arrays are read back from a query**;
* `Schemas.not_coerce_query` — not all of them are.
-/

import ApiContract.Proofs.Text.Percent
import ApiContract.Proofs.Validation.Coercion
import ApiContract.Proofs.Validation.Inputs

set_option relaxedAutoImplicit false
set_option autoImplicit false

namespace ApiContract

/-- The texts of a parameter are what was sent under its name, in order. -/
theorem Percent.valuesOf_joinedPairs (name : String) (texts : List String) :
    valuesOf (pairs '&' (joinedPairs '&' (texts.map fun text => (name, text)))) name = texts := by
  rw [pairs_joinedPairs (by decide) (by decide), valuesOf, List.filter_eq_self.2 (by simp)]
  simp [Function.comp_def]

/-- Texts are the items of an array as they are, unless there is a single one with a comma. -/
theorem Coercion.itemTexts_eq_self_iff {texts : List String} :
    itemTexts texts = texts ↔ ∀ text, texts = [text] → ',' ∉ text.toList := by
  unfold itemTexts
  split
  · rename_i text
    constructor
    · rintro h _ ⟨⟩ hmem
      -- there is one more piece than there are commas
      have hlength := congrArg List.length h
      rw [List.length_map, Text.length_fields, List.length_singleton] at hlength
      have hcount := List.count_pos_iff.2 hmem
      omega
    · intro h
      rw [Text.fields_of_not_mem (h text rfl), List.map_singleton, String.ofList_toList]
  · rename_i hne
    exact iff_of_true rfl fun text h => absurd h (hne text)

namespace Schemas

variable {schemas : Schemas} {s item : Schema}

/-- What a schema of texts makes of a text is the text. -/
theorem coerceWithin?_text (h : (schemas.meant item).primaryType = some .string) (n : Nat)
    (text : String) : schemas.coerceWithin? (n + 1) item [text] = some (.string text) := by
  unfold meant at h
  simp only [coerceWithin?, h]
  rfl

/-- What a schema of arrays of texts makes of texts is the array of the items. -/
theorem coerce_texts (hitem : schemas.itemSchema? s = some item)
    (hstring : (schemas.meant item).primaryType = some .string) (texts : List String) :
    schemas.coerce s texts = .array ((Coercion.itemTexts texts).map .string) := by
  have htext : (fun t => schemas.coerceWithin? 1 item [t]) = fun t => pure (.string t) :=
    funext fun t => coerceWithin?_text hstring 0 t
  have hcoerces : schemas.Coerces s texts (.array ((Coercion.itemTexts texts).map .string)) := by
    refine ⟨2, ?_⟩
    rw [coerceWithin?_of_some hitem, htext, List.mapM_pure]
    rfl
  rw [coerce, coerces_iff.1 hcoerces, Option.getD_some]

/-- The texts of a parameter are those that the query of the request was made of. -/
theorem texts_ofRequest {name : String} {texts : List String} {request : Http.Request}
    (params : Dict String) (hquery : request.uri.query =
      some (Percent.joinedPairs '&' (texts.map fun text => (name, text)))) :
    (Inputs.ofRequest request params).texts name .query = texts := by
  rw [Http.Request.texts_query, Http.Request.queryPairs, hquery, Option.getD_some]
  exact Percent.valuesOf_joinedPairs name texts

/-- **Which arrays are read back from a query.**  For every name, every schema of arrays of texts
and all texts: if the query of a request is one escaped pair for each text, in order, then the texts
of the parameter are read as the array of its items, and this is the array of exactly these texts
unless there is a single one with a comma in it. -/
theorem coerce_query (hitem : schemas.itemSchema? s = some item)
    (hstring : (schemas.meant item).primaryType = some .string) {name : String}
    {texts : List String} {request : Http.Request} (params : Dict String)
    (hquery : request.uri.query =
      some (Percent.joinedPairs '&' (texts.map fun text => (name, text)))) :
    schemas.coerce s ((Inputs.ofRequest request params).texts name .query) =
        .array ((Coercion.itemTexts texts).map .string) ∧
      (schemas.coerce s ((Inputs.ofRequest request params).texts name .query) =
          .array (texts.map .string) ↔
        ∀ text, texts = [text] → ',' ∉ text.toList) := by
  rw [texts_ofRequest params hquery, coerce_texts hitem hstring]
  refine ⟨rfl, ?_⟩
  rw [← Coercion.itemTexts_eq_self_iff, Json.array.injEq]
  constructor
  · intro h
    exact List.map_injective_iff.2 (fun a b hab => Json.string.inj hab) h
  · intro h
    rw [h]

/-- A schema of texts. -/
def tagSchema : Schema := { type := some (.one .string) }

/-- A schema of arrays of texts. -/
def tagsSchema : Schema := { type := some (.one .array), items := some tagSchema }

theorem itemSchema?_tags : itemSchema? [] tagsSchema = some tagSchema := rfl

/-- A request for a path with a query. -/
def requestWith (query : String) : Http.Request :=
  { method := .get, uri := ⟨none, "", "/a", some query⟩ }

/-- Of two texts one may have a comma. -/
theorem coerce_query_two :
    coerce [] tagsSchema
        ((Inputs.ofRequest (requestWith "tag=a%2Cb&tag=c%26d%3D%C3%A9") []).texts "tag" .query) =
      .array [.string "a,b", .string "c&d=é"] := by
  have hquery : (requestWith "tag=a%2Cb&tag=c%26d%3D%C3%A9").uri.query =
      some (Percent.joinedPairs '&' (["a,b", "c&d=é"].map fun text => ("tag", text))) := by
    decide +kernel
  obtain ⟨-, hiff⟩ := coerce_query itemSchema?_tags rfl [] hquery
  exact hiff.2 (by simp)

/-- **Not every array is read back**: the items of a single text are what stands between the commas,
even if the comma was escaped. -/
theorem not_coerce_query :
    ¬ ∀ (schemas : Schemas) (s item : Schema) (name : String) (texts : List String)
        (request : Http.Request) (params : Dict String),
      schemas.itemSchema? s = some item → (schemas.meant item).primaryType = some .string →
      texts ≠ [] →
      request.uri.query =
        some (Percent.joinedPairs '&' (texts.map fun text => (name, text))) →
      schemas.coerce s ((Inputs.ofRequest request params).texts name .query) =
        .array (texts.map .string) := by
  intro h
  have hquery : (requestWith "tag=a%2Cb").uri.query =
      some (Percent.joinedPairs '&' (["a,b"].map fun text => ("tag", text))) := by
    decide +kernel
  have hread := h [] tagsSchema tagSchema "tag" ["a,b"] (requestWith "tag=a%2Cb") []
    itemSchema?_tags rfl (by simp) hquery
  rw [texts_ofRequest [] hquery, coerce_texts itemSchema?_tags rfl] at hread
  have hlength := congrArg List.length (Json.array.inj hread)
  cases hlength

end Schemas

namespace Specification

/-- **What is checked of an array in a query.**  The texts of a parameter that were sent as pairs
are checked as the array of the items. -/
theorem parameterFindings_query [Libraries] {s : Specification} {p : Parameter} {t item : Schema}
    (hlocation : p.location = some .query) (hschema : p.schema = some t)
    (hitem : s.components.schemas.itemSchema? t = some item)
    (hstring : (s.components.schemas.meant item).primaryType = some .string)
    {texts : List String} (hne : texts ≠ []) {request : Http.Request} (params : Dict String)
    (hquery : request.uri.query =
      some (Percent.joinedPairs '&' (texts.map fun text => (p.name, text)))) :
    s.parameterFindings (.ofRequest request params) p =
      (s.components.schemas.violations t
        (.array ((Coercion.itemTexts texts).map .string))).map (.parameter .query p.name) := by
  have hread := Schemas.texts_ofRequest params hquery
  unfold parameterFindings
  rw [hlocation]
  simp only
  split
  · rename_i hnil
    exact absurd (hread.symm.trans hnil) hne
  · rw [hread, hschema, textViolations, Schemas.coerce_texts hitem hstring]

end Specification

end ApiContract
