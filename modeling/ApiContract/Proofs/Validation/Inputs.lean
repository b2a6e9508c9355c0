/-
**The texts of a parameter.**

The pairs of a query and those of the cookies are grouped by name before any parameter is looked at.
What is then found under a name are the values of its pairs, in order, whatever stands between them
and however often the name comes up.

Main definitions:

* `valuesOf` — the values of a name among pairs;
* `Http.Request.queryPairs`, `Http.Request.cookiePairs` — the pairs of a request.

Main results:

* `getD_get?_grouped` — **the values of a name are the same by name as among pairs**;
* `Http.Request.texts_query`, `Http.Request.texts_cookie` — the texts of a query parameter and of a
  cookie.
-/

import ApiContract.Validation.Message
import Mathlib.Data.List.Basic
import Mathlib.Data.List.Induction

set_option relaxedAutoImplicit false
set_option autoImplicit false

namespace ApiContract

/-- The values of a name among pairs, in order. -/
def valuesOf (pairs : List (String × String)) (name : String) : List String :=
  (pairs.filter (·.1 = name)).map Prod.snd

theorem valuesOf_concat (pairs : List (String × String)) (p : String × String) (name : String) :
    valuesOf (pairs ++ [p]) name =
      if p.1 = name then valuesOf pairs name ++ [p.2] else valuesOf pairs name := by
  rw [valuesOf, valuesOf, List.filter_append, List.map_append]
  by_cases h : p.1 = name <;> simp [h]

/-- **The values of a name are the same by name as among pairs.** -/
theorem getD_get?_grouped (pairs : List (String × String)) (name : String) :
    ((grouped pairs).get? name).getD [] = valuesOf pairs name := by
  induction pairs using List.reverseRecOn with
  | nil => rfl
  | append_singleton pairs p ih =>
      rw [valuesOf_concat, grouped, List.foldl_concat, ← grouped, Dict.get?_insert]
      split
      · rename_i h
        rw [Option.getD_some, h, ih]
      · exact ih

namespace Http.Request

/-- The pairs of the query. -/
def queryPairs (r : Request) : List (String × String) := Percent.pairs '&' (r.uri.query.getD "")

/-- The pairs of all cookies that can be read. -/
def cookiePairs (r : Request) : List (String × String) :=
  (r.headers.texts "cookie").flatMap (Percent.pairs ';')

/-- The texts of a query parameter are the values of its name. -/
theorem texts_query (r : Request) (params : Dict String) (name : String) :
    (Inputs.ofRequest r params).texts name .query = valuesOf r.queryPairs name :=
  getD_get?_grouped _ name

/-- The texts of a cookie are the values of its name, whichever header they stand in. -/
theorem texts_cookie (r : Request) (params : Dict String) (name : String) :
    (Inputs.ofRequest r params).texts name .cookie = valuesOf r.cookiePairs name :=
  getD_get?_grouped _ name

end Http.Request

end ApiContract
