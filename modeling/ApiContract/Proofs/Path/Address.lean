/-
**Addresses below a base path.**

A client puts a path below a base path, and a router strips a base path.  Each of them brings the
base path to a form of its own, and what is stripped is always what was put before: the slashes
around a base path never matter.

Main definitions:

* `Path.SameCore` — two texts that differ at most in the slashes around them.

Main results:

* `Text.trimEnds_append_append` — what is trimmed does not matter;
* `Path.SameCore.normalizeBase_eq` — base paths with the same core have the same normal form;
* `Path.stripPrefix_relative` — **stripping a base path undoes putting it before a path**;
* `Router.matchPath_relative` — a router below a base path finds what a router below the root finds.
-/

import ApiContract.Path.Address
import ApiContract.Path.Route
import ApiContract.Proofs.Text.Cutting
import Mathlib.Data.List.DropRight

set_option relaxedAutoImplicit false
set_option autoImplicit false

namespace ApiContract

/-! ### Trimming -/

namespace Text

variable {p : Char → Bool} {first cs last : List Char}

/-- Trailing characters of the class do not matter. -/
theorem trimRight_append (h : ∀ c ∈ last, p c = true) :
    trimRight p (cs ++ last) = trimRight p cs := by
  rw [trimRight, List.reverse_append, List.dropWhile_append_of_pos, trimRight]
  simpa using h

/-- Leading and trailing characters of the class do not matter. -/
theorem trimEnds_append_append (hfirst : ∀ c ∈ first, p c = true)
    (hlast : ∀ c ∈ last, p c = true) : trimEnds p (first ++ cs ++ last) = trimEnds p cs := by
  rw [trimEnds, List.append_assoc, List.dropWhile_append_of_pos hfirst, trimEnds,
    List.dropWhile_append]
  split
  · -- nothing but the class stands in the text
    rename_i hcs
    rw [List.isEmpty_iff] at hcs
    rw [hcs, List.dropWhile_eq_nil_iff.2 hlast]
  · exact trimRight_append hlast

/-- What is left after trimming, if anything, ends with a character of another class, which keeps
all that stands before it. -/
theorem trimRight_cons_trimRight (c : Char) (h : trimRight p cs ≠ []) :
    trimRight p (c :: trimRight p cs) = c :: trimRight p cs := by
  have hne : cs.reverse.dropWhile p ≠ [] := fun hnil => h (by rw [trimRight, hnil]; rfl)
  have hkept : (cs.reverse.dropWhile p ++ [c]).dropWhile p = cs.reverse.dropWhile p ++ [c] := by
    rw [List.dropWhile_append, List.dropWhile_idempotent, if_neg (by simpa using hne)]
  simp only [trimRight, List.reverse_cons, List.reverse_reverse, hkept, List.reverse_append,
    List.reverse_nil, List.nil_append, List.cons_append]

end Text

/-! ### Base paths -/

namespace Path

/-- Two texts that differ at most in the slashes before and after them. -/
def SameCore (s t : String) : Prop :=
  ∃ (core : List Char) (i j k l : Nat),
    s.toList = List.replicate i '/' ++ core ++ List.replicate j '/' ∧
    t.toList = List.replicate k '/' ++ core ++ List.replicate l '/'

/-- Slashes around a text are trimmed. -/
theorem trimEnds_replicate (i j : Nat) (core : List Char) :
    Text.trimEnds isSlash (List.replicate i '/' ++ core ++ List.replicate j '/') =
      Text.trimEnds isSlash core := by
  have hslash : ∀ n, ∀ c ∈ List.replicate n '/', isSlash c = true := by
    intro n c hc
    rw [List.eq_of_mem_replicate hc]
    rfl
  exact Text.trimEnds_append_append (hslash i) (hslash j)

/-- Base paths with the same core have the same normal form. -/
theorem SameCore.normalizeBase_eq {s t : String} (h : SameCore s t) :
    normalizeBase s = normalizeBase t := by
  obtain ⟨core, i, j, k, l, hs, ht⟩ := h
  rw [normalizeBase, normalizeBase, hs, ht, trimEnds_replicate, trimEnds_replicate]

/-- What a router strips for a base path: nothing, or a slash and the core of the base path. -/
theorem withoutTrailingSlashes_normalizeBase (b : String) :
    (withoutTrailingSlashes (normalizeBase b)).toList =
      if Text.trimEnds isSlash b.toList = [] then [] else
        '/' :: Text.trimEnds isSlash b.toList := by
  rw [withoutTrailingSlashes, normalizeBase, String.toList_ofList, String.toList_ofList]
  split
  · rename_i hcore
    rw [hcore]
    rfl
  · rename_i hcore
    exact Text.trimRight_cons_trimRight '/' hcore

/-- A prefix that does not end a segment of a path is stripped from it. -/
theorem stripPrefixChars_append (head rest : List Char) :
    stripPrefixChars (head ++ '/' :: rest) head = some ('/' :: rest) := by
  unfold stripPrefixChars
  split
  · rename_i hhead
    rw [hhead, List.nil_append]
  · rw [Text.isPrefixOf?_eq_some_iff.2 rfl]
    rfl

/-- **Stripping a base path undoes putting it before a path.**  What is left is the path with one
slash before it, in whatever way the base path and the path are written. -/
theorem stripPrefix_relative (host base path : String) :
    stripPrefix ((Address.mk host base).relative path)
        (withoutTrailingSlashes (normalizeBase base)) =
      some (String.ofList ('/' :: path.toList.dropWhile isSlash)) := by
  have hrelative : ((Address.mk host base).relative path).toList =
      (withoutTrailingSlashes (normalizeBase base)).toList ++
        '/' :: path.toList.dropWhile isSlash := by
    rw [withoutTrailingSlashes_normalizeBase, Address.relative, String.toList_ofList]
    split <;> rfl
  rw [stripPrefix, hrelative, stripPrefixChars_append]
  rfl

end Path

/-! ### Routers -/

/-- What is found of a path: the template, and the texts of its placeholders. -/
def RouteMatch.found (m : RouteMatch) : String × Dict String := (m.template, m.params)

namespace Router

variable {router root : Router} {templates bases : List String}

/-- A router has the routes of its templates, whatever its prefixes are. -/
theorem build_eq_ok_iff [Libraries] :
    build templates bases = .ok router ↔
      router.prefixes = bases ∧ ∃ routes, Route.compileAll templates = .ok routes ∧
        router.routes = routes.mergeSort fun a b => Template.precedes a.template b.template := by
  obtain ⟨routes, prefixes⟩ := router
  unfold build
  cases Route.compileAll templates with
  | error e => simp
  | ok compiled => simp [eq_comm, and_comm]

/-- What is found of the rest of a path depends on the routes alone. -/
theorem found_matchRest (h : router.routes = root.routes) (b₁ b₂ rest : String) :
    (router.matchRest b₁ rest).map RouteMatch.found =
      (root.matchRest b₂ rest).map RouteMatch.found := by
  rw [matchRest, matchRest, h]
  induction root.routes with
  | nil => rfl
  | cons route routes ih =>
      rw [List.findSome?_cons, List.findSome?_cons]
      cases route.cut? rest with
      | some texts => rfl
      | none => exact ih

/-- The root prefix leaves a path as it is. -/
theorem matchPath_root (h : root.prefixes = [""]) (path : String) :
    root.matchPath path = root.matchRest "" path := by
  have hstrip : Path.stripPrefix path "" = some path := by
    simp [Path.stripPrefix, Path.stripPrefixChars]
  rw [matchPath, h, List.findSome?_singleton, hstrip]

/-- A router below a base path finds of a path that was put below it what the router below the root
finds of the path with one slash before it. -/
theorem matchPath_relative [Libraries] {base : String}
    (h : build templates [Path.withoutTrailingSlashes (Path.normalizeBase base)] = .ok router)
    (hroot : build templates [""] = .ok root) (host path : String) :
    (router.matchPath ((Address.mk host base).relative path)).map RouteMatch.found =
      (root.matchPath (String.ofList ('/' :: path.toList.dropWhile Path.isSlash))).map
        RouteMatch.found := by
  obtain ⟨hprefixes, routes, hcompile, hroutes⟩ := build_eq_ok_iff.1 h
  obtain ⟨hprefixes', routes', hcompile', hroutes'⟩ := build_eq_ok_iff.1 hroot
  obtain rfl : routes = routes' := Except.ok.inj (hcompile.symm.trans hcompile')
  rw [matchPath_root hprefixes', matchPath, hprefixes, List.findSome?_singleton,
    Path.stripPrefix_relative]
  exact found_matchRest (hroutes.trans hroutes'.symm) ..

end Router

end ApiContract
