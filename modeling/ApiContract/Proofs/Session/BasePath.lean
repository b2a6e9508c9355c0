/-
**Base paths of clients and contracts compose.**

A client that is given a base path puts it before every path that it requests, and a contract that
is given the same base path strips it.  The slashes around the base path matter to neither, so that
what a contract finds of a request is what would be found of the bare path without any base path.

Main results:

* `Contract.router_of_ofSpecification` — the router of a contract;
* `Contract.ofSpecification_congr` — base paths with the same core make the same contract;
* `Contract.base_paths_compose` — **base paths of clients and contracts compose**.
-/

import ApiContract.Pattern.Library
import ApiContract.Proofs.Path.Address
import ApiContract.Proofs.Session.Filtering

set_option relaxedAutoImplicit false
set_option autoImplicit false

namespace ApiContract.Contract

variable {s : Specification} {p : Policy} {c : Contract} {base other : String}

/-- A contract with a base path routes the templates below that base path. -/
theorem router_of_ofSpecification [Libraries]
    (h : ofSpecification s { p with base := some base } = .ok c) :
    Router.build s.templates [Path.withoutTrailingSlashes (Path.normalizeBase base)] =
      .ok c.router := by
  unfold ofSpecification at h
  split at h
  · rename_i router hrouter
    cases h
    exact hrouter
  · cases h

/-- Base paths with the same core make the same contract. -/
theorem ofSpecification_congr [Libraries] (s : Specification) (p : Policy)
    (h : Path.SameCore base other) :
    ofSpecification s { p with base := some base } =
      ofSpecification s { p with base := some other } := by
  have hnormal : ({ p with base := some base } : Policy).normal =
      ({ p with base := some other } : Policy).normal := by
    simp [Policy.normal, Policy.normalBase, h.normalizeBase_eq]
  have hbase : ({ p with base := some base } : Policy).normalBase =
      ({ p with base := some other } : Policy).normalBase := congrArg Policy.base hnormal
  rw [ofSpecification, ofSpecification, hnormal, hbase]

/-- **Base paths of clients and contracts compose.**  A specification with a contract under a policy
with a base path has a router below the root.  Of an address that a client makes with this base
path, the contract finds what is found below the root of the path with one slash before it in place
of its leading slashes: nothing if nothing is found there, and otherwise the same template with the
same texts of placeholders.  A base path with other slashes around it makes a contract with the same
coverage and the same reports after the same calls. -/
theorem base_paths_compose [Libraries]
    (hc : ofSpecification s { p with base := some base } = .ok c) :
    ∃ root, Router.build s.templates [""] = .ok root ∧
      (∀ host path,
        (c.router.matchPath ((Address.mk host base).relative path)).map
            (fun m => (m.template, m.params)) =
          (root.matchPath (String.ofList ('/' :: path.toList.dropWhile Path.isSlash))).map
            (fun m => (m.template, m.params))) ∧
      ∀ other, Path.SameCore base other →
        ∃ c', ofSpecification s { p with base := some other } = .ok c' ∧
          ∀ calls, (c'.run c'.start calls).coverage = (c.run c.start calls).coverage ∧
            c'.reports (c'.run c'.start calls) = c.reports (c.run c.start calls) := by
  obtain ⟨root, hroot⟩ : ∃ root, Router.build s.templates [""] = .ok root :=
    Router.exists_build_iff.2 (exists_ofSpecification_iff.1 ⟨c, hc⟩)
  refine ⟨root, hroot, fun host path => ?_, fun other hother => ?_⟩
  · exact Router.matchPath_relative (router_of_ofSpecification hc) hroot host path
  · exact ⟨c, (ofSpecification_congr s p hother).symm.trans hc, fun calls => ⟨rfl, rfl⟩⟩

/-- A base path and a path with slashes too many: the resource is found all the same. -/
theorem base_paths_compose_pictured :
    Path.SameCore "//api/" "api" ∧
      ∃ c c',
        ofSpecification (picturedContract {}).specification { base := some "//api/" } = .ok c ∧
        ofSpecification (picturedContract {}).specification { base := some "api" } = .ok c' ∧
        (c.router.matchPath ((Address.mk "http://localhost" "//api/").relative "//a")).map
          (fun m => (m.template, m.params)) = some ("/a", []) ∧
        c'.reports (c'.run c'.start [.record picture]) =
          c.reports (c.run c.start [.record picture]) := by
  obtain ⟨c, hc⟩ : ∃ c,
      ofSpecification (picturedContract {}).specification { base := some "//api/" } = .ok c :=
    ⟨_, ofSpecification_of_router (Router.build_singleton rfl ["/api"])⟩
  have hcore : Path.SameCore "//api/" "api" := ⟨"api".toList, 2, 1, 0, 0, by decide, by decide⟩
  obtain ⟨root, hroot, hfound, hother⟩ := base_paths_compose (p := {}) hc
  obtain ⟨c', hc', hrun⟩ := hother "api" hcore
  refine ⟨hcore, c, c', hc, hc', ?_, (hrun [.record picture]).2⟩
  obtain rfl : (picturedContract {}).router = root :=
    Except.ok.inj ((Router.build_singleton rfl [""]).symm.trans hroot)
  rw [hfound]
  rfl

end ApiContract.Contract
