/-
**What a look-up by path finds.**

Under a prefix, the look-up answers with the least template that declares the method and that a
single pass matches.  Among distinct templates this is one operation.

Main definitions:

* `Specification.Answers` — a match of what is left of a path.

Main results:

* `Specification.foldl_preferred_eq_some` — **the least match counts**;
* `Specification.matchRest?_eq_some`, `Specification.answers_of_matchRest?` — what is found under a
  prefix;
* `Specification.WellFormed.operation?_eq_some_iff` — the operation of a template and a method.
-/

import ApiContract.Proofs.Path.Route
import ApiContract.Proofs.Specification.Loading
import Mathlib.Data.List.Nodup

set_option relaxedAutoImplicit false
set_option autoImplicit false

namespace ApiContract

/-! ### Finding by a key -/

/-- Among items with distinct keys, each is found by its key. -/
theorem find?_of_nodup {α κ : Type} [DecidableEq κ] {f : α → κ} {as : List α}
    (h : (as.map f).Nodup) {a : α} (ha : a ∈ as) :
    as.find? (fun b => decide (f b = f a)) = some a := by
  cases hfind : as.find? (fun b => decide (f b = f a)) with
  | none =>
      rw [List.find?_eq_none] at hfind
      exact absurd (decide_eq_true rfl) (hfind a ha)
  | some b =>
      have hb : f b = f a := by simpa using List.find?_some hfind
      rw [List.inj_on_of_nodup_map h (List.mem_of_find?_eq_some hfind) ha hb]

theorem Resource.mem_of_operation? {r : Resource} {method : Http.Method} {e : Endpoint}
    (h : r.operation? method = some e) : (method, e) ∈ r.operations := by
  obtain ⟨⟨m, e'⟩, ho, rfl⟩ := Option.map_eq_some_iff.1 h
  have hm := List.find?_some ho
  simp only [decide_eq_true_eq] at hm
  rw [← hm]
  exact List.mem_of_find?_eq_some ho

namespace Specification

section

variable {s : Specification} {template : String} {method : Http.Method} {e : Endpoint}
  {r : Resource}

theorem mem_of_resource? (h : s.resource? template = some r) :
    r ∈ s.resources ∧ r.template = template :=
  ⟨List.mem_of_find?_eq_some h, by simpa using List.find?_some h⟩

/-- The operation of a template and a method is one of a resource. -/
theorem exists_of_operation? (h : s.operation? template method = some e) :
    ∃ r ∈ s.resources, r.template = template ∧ r.operation? method = some e := by
  obtain ⟨r, hr, he⟩ := Option.bind_eq_some_iff.1 h
  obtain ⟨hmem, htemplate⟩ := mem_of_resource? hr
  exact ⟨r, hmem, htemplate, he⟩

/-- A resource is found by its template. -/
theorem WellFormed.resource?_of_mem (h : s.WellFormed) (hr : r ∈ s.resources) :
    s.resource? r.template = some r :=
  find?_of_nodup h.nodup_templates hr

/-- The operation of a template and a method is that of the resource with the template. -/
theorem WellFormed.operation?_eq_some_iff (h : s.WellFormed) :
    s.operation? template method = some e ↔
      ∃ r ∈ s.resources, r.template = template ∧ r.operation? method = some e := by
  constructor
  · intro ho
    exact exists_of_operation? ho
  · rintro ⟨r, hr, rfl, he⟩
    exact Option.bind_eq_some_iff.2 ⟨r, h.resource?_of_mem hr, he⟩

/-- Two resources with one template are the same. -/
theorem WellFormed.eq_of_template_eq (h : s.WellFormed) {r₁ r₂ : Resource}
    (h₁ : r₁ ∈ s.resources) (h₂ : r₂ ∈ s.resources) (heq : r₁.template = r₂.template) :
    r₁ = r₂ :=
  List.inj_on_of_nodup_map h.nodup_templates h₁ h₂ heq

end

/-! ### The match that counts -/

/-- Of two matches the one that counts precedes both. -/
theorem preferred_some (old new : OperationMatch) :
    ∃ m, preferred (some old) new = some m ∧ m ∈ [old, new] ∧
      Template.precedes m.template old.template = true ∧
      Template.precedes m.template new.template = true := by
  simp only [preferred]
  split
  · rename_i hgt
    have hold : ¬ Template.precedes old.template new.template = true := by
      simp [Template.precedes, hgt]
    exact ⟨new, rfl, by simp, (Template.precedes_total _ _).resolve_left hold,
      Template.precedes_refl _⟩
  · rename_i hgt
    exact ⟨old, rfl, by simp, Template.precedes_refl _, by simpa [Template.precedes] using hgt⟩

/-- The fold over matches keeps one that precedes all others. -/
theorem foldl_preferred_some (found : List OperationMatch) (best : OperationMatch) :
    ∃ m, found.foldl preferred (some best) = some m ∧ m ∈ best :: found ∧
      ∀ n ∈ best :: found, Template.precedes m.template n.template = true := by
  induction found generalizing best with
  | nil =>
      refine ⟨best, rfl, List.mem_cons_self, fun n hn => ?_⟩
      rw [List.mem_singleton.1 hn]
      exact Template.precedes_refl _
  | cons new found ih =>
      -- the fold goes on with the better of the two, which precedes both
      obtain ⟨first, hfirst, hmem, hbest, hnew⟩ := preferred_some best new
      obtain ⟨m, hm, hmm, hleast⟩ := ih first
      rw [List.foldl_cons, hfirst]
      have hmfirst := hleast first List.mem_cons_self
      refine ⟨m, hm, ?_, fun n hn => ?_⟩
      · rcases List.mem_cons.1 hmm with rfl | hmm
        · exact List.mem_append_left found hmem
        · exact List.mem_cons_of_mem _ (List.mem_cons_of_mem _ hmm)
      · rcases List.mem_cons.1 hn with rfl | hn
        · exact Template.precedes_trans hmfirst hbest
        · rcases List.mem_cons.1 hn with rfl | hn
          · exact Template.precedes_trans hmfirst hnew
          · exact hleast n (List.mem_cons_of_mem _ hn)

/-- **The least match counts**, if there is one. -/
theorem foldl_preferred_eq_some {found : List OperationMatch} (h : found ≠ []) :
    ∃ m, found.foldl preferred none = some m ∧ m ∈ found ∧
      ∀ n ∈ found, Template.precedes m.template n.template = true := by
  cases found with
  | nil => exact absurd rfl h
  | cons first found => exact foldl_preferred_some found first

/-! ### What is found under a prefix -/

/-- A match of what is left of a path. -/
def Answers (s : Specification) (method : Http.Method) (rest : String) (m : OperationMatch) :
    Prop :=
  ∃ r ∈ s.resources, ∃ pieces, Path.segments rest.toList = some pieces ∧
    matchResource? method pieces r = some m

section

variable {s : Specification} {method : Http.Method} {rest : String} {m : OperationMatch}

theorem matchResource?_eq_some_iff {pieces : List (List Char)} {r : Resource} :
    matchResource? method pieces r = some m ↔
      ∃ e segments texts, r.operation? method = some e ∧
        Template.parse r.template = .ok segments ∧
        Template.matchSegments? segments pieces = some texts ∧
        m = ⟨r.template, e, decodedParams segments texts⟩ := by
  unfold matchResource?
  split
  · rename_i e segments he hs
    rw [Option.map_eq_some_iff]
    constructor
    · rintro ⟨texts, ht, rfl⟩
      exact ⟨e, segments, texts, he, hs, ht, rfl⟩
    · rintro ⟨e', segments', texts, he', hs', ht, rfl⟩
      rw [he] at he'
      rw [hs] at hs'
      cases he'
      cases hs'
      exact ⟨texts, ht, rfl⟩
  · rename_i hnone
    constructor
    · rintro ⟨⟩
    · rintro ⟨e, segments, texts, he, hs, -, -⟩
      exact absurd hs (hnone e segments he)

/-- What is left of a path has one match at most with a template. -/
theorem WellFormed.eq_of_answers (h : s.WellFormed) {n : OperationMatch}
    (hm : s.Answers method rest m) (hn : s.Answers method rest n)
    (heq : m.template = n.template) : m = n := by
  obtain ⟨r, hr, pieces, hp, hm⟩ := hm
  obtain ⟨r', hr', pieces', hp', hn⟩ := hn
  have htemplate : r.template = r'.template := by
    obtain ⟨_, _, _, -, -, -, rfl⟩ := matchResource?_eq_some_iff.1 hm
    obtain ⟨_, _, _, -, -, -, rfl⟩ := matchResource?_eq_some_iff.1 hn
    exact heq
  rw [← h.eq_of_template_eq hr hr' htemplate] at hn
  rw [hp] at hp'
  cases hp'
  rw [hm] at hn
  exact Option.some.inj hn

/-- The matches of what is left are those of the single resources. -/
theorem answers_iff {pieces : List (List Char)} (hp : Path.segments rest.toList = some pieces) :
    s.Answers method rest m ↔ m ∈ s.resources.filterMap (matchResource? method pieces) := by
  rw [List.mem_filterMap]
  constructor
  · rintro ⟨r, hr, pieces', hp', hm⟩
    rw [hp] at hp'
    cases hp'
    exact ⟨r, hr, hm⟩
  · rintro ⟨r, hr, hm⟩
    exact ⟨r, hr, pieces, hp, hm⟩

/-- Under a prefix the least match is found. -/
theorem matchRest?_eq_some (h : s.Answers method rest m) :
    ∃ best, s.matchRest? method rest = some best ∧ s.Answers method rest best ∧
      ∀ n, s.Answers method rest n → Template.precedes best.template n.template = true := by
  obtain ⟨r, hr, pieces, hp, hm⟩ := h
  have hne : s.resources.filterMap (matchResource? method pieces) ≠ [] :=
    List.ne_nil_of_mem (List.mem_filterMap.2 ⟨r, hr, hm⟩)
  obtain ⟨best, hbest, hmem, hleast⟩ := foldl_preferred_eq_some hne
  refine ⟨best, ?_, (answers_iff hp).2 hmem, fun n hn => hleast n ((answers_iff hp).1 hn)⟩
  simp only [matchRest?, hp]
  exact hbest

theorem answers_of_matchRest? (h : s.matchRest? method rest = some m) :
    s.Answers method rest m := by
  unfold matchRest? at h
  split at h
  · rename_i pieces hp
    rw [answers_iff hp]
    by_cases hne : s.resources.filterMap (matchResource? method pieces) = []
    · rw [hne] at h
      cases h
    · obtain ⟨best, hbest, hmem, -⟩ := foldl_preferred_eq_some hne
      rw [hbest] at h
      cases h
      exact hmem
  · cases h

end

end Specification

end ApiContract
