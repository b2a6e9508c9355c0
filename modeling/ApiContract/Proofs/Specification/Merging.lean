/-
**Parameters are merged.**

The parameters of an endpoint come from its path and from its operation, with the components in
place of references.  Of all declarations with one name and location the last one counts.  Those
that count stand in the order in which they were declared, and no other list has these properties.

Main definitions:

* `Parameter.IsLastIn` — the last declaration with a name and a location;
* `Parameter.Precedes` — the last declaration of one parameter comes before that of another;
* `Parameter.Merges` — what it means that declarations are merged.

Main results:

* `Specification.merges_overriding` — overriding merges one more declaration;
* `Specification.merges_iff` — **overriding one by one merges**, and nothing else does;
* `Specification.endpointOf_merges` — **what the parameters of an endpoint are**.
-/

import ApiContract.Proofs.Specification.Resolution
import Mathlib.Data.List.Nodup

set_option relaxedAutoImplicit false
set_option autoImplicit false

namespace ApiContract

/-! ### Declarations that count -/

namespace Parameter

/-- What tells a parameter from others. -/
def key (p : Parameter) : String × Option Location := (p.name, p.location)

/-- The last declaration with its name and location. -/
def IsLastIn (p : Parameter) (qs : List Parameter) : Prop :=
  ∃ before after, qs = before ++ p :: after ∧ ∀ q ∈ after, ¬ q.Overrides p

/-- The last declaration of one parameter comes before the last declaration of another. -/
def Precedes (qs : List Parameter) (p q : Parameter) : Prop :=
  ∃ before between after, qs = before ++ p :: (between ++ q :: after) ∧
    (∀ r ∈ between ++ q :: after, ¬ r.Overrides p) ∧ ∀ r ∈ after, ¬ r.Overrides q

/-- **Declarations are merged to a list of parameters**: no two have the same name and location,
they are the last declarations, and they stand in the order of these. -/
structure Merges (qs ps : List Parameter) : Prop where
  distinct : (ps.map key).Nodup
  mem_iff : ∀ p, p ∈ ps ↔ p.IsLastIn qs
  ordered : ps.Pairwise (Precedes qs)

section

variable {p q r : Parameter} {ps qs : List Parameter}

theorem overrides_iff : q.Overrides p ↔ p.key = q.key := by
  simp [Overrides, key]

theorem isLastIn_concat_iff :
    p.IsLastIn (qs ++ [r]) ↔ (p.IsLastIn qs ∧ ¬ r.Overrides p) ∨ p = r :=
  Specification.last_concat_iff

/-- A further declaration of another parameter leaves the order as it is. -/
theorem Precedes.concat (h : Precedes qs p q) (hp : ¬ r.Overrides p) (hq : ¬ r.Overrides q) :
    Precedes (qs ++ [r]) p q := by
  obtain ⟨before, between, after, rfl, hbetween, hafter⟩ := h
  have hafter' : ∀ t ∈ after ++ [r], ¬ t.Overrides q :=
    List.forall_mem_append.2 ⟨hafter, List.forall_mem_singleton.2 hq⟩
  refine ⟨before, between, after ++ [r], by simp, ?_, hafter'⟩
  rw [← List.cons_append, ← List.append_assoc]
  exact List.forall_mem_append.2 ⟨hbetween, List.forall_mem_singleton.2 hp⟩

/-- A new declaration comes after all others. -/
theorem IsLastIn.precedes_concat (h : p.IsLastIn qs) (hr : ¬ r.Overrides p) :
    Precedes (qs ++ [r]) p r := by
  obtain ⟨before, after, rfl, hafter⟩ := h
  have hafter' : ∀ t ∈ after ++ [r], ¬ t.Overrides p :=
    List.forall_mem_append.2 ⟨hafter, List.forall_mem_singleton.2 hr⟩
  exact ⟨before, after, [], by simp, hafter', by simp⟩

/-- Every declaration has a last one with its name and location. -/
theorem exists_isLastIn (hq : q ∈ qs) :
    ∃ p : Parameter, p.IsLastIn qs ∧ p.key = q.key := by
  induction qs using List.reverseRecOn with
  | nil => cases hq
  | append_singleton qs r ih =>
      rcases List.mem_append.1 hq with hq | hq
      · obtain ⟨p, hp, hkey⟩ := ih hq
        by_cases hr : r.Overrides p
        · exact ⟨r, isLastIn_concat_iff.2 (Or.inr rfl), (overrides_iff.1 hr).symm.trans hkey⟩
        · exact ⟨p, isLastIn_concat_iff.2 (Or.inl ⟨hp, hr⟩), hkey⟩
      · exact ⟨r, isLastIn_concat_iff.2 (Or.inr rfl), by rw [List.mem_singleton.1 hq]⟩

theorem IsLastIn.append_left (h : p.IsLastIn qs) (ps : List Parameter) :
    p.IsLastIn (ps ++ qs) := by
  obtain ⟨before, after, rfl, hafter⟩ := h
  exact ⟨ps ++ before, after, by simp, hafter⟩

/-- A parameter is not declared again after its last declaration. -/
theorem length_le_of_last {before after before' after' : List Parameter}
    (hlast : ∀ r ∈ after, ¬ r.Overrides p)
    (h : before' ++ p :: after' = before ++ p :: after) : before'.length ≤ before.length := by
  rcases List.append_eq_append_iff.1 h with ⟨first, rfl, -⟩ | ⟨first, rfl, hfirst⟩
  · simp
  · cases first with
    | nil => simp
    | cons r first =>
        obtain ⟨-, rfl⟩ := List.cons.inj hfirst
        exact absurd ⟨rfl, rfl⟩ (hlast p (by simp))

/-- Of two parameters only one comes first. -/
theorem Precedes.asymm (h : Precedes qs p q) : ¬ Precedes qs q p := by
  rintro ⟨before', between', after', heq', hq, -⟩
  obtain ⟨before, between, after, heq, hp, -⟩ := h
  have hle : (before' ++ q :: between').length ≤ before.length :=
    length_le_of_last hp (by simpa using heq'.symm.trans heq)
  have hle' : (before ++ p :: between).length ≤ before'.length :=
    length_le_of_last hq (by simpa using heq.symm.trans heq')
  simp only [List.length_append, List.length_cons] at hle hle'
  omega

/-- There is one list that declarations are merged to. -/
theorem Merges.unique {ps' : List Parameter} (h : Merges qs ps) (h' : Merges qs ps') :
    ps = ps' := by
  have hperm : ps.Perm ps' :=
    (List.perm_ext_iff_of_nodup (List.Nodup.of_map key h.distinct)
      (List.Nodup.of_map key h'.distinct)).2 fun p => (h.mem_iff p).trans (h'.mem_iff p).symm
  exact hperm.eq_of_pairwise (fun p q _ _ hpq hqp => absurd hqp hpq.asymm) h.ordered h'.ordered

end

end Parameter

/-! ### Overriding -/

namespace Specification

open Parameter

section

variable {p q r : Parameter} {ps qs : List Parameter}

/-- What a parameter overrides gives way, and the others stay in their order. -/
theorem exists_overriding (ps : List Parameter) (r : Parameter) :
    ∃ kept, overriding ps r = kept ++ [r] ∧ kept.Sublist ps ∧ ∀ p ∈ kept, ¬ r.Overrides p := by
  refine ⟨_, rfl, List.filter_sublist, fun p hp => ?_⟩
  simpa [Overrides, imp_iff_not_or] using (List.mem_filter.1 hp).2

/-- **Overriding merges one more declaration.** -/
theorem merges_overriding (h : Merges qs ps) (r : Parameter) :
    Merges (qs ++ [r]) (overriding ps r) := by
  have hmem : ∀ p, p ∈ overriding ps r ↔ p.IsLastIn (qs ++ [r]) := by
    intro p
    rw [mem_overriding_iff, h.mem_iff, isLastIn_concat_iff]
  obtain ⟨kept, heq, hsublist, hkept⟩ := exists_overriding ps r
  refine ⟨?_, hmem, ?_⟩
  · rw [heq, List.map_append, List.map_singleton, List.nodup_append]
    refine ⟨(hsublist.map key).nodup h.distinct, List.nodup_singleton _, ?_⟩
    rintro _ hp _ hr rfl
    obtain ⟨p, hp, hkey⟩ := List.mem_map.1 hp
    exact hkept p hp (overrides_iff.2 (hkey.trans (List.mem_singleton.1 hr)))
  · rw [heq, List.pairwise_append]
    refine ⟨?_, List.pairwise_singleton _ _, fun p hp q hq => ?_⟩
    · exact (h.ordered.sublist hsublist).imp_of_mem fun hp hq hpq =>
        hpq.concat (hkept _ hp) (hkept _ hq)
    · rw [List.mem_singleton.1 hq]
      exact ((h.mem_iff p).1 (hsublist.subset hp)).precedes_concat (hkept p hp)

/-- **Overriding one by one merges declarations**, and nothing else does. -/
theorem merges_iff : Merges qs ps ↔ ps = qs.foldl overriding [] := by
  have hfold : Merges qs (qs.foldl overriding []) := by
    induction qs using List.reverseRecOn with
    | nil => exact ⟨List.nodup_nil, by simp [IsLastIn], .nil⟩
    | append_singleton qs r ih =>
        rw [List.foldl_append, List.foldl_cons, List.foldl_nil]
        exact merges_overriding ih r
  constructor
  · exact fun h => h.unique hfold
  · rintro rfl
    exact hfold

end

/-! ### Endpoints -/

section

variable {components : Components} {template : String} {item : PathItem} {o : Operation}
  {e : Endpoint}

/-- What stands for each of the parameters that lead somewhere. -/
theorem forall₂_followed {ps : List Parameter}
    (h : ∀ p ∈ ps, (p.target? components).isSome = true) :
    List.Forall₂ (fun p q => p.target? components = some q) ps
      (ps.map (·.followed components)) := by
  rw [List.forall₂_map_right_iff, List.forall₂_same]
  intro p hp
  obtain ⟨q, hq⟩ := Option.isSome_iff_exists.1 (h p hp)
  rw [Parameter.followed, hq, Option.getD_some]

/-- **What the parameters of an endpoint are.**  The declarations of the path, and after them those
of the operation, with components in place of references, are merged; and of the parameters with the
name and the location of a declaration of the operation there is exactly one, the last declaration
of the operation itself. -/
theorem endpointOf_merges (h : endpointOf components template item o = .ok e) :
    ∃ shared own,
      List.Forall₂ (fun p q => p.target? components = some q) item.parameters shared ∧
        List.Forall₂ (fun p q => p.target? components = some q) o.parameters own ∧
        Merges (shared ++ own) e.parameters ∧
        ∀ q ∈ own, ∃ p : Parameter, p.IsLastIn own ∧
          ∀ r, r ∈ e.parameters ∧ r.key = q.key ↔ r = p := by
  obtain ⟨hleads, rfl⟩ := endpointOf_eq_ok_iff.1 h
  obtain ⟨hshared, hown⟩ := List.forall_mem_append.1 hleads.parameters
  have hmerges := merges_iff.2 (rfl : (followedEndpoint components item o).parameters = _)
  rw [List.map_append] at hmerges
  refine ⟨_, _, forall₂_followed hshared, forall₂_followed hown, hmerges, fun q hq => ?_⟩
  obtain ⟨p, hp, hkey⟩ := exists_isLastIn hq
  have hmem := (hmerges.mem_iff p).2 (hp.append_left _)
  refine ⟨p, hp, fun r => ⟨?_, ?_⟩⟩
  · rintro ⟨hr, hrkey⟩
    exact List.inj_on_of_nodup_map hmerges.distinct hr hmem (hrkey.trans hkey.symm)
  · rintro rfl
    exact ⟨hmem, hkey⟩

/-- A path that declares how many items are asked for, and where they begin. -/
def pagedItem : PathItem where
  parameters := [{ name := "limit", location := some .query },
    { name := "offset", location := some .query }]

/-- An operation that refers to a declaration of its own. -/
def pagedOperation : Operation where
  parameters := [{ reference := some "#/components/parameters/Limit" }]

/-- The declaration that the operation refers to. -/
def pagedComponents : Components where
  parameters := [("Limit", { name := "limit", location := some .query, required := true })]

/-- The declaration that a reference of the operation leads to overrides that of the path, and
stands where it was made. -/
theorem endpointOf_merges_paged :
    ∃ e, endpointOf pagedComponents "/items" pagedItem pagedOperation = .ok e ∧
      e.parameters.map Parameter.required = [false, true] ∧
      ∃ shared own,
        List.Forall₂ (fun p q => p.target? pagedComponents = some q) pagedItem.parameters shared ∧
          List.Forall₂ (fun p q => p.target? pagedComponents = some q) pagedOperation.parameters
            own ∧
          Merges (shared ++ own) e.parameters ∧
          ∀ q ∈ own, ∃ p : Parameter, p.IsLastIn own ∧
            ∀ r, r ∈ e.parameters ∧ r.key = q.key ↔ r = p := by
  have h : endpointOf pagedComponents "/items" pagedItem pagedOperation =
      .ok (followedEndpoint pagedComponents pagedItem pagedOperation) := rfl
  exact ⟨_, h, rfl, endpointOf_merges h⟩

end

end Specification

end ApiContract
