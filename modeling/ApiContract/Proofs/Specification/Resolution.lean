/-
**What stands for references.**

The parameters, the bodies and the responses of operations may be references to components.  When a
specification is made, each reference is followed once: what the component is takes the place of the
reference, even if it is a reference again.  A reference that names no component is an error.

Main definitions:

* `Document.Leads` — every reference of an operation names a component;
* `Document.Direct` — what stands for a reference is no reference;
* `Specification.followed` — the specification in which every reference is followed once;
* `Specification.IsResolved` — a specification without references.

Main results:

* `Specification.mem_foldl_overriding_iff` — of the parameters with one name and location the last
  one is kept;
* `Specification.ofDocument_eq_ok_iff` — the documents that make a specification, and which;
* `Specification.ofDocument_resolved_iff` — **a document makes a specification exactly if its
  references name components, and there is no reference in it exactly if none leads to another**.
-/

import ApiContract.Proofs.Specification.Loading
import Mathlib.Data.List.Induction

set_option relaxedAutoImplicit false
set_option autoImplicit false

namespace ApiContract

/-! ### Following references once -/

/-- What stands for a parameter; the parameter itself if it leads nowhere. -/
def Parameter.followed (components : Components) (p : Parameter) : Parameter :=
  (p.target? components).getD p

/-- What stands for a body. -/
def RequestBody.followed (components : Components) (b : RequestBody) : RequestBody :=
  (b.target? components).getD b

/-- What stands for a response. -/
def Response.followed (components : Components) (r : Response) : Response :=
  (r.target? components).getD r

/-- Two parameters with one name and one location. -/
def Parameter.Overrides (q p : Parameter) : Prop := p.name = q.name ∧ p.location = q.location

/-- Every reference of an operation names a component. -/
structure Operation.Leads (components : Components) (item : PathItem) (o : Operation) : Prop where
  parameters : ∀ p ∈ item.parameters ++ o.parameters, (p.target? components).isSome = true
  requestBody : ∀ b ∈ o.requestBody, (b.target? components).isSome = true
  responses : ∀ r ∈ o.responses.values, (r.target? components).isSome = true

/-- What stands for a reference of an operation is no reference, unless it is a parameter that is
overridden by a later one. -/
structure Operation.Direct (components : Components) (item : PathItem) (o : Operation) :
    Prop where
  parameters : ∀ before p after, item.parameters ++ o.parameters = before ++ p :: after →
    (∀ q ∈ after, ¬ (q.followed components).Overrides (p.followed components)) →
    (p.followed components).reference = none
  requestBody : ∀ b ∈ o.requestBody, (b.followed components).reference = none
  responses : ∀ r ∈ o.responses.values, (r.followed components).reference = none

/-- Every reference of every operation names a component. -/
def Document.Leads (d : Document) : Prop :=
  ∀ p ∈ d.paths, ∀ o ∈ p.2.operations, o.2.Leads d.components p.2

/-- What stands for a reference of an operation is no reference. -/
def Document.Direct (d : Document) : Prop :=
  ∀ p ∈ d.paths, ∀ o ∈ p.2.operations, o.2.Direct d.components p.2

/-- An endpoint holds no reference. -/
structure Endpoint.IsResolved (e : Endpoint) : Prop where
  parameters : ∀ p ∈ e.parameters, p.reference = none
  requestBody : ∀ b ∈ e.requestBody, b.reference = none
  responses : ∀ r ∈ e.responses.values, r.reference = none

namespace Specification

/-- **No endpoint holds a reference.** -/
def IsResolved (s : Specification) : Prop :=
  ∀ r ∈ s.resources, ∀ o ∈ r.operations, o.2.IsResolved

/-- The endpoint of an operation in which every reference is followed once. -/
def followedEndpoint (components : Components) (item : PathItem) (o : Operation) : Endpoint where
  operationId := o.operationId
  deprecated := o.deprecated
  parameters := ((item.parameters ++ o.parameters).map (·.followed components)).foldl overriding []
  requestBody := o.requestBody.map (·.followed components)
  responses := o.responses.map fun p => (p.1, p.2.followed components)

/-- The resource of a path in which every reference is followed once. -/
def followedResource (components : Components) (template : String) (item : PathItem) :
    Resource where
  template := template
  operations := item.operations.map fun o => (o.1, followedEndpoint components item o.2)

/-- The specification of a document in which every reference is followed once. -/
def followed (d : Document) : Specification where
  title := d.info.title
  version := d.info.version
  bases := basesOf d.servers
  resources := d.paths.map fun p => followedResource d.components p.1 p.2
  components := d.components

/-! ### Steps that may fail -/

section

variable {α β ε : Type} {P : α → Prop} {f : α → β} {g : α → Except ε β} {as : List α} {bs : List β}

theorem bind_eq_ok_iff {x : Except ε α} {b : β} :
    x >>= g = .ok b ↔ ∃ a, x = .ok a ∧ g a = .ok b := by
  constructor
  · exact exists_of_bind_eq_ok
  · rintro ⟨a, rfl, h⟩
    exact h

/-- A map whose steps succeed under a condition succeeds where all items meet it. -/
theorem mapM_eq_ok_iff (hg : ∀ a b, g a = .ok b ↔ P a ∧ b = f a) :
    as.mapM g = .ok bs ↔ (∀ a ∈ as, P a) ∧ bs = as.map f := by
  induction as generalizing bs with
  | nil => simp [pure, Except.pure, eq_comm]
  | cons a as ih =>
      simp only [List.mapM_cons, bind_eq_ok_iff, hg, ih, List.forall_mem_cons, List.map_cons]
      constructor
      · rintro ⟨_, ⟨ha, rfl⟩, _, ⟨has, rfl⟩, h⟩
        cases h
        exact ⟨⟨ha, has⟩, rfl⟩
      · rintro ⟨⟨ha, has⟩, rfl⟩
        exact ⟨_, ⟨ha, rfl⟩, _, ⟨has, rfl⟩, rfl⟩

end

/-! ### Parameters that are overridden -/

section

variable {p q : Parameter} {ps : List Parameter}

theorem mem_overriding_iff : p ∈ overriding ps q ↔ (p ∈ ps ∧ ¬ q.Overrides p) ∨ p = q := by
  simp [overriding, Parameter.Overrides, List.mem_filter, imp_iff_not_or]

/-- Of declarations with one more at the end, the last ones are the new one and those of other names
or locations that were last before. -/
theorem last_concat_iff :
    (∃ before after, ps ++ [q] = before ++ p :: after ∧ ∀ r ∈ after, ¬ r.Overrides p) ↔
      ((∃ before after, ps = before ++ p :: after ∧ ∀ r ∈ after, ¬ r.Overrides p) ∧
        ¬ q.Overrides p) ∨ p = q := by
  constructor
  · rintro ⟨before, after, heq, hafter⟩
    rcases List.eq_nil_or_concat after with rfl | ⟨after', r, rfl⟩
    · obtain ⟨-, hr⟩ := List.append_inj' heq rfl
      exact Or.inr (List.cons.inj hr).1.symm
    · have heq' : ps ++ [q] = (before ++ p :: after') ++ [r] := by simpa using heq
      obtain ⟨rfl, hr⟩ := List.append_inj' heq' rfl
      obtain rfl : q = r := (List.cons.inj hr).1
      refine Or.inl ⟨⟨before, after', rfl, fun r hr => ?_⟩, ?_⟩
      · exact hafter r (by simp [hr])
      · exact hafter q (by simp)
  · rintro (⟨⟨before, after, rfl, hafter⟩, hq⟩ | rfl)
    · refine ⟨before, after ++ [q], by simp, fun r hr => ?_⟩
      rcases List.mem_append.1 hr with hr | hr
      · exact hafter r hr
      · exact List.mem_singleton.1 hr ▸ hq
    · exact ⟨ps, [], rfl, by simp⟩

/-- **Of the parameters with one name and location the last one is kept.** -/
theorem mem_foldl_overriding_iff :
    p ∈ ps.foldl overriding [] ↔
      ∃ before after, ps = before ++ p :: after ∧ ∀ q ∈ after, ¬ q.Overrides p := by
  induction ps using List.reverseRecOn with
  | nil => simp
  | append_singleton ps r ih =>
      rw [List.foldl_append, List.foldl_cons, List.foldl_nil, mem_overriding_iff, ih,
        last_concat_iff]

end

/-! ### Endpoints -/

section

variable {components : Components} {template : String} {item : PathItem} {o : Operation}

theorem parametersOf_eq_ok_iff {ps : List Parameter} :
    parametersOf components template item o = .ok ps ↔
      (∀ p ∈ item.parameters ++ o.parameters, (p.target? components).isSome = true) ∧
        ps = ((item.parameters ++ o.parameters).map (·.followed components)).foldl
          overriding [] := by
  unfold parametersOf
  rw [bind_eq_ok_iff]
  refine (exists_congr fun qs => and_congr_left' (mapM_eq_ok_iff
    (P := fun p => (p.target? components).isSome = true)
    (f := Parameter.followed components) fun p q => ?_)).trans ?_
  · unfold Parameter.followed
    cases p.target? components <;> simp [eq_comm]
  · constructor
    · rintro ⟨_, ⟨hall, rfl⟩, h⟩
      cases h
      exact ⟨hall, rfl⟩
    · rintro ⟨hall, rfl⟩
      exact ⟨_, ⟨hall, rfl⟩, rfl⟩

theorem bodyOf_eq_ok_iff {body : Option RequestBody} :
    bodyOf components template o = .ok body ↔
      (∀ b ∈ o.requestBody, (b.target? components).isSome = true) ∧
        body = o.requestBody.map (·.followed components) := by
  unfold bodyOf
  cases o.requestBody with
  | none =>
      simp only [Option.map_none]
      constructor
      · intro h
        cases h
        exact ⟨by simp, rfl⟩
      · rintro ⟨-, rfl⟩
        rfl
  | some b =>
      cases hb : b.target? components with
      | none => simp [hb]
      | some c => simp [hb, RequestBody.followed, @eq_comm _ body]

theorem responsesOf_eq_ok_iff {responses : Dict Response} :
    responsesOf components template o = .ok responses ↔
      (∀ r ∈ o.responses.values, (r.target? components).isSome = true) ∧
        responses = o.responses.map fun p => (p.1, p.2.followed components) := by
  unfold responsesOf
  rw [mapM_eq_ok_iff (P := fun p => (p.2.target? components).isSome = true)
    (f := fun p => (p.1, p.2.followed components))]
  · simp only [Dict.values, List.forall_mem_map]
  · intro p q
    unfold Response.followed
    cases p.2.target? components <;> simp [eq_comm]

theorem endpointOf_eq_ok_iff {e : Endpoint} :
    endpointOf components template item o = .ok e ↔
      o.Leads components item ∧ e = followedEndpoint components item o := by
  unfold endpointOf
  simp only [bind_eq_ok_iff, parametersOf_eq_ok_iff, bodyOf_eq_ok_iff,
    responsesOf_eq_ok_iff]
  constructor
  · rintro ⟨_, ⟨hps, rfl⟩, _, ⟨hb, rfl⟩, _, ⟨hrs, rfl⟩, h⟩
    cases h
    exact ⟨⟨hps, hb, hrs⟩, rfl⟩
  · rintro ⟨⟨hps, hb, hrs⟩, rfl⟩
    exact ⟨_, ⟨hps, rfl⟩, _, ⟨hb, rfl⟩, _, ⟨hrs, rfl⟩, rfl⟩

theorem resourceOf_eq_ok_iff {r : Resource} :
    resourceOf components template item = .ok r ↔
      (∀ o ∈ item.operations, o.2.Leads components item) ∧
        r = followedResource components template item := by
  unfold resourceOf
  rw [bind_eq_ok_iff]
  refine (exists_congr fun os => and_congr_left' (mapM_eq_ok_iff
    (P := fun o => o.2.Leads components item)
    (f := fun o => (o.1, followedEndpoint components item o.2)) fun o o' => ?_)).trans ?_
  · simp only [bind_eq_ok_iff, endpointOf_eq_ok_iff]
    constructor
    · rintro ⟨_, ⟨ho, rfl⟩, h⟩
      cases h
      exact ⟨ho, rfl⟩
    · rintro ⟨ho, rfl⟩
      exact ⟨_, ⟨ho, rfl⟩, rfl⟩
  · constructor
    · rintro ⟨_, ⟨hall, rfl⟩, h⟩
      cases h
      exact ⟨hall, rfl⟩
    · rintro ⟨hall, rfl⟩
      exact ⟨_, ⟨hall, rfl⟩, rfl⟩

theorem isResolved_followedEndpoint_iff :
    (followedEndpoint components item o).IsResolved ↔ o.Direct components item := by
  -- a parameter is kept exactly if none that comes later overrides it
  have hparameters : (∀ p ∈ (followedEndpoint components item o).parameters, p.reference = none) ↔
      ∀ before p after, item.parameters ++ o.parameters = before ++ p :: after →
        (∀ q ∈ after, ¬ (q.followed components).Overrides (p.followed components)) →
        (p.followed components).reference = none := by
    constructor
    · intro h before p after heq hafter
      refine h _ (mem_foldl_overriding_iff.2
        ⟨before.map (·.followed components), after.map (·.followed components), ?_, ?_⟩)
      · simp [heq]
      · exact fun q hq => by
          obtain ⟨r, hr, rfl⟩ := List.mem_map.1 hq
          exact hafter r hr
    · intro h p hp
      obtain ⟨before', after', heq, hafter⟩ := mem_foldl_overriding_iff.1 hp
      obtain ⟨before, rest, hsplit, rfl, hrest⟩ := List.map_eq_append_iff.1 heq
      obtain ⟨q, after, rfl, rfl, rfl⟩ := List.map_eq_cons_iff.1 hrest
      refine h before q after hsplit fun r hr => hafter _ (List.mem_map_of_mem hr)
  have hbody : (∀ b ∈ (followedEndpoint components item o).requestBody, b.reference = none) ↔
      ∀ b ∈ o.requestBody, (b.followed components).reference = none := by
    simp [followedEndpoint]
  have hresponses :
      (∀ r ∈ (followedEndpoint components item o).responses.values, r.reference = none) ↔
        ∀ r ∈ o.responses.values, (r.followed components).reference = none := by
    simp only [Dict.values, followedEndpoint, List.map_map, List.forall_mem_map,
      Function.comp_apply]
  constructor
  · rintro ⟨hps, hb, hrs⟩
    exact ⟨hparameters.1 hps, hbody.1 hb, hresponses.1 hrs⟩
  · rintro ⟨hps, hb, hrs⟩
    exact ⟨hparameters.2 hps, hbody.2 hb, hresponses.2 hrs⟩

end

/-! ### Documents -/

section

variable {d : Document} {s : Specification}

/-- The documents that make a specification, and which. -/
theorem ofDocument_eq_ok_iff [Libraries] :
    ofDocument d = .ok s ↔
      d.problems = [] ∧ d.missingSchemas = [] ∧ d.Leads ∧ s = followed d := by
  unfold ofDocument
  split
  · rename_i hproblems
    unfold build
    split
    · rename_i hschemas
      rw [bind_eq_ok_iff]
      refine (exists_congr fun rs => and_congr_left' (mapM_eq_ok_iff
        (P := fun p => ∀ o ∈ p.2.operations, o.2.Leads d.components p.2)
        (f := fun p => followedResource d.components p.1 p.2)
        fun p r => resourceOf_eq_ok_iff)).trans ?_
      constructor
      · rintro ⟨_, ⟨hleads, rfl⟩, h⟩
        cases h
        exact ⟨hproblems, hschemas, hleads, rfl⟩
      · rintro ⟨-, -, hleads, rfl⟩
        exact ⟨_, ⟨hleads, rfl⟩, rfl⟩
    · rename_i hschemas
      exact iff_of_false (by simp) fun h => hschemas h.2.1
  · rename_i hproblems
    exact iff_of_false (by simp) fun h => hproblems h.1

theorem isResolved_followed_iff : (followed d).IsResolved ↔ d.Direct := by
  simp only [IsResolved, followed, Document.Direct, followedResource, List.forall_mem_map,
    isResolved_followedEndpoint_iff]

/-- **A document makes a specification exactly if it has no problems and all its references lead
somewhere.**  Each reference is then followed once, so that no reference is left exactly if none
that is used leads to another. -/
theorem ofDocument_resolved_iff [Libraries] :
    (ofDocument d = .ok s ↔
        d.problems = [] ∧ d.missingSchemas = [] ∧ d.Leads ∧ s = followed d) ∧
      ((followed d).IsResolved ↔ d.Direct) :=
  ⟨ofDocument_eq_ok_iff, isResolved_followed_iff⟩

/-- A response that refers to one that refers to another is left a reference. -/
example :
    let other : Response := { reference := some "#/components/responses/B" }
    let components : Components := { responses := [("A", other), ("B", {})] }
    let r : Response := { reference := some "#/components/responses/A" }
    r.followed components = other := rfl

end

end Specification

end ApiContract
