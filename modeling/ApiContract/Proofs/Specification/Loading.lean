/-
**What is known of a specification that was loaded.**

The maps of a document hold each key once, and a document without problems has none but valid
response keys.  The specification of such a document has one resource for each path, in the same
order, and one endpoint for each operation of a path.

Main definitions:

* `Specification.Loads` — a specification that a document describes;
* `Specification.WellFormed` — what is known of it.

Main results:

* `Specification.loads_of_ofBytes` — what is read from bytes is loaded;
* `Specification.Loads.wellFormed` — **what is known of every loaded specification**.
-/

import ApiContract.Specification.Reading
import Mathlib.Data.List.Forall2

set_option relaxedAutoImplicit false
set_option autoImplicit false

namespace ApiContract

/-! ### Maps of a document -/

section

variable {α β : Type}

/-- The entries of a map are added to a dictionary one by one, so that its keys stay distinct. -/
theorem Tree.nodup_of_entries? [Readable α] {read : Tree α → Option β}
    {entries : List (Option α × Tree α)} {d d' : Dict β} (hd : d.keys.Nodup)
    (h : Tree.entries? read d entries = some d') : d'.keys.Nodup := by
  induction entries generalizing d with
  | nil =>
      cases h
      exact hd
  | cons entry entries ih =>
      obtain ⟨k, t⟩ := entry
      simp only [Tree.entries?] at h
      split at h
      · exact ih (Dict.nodup_keys_insert hd _ _) h
      · cases h

/-- A dictionary that is read holds each key once. -/
theorem Tree.nodup_of_dict? [Readable α] {read : Tree α → Option β} {t : Tree α} {d : Dict β}
    (h : Tree.dict? read t = some d) : d.keys.Nodup := by
  unfold Tree.dict? at h
  split at h
  · split at h
    · cases h
      exact List.nodup_nil
    · cases h
  · cases h
  · rename_i entries
    have hnil : (Dict.keys ([] : Dict β)).Nodup := List.nodup_nil
    exact Tree.nodup_of_entries? hnil h

/-- So does one that may be missing. -/
theorem Dict.nodup_of_orElse? [Readable α] {read : Tree α → Option β} {f : Dict (Tree α)}
    {name : String} {d : Dict β} (h : f.orElse? name [] (Tree.dict? read) = some d) :
    d.keys.Nodup := by
  unfold Dict.orElse? at h
  split at h
  · exact Tree.nodup_of_dict? h
  · cases h
    exact List.nodup_nil

/-- The paths of a document that is read are distinct. -/
theorem Document.nodup_paths_of_ofTree? [Readable α] {t : Tree α} {d : Document}
    (h : Document.ofTree? t = some d) : d.paths.keys.Nodup := by
  simp only [Document.ofTree?, Option.bind_eq_bind, Option.bind_eq_some_iff] at h
  obtain ⟨f, -, format, -, info, -, servers, -, paths, hpaths, components, -, h⟩ := h
  cases h
  exact Dict.nodup_of_orElse? hpaths

/-- Of two steps one after the other both must succeed. -/
theorem exists_of_bind_eq_ok {ε : Type} {x : Except ε α} {f : α → Except ε β} {b : β}
    (h : x >>= f = .ok b) : ∃ a, x = .ok a ∧ f a = .ok b := by
  cases x with
  | error e => cases h
  | ok a => exact ⟨a, rfl, h⟩

/-- The results of a fallible map stand one by one for what they were made of. -/
theorem forall₂_of_mapM {ε : Type} {f : α → Except ε β} {as : List α} {bs : List β}
    (h : as.mapM f = .ok bs) : List.Forall₂ (fun a b => f a = .ok b) as bs := by
  induction as generalizing bs with
  | nil =>
      cases h
      exact .nil
  | cons a as ih =>
      rw [List.mapM_cons] at h
      obtain ⟨b, hb, h⟩ := exists_of_bind_eq_ok h
      obtain ⟨bs, hbs, h⟩ := exists_of_bind_eq_ok h
      cases h
      exact .cons hb (ih hbs)

/-- Lists that agree one by one on what is taken of their items agree on the whole. -/
theorem map_eq_of_forall₂ {γ : Type} {R : α → β → Prop} {f : α → γ} {g : β → γ} {as : List α}
    {bs : List β} (hfg : ∀ a b, R a b → g b = f a) (h : List.Forall₂ R as bs) :
    bs.map g = as.map f := by
  induction h with
  | nil => rfl
  | cons hab _ ih => rw [List.map_cons, List.map_cons, hfg _ _ hab, ih]

/-- Every item of the second of two related lists is related to one of the first. -/
theorem exists_of_mem_of_forall₂ {R : α → β → Prop} {as : List α} {bs : List β}
    (h : List.Forall₂ R as bs) {b : β} (hb : b ∈ bs) : ∃ a ∈ as, R a b := by
  induction h with
  | nil => cases hb
  | cons hab _ ih =>
      rcases List.mem_cons.1 hb with rfl | hb
      · exact ⟨_, List.mem_cons_self, hab⟩
      · obtain ⟨a, ha, hr⟩ := ih hb
        exact ⟨a, List.mem_cons_of_mem _ ha, hr⟩

end

/-- Where each text is kept once, the new ones come after those that were seen. -/
theorem exists_foldl_new (seen texts : List String) :
    ∃ new, texts.foldl (fun seen t => if t ∈ seen then seen else seen ++ [t]) seen = seen ++ new ∧
      new.Nodup ∧ ∀ t, t ∈ new ↔ t ∈ texts ∧ t ∉ seen := by
  induction texts generalizing seen with
  | nil => exact ⟨[], (List.append_nil seen).symm, List.nodup_nil, by simp⟩
  | cons t texts ih =>
      rw [List.foldl_cons]
      by_cases ht : t ∈ seen
      · obtain ⟨new, heq, hnodup, hmem⟩ := ih seen
        refine ⟨new, by rw [if_pos ht, heq], hnodup, fun u => ?_⟩
        rw [hmem, List.mem_cons]
        exact and_congr_left fun hu => (or_iff_right (ne_of_mem_of_not_mem ht hu).symm).symm
      · obtain ⟨new, heq, hnodup, hmem⟩ := ih (seen ++ [t])
        refine ⟨t :: new, by rw [if_neg ht, heq]; simp, List.nodup_cons.2 ⟨?_, hnodup⟩, fun u => ?_⟩
        · simp [hmem]
        · by_cases hu : u = t
          · simp [hu, ht]
          · simp [hmem, hu]

/-! ### Resources and endpoints -/

namespace Specification

section

variable {components : Components} {template : String} {item : PathItem} {o : Operation}

/-- The responses of an endpoint have the keys of the operation. -/
theorem keys_of_responsesOf {responses : Dict Response}
    (h : responsesOf components template o = .ok responses) :
    responses.keys = o.responses.keys := by
  refine map_eq_of_forall₂ ?_ (forall₂_of_mapM h)
  intro p r hr
  split at hr
  · cases hr
    rfl
  · cases hr

theorem keys_of_endpointOf {e : Endpoint} (h : endpointOf components template item o = .ok e) :
    e.responses.keys = o.responses.keys := by
  obtain ⟨ps, -, h⟩ := exists_of_bind_eq_ok h
  obtain ⟨body, -, h⟩ := exists_of_bind_eq_ok h
  obtain ⟨responses, hr, h⟩ := exists_of_bind_eq_ok h
  cases h
  exact keys_of_responsesOf hr

/-- A resource has the template of its path, and one endpoint for each operation. -/
theorem forall₂_of_resourceOf {r : Resource}
    (h : resourceOf components template item = .ok r) :
    r.template = template ∧
      List.Forall₂ (fun o o' => o'.1 = o.1 ∧ endpointOf components template item o.2 = .ok o'.2)
        item.operations r.operations := by
  obtain ⟨operations, ho, h⟩ := exists_of_bind_eq_ok h
  cases h
  refine ⟨rfl, (forall₂_of_mapM ho).imp ?_⟩
  intro o o' h
  obtain ⟨e, he, h⟩ := exists_of_bind_eq_ok h
  cases h
  exact ⟨rfl, he⟩

end

end Specification

/-- The filled slots stand in the order of all slots. -/
theorem sublist_filledSlots {α β : Type} (slots : List (α × Option β)) :
    ((slots.filterMap fun slot => slot.2.map fun b => (slot.1, b)).map Prod.fst).Sublist
      (slots.map Prod.fst) := by
  induction slots with
  | nil => exact List.Sublist.refl []
  | cons slot slots ih =>
      obtain ⟨a, _ | b⟩ := slot
      · exact ih.cons a
      · exact ih.cons_cons a

/-- The methods of a path are distinct. -/
theorem PathItem.nodup_methods (item : PathItem) : (item.operations.map Prod.fst).Nodup := by
  have hslots : [Http.Method.get, .head, .put, .post, .delete, .patch, .options, .trace].Nodup := by
    decide
  exact (sublist_filledSlots _).nodup hslots

variable [Libraries]

namespace Specification

/-! ### Loaded specifications -/

/-- What is known of a specification. -/
structure WellFormed (s : Specification) : Prop where
  /-- Its templates are distinct. -/
  nodup_templates : (s.resources.map Resource.template).Nodup
  /-- The methods of a resource are distinct. -/
  nodup_methods : ∀ r ∈ s.resources, (r.operations.map Prod.fst).Nodup
  /-- Response keys stand for status codes. -/
  isValid_key : ∀ r ∈ s.resources, ∀ o ∈ r.operations, ∀ key ∈ o.2.responses.keys,
    StatusKey.isValid key = true

/-- A specification that a document describes.  The paths of a document are distinct. -/
def Loads (s : Specification) : Prop :=
  ∃ d : Document, d.paths.keys.Nodup ∧ ofDocument d = .ok s

/-- What is read from bytes is loaded. -/
theorem loads_of_ofBytes {bytes : List UInt8} {s : Specification} (h : ofBytes bytes = .ok s) :
    s.Loads := by
  unfold ofBytes at h
  split at h
  · rename_i d hd
    refine ⟨d, ?_, h⟩
    obtain ⟨cs, -, hcs⟩ := Option.bind_eq_some_iff.1 hd
    unfold Yaml.read? at hcs
    split at hcs
    · cases hcs
    · exact Document.nodup_paths_of_ofTree? hcs
    · exact Document.nodup_paths_of_ofTree? hcs
  · cases h

/-- A loaded specification has one resource for each path of a document without problems. -/
theorem forall₂_of_ofDocument {d : Document} {s : Specification} (h : ofDocument d = .ok s) :
    d.problems = [] ∧
      List.Forall₂ (fun p r => resourceOf d.components p.1 p.2 = .ok r) d.paths s.resources := by
  unfold ofDocument at h
  split at h
  · rename_i hproblems
    unfold build at h
    split at h
    · obtain ⟨resources, hr, h⟩ := exists_of_bind_eq_ok h
      cases h
      exact ⟨hproblems, forall₂_of_mapM hr⟩
    · cases h
  · cases h

/-- The responses of a path without problems have valid keys. -/
theorem isValid_of_pathProblems {components : Components} {template : String} {item : PathItem}
    (h : pathProblems components template item = []) {o : Http.Method × Operation}
    (ho : o ∈ item.operations) {key : String} (hkey : key ∈ o.2.responses.keys) :
    StatusKey.isValid key = true := by
  unfold pathProblems at h
  split at h
  · cases h
  · have hp := List.flatMap_eq_nil_iff.1 h o ho
    simp only [operationProblems, responseProblems, List.append_eq_nil_iff, List.map_eq_nil_iff,
      List.filter_eq_nil_iff] at hp
    simpa using hp.1.1.2 key hkey

/-- **What is known of every loaded specification.** -/
theorem Loads.wellFormed {s : Specification} (h : s.Loads) : s.WellFormed := by
  obtain ⟨d, hd, hs⟩ := h
  obtain ⟨hproblems, hresources⟩ := forall₂_of_ofDocument hs
  simp only [Document.problems, List.append_eq_nil_iff, List.flatMap_eq_nil_iff] at hproblems
  -- resources stand for paths, and endpoints for operations, one by one
  refine ⟨?_, ?_, ?_⟩
  · have htemplates : s.resources.map Resource.template = d.paths.map Prod.fst :=
      map_eq_of_forall₂ (fun p r hr => (forall₂_of_resourceOf hr).1) hresources
    rw [htemplates]
    exact hd
  · intro r hr
    obtain ⟨p, -, hp⟩ := exists_of_mem_of_forall₂ hresources hr
    have hmethods : r.operations.map Prod.fst = p.2.operations.map Prod.fst :=
      map_eq_of_forall₂ (fun o o' ho => ho.1) (forall₂_of_resourceOf hp).2
    rw [hmethods]
    exact p.2.nodup_methods
  · intro r hr o ho key hkey
    obtain ⟨p, hp, hpr⟩ := exists_of_mem_of_forall₂ hresources hr
    obtain ⟨o', ho', -, he⟩ := exists_of_mem_of_forall₂ (forall₂_of_resourceOf hpr).2 ho
    rw [keys_of_endpointOf he] at hkey
    exact isValid_of_pathProblems (hproblems.1.2 p hp) ho' hkey

end Specification

end ApiContract
