/-
**The table that is loaded is the documented one.**

A document declares responses: under a path, a method and a response key.  The table of its
specification has a row for each of them, but for the responses to requests whose method is not
tracked, and for those of servers that failed if they are not asked for.  No two of them fall
together: the rows are as many as the responses, counted over the paths, the operations and the keys
of the document.

Main definitions:

* `PathItem.tracked?` — the operation that a path declares under a tracked method;
* `Document.Tracks` — the document declares a response that is to be covered;
* `Document.trackedCount` — the number of these responses.

Main results:

* `Specification.mem_coordinates_followed` — the coordinates of a specification are declared;
* `Specification.nodup_coordinates`, `Specification.length_coordinates_followed` — each is there
  once, and none is lost;
* `Coverage.load_exact` — **the table that is loaded**.
-/

import ApiContract.Pattern.Library
import ApiContract.Proofs.Document.Distinct
import ApiContract.Proofs.Session.FlatTable
import ApiContract.Proofs.Session.NestedTable
import ApiContract.Proofs.Session.ResponseKey
import ApiContract.Proofs.Specification.Resolution
import ApiContract.Proofs.Validation.Coercion

set_option relaxedAutoImplicit false
set_option autoImplicit false

namespace ApiContract

/-! ### What a document declares -/

/-- The operation that a path declares under a tracked method. -/
def PathItem.tracked? (item : PathItem) : TrackedMethod → Option Operation
  | .get => item.get
  | .head => item.head
  | .put => item.put
  | .post => item.post
  | .delete => item.delete
  | .patch => item.patch
  | .options => item.options

/-- The document declares a response that is to be covered: it has the path, with an operation
under the method, and the key is among its response keys.  Servers that fail count only if they are
asked for. -/
def Document.Tracks (d : Document) (internalErrors : Bool) (k : Coordinate) : Prop :=
  ∃ item o, d.paths.get? k.template = some item ∧ item.tracked? k.method = some o ∧
    k.key ∈ o.responses.keys ∧ (internalErrors = true ∨ k.key ≠ internalErrorKey)

/-- The number of responses that are to be covered, counted over the document. -/
def Document.trackedCount (d : Document) (internalErrors : Bool) : Nat :=
  (((d.paths.values.flatMap PathItem.operations).filter fun o => o.1 ≠ .trace).flatMap
    fun o => o.2.responses.keys).countP fun key => internalErrors || key ≠ internalErrorKey

/-- The operation under a tracked method is the one in the list of operations. -/
theorem PathItem.tracked?_eq_some_iff {item : PathItem} {m : TrackedMethod} {o : Operation} :
    item.tracked? m = some o ↔ (m.method, o) ∈ item.operations := by
  cases m <;>
    simp [tracked?, operations, TrackedMethod.method, Http.Method.get, Http.Method.head,
      Http.Method.put, Http.Method.post, Http.Method.delete, Http.Method.patch,
      Http.Method.options, Http.Method.trace]

/-- The methods of a path that are not tracked are the last one. -/
theorem PathItem.ofMethod?_eq_none_iff {item : PathItem} {o : Http.Method × Operation}
    (h : o ∈ item.operations) : TrackedMethod.ofMethod? o.1 = none ↔ o.1 = .trace := by
  have hslots : ∀ m ∈ [Http.Method.get, .head, .put, .post, .delete, .patch, .options, .trace],
      TrackedMethod.ofMethod? m = none ↔ m = .trace := by
    decide
  exact hslots o.1 ((sublist_filledSlots _).subset (List.mem_map_of_mem h))

/-! ### The coordinates of a specification -/

section

variable {template : String} {internalErrors : Bool} {o : Http.Method × Endpoint}

namespace Endpoint

theorem nodup_coordinates (h : o.2.responses.keys.Nodup) :
    (coordinates template internalErrors o).Nodup := by
  unfold coordinates
  split
  · exact List.nodup_nil
  · refine (h.filter _).map ?_
    intro key key' heq
    exact congrArg Coordinate.key heq

/-- The coordinates of an operation are as many as its keys, if its method is tracked. -/
theorem length_coordinates :
    (coordinates template internalErrors o).length =
      if TrackedMethod.ofMethod? o.1 = none then 0
      else o.2.responses.keys.countP fun key => internalErrors || key ≠ internalErrorKey := by
  unfold coordinates
  split
  · rename_i hmethod
    rw [if_pos hmethod, List.length_nil]
  · rename_i method hmethod
    rw [hmethod, if_neg (by simp), List.length_map, List.countP_eq_length_filter]

end Endpoint

end

namespace Specification

variable {s : Specification} {d : Document} {internalErrors : Bool} {k : Coordinate}

@[simp] theorem keys_followedEndpoint (components : Components) (item : PathItem) (o : Operation) :
    (followedEndpoint components item o).responses.keys = o.responses.keys := by
  simp [followedEndpoint, Dict.keys, Function.comp_def]

/-- **The coordinates of a specification are the declared responses.** -/
theorem mem_coordinates_followed (hd : d.Distinct) :
    k ∈ (followed d).coordinates internalErrors ↔ d.Tracks internalErrors k := by
  simp only [coordinates, Resource.coordinates_eq, List.mem_flatMap, Endpoint.mem_coordinates_iff,
    followed, List.mem_map, Document.Tracks]
  constructor
  · rintro ⟨r, ⟨⟨template, item⟩, hp, rfl⟩, o', ho', htemplate, hmethod, hkey⟩
    obtain ⟨o, ho, rfl⟩ := List.mem_map.1 ho'
    refine ⟨item, o.2, ?_, ?_, ?_⟩
    · rw [htemplate]
      exact (Dict.get?_eq_some_iff_mem hd.paths).2 hp
    · rw [PathItem.tracked?_eq_some_iff, ← TrackedMethod.ofMethod?_eq_some_iff.1 hmethod]
      exact ho
    · rw [← keys_followedEndpoint d.components item]
      exact hkey
  · rintro ⟨item, o, hitem, ho, hkey⟩
    have hdeclared := PathItem.tracked?_eq_some_iff.1 ho
    refine ⟨_, ⟨_, Dict.mem_of_get? hitem, rfl⟩, _, List.mem_map_of_mem hdeclared, rfl,
      TrackedMethod.ofMethod?_method _, ?_⟩
    rw [keys_followedEndpoint]
    exact hkey

/-- No coordinate of a specification is there twice if no response is. -/
theorem WellFormed.nodup_coordinates (h : s.WellFormed)
    (hkeys : ∀ r ∈ s.resources, ∀ o ∈ r.operations, o.2.responses.keys.Nodup) :
    (s.coordinates internalErrors).Nodup := by
  -- coordinates of one operation differ in their keys, of one template in their methods
  refine List.nodup_flatMap.2 ⟨fun r hr => List.nodup_flatMap.2 ⟨fun o ho => ?_, ?_⟩, ?_⟩
  · exact Endpoint.nodup_coordinates (hkeys r hr o ho)
  · refine (List.pairwise_map.1 (h.nodup_methods r hr)).imp ?_
    intro o o' hne k hk hk'
    obtain ⟨-, hmethod, -⟩ := Endpoint.mem_coordinates_iff.1 hk
    obtain ⟨-, hmethod', -⟩ := Endpoint.mem_coordinates_iff.1 hk'
    rw [TrackedMethod.ofMethod?_eq_some_iff] at hmethod hmethod'
    exact hne (hmethod.trans hmethod'.symm)
  · refine (List.pairwise_map.1 h.nodup_templates).imp ?_
    intro r r' hne k hk hk'
    obtain ⟨o, -, ho⟩ := List.mem_flatMap.1 hk
    obtain ⟨o', -, ho'⟩ := List.mem_flatMap.1 hk'
    obtain ⟨htemplate, -⟩ := Endpoint.mem_coordinates_iff.1 ho
    obtain ⟨htemplate', -⟩ := Endpoint.mem_coordinates_iff.1 ho'
    exact hne (htemplate.symm.trans htemplate')

/-- The coordinates of some operations on a path are as many as their keys. -/
theorem length_flatMap_coordinates (template : String) (internalErrors : Bool)
    (components : Components) (item : PathItem) {operations : List (Http.Method × Operation)}
    (h : ∀ o ∈ operations, TrackedMethod.ofMethod? o.1 = none ↔ o.1 = .trace) :
    (operations.flatMap fun o =>
        Endpoint.coordinates template internalErrors (o.1, followedEndpoint components item o.2)
      ).length =
      ((operations.filter fun o => o.1 ≠ .trace).flatMap fun o => o.2.responses.keys).countP
        fun key => internalErrors || key ≠ internalErrorKey := by
  induction operations with
  | nil => rfl
  | cons o operations ih =>
      obtain ⟨ho, hrest⟩ := List.forall_mem_cons.1 h
      rw [List.flatMap_cons, List.length_append, ih hrest, Endpoint.length_coordinates,
        keys_followedEndpoint]
      by_cases htrace : o.1 = .trace
      · rw [if_pos (ho.2 htrace), List.filter_cons_of_neg (by simp [htrace]), Nat.zero_add]
      · rw [if_neg fun hnone => htrace (ho.1 hnone), List.filter_cons_of_pos (by simp [htrace]),
          List.flatMap_cons, List.countP_append]

/-- **The coordinates of a specification are as many as the declared responses.** -/
theorem length_coordinates_followed (d : Document) (internalErrors : Bool) :
    ((followed d).coordinates internalErrors).length = d.trackedCount internalErrors := by
  unfold coordinates Document.trackedCount followed Dict.values
  simp only [List.flatMap_map]
  induction d.paths with
  | nil => rfl
  | cons p paths ih =>
      have hitem := length_flatMap_coordinates p.1 internalErrors d.components p.2
        fun o ho => p.2.ofMethod?_eq_none_iff ho
      rw [List.flatMap_cons, List.length_append, ih, List.flatMap_cons, List.filter_append,
        List.flatMap_append, List.countP_append, ← hitem, Resource.coordinates_eq]
      simp only [followedResource, List.flatMap_map]

end Specification

/-! ### The table -/

/-- **The table that is loaded has exactly the declared responses.**  It knows a coordinate exactly
if the document has the path, with an operation under the method, and the key is a response key of
that operation, and not the one of servers that failed unless it is asked for; no coordinate is
checked; and it has as many rows as there are such responses in the document.  The maps inside each
other have the same number of entries, and give the same answers. -/
theorem Coverage.load_exact [Libraries] {d : Document} {s : Specification} (hd : d.Distinct)
    (h : Specification.ofDocument d = .ok s) (internalErrors : Bool) :
    (∀ k, (load s internalErrors).contains k = true ↔ d.Tracks internalErrors k) ∧
      (∀ k b, (load s internalErrors).get? k = some b → b = false) ∧
      (load s internalErrors).size = d.trackedCount internalErrors ∧
      (NestedTable.load s internalErrors).size = d.trackedCount internalErrors ∧
      ∀ k, (NestedTable.load s internalErrors).get? k = (load s internalErrors).get? k := by
  obtain ⟨-, -, -, hfollowed⟩ := Specification.ofDocument_eq_ok_iff.1 h
  have hwell : s.WellFormed := Specification.Loads.wellFormed ⟨d, hd.paths, h⟩
  obtain ⟨hordered, hfresh, hmem⟩ := ofList_spec (s.coordinates internalErrors)
  obtain ⟨hnested, hrows⟩ := NestedTable.load_spec s internalErrors
  have hnodup : (s.coordinates internalErrors).Nodup := by
    refine hwell.nodup_coordinates ?_
    subst hfollowed
    intro r hr o ho
    obtain ⟨p, hp, rfl⟩ := List.mem_map.1 hr
    obtain ⟨o', ho', rfl⟩ := List.mem_map.1 ho
    rw [Specification.keys_followedEndpoint]
    exact hd.responses p hp o' ho'
  have hperm := (List.perm_ext_iff_of_nodup hordered.nodup hnodup).2 hmem
  have hsize : (load s internalErrors).size = d.trackedCount internalErrors := by
    rw [← Specification.length_coordinates_followed, ← hfollowed, ← hperm.length_eq, size,
      coordinates, List.length_map]
    rfl
  refine ⟨fun k => ?_, fun k b hk => ?_, hsize, ?_, fun k => ?_⟩
  · rw [contains_iff, mem_coordinates_load, hfollowed, Specification.mem_coordinates_followed hd]
  · exact hfresh (k, b) ((get?_eq_some_iff hordered.nodup).1 hk)
  · rw [(hnested.shows hrows).size_eq, hsize]
  · rw [NestedTable.get?_eq hnested, hrows, get?]

/-- A document with a method that is not tracked, and with responses of a server that failed. -/
def tracedDocument : Document :=
  { format := "3.0.3"
    info := { title := "Traces", version := "1" }
    paths := [("/traces",
        { get := some { responses := [("500", {}), ("200", {})] }
          trace := some { responses := [("200", {})] } }),
      ("/spans", { get := some { responses := [("200", {}), ("default", {})] } })] }

/-- Three of the five responses are to be covered, four if the server may fail. -/
theorem Coverage.load_exact_traced :
    tracedDocument.Distinct ∧
      Specification.ofDocument tracedDocument = .ok (Specification.followed tracedDocument) ∧
      (load (Specification.followed tracedDocument) false).size = 3 ∧
      (load (Specification.followed tracedDocument) true).size = 4 := by
  have hdistinct : tracedDocument.Distinct := ⟨by decide, by decide⟩
  have hloads : Specification.ofDocument tracedDocument =
      .ok (Specification.followed tracedDocument) := by rfl
  obtain ⟨-, -, hsize, -⟩ := load_exact hdistinct hloads false
  obtain ⟨-, -, hall, -⟩ := load_exact hdistinct hloads true
  refine ⟨hdistinct, hloads, hsize.trans ?_, hall.trans ?_⟩
  · decide
  · decide

end ApiContract
