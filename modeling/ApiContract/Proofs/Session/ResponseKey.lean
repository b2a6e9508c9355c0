/-
**The coordinate that is checked, and the response that is checked.**

The table of coverage has the keys of an operation in order, those of failures of the server left
out if the policy says so; the operation has them in the order of the document.  What a status falls
under is looked for in both.  They agree but for ranges in several spellings, where the order
decides.

Main results:

* `Specification.WellFormed.mem_coordinates_iff` — the coordinates of an operation;
* `Contract.mem_keys_iff` — the keys of an operation in a table;
* `Contract.checkedKey_eq_iff` — **when the coordinate that is checked is the response that is
  checked**.
-/

import ApiContract.Pattern.Library
import ApiContract.Proofs.Session.Effect
import ApiContract.Proofs.Specification.Lookup

set_option relaxedAutoImplicit false
set_option autoImplicit false

namespace ApiContract

/-! ### The coordinates of an operation -/

namespace Endpoint

/-- The coordinates of an operation under a template. -/
def coordinates (template : String) (internalErrors : Bool) (o : Http.Method × Endpoint) :
    List Coordinate :=
  match TrackedMethod.ofMethod? o.1 with
  | none => []
  | some method =>
    (o.2.responses.keys.filter fun key => internalErrors || key ≠ internalErrorKey).map
      fun key => ⟨template, method, key⟩

theorem mem_coordinates_iff {template : String} {internalErrors : Bool}
    {o : Http.Method × Endpoint} {k : Coordinate} :
    k ∈ coordinates template internalErrors o ↔
      k.template = template ∧ TrackedMethod.ofMethod? o.1 = some k.method ∧
        k.key ∈ o.2.responses.keys ∧ (internalErrors = true ∨ k.key ≠ internalErrorKey) := by
  unfold coordinates
  constructor
  · intro hk
    split at hk
    · cases hk
    · rename_i method hmethod
      obtain ⟨key, hkey, rfl⟩ := List.mem_map.1 hk
      rw [List.mem_filter, Bool.or_eq_true, decide_eq_true_eq] at hkey
      exact ⟨rfl, hmethod, hkey⟩
  · obtain ⟨template, method, key⟩ := k
    rintro ⟨rfl, hmethod, hkey⟩
    rw [hmethod]
    refine List.mem_map.2 ⟨key, ?_, rfl⟩
    rw [List.mem_filter, Bool.or_eq_true, decide_eq_true_eq]
    exact hkey

end Endpoint

/-- The coordinates of a resource are those of its operations. -/
theorem Resource.coordinates_eq (r : Resource) (internalErrors : Bool) :
    r.coordinates internalErrors =
      r.operations.flatMap (Endpoint.coordinates r.template internalErrors) := rfl

namespace Specification

section

variable {s : Specification} {template : String} {method : TrackedMethod} {key : String}
  {e : Endpoint} {all : Bool}

/-- The operation of a resource is found by its method. -/
theorem WellFormed.operation?_of_mem (h : s.WellFormed) {r : Resource} (hr : r ∈ s.resources)
    {o : Http.Method × Endpoint} (ho : o ∈ r.operations) : r.operation? o.1 = some o.2 := by
  rw [Resource.operation?, find?_of_nodup (h.nodup_methods r hr) ho]
  rfl

theorem mem_coordinates_iff :
    ⟨template, method, key⟩ ∈ s.coordinates all ↔
      ∃ r ∈ s.resources, r.template = template ∧ ∃ o ∈ r.operations,
        TrackedMethod.ofMethod? o.1 = some method ∧ key ∈ o.2.responses.keys ∧
          (all = true ∨ key ≠ internalErrorKey) := by
  simp only [coordinates, Resource.coordinates_eq, List.mem_flatMap, Endpoint.mem_coordinates_iff]
  constructor
  · rintro ⟨r, hr, o, ho, htemplate, h⟩
    exact ⟨r, hr, htemplate.symm, o, ho, h⟩
  · rintro ⟨r, hr, rfl, o, ho, h⟩
    exact ⟨r, hr, o, ho, rfl, h⟩

/-- The coordinates of an operation have its response keys. -/
theorem WellFormed.mem_coordinates_iff (h : s.WellFormed)
    (he : s.operation? template method.method = some e) :
    ⟨template, method, key⟩ ∈ s.coordinates all ↔
      key ∈ e.responses.keys ∧ (all = true ∨ key ≠ internalErrorKey) := by
  obtain ⟨r, hr, rfl, hre⟩ := h.operation?_eq_some_iff.1 he
  rw [Specification.mem_coordinates_iff]
  constructor
  · rintro ⟨r', hr', htemplate, o, ho, hmethod, hkey⟩
    rw [h.eq_of_template_eq hr' hr htemplate] at ho
    have hoe := h.operation?_of_mem hr ho
    rw [← TrackedMethod.method_of_ofMethod? hmethod, hre] at hoe
    cases hoe
    exact hkey
  · intro hkey
    exact ⟨r, hr, rfl, _, Resource.mem_of_operation? hre, TrackedMethod.ofMethod?_method method,
      hkey⟩

end

end Specification

namespace Contract

/-! ### The key that is checked -/

/-- **When the coordinate that is checked is the response that is checked.**  An exchange that
checks a coordinate, in any state of a session, has its response checked against what the operation
documents under the key that the status falls under there.  This is the key of the coordinate
exactly if no other spelling of it in the operation is less. -/
theorem checkedKey_eq_iff [Libraries] {c : Contract} {calls : List Call} {x : Http.Exchange}
    {k : Coordinate} {reports : List Report} (hs : c.specification.Loads)
    (h : c.outcome (c.run c.start calls).coverage x = .checked k reports) :
    ∃ e key documented,
      c.specification.operation? k.template x.request.method = some e ∧
      e.responseKey? x.response.status.code = some key ∧
      e.responses.get? key = some documented ∧
      c.specification.responseFindings e ⟨x.request.method, k.template⟩ x.response =
        c.specification.documentedFindings documented x.request.method x.response ∧
      (k.key = key ↔ StatusKey.Foremost e.responses.keys key) := by
  have hw := hs.wellFormed
  have hcoordinates := (sumOf_run c calls).coordinates_eq
  obtain ⟨m, e, -, he, hk, hnot, -⟩ := of_outcome_eq_checked h
  obtain ⟨htemplate, hmethod, -, hresolve⟩ := of_coordinate? hk
  have hrequest := TrackedMethod.method_of_ofMethod? hmethod
  rw [← htemplate] at he hresolve
  rw [← hrequest] at he
  obtain ⟨r, hr, -, hre⟩ := hw.operation?_eq_some_iff.1 he
  have hvalid := hw.isValid_key r hr _ (Resource.mem_of_operation? hre)
  -- the table has the keys of the operation, in order, but for the one that is left out
  have hmem : ∀ key, key ∈ (c.run c.start calls).coverage.keys k.template k.method ↔
      key ∈ e.responses.keys ∧ (c.policy.internalErrors = true ∨ key ≠ toString 500) := by
    intro key
    rw [Coverage.mem_keys_iff, hcoordinates]
    exact Coverage.mem_coordinates_load.trans (hw.mem_coordinates_iff he)
  have hsorted := Coverage.pairwise_keys
    (hcoordinates ▸ Coverage.ordered_load c.specification c.policy.internalErrors)
    k.template k.method
  obtain ⟨key, hkey, hiff⟩ :=
    StatusKey.exists_resolve_iff_foremost hsorted hmem hvalid hnot hresolve
  obtain ⟨documented, hdocumented⟩ := Option.isSome_iff_exists.1
    ((Dict.mem_keys_iff _ key).1 (StatusKey.mem_of_resolve hkey))
  rw [hrequest] at he
  have hresponse : e.responseKey? x.response.status.code = some key := hkey
  refine ⟨e, key, documented, he, hresponse, hdocumented, ?_, hiff⟩
  rw [Specification.responseFindings, hresponse]
  simp only [hdocumented]

/-! ### A range in two spellings -/

/-- The responses of an operation with one range in two spellings, the lower case first. -/
def spelledResponses : Dict Response :=
  [("4xx", { headers := [("X-Need", { required := true })] }), ("4XX", {})]

/-- A document with that operation. -/
def spelledDocument : Document :=
  { format := "3.0.3"
    info := { title := "A", version := "1" }
    paths := [("/a", { get := some { responses := spelledResponses } })] }

/-- The contract of that document. -/
def spelledContract : Contract :=
  { specification :=
      ⟨"A", "1", [""], [⟨"/a", [(.get, ⟨none, false, [], none, spelledResponses⟩)]⟩], {}⟩
    policy := {}
    router := ⟨[⟨"/a", [.char '/', .char 'a'], []⟩], [""]⟩ }

/-- A response whose status falls under the range, and which lacks the header. -/
def lackingExchange : Http.Exchange :=
  ⟨{ method := .get, uri := ⟨none, "", "/a", none⟩ }, { status := ⟨404, by decide⟩ }⟩

/-- The response is checked against the lower-case range, and the upper-case one is marked. -/
theorem checkedKey_spelled :
    spelledContract.specification.Loads ∧
      (∃ reports, spelledContract.outcome
        (spelledContract.run spelledContract.start []).coverage lackingExchange =
          .checked ⟨"/a", .get, "4XX"⟩ reports) ∧
      ∃ e, spelledContract.specification.operation? "/a" .get = some e ∧
        e.responseKey? 404 = some "4xx" ∧
        ("4XX" = "4xx" ↔ StatusKey.Foremost e.responses.keys "4xx") := by
  have hloads : spelledContract.specification.Loads := ⟨spelledDocument, by decide, rfl⟩
  have houtcome : ∃ reports, spelledContract.outcome
      (spelledContract.run spelledContract.start []).coverage lackingExchange =
        .checked ⟨"/a", .get, "4XX"⟩ reports := ⟨_, rfl⟩
  refine ⟨hloads, houtcome, ?_⟩
  obtain ⟨reports, h⟩ := houtcome
  obtain ⟨e, key, documented, he, hkey, -, -, hiff⟩ := checkedKey_eq_iff hloads h
  have hlower : e.responseKey? 404 = some "4xx" := by
    cases he
    rfl
  obtain rfl : "4xx" = key := Option.some.inj (hlower.symm.trans hkey)
  exact ⟨e, he, hlower, hiff⟩

end Contract

end ApiContract
