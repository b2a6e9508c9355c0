/-
**A document that is read holds each key once.**

A map is read entry by entry into a dictionary, so that each of its keys is there once and each of
its values was read from an entry.  This holds of the paths of a document, and of the responses of
every operation on them.

Main definitions:

* `Document.Distinct` — the paths of a document, and the responses of an operation, are distinct.

Main results:

* `Tree.exists_of_dict?` — what is in a dictionary that is read was read from a tree;
* `Document.distinct_of_ofTree?` — **what is read from a tree is distinct**;
* `Specification.exists_distinct_of_ofBytes` — so is what makes a specification.
-/

import ApiContract.Proofs.Document.RoundTrip
import ApiContract.Proofs.Specification.Loading

set_option relaxedAutoImplicit false
set_option autoImplicit false

namespace ApiContract

/-! ### Values that are read -/

section

variable {α β : Type}

theorem Dict.of_mem_insert {d : Dict β} {key : String} {value : β} {p : String × β}
    (h : p ∈ d.insert key value) : p.2 = value ∨ p ∈ d := by
  induction d with
  | nil =>
      rw [List.mem_singleton.1 h]
      exact Or.inl rfl
  | cons first d ih =>
      unfold Dict.insert at h
      split at h
      · rcases List.mem_cons.1 h with rfl | h
        · exact Or.inl rfl
        · exact Or.inr (List.mem_cons_of_mem _ h)
      · rcases List.mem_cons.1 h with rfl | h
        · exact Or.inr List.mem_cons_self
        · exact (ih h).imp_right (List.mem_cons_of_mem _)

variable [Readable α] {read : Tree α → Option β}

/-- A value is added to a dictionary as it is read. -/
theorem Tree.of_mem_entries? {entries : List (Option α × Tree α)} {d d' : Dict β}
    (h : Tree.entries? read d entries = some d') {p : String × β} (hp : p ∈ d') :
    (∃ t, read t = some p.2) ∨ p ∈ d := by
  induction entries generalizing d with
  | nil =>
      cases h
      exact Or.inr hp
  | cons entry entries ih =>
      obtain ⟨k, t⟩ := entry
      simp only [Tree.entries?] at h
      split at h
      · rename_i hread
        rcases ih h with hp | hp
        · exact Or.inl hp
        · refine (Dict.of_mem_insert hp).imp_left ?_
          intro heq
          exact ⟨t, heq ▸ hread⟩
      · cases h

/-- What is in a dictionary that is read was read from a tree. -/
theorem Tree.exists_of_dict? {t : Tree α} {d : Dict β} (h : Tree.dict? read t = some d)
    {p : String × β} (hp : p ∈ d) : ∃ t, read t = some p.2 := by
  unfold Tree.dict? at h
  split at h
  · split at h
    · cases h
      cases hp
    · cases h
  · cases h
  · exact (Tree.of_mem_entries? h hp).resolve_right List.not_mem_nil

/-- So was what is in one that may be missing. -/
theorem Dict.exists_of_orElse? {f : Dict (Tree α)} {name : String} {d : Dict β}
    (h : f.orElse? name [] (Tree.dict? read) = some d) {p : String × β} (hp : p ∈ d) :
    ∃ t, read t = some p.2 := by
  unfold Dict.orElse? at h
  split at h
  · exact Tree.exists_of_dict? h hp
  · cases h
    cases hp

/-- A field that is there was read from a tree. -/
theorem Dict.exists_of_optional? {f : Dict (Tree α)} {name : String} {v : Option β}
    (h : f.optional? name read = some v) : ∀ b ∈ v, ∃ t, read t = some b := by
  intro b hb
  obtain rfl : v = some b := hb
  unfold Dict.optional? Dict.orElse? at h
  split at h
  · rename_i t ht
    refine ⟨t, ?_⟩
    unfold Tree.optional? at h
    split at h
    · split at h
      · cases h
      · cases h
      · simpa using h
    · simpa using h
  · cases h

end

/-! ### Documents -/

/-- The paths of a document are distinct, and so are the responses of each operation. -/
structure Document.Distinct (d : Document) : Prop where
  paths : d.paths.keys.Nodup
  responses : ∀ p ∈ d.paths, ∀ o ∈ p.2.operations, o.2.responses.keys.Nodup

section

variable {α : Type} [Readable α] {t : Tree α}

theorem Operation.nodup_of_ofTree? {o : Operation} (h : Operation.ofTree? t = some o) :
    o.responses.keys.Nodup := by
  simp only [Operation.ofTree?, Option.bind_eq_bind, Option.bind_eq_some_iff] at h
  obtain ⟨f, -, operationId, -, summary, -, deprecated, -, parameters, -, body, -, responses,
    hresponses, h⟩ := h
  cases h
  exact Dict.nodup_of_orElse? hresponses

/-- Each operation on a path is read as one. -/
theorem PathItem.nodup_of_ofTree? {item : PathItem} (h : PathItem.ofTree? t = some item) :
    ∀ o ∈ item.operations, o.2.responses.keys.Nodup := by
  have hread {f : Dict (Tree α)} {name : String} {v : Option Operation}
      (hv : f.optional? name Operation.ofTree? = some v) : ∀ o ∈ v, o.responses.keys.Nodup := by
    intro o ho
    obtain ⟨t, ht⟩ := Dict.exists_of_optional? hv o ho
    exact Operation.nodup_of_ofTree? ht
  simp only [PathItem.ofTree?, Option.bind_eq_bind, Option.bind_eq_some_iff] at h
  obtain ⟨f, -, get, hget, put, hput, post, hpost, delete, hdelete, options, hoptions, head, hhead,
    patch, hpatch, trace, htrace, parameters, -, h⟩ := h
  have hall : ∀ o ∈ item.operations.map Prod.snd, o.responses.keys.Nodup := by
    cases h
    exact PathItem.forall_mem_operations_iff.2 ⟨hread hget, hread hhead, hread hput, hread hpost,
      hread hdelete, hread hpatch, hread hoptions, hread htrace⟩
  intro o ho
  exact hall o.2 (List.mem_map_of_mem ho)

/-- **A document that is read from a tree is distinct.** -/
theorem Document.distinct_of_ofTree? {d : Document} (h : Document.ofTree? t = some d) :
    d.Distinct := by
  have hpaths := Document.nodup_paths_of_ofTree? h
  simp only [Document.ofTree?, Option.bind_eq_bind, Option.bind_eq_some_iff] at h
  obtain ⟨f, -, format, -, info, -, servers, -, paths, hread, components, -, h⟩ := h
  cases h
  refine ⟨hpaths, fun p hp => ?_⟩
  obtain ⟨t, ht⟩ := Dict.exists_of_orElse? hread hp
  exact PathItem.nodup_of_ofTree? ht

end

/-- **What makes a specification is distinct**: bytes that describe a specification are a document
with distinct paths and responses, which describes it. -/
theorem Specification.exists_distinct_of_ofBytes [Libraries] {bytes : List UInt8}
    {s : Specification} (h : ofBytes bytes = .ok s) :
    ∃ d : Document, Document.ofBytes? bytes = some d ∧ d.Distinct ∧ ofDocument d = .ok s := by
  unfold ofBytes at h
  split at h
  · rename_i d hd
    refine ⟨d, hd, ?_, h⟩
    obtain ⟨cs, -, hcs⟩ := Option.bind_eq_some_iff.1 hd
    unfold Yaml.read? at hcs
    split at hcs
    · cases hcs
    · exact Document.distinct_of_ofTree? hcs
    · exact Document.distinct_of_ofTree? hcs
  · cases h

end ApiContract
