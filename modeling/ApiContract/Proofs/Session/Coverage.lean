/-
**Tables of coverage.**

The order of coordinates is a linear order.  A table that is loaded has the coordinates of its
specification in strict order, none of them checked.  To check a coordinate changes no coordinate
and the flag of one row at most, and what a status falls under depends on the coordinates alone.

Main definitions:

* `Coverage.coordinates` — the coordinates of a table, in order.

Main results:

* `Coverage.pairwise_load`, `Coverage.mem_coordinates_load`, `Coverage.isChecked_load` — the table
  of a specification;
* `Coverage.get?_mark`, `Coverage.coordinates_mark` — **what checking a coordinate changes**;
* `Coverage.resolve?_congr`, `Coverage.of_resolve?` — the coordinate that a status falls under.
-/

import ApiContract.Proofs.Specification.StatusKey
import ApiContract.Session.Coverage

set_option relaxedAutoImplicit false
set_option autoImplicit false

namespace ApiContract

open Std (TransCmp OrientedCmp LawfulEqCmp)

/-! ### The order of coordinates -/

namespace TrackedMethod

theorem index_inj {a b : TrackedMethod} (h : a.index = b.index) : a = b := by
  cases a <;> cases b <;> first | rfl | cases h

end TrackedMethod

namespace Coordinate

instance : TransCmp order :=
  inferInstanceAs (TransCmp (compareLex (compareOn template)
    (compareLex (compareOn fun c => c.method.index) (compareOn key))))

instance : LawfulEqCmp order where
  eq_of_compare {a b} h := by
    simp only [order, Ordering.then_eq_eq] at h
    obtain ⟨htemplate, hmethod, hkey⟩ := h
    have hindex := Std.LawfulEqOrd.eq_of_compare hmethod
    obtain ⟨template, method, key⟩ := a
    obtain rfl : template = b.template := Std.LawfulEqOrd.eq_of_compare htemplate
    obtain rfl : method = b.method := TrackedMethod.index_inj hindex
    obtain rfl : key = b.key := Std.LawfulEqOrd.eq_of_compare hkey
    rfl

end Coordinate

namespace Coverage

/-- The coordinates of a table, in order. -/
def coordinates (t : Coverage) : List Coordinate := t.rows.map Prod.fst

/-- The unchecked coordinates stand among them. -/
theorem unchecked_sublist (t : Coverage) : t.unchecked.Sublist t.coordinates :=
  (List.filter_sublist).map Prod.fst

/-! ### Loading -/

section

variable {c k : Coordinate} {rows : List (Coordinate × Bool)}

/-- Coordinates in strict order. -/
def Ordered (cs : List Coordinate) : Prop := cs.Pairwise fun a b => a.order b = .lt

theorem mem_insertRow_iff :
    k ∈ (insertRow c rows).map Prod.fst ↔ k = c ∨ k ∈ rows.map Prod.fst := by
  induction rows with
  | nil => simp [insertRow]
  | cons row rows ih =>
      simp only [insertRow]
      split
      · simp
      · rename_i heq
        have hrow : c = row.1 := LawfulEqCmp.eq_of_compare heq
        rw [List.map_cons, List.mem_cons, hrow]
        exact ⟨Or.inr, fun h => h.elim Or.inl id⟩
      · rw [List.map_cons, List.mem_cons, ih, List.map_cons, List.mem_cons]
        exact or_left_comm

/-- A coordinate is added where it belongs. -/
theorem ordered_insertRow (h : Ordered (rows.map Prod.fst)) :
    Ordered ((insertRow c rows).map Prod.fst) := by
  induction rows with
  | nil => exact List.pairwise_singleton _ _
  | cons row rows ih =>
      rw [Ordered, List.map_cons, List.pairwise_cons] at h
      simp only [insertRow]
      split
      · rename_i hlt
        rw [Ordered, List.map_cons, List.pairwise_cons, List.map_cons]
        refine ⟨fun k hk => ?_, List.pairwise_cons.2 h⟩
        rcases List.mem_cons.1 hk with rfl | hk
        · exact hlt
        · exact TransCmp.lt_trans hlt (h.1 k hk)
      · exact List.pairwise_cons.2 h
      · rename_i hgt
        rw [Ordered, List.map_cons, List.pairwise_cons]
        refine ⟨fun k hk => ?_, ih h.2⟩
        rcases mem_insertRow_iff.1 hk with rfl | hk
        · exact OrientedCmp.lt_of_gt hgt
        · exact h.1 k hk

/-- No row is checked. -/
def Fresh (rows : List (Coordinate × Bool)) : Prop := ∀ row ∈ rows, row.2 = false

theorem fresh_insertRow (h : Fresh rows) : Fresh (insertRow c rows) := by
  induction rows with
  | nil => simp [insertRow, Fresh]
  | cons row rows ih =>
      rw [Fresh, List.forall_mem_cons] at h
      simp only [insertRow]
      split
      · exact List.forall_mem_cons.2 ⟨rfl, List.forall_mem_cons.2 h⟩
      · exact List.forall_mem_cons.2 h
      · exact List.forall_mem_cons.2 ⟨h.1, ih h.2⟩

/-- What a table with given coordinates is like: they stand in strict order, unchecked. -/
theorem ofList_spec (cs : List Coordinate) :
    Ordered (ofList cs).coordinates ∧ Fresh (ofList cs).rows ∧
      ∀ k, k ∈ (ofList cs).coordinates ↔ k ∈ cs := by
  -- told of a fold that begins with any table in order
  have h : ∀ t : Coverage, Ordered t.coordinates → Fresh t.rows →
      Ordered (cs.foldl insert t).coordinates ∧ Fresh (cs.foldl insert t).rows ∧
        ∀ k, k ∈ (cs.foldl insert t).coordinates ↔ k ∈ cs ∨ k ∈ t.coordinates := by
    induction cs with
    | nil => exact fun t ho hf => ⟨ho, hf, fun k => by simp⟩
    | cons c cs ih =>
        intro t ho hf
        obtain ⟨hordered, hfresh, hmem⟩ :=
          ih (t.insert c) (ordered_insertRow ho) (fresh_insertRow hf)
        refine ⟨hordered, hfresh, fun k => ?_⟩
        rw [List.foldl_cons, hmem, List.mem_cons]
        have : k ∈ (t.insert c).coordinates ↔ k = c ∨ k ∈ t.coordinates := mem_insertRow_iff
        rw [this, or_left_comm, or_assoc]
  obtain ⟨hordered, hfresh, hmem⟩ := h empty List.Pairwise.nil (by simp [Fresh, empty])
  exact ⟨hordered, hfresh, fun k => (hmem k).trans (by simp [coordinates, empty])⟩

end

section

variable {t : Coverage} {c k : Coordinate}

/-- The coordinates of a table that is loaded stand in strict order. -/
theorem ordered_load (s : Specification) (internalErrors : Bool) :
    Ordered (load s internalErrors).coordinates :=
  (ofList_spec _).1

/-- They are the coordinates of the specification. -/
theorem mem_coordinates_load {s : Specification} {internalErrors : Bool} :
    k ∈ (load s internalErrors).coordinates ↔ k ∈ s.coordinates internalErrors :=
  (ofList_spec _).2.2 k

/-! ### Looking up -/

theorem get?_cons (row : Coordinate × Bool) (rows : List (Coordinate × Bool)) (k : Coordinate) :
    get? ⟨row :: rows⟩ k = if k = row.1 then some row.2 else get? ⟨rows⟩ k := by
  obtain ⟨c, checked⟩ := row
  rw [get?, List.lookup_cons]
  by_cases h : k = c
  · rw [if_pos h, beq_iff_eq.2 h]
  · rw [if_neg h, beq_eq_false_iff_ne.2 h]
    rfl

/-- The coordinates of a table are those that it knows. -/
theorem contains_iff : t.contains k = true ↔ k ∈ t.coordinates := by
  obtain ⟨rows⟩ := t
  simp only [contains, coordinates]
  induction rows with
  | nil => simp [get?]
  | cons row rows ih =>
      rw [get?_cons, List.map_cons, List.mem_cons, ← ih]
      split
      · rename_i h
        exact ⟨fun _ => Or.inl h, fun _ => rfl⟩
      · rename_i h
        exact ⟨Or.inr, fun h' => h'.resolve_left h⟩

/-- A table without checked rows has no checked coordinate. -/
theorem isChecked_of_fresh (h : Fresh t.rows) : t.isChecked k = false := by
  obtain ⟨rows⟩ := t
  simp only [isChecked]
  induction rows with
  | nil => rfl
  | cons row rows ih =>
      rw [Fresh, List.forall_mem_cons] at h
      rw [get?_cons]
      split
      · exact h.1
      · exact ih h.2

theorem isChecked_load (s : Specification) (internalErrors : Bool) (k : Coordinate) :
    (load s internalErrors).isChecked k = false :=
  isChecked_of_fresh (ofList_spec _).2.1

/-! ### Checking -/

/-- The rows of a table with a coordinate checked. -/
theorem mark_cons (row : Coordinate × Bool) (rows : List (Coordinate × Bool)) (c : Coordinate) :
    (mark ⟨row :: rows⟩ c).2 =
      ⟨(if row.1 = c then (row.1, true) else row) :: (mark ⟨rows⟩ c).2.rows⟩ := rfl

/-- To check a coordinate changes no coordinate. -/
@[simp] theorem coordinates_mark (t : Coverage) (c : Coordinate) :
    (t.mark c).2.coordinates = t.coordinates := by
  simp only [coordinates, mark, List.map_map]
  refine List.map_congr_left fun row _ => ?_
  simp only [Function.comp]
  split <;> rfl

/-- **To check a coordinate changes what the table says of it, and nothing else.** -/
theorem get?_mark (t : Coverage) (c k : Coordinate) :
    (t.mark c).2.get? k = if k = c then (t.get? k).map fun _ => true else t.get? k := by
  obtain ⟨rows⟩ := t
  induction rows with
  | nil => simp [mark, get?]
  | cons row rows ih =>
      rw [mark_cons, get?_cons, get?_cons]
      have hfst : (if row.1 = c then (row.1, true) else row).1 = row.1 := by
        split <;> rfl
      rw [hfst]
      by_cases hk : k = row.1
      · rw [if_pos hk, if_pos hk]
        by_cases hc : row.1 = c
        · rw [if_pos hc, if_pos (hk.trans hc)]
          rfl
        · rw [if_neg hc, if_neg fun h => hc (hk ▸ h)]
      · rw [if_neg hk, if_neg hk]
        exact ih

/-- A coordinate is checked afterwards if it was so before, or if it is the one that is there to
be checked. -/
theorem isChecked_mark (hc : t.contains c = true) :
    (t.mark c).2.isChecked k = true ↔ t.isChecked k = true ∨ k = c := by
  simp only [isChecked, get?_mark]
  by_cases hk : k = c
  · subst hk
    obtain ⟨b, hb⟩ := Option.isSome_iff_exists.1 hc
    simp [hb]
  · simp [hk]

/-! ### What a status falls under -/

/-- The response keys under a template and a method are those of the coordinates. -/
theorem keys_eq (t : Coverage) (template : String) (method : TrackedMethod) :
    t.keys template method =
      (t.coordinates.filter fun k => k.template = template ∧ k.method = method).map
        Coordinate.key := by
  simp only [keys, coordinates, List.filter_map, List.map_map]
  rfl

/-- What a status falls under depends on the coordinates alone. -/
theorem resolve?_congr {t₁ t₂ : Coverage} (h : t₁.coordinates = t₂.coordinates)
    (template : String) (method : TrackedMethod) (status : Nat) :
    t₁.resolve? template method status = t₂.resolve? template method status := by
  rw [resolve?, resolve?, keys_eq, keys_eq, h]

theorem mem_keys_iff {template key : String} {method : TrackedMethod} :
    key ∈ t.keys template method ↔ ⟨template, method, key⟩ ∈ t.coordinates := by
  rw [keys_eq, List.mem_map]
  constructor
  · rintro ⟨⟨template', method', key'⟩, hk, rfl⟩
    obtain ⟨hmem, h⟩ := List.mem_filter.1 hk
    obtain ⟨rfl, rfl⟩ := of_decide_eq_true h
    exact hmem
  · intro h
    exact ⟨_, List.mem_filter.2 ⟨h, decide_eq_true ⟨rfl, rfl⟩⟩, rfl⟩

/-- The response keys under a template and a method stand in order. -/
theorem pairwise_keys (h : Ordered t.coordinates) (template : String) (method : TrackedMethod) :
    (t.keys template method).Pairwise (· < ·) := by
  rw [keys_eq, List.pairwise_map, List.pairwise_filter]
  refine h.imp fun {a b} hlt ha hb => ?_
  obtain ⟨hta, hma⟩ := of_decide_eq_true ha
  obtain ⟨htb, hmb⟩ := of_decide_eq_true hb
  simp only [Coordinate.order, hta, htb, hma, hmb, Std.ReflOrd.compare_self,
    Ordering.eq_then] at hlt
  exact compareOfLessAndEq_eq_lt.1 hlt

end

end Coverage

/-- The coordinate that a status falls under is there, under the template and the method. -/
theorem Coverage.of_resolve? {t : Coverage} {template : String} {method : TrackedMethod}
    {status : Nat} {k : Coordinate} (h : t.resolve? template method status = some k) :
    k.template = template ∧ k.method = method ∧ t.contains k = true ∧
      StatusKey.resolve (t.keys template method) status = some k.key := by
  obtain ⟨key, hkey, rfl⟩ := Option.map_eq_some_iff.1 h
  exact ⟨rfl, rfl, contains_iff.2 (mem_keys_iff.1 (StatusKey.mem_of_resolve hkey)), hkey⟩

end ApiContract
