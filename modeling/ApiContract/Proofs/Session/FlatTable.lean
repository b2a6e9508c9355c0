/-
**A table of coverage is a map from coordinates to flags.**

However a table is kept, it can be thought of as one map, from coordinates to flags.  To add a
coordinate gives one that is not there a flag, which is not set; to check a coordinate sets the flag
of one that is there.  Whatever was added and checked, in whichever order, all that the table can be
asked is told by this map: the rows are its coordinates, each once, in the order of the bytes of
their templates, of their methods and of the bytes of their keys.  The same holds of a table that is
kept as maps inside each other, none of which is ever empty.

Main definitions:

* `Coverage.Change`, `Coverage.after` — what is done to a table, and the table after some changes;
* `FlatTable` — the map, with `FlatTable.after`;
* `Coordinate.Before` — the order of coordinates by bytes;
* `Coverage.Answers`, `Coverage.Answers.Fit` — what a table answers, and that it is what a map says;
* `NestedTable.Filled` — maps inside each other, none of them empty.

Main results:

* `Coordinate.order_eq_lt_iff` — the order of coordinates is the order of their bytes;
* `Coverage.get?_change` — **what one change does**;
* `Coverage.fit_answers` — a table in order answers what its rows say;
* `NestedTable.Filled.answers_eq` — maps inside each other answer the same;
* `Coverage.fit_answers_after` — **the table is the map after all changes**.
-/

import ApiContract.Proofs.Session.NestedTable
import ApiContract.Proofs.Session.Tally
import ApiContract.Proofs.Text.ByteOrder
import Mathlib.Data.Set.Card

set_option relaxedAutoImplicit false
set_option autoImplicit false

namespace ApiContract

open Std (LawfulEqCmp)

/-! ### The order of coordinates -/

/-- One coordinate stands before another: by the bytes of the templates, then by the methods, then
by the bytes of the keys. -/
def Coordinate.Before (a b : Coordinate) : Prop :=
  Utf8.bytes a.template < Utf8.bytes b.template ∨ a.template = b.template ∧
    (a.method.index < b.method.index ∨ a.method = b.method ∧
      Utf8.bytes a.key < Utf8.bytes b.key)

/-- **Coordinates are in the order of their bytes.** -/
theorem Coordinate.order_eq_lt_iff {a b : Coordinate} : a.order b = .lt ↔ a.Before b := by
  have htext : ∀ s t : String, compare s t = .lt ↔ Utf8.bytes s < Utf8.bytes t := fun s t =>
    compareOfLessAndEq_eq_lt.trans Utf8.bytes_lt_iff.symm
  have hmethod : a.method.index = b.method.index ↔ a.method = b.method :=
    ⟨TrackedMethod.index_inj, congrArg TrackedMethod.index⟩
  rw [Coordinate.order, Ordering.then_eq_lt, Ordering.then_eq_lt, htext, htext, Before,
    Std.LawfulEqOrd.compare_eq_iff_eq, Std.LawfulEqOrd.compare_eq_iff_eq, hmethod,
    Nat.compare_eq_lt]

/-! ### What is done to a table -/

/-- A change of a table. -/
inductive Coverage.Change where
  /-- Add an unchecked coordinate. -/
  | insert (c : Coordinate)
  /-- Check a coordinate if it is there. -/
  | mark (c : Coordinate)

/-- A table as one map from coordinates to flags. -/
abbrev FlatTable := Coordinate → Option Bool

namespace FlatTable

/-- The map without coordinates. -/
def empty : FlatTable := fun _ => none

/-- A coordinate that is not there gets a flag that is not set. -/
def insert (m : FlatTable) (c : Coordinate) : FlatTable :=
  fun k => if k = c ∧ m k = none then some false else m k

/-- The flag of a coordinate that is there is set. -/
def mark (m : FlatTable) (c : Coordinate) : FlatTable :=
  fun k => if k = c ∧ m k ≠ none then some true else m k

/-- The map after a change. -/
def change (m : FlatTable) : Coverage.Change → FlatTable
  | .insert c => m.insert c
  | .mark c => m.mark c

/-- The map after some changes. -/
def after (changes : List Coverage.Change) : FlatTable := changes.foldl change empty

end FlatTable

namespace Coverage

/-- The table after a change. -/
def change (t : Coverage) : Change → Coverage
  | .insert c => t.insert c
  | .mark c => (t.mark c).2

/-- The table after some changes. -/
def after (changes : List Change) : Coverage := changes.foldl change empty

section

variable {t : Coverage} {c k : Coordinate}

theorem get?_eq_none_iff : t.get? k = none ↔ k ∉ t.coordinates := by
  rw [← contains_iff, contains, Bool.not_eq_true, Option.isSome_eq_false_iff,
    Option.isNone_iff_eq_none]

/-- What a table says of a coordinate is what its row says. -/
theorem get?_eq_some_iff {b : Bool} (h : t.coordinates.Nodup) :
    t.get? k = some b ↔ (k, b) ∈ t.rows := by
  obtain ⟨rows⟩ := t
  induction rows with
  | nil => simp [get?]
  | cons row rows ih =>
      rw [coordinates, List.map_cons, List.nodup_cons] at h
      rw [get?_cons, List.mem_cons]
      by_cases hk : k = row.1
      · have hrest : (k, b) ∉ rows := fun hmem => h.1 (hk ▸ List.mem_map_of_mem hmem)
        rw [if_pos hk, or_iff_left hrest, Prod.eq_iff_fst_eq_snd_eq, Option.some.injEq]
        exact ⟨fun hb => ⟨hk, hb.symm⟩, fun hrow => hrow.2.symm⟩
      · have hfirst : (k, b) ≠ row := fun hrow => hk (congrArg Prod.fst hrow)
        rw [if_neg hk, or_iff_right hfirst]
        exact ih h.2

/-- **The rows after adding a coordinate**: those that were there, and a new one if it was not
there. -/
theorem mem_rows_insert_iff (h : Ordered t.coordinates) {row : Coordinate × Bool} :
    row ∈ (t.insert c).rows ↔ row ∈ t.rows ∨ row = (c, false) ∧ c ∉ t.coordinates := by
  obtain ⟨rows⟩ := t
  simp only [insert, coordinates] at h ⊢
  induction rows with
  | nil => simp [insertRow]
  | cons first rows ih =>
      have hall : Ordered ((insertRow c (first :: rows)).map Prod.fst) := ordered_insertRow h
      rw [List.map_cons, Ordered, List.pairwise_cons] at h
      rw [insertRow] at hall ⊢
      cases hcmp : c.order first.1 with
      | lt =>
          rw [hcmp] at hall
          have hnot : c ∉ (first :: rows).map Prod.fst := (List.nodup_cons.1 hall.nodup).1
          rw [List.mem_cons, and_iff_left hnot, or_comm]
      | eq =>
          have hmem : c ∈ (first :: rows).map Prod.fst :=
            List.mem_cons.2 (Or.inl (LawfulEqCmp.eq_of_compare hcmp))
          exact (or_iff_left fun hrow => hrow.2 hmem).symm
      | gt =>
          have hne : c ≠ first.1 := by
            rintro rfl
            rw [@Std.ReflCmp.compare_self _ Coordinate.order] at hcmp
            cases hcmp
          rw [List.mem_cons, ih h.2, List.mem_cons, List.map_cons, List.mem_cons, or_assoc,
            or_iff_right hne]

/-- **To add a coordinate changes what the table says of it if it was not there, and nothing
else.** -/
theorem get?_insert (h : Ordered t.coordinates) (c k : Coordinate) :
    (t.insert c).get? k = if k = c ∧ t.get? k = none then some false else t.get? k := by
  have hinsert : (t.insert c).coordinates.Nodup := (ordered_insertRow h).nodup
  refine Option.ext fun b => ?_
  rw [get?_eq_some_iff hinsert, mem_rows_insert_iff h, ← get?_eq_some_iff h.nodup,
    ← get?_eq_none_iff, Prod.mk.injEq]
  split
  · rename_i hnew
    obtain ⟨rfl, hnone⟩ := hnew
    rw [hnone]
    simp [eq_comm]
  · rename_i hold
    refine or_iff_left ?_
    rintro ⟨⟨rfl, -⟩, hnone⟩
    exact hold ⟨rfl, hnone⟩

/-- **What one change does**: the same as to the map. -/
theorem get?_change (h : Ordered t.coordinates) (e : Change) :
    (t.change e).get? = FlatTable.change t.get? e := by
  funext k
  cases e with
  | insert c => exact get?_insert h c k
  | mark c =>
      rw [change, get?_mark, FlatTable.change, FlatTable.mark]
      by_cases hk : k = c
      · cases t.get? k <;> simp [hk]
      · rw [if_neg hk, if_neg fun hkc => hk hkc.1]

theorem ordered_change (h : Ordered t.coordinates) (e : Change) :
    Ordered (t.change e).coordinates := by
  cases e with
  | insert c => exact ordered_insertRow h
  | mark c =>
      rw [change, coordinates_mark]
      exact h

end

/-- After any changes a table stands in order and says what the map says. -/
theorem after_spec (changes : List Change) :
    Ordered (after changes).coordinates ∧ (after changes).get? = FlatTable.after changes := by
  have h : ∀ t : Coverage, ∀ m : FlatTable, Ordered t.coordinates → t.get? = m →
      Ordered (changes.foldl change t).coordinates ∧
        (changes.foldl change t).get? = changes.foldl FlatTable.change m := by
    induction changes with
    | nil => exact fun t m ht hm => ⟨ht, hm⟩
    | cons e changes ih =>
        rintro t m ht rfl
        exact ih _ _ (ordered_change ht e) (get?_change ht e)
  exact h empty FlatTable.empty List.Pairwise.nil rfl

/-! ### What a table answers -/

/-- What a table can be asked. -/
structure Answers where
  /-- Whether a coordinate is there. -/
  contains : Coordinate → Bool
  /-- The answer when a coordinate is to be checked. -/
  mark : Coordinate → Bool
  /-- Whether a coordinate is there and checked. -/
  isChecked : Coordinate → Bool
  /-- Whether there is a coordinate under a template. -/
  hasTemplate : String → Bool
  /-- The coordinates with their flags. -/
  rows : List (Coordinate × Bool)
  /-- The coordinates that are not checked. -/
  unchecked : List Coordinate
  /-- The number of coordinates. -/
  size : Nat
  /-- Whether there are no coordinates. -/
  isEmpty : Bool
  /-- The number of coordinates that are checked. -/
  checkedCount : Nat

/-- The answers of a table. -/
def answers (t : Coverage) : Answers where
  contains := t.contains
  mark k := (t.mark k).1
  isChecked := t.isChecked
  hasTemplate := t.hasTemplate
  rows := t.rows
  unchecked := t.unchecked
  size := t.size
  isEmpty := t.size = 0
  checkedCount := t.checkedCount

/-- The answers are what a map says. -/
structure Answers.Fit (a : Answers) (m : FlatTable) : Prop where
  contains_iff : ∀ k, a.contains k = true ↔ m k ≠ none
  mark_iff : ∀ k, a.mark k = true ↔ m k ≠ none
  isChecked_iff : ∀ k, a.isChecked k = true ↔ m k = some true
  hasTemplate_iff : ∀ template, a.hasTemplate template = true ↔
    ∃ k : Coordinate, k.template = template ∧ m k ≠ none
  /-- Each coordinate has one row, and the rows stand in order. -/
  rows_before : (a.rows.map Prod.fst).Pairwise Coordinate.Before
  rows_nodup : (a.rows.map Prod.fst).Nodup
  mem_rows_iff : ∀ k b, (k, b) ∈ a.rows ↔ m k = some b
  /-- So do the coordinates that are not checked. -/
  unchecked_before : a.unchecked.Pairwise Coordinate.Before
  mem_unchecked_iff : ∀ k, k ∈ a.unchecked ↔ m k = some false
  size_eq : a.size = {k : Coordinate | m k ≠ none}.encard
  isEmpty_iff : a.isEmpty = true ↔ ∀ k, m k = none
  checkedCount_eq : a.checkedCount = {k : Coordinate | m k = some true}.encard

section

variable {t : Coverage} {k : Coordinate}

/-- Coordinates that are listed once each are as many as the list is long. -/
theorem encard_setOf_mem {ks : List Coordinate} (h : ks.Nodup) :
    {k | k ∈ ks}.encard = ks.length := by
  rw [← List.coe_toFinset, Set.encard_coe_eq_coe_finsetCard, List.toFinset_card_of_nodup h]

theorem isChecked_iff : t.isChecked k = true ↔ t.get? k = some true := by
  rw [isChecked]
  cases t.get? k <;> simp

theorem mem_coordinates_iff_get? : k ∈ t.coordinates ↔ t.get? k ≠ none := by
  rw [Ne, get?_eq_none_iff, not_not]

theorem mem_unchecked_iff_get? (h : t.coordinates.Nodup) :
    k ∈ t.unchecked ↔ t.get? k = some false := by
  rw [mem_unchecked_iff h, contains, isChecked]
  cases t.get? k <;> simp

theorem hasTemplate_iff {template : String} :
    t.hasTemplate template = true ↔ ∃ k ∈ t.coordinates, k.template = template := by
  simp [hasTemplate, coordinates]

/-- **A table in order answers what its rows say.** -/
theorem fit_answers (h : Ordered t.coordinates) : t.answers.Fit t.get? := by
  have hbefore : t.coordinates.Pairwise Coordinate.Before :=
    h.imp Coordinate.order_eq_lt_iff.1
  have hsize : t.size = {k | t.get? k ≠ none}.encard := by
    simp only [← mem_coordinates_iff_get?]
    rw [encard_setOf_mem h.nodup, coordinates, List.length_map, size]
  have hchecked : {k | t.get? k = some true} = {k | k ∈ t.coordinates.filter t.isChecked} := by
    ext k
    simp only [Set.mem_ofPred_eq, List.mem_filter, isChecked_iff, mem_coordinates_iff_get?]
    exact ⟨fun hk => ⟨by rw [hk]; exact Option.some_ne_none true, hk⟩, And.right⟩
  exact {
    contains_iff := fun k => contains_iff.trans mem_coordinates_iff_get?
    mark_iff := fun k => contains_iff.trans mem_coordinates_iff_get?
    isChecked_iff := fun k => isChecked_iff
    hasTemplate_iff := fun template => by
      simp only [answers, hasTemplate_iff, mem_coordinates_iff_get?, and_comm]
    rows_before := hbefore
    rows_nodup := h.nodup
    mem_rows_iff := fun k b => (get?_eq_some_iff h.nodup).symm
    unchecked_before := hbefore.sublist t.unchecked_sublist
    mem_unchecked_iff := fun k => mem_unchecked_iff_get? h.nodup
    size_eq := hsize
    isEmpty_iff := by
      rw [answers, decide_eq_true_iff, ← Nat.cast_eq_zero (R := ℕ∞), hsize, Set.encard_eq_zero,
        Set.eq_empty_iff_forall_notMem]
      simp
    checkedCount_eq := by
      rw [answers, hchecked, encard_setOf_mem (h.nodup.filter _), checkedCount_eq h.nodup,
        List.countP_eq_length_filter] }

end

end Coverage

/-! ### Maps inside each other -/

namespace SortedMap

variable {κ α : Type} {order : κ → κ → Ordering} {P Q : α → Prop} {entries : SortedMap κ α}

theorem Sorted.mono (h : Sorted order P entries) (hPQ : ∀ a, P a → Q a) :
    Sorted order Q entries :=
  ⟨h.pairwise, fun e he => hPQ e.2 (h.values e he)⟩

theorem upsert_ne_nil {key : κ} {f : Option α → α} : upsert order key f entries ≠ [] := by
  cases entries with
  | nil => exact List.cons_ne_nil _ _
  | cons first entries =>
      rw [upsert]
      split <;> exact List.cons_ne_nil _ _

theorem adjust_ne_nil [DecidableEq κ] {key : κ} {f : α → α} (h : entries ≠ []) :
    adjust key f entries ≠ [] :=
  fun hnil => h (List.map_eq_nil_iff.1 hnil)

end SortedMap

namespace NestedTable

open SortedMap (Sorted)

/-- The table after a change. -/
def change (n : NestedTable) : Coverage.Change → NestedTable
  | .insert c => n.insert c
  | .mark c => (n.mark c).2

/-- The table after some changes. -/
def after (changes : List Coverage.Change) : NestedTable := changes.foldl change []

/-- The answers of a table, from the maps. -/
def answers (n : NestedTable) : Coverage.Answers where
  contains k := (n.get? k).isSome
  mark k := (n.mark k).1
  isChecked := n.isChecked
  hasTemplate template := (n.lookup template).isSome
  rows := n.rows
  unchecked := n.unchecked
  size := n.size
  isEmpty := n.size = 0
  checkedCount := n.checkedCount

/-- The keys under a method, none of which is left out: there is one at least. -/
def KeysFilled (keys : SortedMap String Bool) : Prop :=
  keys ≠ [] ∧ Sorted compare (fun _ => True) keys

/-- The methods under a template: there is one at least, and each of them has keys. -/
def MethodsFilled (methods : SortedMap TrackedMethod (SortedMap String Bool)) : Prop :=
  methods ≠ [] ∧ Sorted TrackedMethod.order KeysFilled methods

/-- The keys of every level stand in strict order, and no map that is a value is empty. -/
def Filled : NestedTable → Prop := Sorted compare MethodsFilled

variable {n : NestedTable} {c : Coordinate}

theorem Filled.wellFormed (h : n.Filled) : n.WellFormed :=
  h.mono fun _ hmethods => hmethods.2.mono fun _ hkeys => hkeys.2

theorem keysFilled_insertKey {key : String} {keys : Option (SortedMap String Bool)}
    (h : Sorted compare (fun _ => True) (keys.getD [])) : KeysFilled (insertKey key keys) :=
  ⟨SortedMap.upsert_ne_nil, h.upsert trivial fun _ _ => trivial⟩

theorem methodsFilled_insertMethod
    {methods : Option (SortedMap TrackedMethod (SortedMap String Bool))}
    (h : Sorted TrackedMethod.order KeysFilled (methods.getD [])) :
    MethodsFilled (insertMethod c methods) :=
  ⟨SortedMap.upsert_ne_nil, h.upsert (keysFilled_insertKey SortedMap.sorted_nil)
    fun _ hkeys => keysFilled_insertKey hkeys.2⟩

/-- A map that is put in is filled at once. -/
theorem Filled.insert (h : n.Filled) (c : Coordinate) : (n.insert c).Filled :=
  Sorted.upsert h (methodsFilled_insertMethod SortedMap.sorted_nil)
    fun _ hmethods => methodsFilled_insertMethod hmethods.2

theorem Filled.mark (h : n.Filled) (c : Coordinate) : (n.mark c).2.Filled :=
  Sorted.adjust h fun _ hmethods => ⟨SortedMap.adjust_ne_nil hmethods.1,
    hmethods.2.adjust fun _ hkeys =>
      ⟨SortedMap.adjust_ne_nil hkeys.1, hkeys.2.adjust fun _ _ => trivial⟩⟩

/-- A flag is a row. -/
theorem mem_rows {template key : String} {method : TrackedMethod} {flag : Bool}
    {methods : SortedMap TrackedMethod (SortedMap String Bool)} {keys : SortedMap String Bool}
    (hmethods : (template, methods) ∈ n) (hkeys : (method, keys) ∈ methods)
    (hflag : (key, flag) ∈ keys) : (⟨template, method, key⟩, flag) ∈ n.rows :=
  List.mem_flatMap.2 ⟨_, hmethods, List.mem_flatMap.2 ⟨_, hkeys,
    List.mem_flatMap.2 ⟨_, hflag, List.mem_singleton_self _⟩⟩⟩

/-- The templates that are there are those of the rows, as no template is without rows. -/
theorem Filled.isSome_lookup_iff (h : n.Filled) {template : String} :
    (n.lookup template).isSome = true ↔ ∃ row ∈ n.rows, row.1.template = template := by
  constructor
  · intro hsome
    obtain ⟨methods, hlookup⟩ := Option.isSome_iff_exists.1 hsome
    obtain ⟨before, after, hn, -⟩ := List.lookup_eq_some_iff.1 hlookup
    have hmethods : (template, methods) ∈ n := by
      rw [hn]
      exact List.mem_append_right _ List.mem_cons_self
    obtain ⟨hne, hsorted⟩ := h.values _ hmethods
    obtain ⟨⟨method, keys⟩, hkeys⟩ := List.exists_mem_of_ne_nil _ hne
    obtain ⟨⟨key, flag⟩, hflag⟩ := List.exists_mem_of_ne_nil _ (hsorted.values _ hkeys).1
    exact ⟨_, mem_rows hmethods hkeys hflag, rfl⟩
  · rintro ⟨row, hrow, rfl⟩
    obtain ⟨e, he, hrow⟩ := List.mem_flatMap.1 hrow
    rw [Option.isSome_iff_ne_none, Ne, List.lookup_eq_none_iff]
    exact fun hnone => bne_iff_ne.1 (hnone e he) (of_mem_methodRows hrow)

/-- **Maps inside each other answer as a table does that has their rows.** -/
theorem Filled.answers_eq (h : n.Filled) {t : Coverage} (hrows : n.rows = t.rows) :
    n.answers = t.answers := by
  obtain ⟨hsize, hcount, hunchecked, hchecked⟩ := h.wellFormed.shows hrows
  have hget : ∀ k, n.get? k = t.get? k := fun k => by
    rw [get?_eq h.wellFormed, hrows, Coverage.get?]
  have htemplate : ∀ template, (n.lookup template).isSome = t.hasTemplate template := by
    intro template
    rw [Bool.eq_iff_iff, h.isSome_lookup_iff, hrows, Coverage.hasTemplate]
    simp
  have hmark : ∀ k, (n.mark k).1 = (t.mark k).1 := fun k => congrArg Option.isSome (hget k)
  simp only [answers, Coverage.answers, hmark, hget, htemplate, hsize, hcount, hunchecked, hrows,
    funext hchecked]
  rfl

/-- What one change preserves. -/
theorem change_spec {t : Coverage} (h : n.Filled) (hrows : n.rows = t.rows) (e : Coverage.Change) :
    (n.change e).Filled ∧ (n.change e).rows = (t.change e).rows := by
  cases e with
  | insert c =>
      refine ⟨h.insert c, ?_⟩
      rw [change, rows_insert h.wellFormed, hrows]
      rfl
  | mark c =>
      refine ⟨h.mark c, ?_⟩
      rw [change, rows_mark, hrows]
      rfl

/-- After any changes no map is empty, and the rows are those of the table. -/
theorem after_spec (changes : List Coverage.Change) :
    (after changes).Filled ∧ (after changes).rows = (Coverage.after changes).rows := by
  have h : ∀ n : NestedTable, ∀ t : Coverage, n.Filled → n.rows = t.rows →
      (changes.foldl change n).Filled ∧
        (changes.foldl change n).rows = (changes.foldl Coverage.change t).rows := by
    induction changes with
    | nil => exact fun n t hn hrows => ⟨hn, hrows⟩
    | cons e changes ih =>
        intro n t hn hrows
        obtain ⟨hn', hrows'⟩ := change_spec hn hrows e
        exact ih _ _ hn' hrows'
  exact h [] .empty SortedMap.sorted_nil rfl

end NestedTable

/-! ### Every sequence of changes -/

/-- **The table is a map from coordinates to flags.**  After any changes it answers what the map
says after the same changes, and so do maps inside each other. -/
theorem Coverage.fit_answers_after (changes : List Coverage.Change) :
    (Coverage.after changes).answers.Fit (FlatTable.after changes) ∧
      (NestedTable.after changes).answers = (Coverage.after changes).answers := by
  obtain ⟨hordered, hget⟩ := Coverage.after_spec changes
  obtain ⟨hfilled, hrows⟩ := NestedTable.after_spec changes
  refine ⟨?_, hfilled.answers_eq hrows⟩
  rw [← hget]
  exact fit_answers hordered

end ApiContract
