/-
**A table of coverage as maps inside each other.**

A table can be kept as a map from templates to maps from methods to maps from response keys to
flags, each in the order of its keys.  Coordinates are then added, found and checked level by level,
and counted without being named.  Row by row such a table is the one that a session keeps: what is
done to the maps is done to the rows, and the maps give the same answers as the rows.

Main definitions:

* `SortedMap` — a map in the order of its keys, with `SortedMap.upsert` and `SortedMap.adjust`;
* `SortedMap.rows` — the rows of a map whose values have rows;
* `NestedTable` — a table of three levels, with `NestedTable.insert`, `NestedTable.mark`,
  `NestedTable.get?`, `NestedTable.size` and `NestedTable.checkedCount`;
* `Contract.mapsAfter` — the maps after some calls.

Main results:

* `SortedMap.rows_upsert`, `SortedMap.rows_adjust`, `SortedMap.lookup_rows` — one level;
* `NestedTable.rows_insert`, `NestedTable.rows_mark`, `NestedTable.get?_eq` — three of them;
* `Contract.rows_mapsAfter` — **the maps have the rows of the table in every run**;
* `Contract.shows_mapsAfter` — **the maps give the answers of the table**.
-/

import ApiContract.Proofs.Session.Run

set_option relaxedAutoImplicit false
set_option autoImplicit false

namespace ApiContract

open Std (TransCmp OrientedCmp LawfulEqCmp)

/-! ### Rows in order -/

namespace Coverage

variable {c : Coordinate} {before after : List (Coordinate × Bool)}

/-- The row of a coordinate, checked; any other row as it is. -/
def markRow (c : Coordinate) (row : Coordinate × Bool) : Coordinate × Bool :=
  if row.1 = c then (row.1, true) else row

theorem markRow_of_ne {row : Coordinate × Bool} (h : row.1 ≠ c) : markRow c row = row :=
  if_neg h

theorem insertRow_of_lt (h : ∀ row ∈ after, c.order row.1 = .lt) :
    insertRow c after = (c, false) :: after := by
  cases after with
  | nil => rfl
  | cons row rows => rw [insertRow, h row List.mem_cons_self]

/-- A coordinate is added before the rows that it comes before. -/
theorem insertRow_append_of_lt (h : ∀ row ∈ after, c.order row.1 = .lt) :
    insertRow c (before ++ after) = insertRow c before ++ after := by
  induction before with
  | nil => exact insertRow_of_lt h
  | cons row before ih =>
      rw [List.cons_append, insertRow, insertRow]
      split
      · rfl
      · rfl
      · rw [ih, List.cons_append]

/-- A coordinate is added after the rows that it comes after. -/
theorem insertRow_append_of_gt (h : ∀ row ∈ before, c.order row.1 = .gt) :
    insertRow c (before ++ after) = before ++ insertRow c after := by
  induction before with
  | nil => rfl
  | cons row before ih =>
      rw [List.forall_mem_cons] at h
      rw [List.cons_append, insertRow, h.1, ih h.2, List.cons_append]

end Coverage

/-! ### One level -/

/-- A map in the order of its keys, as its entries. -/
abbrev SortedMap (κ α : Type) := List (κ × α)

namespace SortedMap

variable {κ α : Type}

/-- Change the value of a key.  A key that is not there is put where it belongs. -/
def upsert (order : κ → κ → Ordering) (key : κ) (f : Option α → α) :
    SortedMap κ α → SortedMap κ α
  | [] => [(key, f none)]
  | (k, a) :: entries =>
    match order key k with
    | .lt => (key, f none) :: (k, a) :: entries
    | .eq => (k, f (some a)) :: entries
    | .gt => (k, a) :: upsert order key f entries

/-- Change the value of a key if it is there. -/
def adjust [DecidableEq κ] (key : κ) (f : α → α) (entries : SortedMap κ α) : SortedMap κ α :=
  entries.map fun e => if e.1 = key then (e.1, f e.2) else e

/-- The rows of all values, given those of one value under its key. -/
def rows (block : κ → α → List (Coordinate × Bool)) (entries : SortedMap κ α) :
    List (Coordinate × Bool) :=
  entries.flatMap fun e => block e.1 e.2

/-- The keys stand in strict order, and something holds of the values. -/
structure Sorted (order : κ → κ → Ordering) (P : α → Prop) (entries : SortedMap κ α) : Prop where
  pairwise : entries.Pairwise fun a b => order a.1 b.1 = .lt
  values : ∀ e ∈ entries, P e.2

section

variable {order : κ → κ → Ordering} {P : α → Prop} {entries : SortedMap κ α} {key : κ}
  {block : κ → α → List (Coordinate × Bool)} {c : Coordinate}

theorem sorted_nil : Sorted order P [] := ⟨List.Pairwise.nil, List.forall_mem_nil _⟩

theorem sorted_cons_iff {e : κ × α} : Sorted order P (e :: entries) ↔
    (∀ e' ∈ entries, order e.1 e'.1 = .lt) ∧ P e.2 ∧ Sorted order P entries := by
  constructor
  · rintro ⟨hpairwise, hvalues⟩
    rw [List.pairwise_cons] at hpairwise
    rw [List.forall_mem_cons] at hvalues
    exact ⟨hpairwise.1, hvalues.1, hpairwise.2, hvalues.2⟩
  · rintro ⟨hlt, he, hpairwise, hvalues⟩
    exact ⟨List.pairwise_cons.2 ⟨hlt, hpairwise⟩, List.forall_mem_cons.2 ⟨he, hvalues⟩⟩

theorem rows_cons (e : κ × α) : rows block (e :: entries) = block e.1 e.2 ++ rows block entries :=
  List.flatMap_cons ..

/-! #### Adding a key -/

variable {f : Option α → α}

theorem eq_or_mem_of_mem_upsert {e : κ × α} (h : e ∈ upsert order key f entries) :
    e.1 = key ∨ ∃ e' ∈ entries, e'.1 = e.1 := by
  induction entries with
  | nil =>
      rw [upsert, List.mem_singleton] at h
      exact Or.inl (congrArg Prod.fst h)
  | cons first entries ih =>
      rw [upsert] at h
      split at h
      · rcases List.mem_cons.1 h with rfl | h
        · exact Or.inl rfl
        · exact Or.inr ⟨e, h, rfl⟩
      · rcases List.mem_cons.1 h with rfl | h
        · exact Or.inr ⟨first, List.mem_cons_self, rfl⟩
        · exact Or.inr ⟨e, List.mem_cons_of_mem _ h, rfl⟩
      · rcases List.mem_cons.1 h with rfl | h
        · exact Or.inr ⟨first, List.mem_cons_self, rfl⟩
        · exact (ih h).imp_right fun ⟨e', he', heq⟩ => ⟨e', List.mem_cons_of_mem _ he', heq⟩

theorem Sorted.upsert [TransCmp order] (h : Sorted order P entries) (hnone : P (f none))
    (hsome : ∀ a, P a → P (f (some a))) : Sorted order P (upsert order key f entries) := by
  induction entries with
  | nil => exact sorted_cons_iff.2 ⟨List.forall_mem_nil _, hnone, sorted_nil⟩
  | cons first entries ih =>
      obtain ⟨hlt, hfirst, hentries⟩ := sorted_cons_iff.1 h
      rw [SortedMap.upsert]
      split
      · rename_i hkey
        refine sorted_cons_iff.2 ⟨fun e he => ?_, hnone, h⟩
        rcases List.mem_cons.1 he with rfl | he
        · exact hkey
        · exact TransCmp.lt_trans hkey (hlt e he)
      · exact sorted_cons_iff.2 ⟨hlt, hsome _ hfirst, hentries⟩
      · rename_i hkey
        refine sorted_cons_iff.2 ⟨fun e he => ?_, hfirst, ih hentries⟩
        rcases eq_or_mem_of_mem_upsert he with hek | ⟨e', he', hek⟩
        · rw [hek]
          exact OrientedCmp.lt_of_gt hkey
        · rw [← hek]
          exact hlt e' he'

/-- **To add a key is to add a row**, if keys and rows are in the same order and the value of the
key gets the row. -/
theorem rows_upsert [TransCmp order] [LawfulEqCmp order] (h : Sorted order P entries)
    (hlt : ∀ k a, order key k = .lt → ∀ row ∈ block k a, c.order row.1 = .lt)
    (hgt : ∀ k a, order key k = .gt → ∀ row ∈ block k a, c.order row.1 = .gt)
    (hnone : block key (f none) = [(c, false)])
    (hsome : ∀ a, P a → block key (f (some a)) = Coverage.insertRow c (block key a)) :
    rows block (upsert order key f entries) = Coverage.insertRow c (rows block entries) := by
  induction entries with
  | nil => rw [upsert, rows_cons, hnone]; rfl
  | cons first entries ih =>
      obtain ⟨hfirst, hvalue, hentries⟩ := sorted_cons_iff.1 h
      have hlater : order key first.1 = .lt ∨ key = first.1 →
          ∀ row ∈ rows block entries, c.order row.1 = .lt := by
        intro hkey row hrow
        obtain ⟨e, he, hrow⟩ := List.mem_flatMap.1 hrow
        refine hlt e.1 e.2 ?_ row hrow
        rcases hkey with hkey | rfl
        · exact TransCmp.lt_trans hkey (hfirst e he)
        · exact hfirst e he
      rw [upsert, rows_cons]
      split
      · rename_i hkey
        have hall : ∀ row ∈ block first.1 first.2 ++ rows block entries, c.order row.1 = .lt :=
          List.forall_mem_append.2 ⟨hlt first.1 first.2 hkey, hlater (Or.inl hkey)⟩
        rw [rows_cons, rows_cons, hnone, Coverage.insertRow_of_lt hall]
        rfl
      · rename_i hkey
        obtain rfl : key = first.1 := LawfulEqCmp.eq_of_compare hkey
        rw [rows_cons, hsome _ hvalue, Coverage.insertRow_append_of_lt (hlater (Or.inr rfl))]
      · rename_i hkey
        rw [rows_cons, ih hentries,
          Coverage.insertRow_append_of_gt (hgt first.1 first.2 hkey)]

/-! #### Changing a key -/

theorem Sorted.adjust [DecidableEq κ] {f : α → α} (h : Sorted order P entries)
    (hf : ∀ a, P a → P (f a)) : Sorted order P (adjust key f entries) := by
  have hfst : ∀ e : κ × α, (if e.1 = key then (e.1, f e.2) else e).1 = e.1 := by
    intro e
    split <;> rfl
  constructor
  · rw [SortedMap.adjust, List.pairwise_map]
    simpa only [hfst] using h.pairwise
  · intro e he
    obtain ⟨e', he', rfl⟩ := List.mem_map.1 he
    split
    · exact hf _ (h.values e' he')
    · exact h.values e' he'

/-- **To change a key is to check a row**, if this is what it does to the value of the key. -/
theorem rows_adjust [DecidableEq κ] {f : α → α}
    (hother : ∀ k a, k ≠ key → ∀ row ∈ block k a, row.1 ≠ c)
    (hkey : ∀ a, block key (f a) = (block key a).map (Coverage.markRow c)) :
    rows block (adjust key f entries) = (rows block entries).map (Coverage.markRow c) := by
  induction entries with
  | nil => rfl
  | cons first entries ih =>
      rw [adjust, List.map_cons, ← adjust, rows_cons, rows_cons, ih, List.map_append]
      by_cases hk : first.1 = key
      · rw [if_pos hk, hk, hkey]
      · have hrows : ∀ row ∈ block first.1 first.2, Coverage.markRow c row = row := by
          intro row hrow
          exact Coverage.markRow_of_ne (hother _ _ hk row hrow)
        rw [if_neg hk, List.map_congr_left hrows, List.map_id']

/-! #### Finding a key -/

/-- **To find a key is to find a row**: among the rows of its value, and nowhere else. -/
theorem lookup_rows [DecidableEq κ] [OrientedCmp order] (h : Sorted order P entries)
    (hother : ∀ k a, k ≠ key → (block k a).lookup c = none) :
    (rows block entries).lookup c = (entries.lookup key).bind fun a => (block key a).lookup c := by
  induction entries with
  | nil => rfl
  | cons first entries ih =>
      obtain ⟨hlt, -, hentries⟩ := sorted_cons_iff.1 h
      obtain ⟨k, a⟩ := first
      rw [rows_cons, List.lookup_append, List.lookup_cons]
      by_cases hk : key = k
      · subst hk
        -- no later key is the same
        have hnone : (rows block entries).lookup c = none := by
          rw [ih hentries, Option.bind_eq_none_iff]
          intro b hb
          obtain ⟨before, after, rfl, -⟩ := List.lookup_eq_some_iff.1 hb
          have hself := hlt (key, b) (List.mem_append_right _ List.mem_cons_self)
          rw [@Std.ReflCmp.compare_self _ order] at hself
          cases hself
        simp [hnone]
      · rw [hother k a (Ne.symm hk), Option.none_or, ih hentries, beq_eq_false_iff_ne.2 hk]

end

end SortedMap

/-! ### Three levels -/

namespace TrackedMethod

/-- The order of methods. -/
def order (a b : TrackedMethod) : Ordering := compare a.index b.index

instance : TransCmp order :=
  inferInstanceAs (TransCmp (compareOn fun m : TrackedMethod => m.index))

instance : LawfulEqCmp order where
  eq_of_compare h := index_inj (Std.LawfulEqOrd.eq_of_compare h)

end TrackedMethod

/-- A table of coverage: templates, methods and response keys with their flags. -/
abbrev NestedTable := SortedMap String (SortedMap TrackedMethod (SortedMap String Bool))

namespace NestedTable

open SortedMap (upsert adjust Sorted rows_upsert rows_adjust lookup_rows)

/-! #### Operations -/

/-- The flags under a method with an unchecked key, which stays as it is if it is there. -/
def insertKey (key : String) (keys : Option (SortedMap String Bool)) : SortedMap String Bool :=
  upsert compare key (fun flag => flag.getD false) (keys.getD [])

/-- The methods under a template with an unchecked coordinate. -/
def insertMethod (c : Coordinate)
    (methods : Option (SortedMap TrackedMethod (SortedMap String Bool))) :
    SortedMap TrackedMethod (SortedMap String Bool) :=
  upsert TrackedMethod.order c.method (insertKey c.key) (methods.getD [])

/-- Add an unchecked coordinate. -/
def insert (n : NestedTable) (c : Coordinate) : NestedTable :=
  upsert compare c.template (insertMethod c) n

/-- The table of a specification. -/
def load (s : Specification) (internalErrors : Bool) : NestedTable :=
  (s.coordinates internalErrors).foldl insert []

/-- Whether a coordinate is checked, if it is there. -/
def get? (n : NestedTable) (c : Coordinate) : Option Bool :=
  (n.lookup c.template).bind fun methods =>
    (methods.lookup c.method).bind fun keys => keys.lookup c.key

/-- Check a coordinate if it is there; the answer says whether it is. -/
def mark (n : NestedTable) (c : Coordinate) : Bool × NestedTable :=
  ((n.get? c).isSome, adjust c.template (adjust c.method (adjust c.key fun _ => true)) n)

/-- Whether a coordinate is there and checked. -/
def isChecked (n : NestedTable) (c : Coordinate) : Bool := (n.get? c).getD false

/-- The number of coordinates: the keys under all methods of all templates. -/
def size (n : NestedTable) : Nat :=
  (n.flatMap fun e => e.2).foldr (fun e total => e.2.length + total) 0

/-- The number of coordinates that are checked: the flags that are set. -/
def checkedCount (n : NestedTable) : Nat :=
  (((n.flatMap fun e => e.2).flatMap fun e => e.2.map Prod.snd).filter id).length

/-- The rows under a method. -/
def keyRows (template : String) (method : TrackedMethod) :
    SortedMap String Bool → List (Coordinate × Bool) :=
  SortedMap.rows fun key flag => [(⟨template, method, key⟩, flag)]

/-- The rows under a template. -/
def methodRows (template : String) :
    SortedMap TrackedMethod (SortedMap String Bool) → List (Coordinate × Bool) :=
  SortedMap.rows (keyRows template)

/-- All rows. -/
def rows : NestedTable → List (Coordinate × Bool) := SortedMap.rows methodRows

/-- The coordinates that are not checked, in order. -/
def unchecked (n : NestedTable) : List Coordinate :=
  (n.rows.filter fun row => !row.2).map Prod.fst

/-- The keys of every level stand in strict order. -/
def WellFormed : NestedTable → Prop :=
  Sorted compare (Sorted TrackedMethod.order (Sorted compare fun _ => True))

/-! #### The order of coordinates -/

section

variable {n : NestedTable} {c : Coordinate} {template : String} {method : TrackedMethod}
  {row : Coordinate × Bool}

theorem of_mem_keyRows {keys : SortedMap String Bool} (h : row ∈ keyRows template method keys) :
    ∃ key, row.1 = ⟨template, method, key⟩ := by
  obtain ⟨e, -, he⟩ := List.mem_flatMap.1 h
  rw [List.mem_singleton.1 he]
  exact ⟨e.1, rfl⟩

theorem of_mem_methodRows {methods : SortedMap TrackedMethod (SortedMap String Bool)}
    (h : row ∈ methodRows template methods) : row.1.template = template := by
  obtain ⟨e, -, he⟩ := List.mem_flatMap.1 h
  obtain ⟨key, hkey⟩ := of_mem_keyRows he
  rw [hkey]

theorem order_key (key key' : String) :
    Coordinate.order ⟨template, method, key⟩ ⟨template, method, key'⟩ = compare key key' := by
  simp [Coordinate.order, Std.ReflOrd.compare_self]

theorem order_method {method' : TrackedMethod} (key key' : String) :
    Coordinate.order ⟨template, method, key⟩ ⟨template, method', key'⟩ =
      (method.order method').then (compare key key') := by
  simp [Coordinate.order, TrackedMethod.order, Std.ReflOrd.compare_self]

/-! #### Adding a coordinate -/

theorem keyRows_insertKey {key : String} {keys : SortedMap String Bool}
    (h : Sorted compare (fun _ => True) keys) :
    keyRows template method (insertKey key (some keys)) =
      Coverage.insertRow ⟨template, method, key⟩ (keyRows template method keys) := by
  refine rows_upsert h (fun k a hk row hrow => ?_) (fun k a hk row hrow => ?_) rfl fun a _ => ?_
  · rw [List.mem_singleton.1 hrow, order_key, hk]
  · rw [List.mem_singleton.1 hrow, order_key, hk]
  · rw [Coverage.insertRow, order_key, Std.ReflOrd.compare_self]
    rfl

theorem methodRows_insertMethod {methods : SortedMap TrackedMethod (SortedMap String Bool)}
    (h : Sorted TrackedMethod.order (Sorted compare fun _ => True) methods) :
    methodRows c.template (insertMethod c (some methods)) =
      Coverage.insertRow c (methodRows c.template methods) := by
  refine rows_upsert h (fun k a hk row hrow => ?_) (fun k a hk row hrow => ?_) rfl fun a ha => ?_
  · obtain ⟨key, hkey⟩ := of_mem_keyRows hrow
    rw [hkey, order_method, hk]
    rfl
  · obtain ⟨key, hkey⟩ := of_mem_keyRows hrow
    rw [hkey, order_method, hk]
    rfl
  · exact keyRows_insertKey ha

/-- **To add a coordinate is to add its row.** -/
theorem rows_insert (h : n.WellFormed) (c : Coordinate) :
    (n.insert c).rows = Coverage.insertRow c n.rows := by
  refine rows_upsert h (fun k a hk row hrow => ?_) (fun k a hk row hrow => ?_) rfl fun a ha => ?_
  · rw [Coordinate.order, of_mem_methodRows hrow, hk]
    rfl
  · rw [Coordinate.order, of_mem_methodRows hrow, hk]
    rfl
  · exact methodRows_insertMethod ha

theorem WellFormed.insert (h : n.WellFormed) (c : Coordinate) : (n.insert c).WellFormed := by
  have hkeys : ∀ keys : Option (SortedMap String Bool),
      Sorted compare (fun _ => True) (keys.getD []) →
      Sorted compare (fun _ => True) (insertKey c.key keys) := by
    intro keys hkeys
    exact hkeys.upsert trivial fun _ _ => trivial
  have hmethods : ∀ methods : Option (SortedMap TrackedMethod (SortedMap String Bool)),
      Sorted TrackedMethod.order (Sorted compare fun _ => True) (methods.getD []) →
      Sorted TrackedMethod.order (Sorted compare fun _ => True) (insertMethod c methods) := by
    intro methods hmethods
    exact hmethods.upsert (hkeys none SortedMap.sorted_nil) fun keys => hkeys (some keys)
  exact Sorted.upsert h (hmethods none SortedMap.sorted_nil) fun methods => hmethods (some methods)

/-- The maps of a specification have the rows of its table. -/
theorem load_spec (s : Specification) (internalErrors : Bool) :
    (load s internalErrors).WellFormed ∧
      (load s internalErrors).rows = (Coverage.load s internalErrors).rows := by
  have h : ∀ cs : List Coordinate, ∀ n : NestedTable, ∀ t : Coverage, n.WellFormed →
      n.rows = t.rows → (cs.foldl insert n).WellFormed ∧
        (cs.foldl insert n).rows = (cs.foldl Coverage.insert t).rows := by
    intro cs
    induction cs with
    | nil => exact fun n t hn hrows => ⟨hn, hrows⟩
    | cons c cs ih =>
        intro n t hn hrows
        refine ih _ _ (hn.insert c) ?_
        rw [rows_insert hn, hrows]
        rfl
  exact h _ [] .empty SortedMap.sorted_nil rfl

/-! #### Checking a coordinate -/

/-- **To check a coordinate is to check its row.** -/
theorem rows_mark (n : NestedTable) (c : Coordinate) :
    (n.mark c).2.rows = n.rows.map (Coverage.markRow c) := by
  refine rows_adjust (fun template methods ht row hrow heq => ht ?_) fun methods => ?_
  · rw [← of_mem_methodRows hrow, heq]
  refine rows_adjust (fun method keys hm row hrow heq => hm ?_) fun keys => ?_
  · obtain ⟨key, hkey⟩ := of_mem_keyRows hrow
    rw [← heq, hkey]
  refine rows_adjust (fun key flag hk row hrow heq => hk ?_) fun flag => ?_
  · rw [← heq, List.mem_singleton.1 hrow]
  · exact congrArg (fun row => [row]) (if_pos rfl).symm

theorem WellFormed.mark (h : n.WellFormed) (c : Coordinate) : (n.mark c).2.WellFormed :=
  Sorted.adjust h fun _ hmethods => hmethods.adjust fun _ hkeys => hkeys.adjust fun _ _ => trivial

/-! #### Answers -/

theorem lookup_eq_none {rows : List (Coordinate × Bool)} (h : ∀ row ∈ rows, row.1 ≠ c) :
    rows.lookup c = none := by
  rw [List.lookup_eq_none_iff]
  intro row hrow
  exact bne_iff_ne.2 (h row hrow).symm

/-- A value that is found is one of the values. -/
theorem of_lookup {κ α : Type} [DecidableEq κ] {order : κ → κ → Ordering} {P : α → Prop}
    {entries : SortedMap κ α} {key : κ} {a : α} (h : Sorted order P entries)
    (ha : entries.lookup key = some a) : P a := by
  obtain ⟨before, after, rfl, -⟩ := List.lookup_eq_some_iff.1 ha
  exact h.values (key, a) (List.mem_append_right _ List.mem_cons_self)

/-- **To find a coordinate is to find its row.** -/
theorem get?_eq (h : n.WellFormed) (c : Coordinate) : n.get? c = n.rows.lookup c := by
  have hrows : n.rows.lookup c =
      (n.lookup c.template).bind fun methods => (methodRows c.template methods).lookup c := by
    refine lookup_rows h fun template methods ht => lookup_eq_none fun row hrow heq => ht ?_
    rw [← of_mem_methodRows hrow, heq]
  rw [get?, hrows]
  refine Option.bind_congr fun methods hmethods => ?_
  have hsorted := of_lookup h hmethods
  have hmethodRows : (methodRows c.template methods).lookup c =
      (methods.lookup c.method).bind fun keys => (keyRows c.template c.method keys).lookup c := by
    refine lookup_rows hsorted fun method keys hm => lookup_eq_none fun row hrow heq => hm ?_
    obtain ⟨key, hkey⟩ := of_mem_keyRows hrow
    rw [← heq, hkey]
  rw [hmethodRows]
  refine Option.bind_congr fun keys hkeys => ?_
  have hkeyRows : (keyRows c.template c.method keys).lookup c =
      (keys.lookup c.key).bind fun flag => [(c, flag)].lookup c := by
    refine lookup_rows (of_lookup hsorted hkeys) fun key flag hk => lookup_eq_none ?_
    intro row hrow heq
    rw [List.mem_singleton.1 hrow] at heq
    exact hk (congrArg Coordinate.key heq)
  rw [hkeyRows]
  simp

/-- The flags of the rows, level by level. -/
theorem map_snd_rows (n : NestedTable) :
    n.rows.map Prod.snd = (n.flatMap fun e => e.2).flatMap fun e => e.2.map Prod.snd := by
  simp only [rows, SortedMap.rows, methodRows, keyRows, List.map_flatMap, List.flatMap_assoc]
  simp [List.map_eq_flatMap]

theorem size_eq (n : NestedTable) : n.size = n.rows.length := by
  rw [← List.length_map Prod.snd, map_snd_rows, size]
  induction n.flatMap fun e => e.2 with
  | nil => rfl
  | cons e entries ih =>
      rw [List.foldr_cons, ih, List.flatMap_cons, List.length_append, List.length_map]

theorem checkedCount_eq (n : NestedTable) : n.checkedCount = (n.rows.filter Prod.snd).length := by
  rw [checkedCount, ← map_snd_rows, List.filter_map, List.length_map]
  rfl

/-- The maps give the answers of a table. -/
structure Shows (n : NestedTable) (t : Coverage) : Prop where
  size_eq : n.size = t.size
  checkedCount_eq : n.checkedCount = t.checkedCount
  unchecked_eq : n.unchecked = t.unchecked
  isChecked_eq : ∀ k, n.isChecked k = t.isChecked k

/-- Maps with the rows of a table give its answers. -/
theorem WellFormed.shows (h : n.WellFormed) {t : Coverage} (hrows : n.rows = t.rows) :
    n.Shows t := by
  refine ⟨?_, ?_, ?_, fun k => ?_⟩
  · rw [size_eq, hrows, Coverage.size]
  · rw [checkedCount_eq, hrows, Coverage.checkedCount]
  · rw [unchecked, hrows, Coverage.unchecked]
  · rw [isChecked, get?_eq h, hrows, Coverage.isChecked, Coverage.get?]

end

end NestedTable

/-! ### Every run -/

variable [Libraries]

namespace Contract

/-- The maps after one call. -/
def mapsStep (c : Contract) (n : NestedTable) : Call → NestedTable
  | .record x =>
    match (c.outcome ⟨n.rows⟩ x).coordinate? with
    | some k => (n.mark k).2
    | none => n
  | .reset => .load c.specification c.policy.internalErrors

/-- The maps after some calls. -/
def mapsAfter (c : Contract) (calls : List Call) : NestedTable :=
  calls.foldl c.mapsStep (.load c.specification c.policy.internalErrors)

variable {c : Contract} {n : NestedTable} {s : Session}

/-- What one call preserves. -/
theorem mapsStep_spec (hn : n.WellFormed) (hrows : n.rows = s.coverage.rows) (call : Call) :
    (c.mapsStep n call).WellFormed ∧
      (c.mapsStep n call).rows = (c.step s call).coverage.rows := by
  cases call with
  | record x =>
      have hout : c.outcome ⟨n.rows⟩ x = c.outcome s.coverage x := by rw [hrows]
      rw [mapsStep, step, coverage_record, hout]
      cases (c.outcome s.coverage x).coordinate? with
      | none => exact ⟨hn, hrows⟩
      | some k =>
          refine ⟨hn.mark k, ?_⟩
          rw [NestedTable.rows_mark, hrows]
          rfl
  | reset => exact NestedTable.load_spec _ _

/-- **The maps have the rows of the table in every run.** -/
theorem rows_mapsAfter (c : Contract) (calls : List Call) :
    (c.mapsAfter calls).WellFormed ∧
      (c.mapsAfter calls).rows = (c.run c.start calls).coverage.rows := by
  have h : ∀ n : NestedTable, ∀ s : Session, n.WellFormed → n.rows = s.coverage.rows →
      (calls.foldl c.mapsStep n).WellFormed ∧
        (calls.foldl c.mapsStep n).rows = (c.run s calls).coverage.rows := by
    induction calls with
    | nil => exact fun n s hn hrows => ⟨hn, hrows⟩
    | cons call calls ih =>
        intro n s hn hrows
        obtain ⟨hn', hrows'⟩ := mapsStep_spec hn hrows call
        exact ih _ _ hn' hrows'
  obtain ⟨hn, hrows⟩ := NestedTable.load_spec c.specification c.policy.internalErrors
  exact h _ c.start hn hrows

/-- **The maps give the answers of the table in every run.** -/
theorem shows_mapsAfter (c : Contract) (calls : List Call) :
    (c.mapsAfter calls).Shows (c.run c.start calls).coverage := by
  obtain ⟨hn, hrows⟩ := rows_mapsAfter c calls
  exact hn.shows hrows

end Contract

end ApiContract
