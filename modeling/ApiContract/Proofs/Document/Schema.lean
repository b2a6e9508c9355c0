/-
**Schemas are read back as they were written.**

Values in schemas are written as trees of their own; the members of objects are read in the order of
their names, in which they stood.  A schema is written field by field, and the schemas inside it are
less deep trees, so that the depth of the whole tree is enough to read it.

Two things cannot be written: a bound that is an infinity or not-a-number, which has no form but
null, and the constant null, which reads as no constant.

Main definitions:

* `Json.Canonical` — values whose members are in order, and whose numbers are finite;
* `Schema.bounds` — the numeric bounds of a schema;
* `Schema.Keeps` — nothing of a schema itself is lost when it is written.

Main results:

* `Json.readTree?_toTree` — values are read back;
* `Schema.ofTree?_toTree` — **schemas are read back**.
-/

import ApiContract.Document.Component
import ApiContract.Document.Reader
import ApiContract.Proofs.Document.Record

set_option relaxedAutoImplicit false
set_option autoImplicit false

namespace ApiContract

/-! ### Values -/

namespace Json

/-- A value in its only form: numbers are finite, and the members of objects are in the order of
their names, each name once. -/
inductive Canonical : Json → Prop where
  | null : Canonical .null
  | bool (b : Bool) : Canonical (.bool b)
  | int (n : Int) : Canonical (.number (.int n))
  | float {x : Float} (h : x.isFinite = true) : Canonical (.number (.float x))
  | string (s : String) : Canonical (.string s)
  | array {items : List Json} (h : ∀ v ∈ items, Canonical v) : Canonical (.array items)
  | object {members : List (String × Json)} (hnames : (memberNames members).Pairwise (· < ·))
      (h : ∀ m ∈ members, Canonical m.2) : Canonical (.object members)

/-- A member whose name comes after all others goes to the end. -/
theorem insertMember_of_lt {ms : List (String × Json)} {name : String}
    (h : ∀ k ∈ memberNames ms, k < name) (value : Json) :
    insertMember ms name value = ms ++ [(name, value)] := by
  induction ms with
  | nil => rfl
  | cons m ms ih =>
      obtain ⟨k, v⟩ := m
      rw [memberNames, List.map_cons, List.forall_mem_cons] at h
      have hne : k ≠ name := fun heq => String.lt_irrefl name (heq ▸ h.1)
      rw [insertMember, if_neg hne, if_neg (String.lt_asymm h.1), ih h.2, List.cons_append]

theorem readItems?_itemTrees {items : List Json}
    (h : ∀ v ∈ items, readTree? some Atom.text? v.toTree = some v) :
    readItems? some Atom.text? (itemTrees items) = some items := by
  induction items with
  | nil => rfl
  | cons v items ih =>
      rw [List.forall_mem_cons] at h
      rw [itemTrees, readItems?, h.1, ih h.2]

/-- The members of an object are read in the order in which they stand. -/
theorem readEntries?_memberTrees {found rest : List (String × Json)}
    (hnames : (memberNames (found ++ rest)).Pairwise (· < ·))
    (h : ∀ m ∈ rest, readTree? some Atom.text? m.2.toTree = some m.2) :
    readEntries? some Atom.text? found (memberTrees rest) = some (found ++ rest) := by
  induction rest generalizing found with
  | nil => rw [List.append_nil]; rfl
  | cons m rest ih =>
      obtain ⟨name, v⟩ := m
      rw [List.forall_mem_cons] at h
      have hlast : ∀ k ∈ memberNames found, k < name := by
        intro k hk
        rw [memberNames, List.map_append, List.pairwise_append] at hnames
        exact hnames.2.2 k hk name List.mem_cons_self
      have hassoc : found ++ (name, v) :: rest = found ++ [(name, v)] ++ rest := by simp
      rw [hassoc] at hnames ⊢
      rw [← ih hnames h.2]
      simp [memberTrees, readEntries?, Atom.text?, h.1, insertMember_of_lt hlast]

/-- Values are read back as they were written. -/
theorem readTree?_toTree {v : Json} (h : v.Canonical) :
    readTree? some Atom.text? v.toTree = some v := by
  induction h with
  | null | bool | int | string => rfl
  | float h => simp [toTree, readTree?, ofAtom, h]
  | array _ ih =>
      rw [toTree, readTree?, readItems?_itemTrees ih]
      rfl
  | @object members hnames _ ih =>
      have hfound : (memberNames ([] ++ members)).Pairwise (· < ·) := hnames
      rw [toTree, readTree?, readEntries?_memberTrees hfound ih]
      rfl

theorem toTree_ne_null {v : Json} (h : v ≠ .null) : v.toTree ≠ .leaf .null := by
  cases v with
  | null => exact absurd rfl h
  | bool | number | string => simp [toTree]
  | array | object => simp [toTree]

end Json

/-! ### Trees over atoms -/

namespace Tree

variable {α : Type}

mutual

/-- A tree whose leaves are kept is kept. -/
theorem mapLeaves?_some : (t : Tree α) → t.mapLeaves? some = some t
  | .leaf _ => rfl
  | .list items => by rw [mapLeaves?, mapItems?_some items]; rfl
  | .map entries => by rw [mapLeaves?, mapEntries?_some entries]; rfl

theorem mapItems?_some : (items : List (Tree α)) → mapItems? some items = some items
  | [] => rfl
  | t :: ts => by rw [mapItems?, mapLeaves?_some t, mapItems?_some ts]

theorem mapEntries?_some :
    (entries : List (Option α × Tree α)) → mapEntries? some entries = some entries
  | [] => rfl
  | (none, t) :: es => by rw [mapEntries?, mapKey?, mapLeaves?_some t, mapEntries?_some es]
  | (some _, t) :: es => by
      rw [mapEntries?, mapKey?, mapLeaves?_some t, mapEntries?_some es]
      rfl

end

/-- The leaves of a written tree are atoms already. -/
@[simp] theorem atoms?_eq (t : Tree Atom) : t.atoms? = some t := mapLeaves?_some t

end Tree

/-! ### Parts of schemas -/

theorem ValueType.ofTree?_toTree (t : ValueType) : ValueType.ofTree? t.toTree = some t := by
  cases t <;> rfl

theorem TypeRule.ofTree?_toTree (r : TypeRule) : TypeRule.ofTree? r.toTree = some r := by
  cases r with
  | one t => rw [TypeRule.ofTree?, TypeRule.toTree, ValueType.ofTree?_toTree]
  | several ts =>
      have hlist : ValueType.ofTree? (.list (ts.map ValueType.toTree)) = none := rfl
      rw [TypeRule.ofTree?, TypeRule.toTree, hlist,
        Tree.list?_map fun t _ => ValueType.ofTree?_toTree t]
      rfl

theorem TypeRule.toTree_ne_null (r : TypeRule) : r.toTree ≠ .leaf .null := by
  cases r <;> nofun

/-- The bound of its own that an exclusive bound is. -/
def ExclusiveBound.bound? : ExclusiveBound → Option Float
  | .flag _ => none
  | .bound x => some x

/-- A number is no flag, and is finite where it is written as one. -/
theorem ExclusiveBound.toTree_eq {b : ExclusiveBound} (h : ∀ x ∈ b.bound?, x.isFinite = true) :
    b.toTree ≠ .leaf .null ∧ ExclusiveBound.ofTree? b.toTree = some b := by
  cases b with
  | flag on => exact ⟨by simp [toTree, Tree.bool], rfl⟩
  | bound x =>
      rw [toTree, Tree.float, if_pos (h x rfl)]
      exact ⟨by simp, rfl⟩

namespace Extra

variable {σ : Type} {read : Tree Atom → Option σ} {write : σ → Tree Atom}

theorem toTree_ne_null (e : Extra σ) (h : ∀ s, write s ≠ .leaf .null) :
    e.toTree write ≠ .leaf .null := by
  cases e with
  | allowed yes => nofun
  | matching s => exact h s

/-- What is no flag is not taken for one. -/
theorem ofTree?_toTree {e : Extra σ} (hbool : ∀ s, (write s).bool? = none)
    (hread : ∀ s, e = .matching s → read (write s) = some s) :
    Extra.ofTree? read (e.toTree write) = some e := by
  cases e with
  | allowed yes => rfl
  | matching s =>
      rw [toTree, ofTree?, hbool, hread s rfl]
      rfl

end Extra

/-! ### Fields of schemas -/

namespace Dict

variable {f : Dict (Tree Atom)} {name : String}

theorem optional?_typeRule {rule : Option TypeRule}
    (hget : f.get? name = rule.map TypeRule.toTree) :
    f.optional? name (fun t => t.atoms?.bind TypeRule.ofTree?) = some rule := by
  refine optional?_eq hget (fun r _ => r.toTree_ne_null) fun r _ => ?_
  rw [Tree.atoms?_eq, Option.bind_some, TypeRule.ofTree?_toTree]

theorem optional?_values {values : Option (List Json)}
    (hget : f.get? name = values.map fun vs => .list (vs.map Json.toTree))
    (h : ∀ vs ∈ values, ∀ v ∈ vs, v.Canonical) :
    f.optional? name (Tree.list? Tree.json?) = some values :=
  optional?_eq hget (fun _ _ => nofun) fun vs hvs =>
    Tree.list?_map fun v hv => Json.readTree?_toTree (h vs hvs v hv)

theorem optional?_value {value : Option Json} (hget : f.get? name = value.map Json.toTree)
    (h : ∀ v ∈ value, v.Canonical) (hne : value ≠ some .null) :
    f.optional? name Tree.json? = some value := by
  refine optional?_eq hget (fun v hv => Json.toTree_ne_null ?_) fun v hv =>
    Json.readTree?_toTree (h v hv)
  rintro rfl
  exact hne hv

theorem optional?_exclusiveBound {bound : Option ExclusiveBound}
    (hget : f.get? name = bound.map ExclusiveBound.toTree)
    (h : ∀ x ∈ bound.bind ExclusiveBound.bound?, x.isFinite = true) :
    f.optional? name (fun t => t.atoms?.bind ExclusiveBound.ofTree?) = some bound := by
  have hwrite : ∀ b ∈ bound, b.toTree ≠ .leaf .null ∧ ExclusiveBound.ofTree? b.toTree = some b := by
    rintro b rfl
    exact ExclusiveBound.toTree_eq h
  refine optional?_eq hget (fun b hb => (hwrite b hb).1) fun b hb => ?_
  rw [Tree.atoms?_eq, Option.bind_some, (hwrite b hb).2]

end Dict

/-! ### Schemas -/

namespace Schema

/-- The numeric bounds of a schema. -/
def bounds (s : Schema) : List Float :=
  s.minimum.toList ++ s.maximum.toList ++ (s.exclusiveMinimum.bind ExclusiveBound.bound?).toList ++
    (s.exclusiveMaximum.bind ExclusiveBound.bound?).toList ++ s.multipleOf.toList

/-- Nothing of a schema itself is lost when it is written. -/
structure Keeps (s : Schema) : Prop where
  /-- No property is listed twice. -/
  properties : (Dict.keys s.properties).Nodup
  /-- The allowed values are in their only form. -/
  enumValues : ∀ vs ∈ s.enumValues, ∀ v ∈ vs, v.Canonical
  /-- So is the only allowed value. -/
  constValue : ∀ v ∈ s.constValue, v.Canonical
  /-- The only allowed value is not null. -/
  constValue_ne : s.constValue ≠ some .null
  /-- Bounds have a written form. -/
  bounds : ∀ x ∈ s.bounds, x.isFinite = true

variable {m n : Nat} {s c : Schema}

theorem size_lt_of_mem_children (h : c ∈ s.children) : c.size < s.size := by
  obtain ⟨before, after, hsplit⟩ := List.append_of_mem h
  rw [size, size, walk_eq s, hsplit]
  simp
  omega

theorem toTreeWithin_ne_null : toTreeWithin m s ≠ .leaf .null := by
  cases m <;> nofun

theorem bool?_toTreeWithin : (toTreeWithin m s).bool? = none := by
  cases m <;> rfl

theorem mem_extraSchemas_iff {extra : Option (Extra Schema)} :
    c ∈ extraSchemas extra ↔ extra = some (.matching c) := by
  rcases extra with _ | _ | t <;> simp [extraSchemas, eq_comm]

/-- Schemas inside a schema are less deep trees. -/
theorem depth_lt_of_mem_children (h : c ∈ s.children) :
    (toTreeWithin m c).depth < (toTreeWithin (m + 1) s).depth := by
  simp only [children, List.mem_append, mem_extraSchemas_iff, Option.mem_toList] at h
  rw [toTreeWithin]
  rcases h with (((((h | h) | h) | h) | h) | h) | h
  · exact Nat.lt_trans (Tree.depth_lt_ofDict h)
      (Tree.depth_lt_ofFields 6 (congrArg some (Tree.dictField_of_mem h)))
  · exact Tree.depth_lt_ofFields 8 (congrArg some (Tree.fieldOf_of_mem h))
  · exact Tree.depth_lt_ofFields 11 (congrArg some (Tree.fieldOf_of_mem h))
  · exact Nat.lt_trans (Tree.depth_lt_list h)
      (Tree.depth_lt_ofFields 15 (congrArg some (Tree.listField_of_mem h)))
  · exact Nat.lt_trans (Tree.depth_lt_list h)
      (Tree.depth_lt_ofFields 16 (congrArg some (Tree.listField_of_mem h)))
  · exact Nat.lt_trans (Tree.depth_lt_list h)
      (Tree.depth_lt_ofFields 17 (congrArg some (Tree.listField_of_mem h)))
  · exact Tree.depth_lt_ofFields 18 (congrArg some (Tree.fieldOf_of_mem h))

/-- A schema is read back if the schemas directly inside it are. -/
theorem ofTreeWithin?_succ (hs : s.Keeps)
    (hchild : ∀ c ∈ s.children, ofTreeWithin? n (toTreeWithin m c) = some c) :
    ofTreeWithin? (n + 1) (toTreeWithin (m + 1) s) = some s := by
  simp only [children, List.mem_append, mem_extraSchemas_iff, Option.mem_toList, or_imp,
    forall_and] at hchild
  obtain ⟨⟨⟨⟨⟨⟨hproperties, hextra⟩, hitems⟩, honeOf⟩, hanyOf⟩, hallOf⟩, hnot⟩ := hchild
  have hbounds := hs.bounds
  simp only [bounds, List.mem_append, Option.mem_toList, or_imp, forall_and] at hbounds
  obtain ⟨⟨⟨⟨hminimum, hmaximum⟩, hlower⟩, hupper⟩, hmultipleOf⟩ := hbounds
  refine Tree.bind_record?_ofFields rfl (by decide) fun f hget => ?_
  have hadditional : f.optional? "additionalProperties"
      (fun t => t.atoms?.bind (Extra.ofTree? (ofTreeWithin? n))) = some s.additionalProperties := by
    refine Dict.optional?_eq (hget 8 rfl) (fun e _ => ?_) fun e he => ?_
    · exact e.toTree_ne_null fun _ => toTreeWithin_ne_null
    · rw [Tree.atoms?_eq, Option.bind_some]
      refine Extra.ofTree?_toTree (fun _ => bool?_toTreeWithin) fun t ht => ?_
      exact hextra t (ht ▸ he)
  rw [Dict.optional?_text (hget 0 rfl), Dict.optional?_typeRule (hget 1 rfl),
    Dict.optional?_text (hget 2 rfl), Dict.orElse?_flag (hget 3 rfl),
    Dict.optional?_values (hget 4 rfl) hs.enumValues,
    Dict.optional?_value (hget 5 rfl) hs.constValue hs.constValue_ne,
    Dict.orElse?_dict (hget 6 rfl) hs.properties hproperties,
    Dict.orElse?_list (hget 7 rfl) fun _ _ => rfl, hadditional, Dict.optional?_nat (hget 9 rfl),
    Dict.optional?_nat (hget 10 rfl),
    Dict.optional?_eq (hget 11 rfl) (fun _ _ => toTreeWithin_ne_null) hitems,
    Dict.optional?_nat (hget 12 rfl), Dict.optional?_nat (hget 13 rfl),
    Dict.orElse?_flag (hget 14 rfl), Dict.orElse?_list (hget 15 rfl) honeOf,
    Dict.orElse?_list (hget 16 rfl) hanyOf, Dict.orElse?_list (hget 17 rfl) hallOf,
    Dict.optional?_eq (hget 18 rfl) (fun _ _ => toTreeWithin_ne_null) hnot,
    Dict.optional?_float (hget 19 rfl) hminimum, Dict.optional?_float (hget 20 rfl) hmaximum,
    Dict.optional?_exclusiveBound (hget 21 rfl) hlower,
    Dict.optional?_exclusiveBound (hget 22 rfl) hupper,
    Dict.optional?_float (hget 23 rfl) hmultipleOf, Dict.optional?_nat (hget 24 rfl),
    Dict.optional?_nat (hget 25 rfl), Dict.optional?_text (hget 26 rfl)]
  cases s
  rfl

theorem ofTreeWithin?_toTreeWithin (hs : ∀ t ∈ s.walk, t.Keeps) (hm : s.size ≤ m)
    (hn : (toTreeWithin m s).depth < n) : ofTreeWithin? n (toTreeWithin m s) = some s := by
  -- on the depth that may be read; the number of schemas that may be written goes down with it
  induction n generalizing m s with
  | zero => omega
  | succ n ih =>
      have hself : s ∈ s.walk := by rw [walk_eq]; exact List.mem_cons_self
      cases m with
      | zero => exact absurd (List.length_pos_of_mem hself) (by rw [size] at hm; omega)
      | succ m =>
          refine ofTreeWithin?_succ (hs s hself) fun c hc => ih (fun t ht => hs t ?_) ?_ ?_
          · rw [walk_eq]
            exact List.mem_cons_of_mem s (List.mem_flatMap.2 ⟨c, hc, ht⟩)
          · have := size_lt_of_mem_children hc
            omega
          · have := depth_lt_of_mem_children (m := m) hc
            omega

/-- **Schemas are read back.** -/
theorem ofTree?_toTree (hs : ∀ t ∈ s.walk, t.Keeps) : ofTree? s.toTree = some s :=
  ofTreeWithin?_toTreeWithin hs (Nat.le_refl _) (Nat.lt_succ_self _)

end Schema

end ApiContract
