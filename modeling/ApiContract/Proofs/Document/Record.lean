/-
**Records are read back as they were written.**

A record is written with the fields that have a value, in order.  Its fields have names of their
own, so that a reader that knows the names finds the value of each field, and finds nothing where a
field was left out.  A field that was left out had its default, and that is what the reader puts in.

Main results:

* `Tree.bind_record?_ofFields` — a reader of a record finds every field as it was written;
* `Dict.orElse?_flag`, `Dict.orElse?_list`, `Dict.orElse?_dict`, `Dict.optional?_eq` — **skip rules
  agree with defaults**, for each form of a field;
* `Tree.depth_lt_ofFields` — the value of a field is less deep than its record.
-/

import ApiContract.Document.Readable
import ApiContract.Document.Writer
import ApiContract.Proofs.Specification.Loading

set_option relaxedAutoImplicit false
set_option autoImplicit false

namespace ApiContract

/-! ### Dictionaries -/

namespace Dict

variable {α : Type} {d : Dict α} {key : String}

/-- A key that is not there goes to the end. -/
theorem insert_of_not_mem (h : key ∉ d.keys) (value : α) :
    d.insert key value = d ++ [(key, value)] := by
  induction d with
  | nil => rfl
  | cons p d ih =>
      obtain ⟨k, v⟩ := p
      simp only [keys, List.map_cons, List.mem_cons, not_or] at h
      rw [insert, if_neg (Ne.symm h.1), ih h.2, List.cons_append]

/-- Pairs with distinct keys are a dictionary as they stand. -/
theorem ofList_of_nodup {pairs : List (String × α)} (h : (pairs.map Prod.fst).Nodup) :
    ofList pairs = pairs := by
  have hfold : ∀ found : Dict α, (keys (found ++ pairs)).Nodup →
      pairs.foldl (fun d p => insert d p.1 p.2) found = found ++ pairs := by
    induction pairs with
    | nil => simp
    | cons p pairs ih =>
        intro found hfound
        have hnew : p.1 ∉ keys found := by
          intro hmem
          rw [keys, List.map_append] at hfound
          exact (List.nodup_append.1 hfound).2.2 _ hmem _ List.mem_cons_self rfl
        have hassoc : found ++ p :: pairs = found ++ [p] ++ pairs := by simp
        rw [List.foldl_cons, insert_of_not_mem hnew, hassoc]
        exact ih (List.nodup_cons.1 h).2 _ (hassoc ▸ hfound)
  exact hfold [] h

end Dict

namespace Tree

variable {β : Type} {fields : List Field} {names : List String} {name : String}

/-! ### The fields of a record -/

theorem written_cons (f : Field) (fields : List Field) :
    written (f :: fields) = (f.2.map fun t => (f.1, t)).toList ++ written fields := by
  obtain ⟨name, _ | t⟩ := f <;> rfl

theorem keys_written_sublist (fields : List Field) :
    (Dict.keys (written fields)).Sublist (fields.map Prod.fst) :=
  sublist_filledSlots fields

/-- Every field is found with its value, or it is not found because it has none. -/
theorem get?_written (h : (fields.map Prod.fst).Nodup) (i : Nat) {value : Option (Tree Atom)}
    (hi : fields[i]? = some (name, value)) : Dict.get? (written fields) name = value := by
  induction fields generalizing i with
  | nil => cases hi
  | cons f fields ih =>
      rw [List.map_cons, List.nodup_cons] at h
      cases i with
      | zero =>
          obtain rfl : f = (name, value) := Option.some.inj hi
          cases value with
          | some t => simp [written_cons, Dict.get?_cons]
          | none => exact Dict.get?_eq_none_iff.2 fun hm => h.1 ((keys_written_sublist _).subset hm)
      | succ i =>
          -- the names differ, since those of the record are distinct
          have hmem : name ∈ fields.map Prod.fst :=
            List.mem_map.2 ⟨(name, value), List.mem_of_getElem? hi, rfl⟩
          have hne : f.1 ≠ name := fun heq => h.1 (heq ▸ hmem)
          rw [written_cons, ← ih h.2 i hi]
          cases f.2 with
          | none => rfl
          | some t => simp [Dict.get?_cons, hne]

/-- The fields of a written record are taken up one by one. -/
theorem fields?_record {found rest : List (String × Tree Atom)}
    (h : (Dict.keys (found ++ rest)).Nodup) (hnames : ∀ f ∈ rest, f.1 ∈ names) :
    fields? names found (rest.map fun f => (some (.text f.1), f.2)) = some (found ++ rest) := by
  induction rest generalizing found with
  | nil => rw [List.append_nil]; rfl
  | cons f rest ih =>
      obtain ⟨name, t⟩ := f
      rw [List.forall_mem_cons] at hnames
      have hnew : Dict.contains found name = false := by
        rw [Dict.contains, Option.isSome_eq_false_iff, Option.isNone_iff_eq_none,
          Dict.get?_eq_none_iff]
        intro hmem
        rw [Dict.keys, List.map_append] at h
        exact (List.nodup_append.1 h).2.2 _ hmem _ List.mem_cons_self rfl
      have hassoc : found ++ (name, t) :: rest = found ++ [(name, t)] ++ rest := by simp
      rw [hassoc] at h ⊢
      rw [← ih h hnames.2]
      simp [fields?, Readable.label?, named?, hnames.1, hnew]

/-- **A reader of a record finds every field as it was written.** -/
theorem bind_record?_ofFields {read : Dict (Tree Atom) → Option β} {v : β}
    (hnames : fields.map Prod.fst = names) (hnodup : names.Nodup)
    (h : ∀ f : Dict (Tree Atom), (∀ (i : Nat) {name : String} {value : Option (Tree Atom)},
      fields[i]? = some (name, value) → f.get? name = value) → read f = some v) :
    ((ofFields fields).record? names).bind read = some v := by
  subst hnames
  have hrecord : (ofFields fields).record? (fields.map Prod.fst) = some (written fields) := by
    have hsub := keys_written_sublist fields
    have hkeys : (Dict.keys ([] ++ written fields)).Nodup := hsub.nodup hnodup
    exact fields?_record hkeys fun f hf => hsub.subset (List.mem_map_of_mem hf)
  rw [hrecord, Option.bind_some]
  exact h _ fun i => get?_written hnodup i

/-! ### Values of fields -/

variable {read : Tree Atom → Option β} {write : β → Tree Atom}

/-- Every tree but null is the value of something. -/
theorem optional?_of_ne_null {t : Tree Atom} (h : t ≠ .leaf .null) :
    optional? read t = (read t).map some := by
  unfold optional?
  split
  · rename_i a
    cases a with
    | null => exact absurd rfl h
    | bool | number | text => rfl
  · rfl

theorem each?_map {items : List β} (h : ∀ v ∈ items, read (write v) = some v) :
    each? read (items.map write) = some items := by
  induction items with
  | nil => rfl
  | cons v items ih =>
      rw [List.forall_mem_cons] at h
      rw [List.map_cons, each?, h.1, ih h.2]

/-- The items of a list are read one by one. -/
theorem list?_map {items : List β} (h : ∀ v ∈ items, read (write v) = some v) :
    list? read (.list (items.map write)) = some items :=
  each?_map h

theorem entries?_record {found d : Dict β} (hnodup : (Dict.keys (found ++ d)).Nodup)
    (h : ∀ v ∈ Dict.values d, read (write v) = some v) :
    entries? read found (d.map fun p => (some (.text p.1), write p.2)) = some (found ++ d) := by
  induction d generalizing found with
  | nil => rw [List.append_nil]; rfl
  | cons p d ih =>
      obtain ⟨key, v⟩ := p
      rw [Dict.values, List.map_cons, List.forall_mem_cons] at h
      have hnew : key ∉ Dict.keys found := by
        intro hmem
        rw [Dict.keys, List.map_append] at hnodup
        exact (List.nodup_append.1 hnodup).2.2 _ hmem _ List.mem_cons_self rfl
      have hassoc : found ++ (key, v) :: d = found ++ [(key, v)] ++ d := by simp
      rw [hassoc] at hnodup ⊢
      rw [← ih hnodup h.2]
      simp [entries?, Readable.text?, Atom.text?, h.1, Dict.insert_of_not_mem hnew]

/-- The entries of a dictionary are read one by one, and stay in order. -/
theorem dict?_ofDict {d : Dict β} (hnodup : d.keys.Nodup)
    (h : ∀ v ∈ d.values, read (write v) = some v) :
    dict? read (ofDict write d) = some d := by
  have hkeys : (Dict.keys ([] ++ d)).Nodup := hnodup
  have hentries := entries?_record hkeys h
  simpa [dict?, ofDict, record, Function.comp_def] using hentries

end Tree

/-! ### Skip rules and defaults -/

namespace Dict

variable {β : Type} {f : Dict (Tree Atom)} {name : String} {read : Tree Atom → Option β}
  {write : β → Tree Atom}

/-- A field that is always written is read by its value. -/
theorem required?_of_get? {t : Tree Atom} (hget : f.get? name = some t)
    (read : Tree Atom → Option β) : f.required? name read = read t := by
  rw [required?, hget]

theorem orElse?_of_get? {t : Tree Atom} (hget : f.get? name = some t) (default : β)
    (read : Tree Atom → Option β) : f.orElse? name default read = read t := by
  rw [orElse?, hget]

/-- A flag is written if it is set, and is not set if it is not written. -/
theorem orElse?_flag {on : Bool}
    (hget : f.get? name = if on then some (.bool true) else none) :
    f.orElse? name false Tree.bool? = some on := by
  cases on <;> rw [orElse?, hget] <;> rfl

/-- A list is written if it is not empty, and is empty if it is not written. -/
theorem orElse?_list {items : List β}
    (hget : f.get? name = if items.isEmpty then none else some (.list (items.map write)))
    (h : ∀ v ∈ items, read (write v) = some v) :
    f.orElse? name [] (Tree.list? read) = some items := by
  cases items with
  | nil => rw [orElse?, hget]; rfl
  | cons v items =>
      rw [orElse?_of_get? hget]
      exact Tree.list?_map h

/-- A dictionary is written if it is not empty, and is empty if it is not written. -/
theorem orElse?_dict {d : Dict β}
    (hget : f.get? name = if d.isEmpty then none else some (Tree.ofDict write d))
    (hnodup : d.keys.Nodup) (h : ∀ v ∈ d.values, read (write v) = some v) :
    f.orElse? name [] (Tree.dict? read) = some d := by
  cases d with
  | nil => rw [orElse?, hget]; rfl
  | cons p d =>
      rw [orElse?_of_get? hget]
      exact Tree.dict?_ofDict hnodup h

/-- A value that may be missing is written if it is there.  It is not taken for a missing one unless
it is written as null. -/
theorem optional?_eq {value : Option β} (hget : f.get? name = value.map write)
    (hnull : ∀ v ∈ value, write v ≠ .leaf .null) (h : ∀ v ∈ value, read (write v) = some v) :
    f.optional? name read = some value := by
  cases value with
  | none => rw [optional?, orElse?, hget]; rfl
  | some v =>
      rw [optional?, orElse?_of_get? hget, Tree.optional?_of_ne_null (hnull v rfl), h v rfl]
      rfl

theorem optional?_text {value : Option String} (hget : f.get? name = value.map Tree.text) :
    f.optional? name Tree.text? = some value :=
  optional?_eq hget (fun _ _ => nofun) fun _ _ => rfl

theorem optional?_bool {value : Option Bool} (hget : f.get? name = value.map Tree.bool) :
    f.optional? name Tree.bool? = some value :=
  optional?_eq hget (fun _ _ => nofun) fun _ _ => rfl

theorem optional?_nat {value : Option Nat} (hget : f.get? name = value.map Tree.nat) :
    f.optional? name Tree.nat? = some value :=
  optional?_eq hget (fun _ _ => nofun) fun _ _ => rfl

/-- A number is written as a number if it is finite. -/
theorem optional?_float {value : Option Float} (hget : f.get? name = value.map Tree.float)
    (h : ∀ x ∈ value, x.isFinite = true) : f.optional? name Tree.float? = some value := by
  have hwrite : ∀ x ∈ value, Tree.float x = .leaf (.number (.float x)) := by
    intro x hx
    rw [Tree.float, if_pos (h x hx)]
  refine optional?_eq hget (fun x hx => ?_) fun x hx => ?_
  · rw [hwrite x hx]
    nofun
  · rw [hwrite x hx]
    rfl

end Dict

/-! ### Depth -/

namespace Tree

variable {β : Type} {fields : List Field} {name : String} {write : β → Tree Atom} {v : β}

theorem fieldOf_of_mem {value : Option β} (h : v ∈ value) :
    fieldOf name write value = (name, some (write v)) := by
  rw [Option.mem_def.1 h]
  rfl

theorem listField_of_mem {items : List β} (h : v ∈ items) :
    listField name write items = (name, some (.list (items.map write))) := by
  rw [listField, if_neg (by simp [List.ne_nil_of_mem h])]

theorem dictField_of_mem {d : Dict β} (h : v ∈ d.values) :
    dictField name write d = (name, some (ofDict write d)) := by
  have hne : d ≠ [] := by
    rintro rfl
    cases h
  rw [dictField, if_neg (by simp [hne])]

/-- The value of an entry is less deep than the record. -/
theorem depth_lt_record {entries : List (String × Tree Atom)} {e : String × Tree Atom}
    (h : e ∈ entries) : e.2.depth < (record entries).depth := by
  rw [record, depth]
  induction entries with
  | nil => cases h
  | cons e' entries ih =>
      rw [List.map_cons, entryDepth]
      rcases List.mem_cons.1 h with rfl | h
      · omega
      · have := ih h
        omega

/-- The value of a field is less deep than its record. -/
theorem depth_lt_ofFields (i : Nat) {t : Tree Atom}
    (h : fields[i]? = some (name, some t)) : t.depth < (ofFields fields).depth :=
  depth_lt_record (e := (name, t))
    (List.mem_filterMap.2 ⟨(name, some t), List.mem_of_getElem? h, rfl⟩)

/-- An item is less deep than its list. -/
theorem depth_lt_list {items : List β} (h : v ∈ items) :
    (write v).depth < (Tree.list (items.map write)).depth := by
  rw [depth]
  induction items with
  | nil => cases h
  | cons v' items ih =>
      rw [List.map_cons, itemDepth]
      rcases List.mem_cons.1 h with rfl | h
      · omega
      · have := ih h
        omega

/-- A value of a dictionary is less deep than the dictionary. -/
theorem depth_lt_ofDict {d : Dict β} (h : v ∈ d.values) :
    (write v).depth < (ofDict write d).depth := by
  obtain ⟨p, hp, rfl⟩ := List.mem_map.1 h
  exact depth_lt_record (e := (p.1, write p.2)) (List.mem_map.2 ⟨p, hp, rfl⟩)

end Tree

end ApiContract
