/-
**Finite maps that remember the order of their keys.**

The maps of an interface description (paths, responses, properties, …) are read in the order in
which the document lists them, and whatever is made of them keeps that order.  A map is therefore a
list of pairs: a key that is inserted again keeps its first position and takes the new value.

Main definitions:

* `Dict` — the type, a list of keys with their values;
* `Dict.get?`, `Dict.insert`, `Dict.ofList`, `Dict.keys`, `Dict.values`.

Main results:

* `Dict.get?_insert` — what an insertion does to every look-up;
* `Dict.keys_insert` — an insertion adds the key at the end, or not at all;
* `Dict.get?_eq_some_iff_mem`, `Dict.get?_of_perm` — among distinct keys each value is found by its
  key, in whatever order they stand;
* `Dict.nodup_keys_ofList` — a map built by insertions holds each key once;
* `Dict.get?_ofList_eq_some_iff` — the last pair with a key counts;
* `Dict.ofList_map` — values may be replaced before a map is built or after it.
-/

set_option autoImplicit false

namespace ApiContract

/-- A finite map from texts, in the order in which its keys first came. -/
abbrev Dict (α : Type) := List (String × α)

namespace Dict

variable {α : Type}

/-- The value of a key. -/
def get? : Dict α → String → Option α
  | [], _ => none
  | (k, v) :: d, key => if k = key then some v else get? d key

/-- Whether a key is present. -/
def contains (d : Dict α) (key : String) : Bool := (get? d key).isSome

/-- The keys, in order. -/
def keys (d : Dict α) : List String := d.map Prod.fst

/-- The values, in the order of their keys. -/
def values (d : Dict α) : List α := d.map Prod.snd

/-- Give a key a value: a present key keeps its position, an absent one goes to the end. -/
def insert : Dict α → String → α → Dict α
  | [], key, value => [(key, value)]
  | (k, v) :: d, key, value => if k = key then (k, value) :: d else (k, v) :: insert d key value

/-- The map with the given pairs; of two pairs with one key the later value wins. -/
def ofList (pairs : List (String × α)) : Dict α :=
  pairs.foldl (fun d p => insert d p.1 p.2) []

@[simp] theorem get?_nil (key : String) : get? ([] : Dict α) key = none := rfl

theorem get?_cons (k : String) (v : α) (d : Dict α) (key : String) :
    get? ((k, v) :: d) key = if k = key then some v else get? d key := rfl

/-- An insertion is seen at its own key and nowhere else. -/
theorem get?_insert (d : Dict α) (key : String) (value : α) (other : String) :
    get? (insert d key value) other = if key = other then some value else get? d other := by
  induction d with
  | nil => simp [insert, get?]
  | cons p d ih =>
    obtain ⟨k, v⟩ := p
    by_cases hk : k = key
    · subst hk; simp only [insert, if_true, get?_cons]; split <;> simp_all
    · simp only [insert, if_neg hk, get?_cons, ih]
      by_cases ho : k = other
      · subst ho; simp [Ne.symm hk]
      · simp [ho]

/-- An insertion leaves the keys as they are, or adds the new one at the end. -/
theorem keys_insert (d : Dict α) (key : String) (value : α) :
    keys (insert d key value) = if key ∈ keys d then keys d else keys d ++ [key] := by
  induction d with
  | nil => simp [insert, keys]
  | cons p d ih =>
    obtain ⟨k, v⟩ := p
    by_cases hk : k = key
    · simp [insert, keys, hk]
    · have : keys (insert ((k, v) :: d) key value) = k :: keys (insert d key value) := by
        simp [insert, if_neg hk, keys]
      rw [this, ih]
      have hc : keys ((k, v) :: d) = k :: keys d := rfl
      rw [hc]
      by_cases hm : key ∈ keys d
      · simp [hm]
      · simp [hm, Ne.symm hk]

theorem mem_keys_iff (d : Dict α) (key : String) : key ∈ keys d ↔ (get? d key).isSome := by
  induction d with
  | nil => simp [keys]
  | cons p d ih =>
    obtain ⟨k, v⟩ := p
    have hc : keys ((k, v) :: d) = k :: keys d := rfl
    rw [hc, List.mem_cons, ih, get?_cons]
    by_cases h : k = key
    · simp [h]
    · simp [h, Ne.symm h]

theorem get?_eq_none_iff {d : Dict α} {key : String} : get? d key = none ↔ key ∉ keys d := by
  rw [mem_keys_iff, Option.not_isSome_iff_eq_none]

/-- What is found is there. -/
theorem mem_of_get? {d : Dict α} {key : String} {value : α} (h : get? d key = some value) :
    (key, value) ∈ d := by
  induction d with
  | nil => cases h
  | cons p d ih =>
    obtain ⟨k, v⟩ := p
    rw [get?_cons] at h
    split at h
    · rename_i hk
      cases h
      rw [hk]
      exact List.mem_cons_self
    · exact List.mem_cons_of_mem _ (ih h)

/-- Among distinct keys, each value is found by its key. -/
theorem get?_eq_some_iff_mem {d : Dict α} (h : (keys d).Nodup) {key : String} {value : α} :
    get? d key = some value ↔ (key, value) ∈ d := by
  refine ⟨mem_of_get?, fun hmem => ?_⟩
  induction d with
  | nil => cases hmem
  | cons p d ih =>
    obtain ⟨k, v⟩ := p
    obtain ⟨hk, hd⟩ := List.nodup_cons.1 h
    rw [get?_cons]
    rcases List.mem_cons.1 hmem with heq | hmem
    · cases heq
      exact if_pos rfl
    · have hne : k ≠ key := by
        rintro rfl
        exact hk (List.mem_map.2 ⟨_, hmem, rfl⟩)
      rw [if_neg hne, ih hd hmem]

/-- Among distinct keys, the order does not matter to what is found. -/
theorem get?_of_perm {d d' : Dict α} (hp : d.Perm d') (h : (keys d).Nodup) (key : String) :
    get? d key = get? d' key := by
  have h' : (keys d').Nodup := (hp.map Prod.fst).nodup_iff.1 h
  refine Option.ext fun value => ?_
  rw [get?_eq_some_iff_mem h, get?_eq_some_iff_mem h', hp.mem_iff]

/-- An insertion keeps the keys distinct. -/
theorem nodup_keys_insert {d : Dict α} (h : (keys d).Nodup) (key : String) (value : α) :
    (keys (insert d key value)).Nodup := by
  rw [keys_insert]
  split
  · exact h
  · rename_i hm
    rw [List.nodup_append]
    refine ⟨h, by simp, ?_⟩
    intro a ha b hb
    simp only [List.mem_singleton] at hb
    subst hb
    intro hab
    exact hm (hab ▸ ha)

/-- A map built from a list of pairs holds each key once. -/
theorem nodup_keys_ofList (pairs : List (String × α)) : (keys (ofList pairs)).Nodup := by
  suffices h : ∀ d : Dict α, (keys d).Nodup →
      (keys (pairs.foldl (fun d p => insert d p.1 p.2) d)).Nodup from h [] (by simp [keys])
  induction pairs with
  | nil => intro d hd; simpa using hd
  | cons p pairs ih => intro d hd; exact ih _ (nodup_keys_insert hd p.1 p.2)

/-! ### Maps made from pairs -/

theorem get?_foldl_insert (pairs : List (String × α)) (d : Dict α) (key : String) :
    get? (pairs.foldl (fun d p => insert d p.1 p.2) d) key =
      ((pairs.reverse.find? fun p => p.1 = key).map Prod.snd).or (get? d key) := by
  induction pairs generalizing d with
  | nil => simp
  | cons p pairs ih =>
    rw [List.foldl_cons, ih, List.reverse_cons, List.find?_append, get?_insert]
    cases pairs.reverse.find? fun p => p.1 = key with
    | some q => rfl
    | none =>
      by_cases hp : p.1 = key <;> simp [hp]

/-- Of the pairs with one key the last one counts. -/
theorem get?_ofList_eq_some_iff {pairs : List (String × α)} {key : String} {value : α} :
    get? (ofList pairs) key = some value ↔
      ∃ before after, pairs = before ++ (key, value) :: after ∧ key ∉ after.map Prod.fst := by
  have hlast : get? (ofList pairs) key =
      (pairs.reverse.find? fun p => p.1 = key).map Prod.snd := by
    rw [ofList, get?_foldl_insert, get?_nil, Option.or_none]
  rw [hlast, Option.map_eq_some_iff]
  constructor
  · rintro ⟨⟨k, v⟩, hfind, rfl⟩
    obtain ⟨hk, after, before, hpairs, hafter⟩ := List.find?_eq_some_iff_append.1 hfind
    obtain rfl : k = key := of_decide_eq_true hk
    refine ⟨before.reverse, after.reverse, ?_, ?_⟩
    · rw [← List.reverse_reverse pairs, hpairs]
      simp
    · intro hmem
      obtain ⟨p, hp, rfl⟩ := List.mem_map.1 hmem
      simpa using hafter p (List.mem_reverse.1 hp)
  · rintro ⟨before, after, rfl, hafter⟩
    refine ⟨(key, value), List.find?_eq_some_iff_append.2
      ⟨by simp, after.reverse, before.reverse, by simp, fun p hp => ?_⟩, rfl⟩
    have hne : p.1 ≠ key := by
      rintro rfl
      exact hafter (List.mem_map_of_mem (List.mem_reverse.1 hp))
    simpa using hne

/-- The keys are those of the pairs. -/
theorem mem_keys_ofList {pairs : List (String × α)} {key : String} :
    key ∈ keys (ofList pairs) ↔ key ∈ pairs.map Prod.fst := by
  have h : ∀ d : Dict α, key ∈ keys (pairs.foldl (fun d p => insert d p.1 p.2) d) ↔
      key ∈ keys d ∨ key ∈ pairs.map Prod.fst := by
    induction pairs with
    | nil => simp
    | cons p pairs ih =>
        intro d
        rw [List.foldl_cons, ih, keys_insert, List.map_cons, List.mem_cons]
        split
        · rename_i hp
          constructor
          · exact Or.imp_right Or.inr
          · rintro (h | rfl | h)
            · exact Or.inl h
            · exact Or.inl hp
            · exact Or.inr h
        · rw [List.mem_append, List.mem_singleton, or_assoc]
  rw [ofList, h []]
  exact or_iff_right List.not_mem_nil

/-- Values may be replaced before an insertion or after it. -/
theorem insert_map {β : Type} (f : α → β) (d : Dict α) (key : String) (value : α) :
    insert (d.map fun p => (p.1, f p.2)) key (f value) =
      (insert d key value).map fun p => (p.1, f p.2) := by
  induction d with
  | nil => rfl
  | cons p d ih =>
      simp only [insert, List.map_cons]
      split
      · rfl
      · rw [ih, List.map_cons]

/-- Values may be replaced before a map is built or after it. -/
theorem ofList_map {β : Type} (f : α → β) (pairs : List (String × α)) :
    ofList (pairs.map fun p => (p.1, f p.2)) = (ofList pairs).map fun p => (p.1, f p.2) := by
  have h : ∀ d : Dict α,
      (pairs.map fun p => (p.1, f p.2)).foldl (fun d p => insert d p.1 p.2)
          (d.map fun p => (p.1, f p.2)) =
        (pairs.foldl (fun d p => insert d p.1 p.2) d).map fun p => (p.1, f p.2) := by
    induction pairs with
    | nil => exact fun d => rfl
    | cons p pairs ih =>
        intro d
        rw [List.map_cons, List.foldl_cons, List.foldl_cons, insert_map]
        exact ih _
  exact h []

end Dict

end ApiContract
