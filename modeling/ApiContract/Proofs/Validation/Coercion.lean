/-
**Where texts have values.**

The text of an array is cut into the texts of its items, and each of these is read as the schema of
the items says, which may be an array again.  Once a text is cut it need not become shorter, so that
only the schemas can bring this to an end: a schema that is an array of itself is followed for ever.

Main definitions:

* `Schemas.itemSchema?` — the schema that the items of an array are read by;
* `Schemas.Grounded` — following the schemas of items from a schema ends;
* `Schemas.Coerces` — texts have a value, to some depth of arrays inside each other.

Main results:

* `Schemas.coerceWithin?_mono` — a value stays the same however deep one looks;
* `Schemas.isSome_coerceWithin?_iff` — how deep one has to look depends on the schema alone;
* `Schemas.GroundedWithin.of_sizeWith` — no further than there are schemas;
* `Schemas.exists_coerces_iff_grounded` — **texts have a value exactly if there are none or
  following the schemas of items ends**, and then that value is found.
-/

import ApiContract.Validation.Coercion
import Mathlib.Data.List.Nodup
import Mathlib.Data.List.Perm.Subperm

set_option relaxedAutoImplicit false
set_option autoImplicit false

namespace ApiContract

/-! ### Maps that may fail -/

section

variable {α β : Type} {f g : α → Option β} {as : List α} {bs : List β}

theorem isSome_mapM_iff : (as.mapM f).isSome = true ↔ ∀ a ∈ as, (f a).isSome = true := by
  induction as with
  | nil => simp
  | cons a as ih =>
      rw [List.mapM_cons, List.forall_mem_cons, ← ih]
      cases f a with
      | none => simp
      | some b => cases as.mapM f <;> simp

theorem mapM_eq_some_of_imp (hfg : ∀ a b, f a = some b → g a = some b)
    (h : as.mapM f = some bs) : as.mapM g = some bs := by
  induction as generalizing bs with
  | nil => exact h
  | cons a as ih =>
      simp only [List.mapM_cons, Option.bind_eq_bind, Option.bind_eq_some_iff] at h ⊢
      obtain ⟨b, hb, rest, hrest, h⟩ := h
      exact ⟨b, hfg a b hb, rest, ih hrest, h⟩

end

/-! ### Walks -/

theorem Schema.mem_walk_of_mem_children {s t c : Schema} (ht : t ∈ s.walk) (hc : c ∈ t.children) :
    c ∈ s.walk := by
  induction s using walk.induct with
  | case1 s ih =>
      rw [walk_eq, List.mem_cons] at ht
      rw [walk_eq]
      refine List.mem_cons_of_mem s (List.mem_flatMap.2 ?_)
      rcases ht with rfl | ht
      · exact ⟨c, hc, by rw [walk_eq]; exact List.mem_cons_self⟩
      · obtain ⟨d, hd, ht⟩ := List.mem_flatMap.1 ht
        exact ⟨d, hd, ih ⟨d, hd⟩ ht⟩

namespace Schemas

/-! ### Items of arrays -/

/-- The schema that a schema stands for; itself if it leads nowhere. -/
def meant (schemas : Schemas) (s : Schema) : Schema := (schemas.resolve? s).getD s

/-- The schema that the items of an array are read by. -/
def itemSchema? (schemas : Schemas) (s : Schema) : Option Schema :=
  if (schemas.meant s).primaryType = some .array then (schemas.meant s).items else none

/-- Following the schemas of items from a schema ends. -/
inductive Grounded (schemas : Schemas) : Schema → Prop
  | intro {s : Schema} (h : ∀ item ∈ schemas.itemSchema? s, Grounded schemas item) :
      Grounded schemas s

/-- Following the schemas of items from a schema ends within a number of schemas. -/
def GroundedWithin (schemas : Schemas) : Nat → Schema → Prop
  | 0, _ => False
  | limit + 1, s => ∀ item ∈ schemas.itemSchema? s, GroundedWithin schemas limit item

/-- **Texts have a value**: to some depth of arrays inside each other. -/
def Coerces (schemas : Schemas) (s : Schema) (texts : List String) (v : Json) : Prop :=
  ∃ limit, schemas.coerceWithin? limit s texts = some v

section

variable {schemas : Schemas} {m n : Nat} {s item : Schema} {texts : List String} {v : Json}

theorem coerceWithin?_of_none (h : schemas.itemSchema? s = none) (texts : List String) :
    ∃ v, ∀ limit, schemas.coerceWithin? (limit + 1) s texts = some v := by
  unfold itemSchema? meant at h
  simp only [coerceWithin?]
  split at h
  · rename_i harray
    simp [harray, h]
  · rename_i harray
    simp [harray]

theorem coerceWithin?_of_some (h : schemas.itemSchema? s = some item) :
    schemas.coerceWithin? (n + 1) s texts =
      ((Coercion.itemTexts texts).mapM fun t => schemas.coerceWithin? n item [t]).map .array := by
  unfold itemSchema? meant at h
  split at h
  · rename_i harray
    simp [coerceWithin?, harray, h]
  · cases h

theorem coerceWithin?_succ (h : schemas.coerceWithin? n s texts = some v) :
    schemas.coerceWithin? (n + 1) s texts = some v := by
  induction n generalizing s texts v with
  | zero => cases h
  | succ n ih =>
      cases hitem : schemas.itemSchema? s with
      | none =>
          obtain ⟨w, hw⟩ := coerceWithin?_of_none hitem texts
          rw [hw] at h ⊢
          exact h
      | some item =>
          rw [coerceWithin?_of_some hitem, Option.map_eq_some_iff] at h ⊢
          obtain ⟨vs, hvs, rfl⟩ := h
          exact ⟨vs, mapM_eq_some_of_imp (fun t w hw => ih hw) hvs, rfl⟩

/-- **A value stays the same however deep one looks.** -/
theorem coerceWithin?_mono (h : schemas.coerceWithin? n s texts = some v) (hle : n ≤ m) :
    schemas.coerceWithin? m s texts = some v := by
  induction hle with
  | refl => exact h
  | step _ ih => exact coerceWithin?_succ ih

theorem itemTexts_ne_nil (h : texts ≠ []) : Coercion.itemTexts texts ≠ [] := by
  unfold Coercion.itemTexts
  split
  · simp [Text.fields_ne_nil]
  · exact h

/-- How deep one has to look for the value of texts depends on the schema alone. -/
theorem isSome_coerceWithin?_iff (h : texts ≠ []) :
    (schemas.coerceWithin? n s texts).isSome = true ↔ schemas.GroundedWithin n s := by
  induction n generalizing s texts with
  | zero => simp [coerceWithin?, GroundedWithin]
  | succ n ih =>
      rw [GroundedWithin]
      cases hitem : schemas.itemSchema? s with
      | none =>
          obtain ⟨v, hv⟩ := coerceWithin?_of_none hitem texts
          simp [hv]
      | some item =>
          have hitems : (∀ t ∈ Coercion.itemTexts texts,
              (schemas.coerceWithin? n item [t]).isSome = true) ↔
                schemas.GroundedWithin n item := by
            -- there is an item, and it is as hard to read as any other
            obtain ⟨t, ht⟩ := List.exists_mem_of_ne_nil _ (itemTexts_ne_nil h)
            constructor
            · intro hall
              exact (ih (List.cons_ne_nil t [])).1 (hall t ht)
            · intro hground u _
              exact (ih (List.cons_ne_nil u [])).2 hground
          rw [coerceWithin?_of_some hitem, Option.isSome_map, isSome_mapM_iff, hitems]
          simp

/-- No texts have a value at once, for they have no items. -/
theorem isSome_coerceWithin?_nil : (schemas.coerceWithin? (n + 1) s []).isSome = true := by
  cases hitem : schemas.itemSchema? s with
  | none =>
      obtain ⟨v, hv⟩ := coerceWithin?_of_none hitem []
      simp [hv]
  | some item => simp [coerceWithin?_of_some hitem, Coercion.itemTexts]

/-! ### How far the schemas of items are followed -/

theorem GroundedWithin.succ (h : schemas.GroundedWithin n s) :
    schemas.GroundedWithin (n + 1) s := by
  induction n generalizing s with
  | zero => exact h.elim
  | succ n ih => exact fun item hitem => ih (h item hitem)

theorem GroundedWithin.mono (h : schemas.GroundedWithin n s) (hle : n ≤ m) :
    schemas.GroundedWithin m s := by
  induction hle with
  | refl => exact h
  | step _ ih => exact ih.succ

/-- Following the schemas of items ends exactly if it ends within some number of schemas. -/
theorem grounded_iff : schemas.Grounded s ↔ ∃ n, schemas.GroundedWithin n s := by
  constructor
  · intro h
    induction h with
    | @intro s _ ih =>
        cases hitem : schemas.itemSchema? s with
        | none => exact ⟨1, fun item h => by simp [hitem] at h⟩
        | some item =>
            obtain ⟨n, hn⟩ := ih item hitem
            refine ⟨n + 1, fun item' h => ?_⟩
            obtain rfl : item = item' := Option.some.inj (hitem.symm.trans h)
            exact hn
  · rintro ⟨n, hn⟩
    induction n generalizing s with
    | zero => exact hn.elim
    | succ n ih => exact .intro fun item hitem => ih (hn item hitem)

/-- The schemas that can be met: those inside a schema and inside named schemas. -/
def reach (schemas : Schemas) (s : Schema) : List Schema :=
  s.walk ++ schemas.flatMap fun p => p.2.walk

theorem length_reach : (schemas.reach s).length = schemas.sizeWith s := by
  simp [reach, sizeWith, List.length_flatMap, Schema.size, List.sum]

theorem mem_reach_self : s ∈ schemas.reach s := by
  rw [reach, Schema.walk_eq]
  exact List.mem_cons_self

theorem mem_reach_of_mem_children {t c : Schema} (ht : t ∈ schemas.reach s)
    (hc : c ∈ t.children) : c ∈ schemas.reach s := by
  rw [reach, List.mem_append, List.mem_flatMap] at ht ⊢
  rcases ht with ht | ⟨p, hp, ht⟩
  · exact Or.inl (Schema.mem_walk_of_mem_children ht hc)
  · exact Or.inr ⟨p, hp, Schema.mem_walk_of_mem_children ht hc⟩

theorem mem_reach_of_lookup? {reference : String} {u : Schema}
    (h : schemas.lookup? reference = some u) : u ∈ schemas.reach s := by
  unfold lookup? at h
  split at h
  · refine List.mem_append_right _ (List.mem_flatMap.2 ⟨_, Dict.mem_of_get? h, ?_⟩)
    rw [Schema.walk_eq]
    exact List.mem_cons_self
  · cases h

theorem mem_reach_of_resolveWithin? {t u : Schema} (ht : t ∈ schemas.reach s)
    (h : schemas.resolveWithin? n t = some u) : u ∈ schemas.reach s := by
  induction n generalizing t with
  | zero => cases h
  | succ n ih =>
      rw [resolveWithin?] at h
      split at h
      · exact Option.some.inj h ▸ ht
      · split at h
        · rename_i w hw
          exact ih (mem_reach_of_lookup? hw) h
        · cases h

theorem mem_reach_of_itemSchema? {t : Schema} (ht : t ∈ schemas.reach s)
    (h : schemas.itemSchema? t = some item) : item ∈ schemas.reach s := by
  have hmeant : schemas.meant t ∈ schemas.reach s := by
    unfold meant
    cases hr : schemas.resolve? t with
    | none => exact ht
    | some u => exact mem_reach_of_resolveWithin? ht hr
  unfold itemSchema? at h
  split at h
  · exact mem_reach_of_mem_children hmeant (by simp [Schema.children, h])
  · cases h

/-- Between a schema and the end of the schemas of items, every distance from the end occurs. -/
theorem exists_mem_reach {t : Schema} {k : Nat} (ht : t ∈ schemas.reach s)
    (h : schemas.GroundedWithin (n + 1) t) (hnot : ¬ schemas.GroundedWithin n t) (hk : k ≤ n) :
    ∃ u ∈ schemas.reach s, schemas.GroundedWithin (k + 1) u ∧ ¬ schemas.GroundedWithin k u := by
  induction n generalizing t with
  | zero =>
      obtain rfl : k = 0 := Nat.le_zero.1 hk
      exact ⟨t, ht, h, hnot⟩
  | succ n ih =>
      rcases Nat.le_succ_iff.1 hk with hle | rfl
      · cases hitem : schemas.itemSchema? t with
        | none => exact absurd (fun item h => by simp [hitem] at h) hnot
        | some item =>
            refine ih (mem_reach_of_itemSchema? ht hitem) (h item hitem) (fun hn => hnot ?_) hle
            intro item' h'
            obtain rfl : item = item' := Option.some.inj (hitem.symm.trans h')
            exact hn
      · exact ⟨t, ht, h, hnot⟩

/-- **Following the schemas of items ends, if at all, within as many schemas as there are.** -/
theorem GroundedWithin.of_sizeWith (h : schemas.GroundedWithin n s) :
    schemas.GroundedWithin (schemas.sizeWith s) s := by
  induction n with
  | zero => exact h.elim
  | succ n ih =>
      by_cases hn : schemas.GroundedWithin n s
      · exact ih hn
      · refine h.mono ?_
        -- the schemas at distinct distances from the end are distinct
        have hdist : ∀ k, ∃ u, k ≤ n → u ∈ schemas.reach s ∧
            schemas.GroundedWithin (k + 1) u ∧ ¬ schemas.GroundedWithin k u := by
          intro k
          by_cases hk : k ≤ n
          · obtain ⟨u, hu⟩ := exists_mem_reach mem_reach_self h hn hk
            exact ⟨u, fun _ => hu⟩
          · exact ⟨s, fun hle => absurd hle hk⟩
        choose f hf using hdist
        have hlt : ∀ k l, k < l → l ≤ n → f k ≠ f l := by
          intro k l hkl hl heq
          have hk := (hf k (by omega)).2.1
          exact (hf l hl).2.2 (heq ▸ hk.mono hkl)
        have hnodup : ((List.range (n + 1)).map f).Nodup := by
          refine List.Nodup.map_on (fun k hk l hl heq => ?_) List.nodup_range
          rw [List.mem_range] at hk hl
          rcases Nat.lt_trichotomy k l with hkl | rfl | hkl
          · exact absurd heq (hlt k l hkl (by omega))
          · rfl
          · exact absurd heq.symm (hlt l k hkl (by omega))
        have hsub : (List.range (n + 1)).map f ⊆ schemas.reach s := by
          intro u hu
          obtain ⟨k, hk, rfl⟩ := List.mem_map.1 hu
          exact (hf k (by simpa [Nat.lt_succ_iff] using hk)).1
        simpa [length_reach] using (List.subperm_of_subset hnodup hsub).length_le

/-! ### Values of texts -/

theorem coerces_iff : schemas.Coerces s texts v ↔ schemas.coerce? s texts = some v := by
  refine ⟨?_, fun h => ⟨_, h⟩⟩
  rintro ⟨n, hn⟩
  have hsome : (schemas.coerce? s texts).isSome = true := by
    rcases eq_or_ne texts [] with rfl | hne
    · exact isSome_coerceWithin?_nil
    · have hground : schemas.GroundedWithin n s :=
        (isSome_coerceWithin?_iff hne).1 (Option.isSome_of_eq_some hn)
      exact (isSome_coerceWithin?_iff hne).2 hground.of_sizeWith.succ
  obtain ⟨w, hw⟩ := Option.isSome_iff_exists.1 hsome
  -- both are the value at the greater of the two depths
  have heq : some v = some w :=
    (coerceWithin?_mono hn (Nat.le_max_left n _)).symm.trans
      (coerceWithin?_mono hw (Nat.le_max_right n _))
  rw [heq]
  exact hw

/-- **Texts have a value exactly if there are none or following the schemas of items ends**, and the
value is then found. -/
theorem exists_coerces_iff_grounded :
    ((∃ v, schemas.Coerces s texts v) ↔ texts = [] ∨ schemas.Grounded s) ∧
      ∀ v, schemas.Coerces s texts v ↔ schemas.coerce? s texts = some v := by
  refine ⟨?_, fun v => coerces_iff⟩
  rcases eq_or_ne texts [] with rfl | hne
  · have hsome : (schemas.coerceWithin? 1 s []).isSome = true := isSome_coerceWithin?_nil
    obtain ⟨v, hv⟩ := Option.isSome_iff_exists.1 hsome
    exact iff_of_true ⟨v, 1, hv⟩ (Or.inl rfl)
  · rw [or_iff_right hne, grounded_iff]
    constructor
    · rintro ⟨v, n, hn⟩
      exact ⟨n, (isSome_coerceWithin?_iff hne).1 (Option.isSome_of_eq_some hn)⟩
    · rintro ⟨n, hn⟩
      obtain ⟨v, hv⟩ := Option.isSome_iff_exists.1 ((isSome_coerceWithin?_iff hne).2 hn)
      exact ⟨v, n, hv⟩

/-- A schema of arrays of itself gives a text no value. -/
example :
    let itself : Schema := { reference := some "#/components/schemas/A" }
    let arrays : Schema := { type := some (.one .array), items := some itself }
    coerce? [("A", arrays)] itself ["a"] = none := by
  decide +kernel

end

end Schemas

end ApiContract
