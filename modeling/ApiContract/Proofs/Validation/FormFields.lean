/-
**Arrays in a form.**

A form is written as pairs, as a query is.  The reader of a form takes the pairs one by one: each is
given the type of its property by itself, and takes the place of what was there under its name.  An
array that is sent as one pair for each item is therefore read as the array of what stands between
the commas of its last item.

Main results:

* `Json.member?_foldl_insertMember` — of the members with one name the last one counts;
* `ContentType.eq_form_of_essence` — which media types are forms;
* `Schemas.Coerces.ne_of_append` — **several texts of an array have not the value that the last of
  them has alone**;
* `Body.member?_decode_form` — **an array in a form is that of its last text alone**, which is the
  array of all texts only if there is a single one.
-/

import ApiContract.Pattern.Library
import ApiContract.Proofs.Decimal.Reading
import ApiContract.Proofs.Text.Casing
import ApiContract.Proofs.Text.Cutting
import ApiContract.Proofs.Validation.QueryArray

set_option relaxedAutoImplicit false
set_option autoImplicit false

namespace ApiContract

/-! ### Members of objects -/

namespace Json

/-- An insertion is seen at its own name and nowhere else. -/
theorem member?_insertMember (ms : List (String × Json)) (name : String) (value : Json)
    (other : String) :
    member? (insertMember ms name value) other =
      if name = other then some value else member? ms other := by
  induction ms with
  | nil => rfl
  | cons m ms ih =>
      obtain ⟨k, v⟩ := m
      rw [insertMember]
      split
      · rename_i hk
        subst hk
        simp only [member?]
        split
        · rfl
        · rfl
      · rename_i hk
        split
        · rfl
        · simp only [member?, ih]
          by_cases ho : k = other
          · subst ho
            simp [Ne.symm hk]
          · simp [ho]

/-- Of the members with one name the last one counts. -/
theorem member?_foldl_insertMember (ms : List (String × Json)) (name : String)
    (before : List (String × Json)) :
    member? (ms.foldl (fun read m => insertMember read m.1 m.2) before) name =
      ((ms.filter (·.1 = name)).getLast?.map Prod.snd).or (member? before name) := by
  induction ms generalizing before with
  | nil => simp
  | cons m ms ih =>
      rw [List.foldl_cons, ih, member?_insertMember]
      by_cases hm : m.1 = name
      · rw [if_pos hm, List.filter_cons_of_pos (by simpa using hm)]
        cases hlast : (ms.filter (·.1 = name)).getLast? with
        | none => simp [List.getLast?_eq_none_iff.1 hlast]
        | some l => simp [List.getLast?_cons, hlast]
      · rw [if_neg hm, List.filter_cons_of_neg (by simpa using hm)]

end Json

/-! ### Forms -/

namespace ContentType

variable {text : String} {t : ContentType}

theorem slash_not_mem_main (h : parse? text = some t) : '/' ∉ t.main.toList := by
  simp only [parse?] at h
  split at h
  · cases h
  · rename_i main rest hcut
    rw [Option.ite_none_right_eq_some] at h
    obtain ⟨hgood, ht⟩ := h
    obtain rfl := Option.some.inj ht
    simp only [Bool.and_eq_true, List.all_eq_true] at hgood
    rw [String.toList_ofList, List.mem_map]
    rintro ⟨c, hc, hslash⟩
    obtain rfl := Text.eq_of_lowerAscii_eq (by decide) hslash
    exact absurd (hgood.1.1.2 _ hc) (by decide)

/-- The media type of forms. -/
def form : ContentType := ⟨"application", "x-www-form-urlencoded", none⟩

/-- Which media types are forms: whatever their parameters, they have the same three parts. -/
theorem eq_form_of_essence (h : parse? text = some t)
    (hessence : t.essence = "application/x-www-form-urlencoded") : t = form := by
  have hslash := slash_not_mem_main h
  obtain ⟨main, sub, suffix⟩ := t
  cases suffix with
  | none =>
      have hparts : main.toList ++ '/' :: sub.toList =
          "application".toList ++ '/' :: "x-www-form-urlencoded".toList := by
        have hchars := congrArg String.toList hessence
        simp only [essence, String.toList_append] at hchars
        rw [← List.singleton_append, ← List.append_assoc]
        exact (List.append_nil _).symm.trans hchars
      obtain ⟨hmain, hsub⟩ := Text.append_cons_inj hslash (by decide) hparts
      obtain rfl : main = "application" := String.toList_inj.1 hmain
      obtain rfl : sub = "x-www-form-urlencoded" := String.toList_inj.1 hsub
      rfl
  | some s =>
      -- there is no plus sign in the name
      have hplus : '+' ∈ (essence ⟨main, sub, some s⟩).toList := by
        simp [essence]
      rw [hessence] at hplus
      exact absurd hplus (by decide)

end ContentType

/-! ### Texts with a comma -/

theorem Coercion.parsed?_eq_none_of_comma {text : String} (h : ',' ∈ text.toList)
    (type : Option ValueType) : parsed? text type = none := by
  have hne : ∀ word : String, ',' ∉ word.toList → text ≠ word := by
    rintro word hword rfl
    exact hword h
  unfold parsed?
  split
  · rw [Decimal.readInt64?_eq_none h (by decide) (by decide)]
    rfl
  · rw [Decimal.readFloat?_eq_none_of_comma h]
  · rw [if_neg (hne "true" (by decide)), if_neg (hne "false" (by decide))]
  · rfl

/-- A text is read as itself or as something that is no text. -/
theorem Coercion.eq_of_scalar_eq_string {text other : String} {type : Option ValueType}
    (h : scalar text type = .string other) : text = other := by
  rw [scalar] at h
  cases hparsed : parsed? text type with
  | none =>
      rw [hparsed] at h
      exact Json.string.inj h
  | some v =>
      rw [hparsed, Option.getD_some] at h
      subst h
      unfold parsed? at hparsed
      split at hparsed
      · obtain ⟨n, -, hn⟩ := Option.map_eq_some_iff.1 hparsed
        cases hn
      · split at hparsed
        · split at hparsed
          · cases hparsed
          · cases hparsed
        · cases hparsed
      · split at hparsed
        · cases hparsed
        · split at hparsed
          · cases hparsed
          · cases hparsed
      · cases hparsed

theorem forall₂_of_mapM_eq_some {α β : Type} {f : α → Option β} {as : List α} {bs : List β}
    (h : as.mapM f = some bs) : List.Forall₂ (fun a b => f a = some b) as bs := by
  induction as generalizing bs with
  | nil =>
      obtain rfl := Option.some.inj h
      exact .nil
  | cons a as ih =>
      simp only [List.mapM_cons, Option.bind_eq_bind, Option.bind_eq_some_iff] at h
      obtain ⟨b, hb, rest, hrest, h⟩ := h
      obtain rfl := Option.some.inj h
      exact .cons hb (ih hrest)

/-- The last of two lists that correspond. -/
theorem exists_getLast_of_forall₂ {α β : Type} {r : α → β → Prop} {as : List α} {a : α}
    {bs : List β} (h : List.Forall₂ r (as ++ [a]) bs) : ∃ b, bs.getLast? = some b ∧ r a b := by
  rw [← List.forall₂_reverse_iff, List.reverse_append, List.reverse_singleton,
    List.singleton_append, List.forall₂_cons_left_iff] at h
  obtain ⟨b, rest, hab, -, hrest⟩ := h
  refine ⟨b, ?_, hab⟩
  rw [← List.reverse_reverse bs, hrest, List.getLast?_reverse]
  rfl

namespace Schemas

variable {schemas : Schemas} {s item : Schema} {texts : List String} {a b : String} {v w : Json}

theorem length_itemTexts_singleton (text : String) :
    (Coercion.itemTexts [text]).length = text.toList.count ',' + 1 := by
  rw [Coercion.itemTexts, List.length_map, Text.length_fields]

/-- The last piece of a text has no comma. -/
theorem exists_itemTexts_singleton (text : String) :
    ∃ pieces last, Coercion.itemTexts [text] = pieces ++ [last] ∧ ',' ∉ last.toList := by
  have hne : Coercion.itemTexts [text] ≠ [] := itemTexts_ne_nil (List.cons_ne_nil text [])
  refine ⟨_, _, (List.dropLast_append_getLast hne).symm, ?_⟩
  obtain ⟨f, hf, hlast⟩ := List.mem_map.1 (List.getLast_mem hne)
  rw [← hlast, String.toList_ofList]
  exact Text.not_mem_of_mem_fields hf

/-- What the text of an item is read as: a text, if nothing is said about items. -/
def CoercesItem (schemas : Schemas) (s : Schema) (text : String) (v : Json) : Prop :=
  match schemas.itemSchema? s with
  | none => v = .string text
  | some item => schemas.Coerces item [text] v

/-- The value of an array has an item for each of its texts. -/
theorem Coerces.forall₂ (harray : (schemas.meant s).primaryType = some .array)
    (h : schemas.Coerces s texts v) :
    ∃ items, v = .array items ∧
      List.Forall₂ (schemas.CoercesItem s) (Coercion.itemTexts texts) items := by
  obtain ⟨limit, h⟩ := h
  cases limit with
  | zero => cases h
  | succ n =>
      cases hitem : schemas.itemSchema? s with
      | none =>
          have hnone := hitem
          rw [itemSchema?, if_pos harray] at hnone
          unfold meant at harray hnone
          simp only [coerceWithin?, harray, hnone, if_true] at h
          obtain rfl := Option.some.inj h
          refine ⟨_, rfl, List.forall₂_map_right_iff.2 (List.forall₂_same.2 fun text _ => ?_)⟩
          simp [CoercesItem, hitem]
      | some item =>
          rw [coerceWithin?_of_some hitem] at h
          obtain ⟨items, hitems, rfl⟩ := Option.map_eq_some_iff.1 h
          refine ⟨items, rfl, (forall₂_of_mapM_eq_some hitems).imp fun text v hv => ?_⟩
          simp only [CoercesItem, hitem]
          exact ⟨n, hv⟩

theorem Coerces.eq_scalar (hnot : (schemas.meant s).primaryType ≠ some .array)
    (h : schemas.Coerces s texts v) :
    v = Coercion.scalar (texts.headD "") (schemas.meant s).primaryType := by
  obtain ⟨limit, h⟩ := h
  unfold meant at hnot ⊢
  cases limit with
  | zero => cases h
  | succ n =>
      simp only [coerceWithin?, hnot, if_false] at h
      exact (Option.some.inj h).symm

/-- **A text with a comma is never read as one without**: the one is an array of several items, or a
text; the other an array of a single item, or no such text. -/
theorem Coerces.ne_of_comma (ha : ',' ∈ a.toList) (hb : ',' ∉ b.toList)
    (hv : schemas.Coerces s [a] v) (hw : schemas.Coerces s [b] w) : v ≠ w := by
  rintro rfl
  by_cases harray : (schemas.meant s).primaryType = some .array
  · obtain ⟨items, rfl, hitems⟩ := hv.forall₂ harray
    obtain ⟨items', heq, hitems'⟩ := hw.forall₂ harray
    obtain rfl := Json.array.inj heq
    -- there is one item more than there are commas
    have hlength := hitems.length_eq.trans hitems'.length_eq.symm
    rw [length_itemTexts_singleton, length_itemTexts_singleton, List.count_eq_zero.2 hb] at hlength
    have hcount := List.count_pos_iff.2 ha
    omega
  · have hval := hv.eq_scalar harray
    have hval' := hw.eq_scalar harray
    rw [List.headD_cons] at hval hval'
    have hstring : v = .string a := by
      rw [hval, Coercion.scalar, Coercion.parsed?_eq_none_of_comma ha, Option.getD_none]
    obtain rfl := Coercion.eq_of_scalar_eq_string (hval'.symm.trans hstring)
    exact hb ha

theorem Coerces.coerce_eq (h : schemas.Coerces s texts v) : schemas.coerce s texts = v := by
  rw [coerce, coerces_iff.1 h, Option.getD_some]

theorem Coerces.unique (hv : schemas.Coerces s texts v) (hw : schemas.Coerces s texts w) : v = w :=
  hv.coerce_eq.symm.trans hw.coerce_eq

/-- Where some texts have a value, all have. -/
theorem Coerces.exists_of_ne_nil (h : schemas.Coerces s texts v) (hne : texts ≠ [])
    (others : List String) : ∃ w, schemas.Coerces s others w := by
  have hgrounded := (exists_coerces_iff_grounded.1.1 ⟨v, h⟩).resolve_left hne
  exact exists_coerces_iff_grounded.1.2 (Or.inr hgrounded)

theorem CoercesItem.ne_of_comma (ha : ',' ∈ a.toList) (hb : ',' ∉ b.toList)
    (hv : schemas.CoercesItem s a v) (hw : schemas.CoercesItem s b w) : v ≠ w := by
  unfold CoercesItem at hv hw
  cases hitem : schemas.itemSchema? s with
  | none =>
      simp only [hitem] at hv hw
      rintro rfl
      obtain rfl := Json.string.inj (hv.symm.trans hw)
      exact hb ha
  | some item =>
      simp only [hitem] at hv hw
      exact hv.ne_of_comma ha hb hw

/-- **Several texts of an array have not the value that the last of them has alone.**  If there are
as many items, the last text has a comma, and its last piece has none. -/
theorem Coerces.ne_of_append (harray : (schemas.meant s).primaryType = some .array)
    {before : List String} (hbefore : before ≠ []) (hv : schemas.Coerces s (before ++ [a]) v)
    (hw : schemas.Coerces s [a] w) : v ≠ w := by
  rintro rfl
  obtain ⟨items, rfl, hitems⟩ := hv.forall₂ harray
  obtain ⟨items', heq, hpieces⟩ := hw.forall₂ harray
  obtain rfl := Json.array.inj heq
  have hseveral : Coercion.itemTexts (before ++ [a]) = before ++ [a] := by
    unfold Coercion.itemTexts
    split
    · rename_i h
      rcases List.append_eq_singleton_iff.1 h with ⟨hnil, -⟩ | ⟨-, hnil⟩
      · exact absurd hnil hbefore
      · cases hnil
    · rfl
  rw [hseveral] at hitems
  have hlength : before.length + 1 = a.toList.count ',' + 1 := by
    rw [← length_itemTexts_singleton, hpieces.length_eq, ← hitems.length_eq,
      List.length_append, List.length_singleton]
  have hmem : ',' ∈ a.toList := by
    have hpos := List.length_pos_iff.2 hbefore
    exact List.count_pos_iff.1 (by omega)
  obtain ⟨pieces, last, hlast, hnot⟩ := exists_itemTexts_singleton a
  rw [hlast] at hpieces
  obtain ⟨x, hx, hax⟩ := exists_getLast_of_forall₂ hitems
  obtain ⟨y, hy, hlasty⟩ := exists_getLast_of_forall₂ hpieces
  exact hax.ne_of_comma hmem hnot hlasty (Option.some.inj (hx.symm.trans hy))

end Schemas

namespace Body

variable {schemas : Schemas} {s object p : Schema} {name contentType : String} {t : ContentType}
  {body : List UInt8} {cs : List Char}

/-- The members of a form are its fields, each read by itself. -/
theorem decode_form [Libraries] (ht : ContentType.parse? contentType = some t)
    (hform : t.essence = "application/x-www-form-urlencoded") (hbody : Utf8.decode body = .ok cs) :
    decode schemas (some s) contentType body =
      .ok (.value (formValue schemas (some s) (Percent.pairs '&' (String.ofList cs)))) := by
  obtain rfl := ContentType.eq_form_of_essence ht hform
  have htype : ContentType.form.essence = formType := hform
  simp only [decode, ht, decodeAs]
  rw [if_neg (by decide), if_neg (by decide), if_neg (by decide), if_pos htype, hbody]

/-- The member of a form under the name of a property is the value of the last text there. -/
theorem exists_member?_formValue (hobject : schemas.resolve? s = some object)
    (hproperty : Dict.get? object.properties name = some p) (fields : List (String × String)) :
    ∃ members, formValue schemas (some s) fields = .object members ∧
      Json.member? members name =
        (valuesOf fields name).getLast?.map fun text => schemas.coerce p [text] := by
  refine ⟨_, rfl, ?_⟩
  rw [Json.member?_foldl_insertMember, List.filter_map, ← List.getLast?_map, List.map_map,
    Json.member?, Option.or_none, valuesOf, ← List.getLast?_map, List.map_map]
  congr 1
  refine List.map_congr_left fun f hf => ?_
  have hname : f.1 = name := by simpa using (List.mem_filter.1 hf).2
  simp [formProperties, hobject, hname, hproperty]

/-- **What a form has under the name of an array.**  For every form and every property whose schema
is one of arrays: if the form has texts under the name of the property, then it is read, and the
member of that name is the value of the last text alone.  Where the texts have a value together, as
the texts of a query have it, the member is that value exactly if there is a single text. -/
theorem member?_decode_form [Libraries] (ht : ContentType.parse? contentType = some t)
    (hform : t.essence = "application/x-www-form-urlencoded") (hbody : Utf8.decode body = .ok cs)
    (hobject : schemas.resolve? s = some object)
    (hproperty : Dict.get? object.properties name = some p)
    (harray : (schemas.meant p).primaryType = some .array)
    (hname : valuesOf (Percent.pairs '&' (String.ofList cs)) name ≠ []) :
    ∃ members before last,
      decode schemas (some s) contentType body = .ok (.value (.object members)) ∧
        valuesOf (Percent.pairs '&' (String.ofList cs)) name = before ++ [last] ∧
        Json.member? members name = some (schemas.coerce p [last]) ∧
        ∀ v, schemas.Coerces p (before ++ [last]) v →
          (Json.member? members name = some v ↔ before = []) := by
  obtain ⟨members, hmembers, hmember⟩ :=
    exists_member?_formValue hobject hproperty (Percent.pairs '&' (String.ofList cs))
  obtain ⟨before, last, htexts⟩ : ∃ before last,
      valuesOf (Percent.pairs '&' (String.ofList cs)) name = before ++ [last] :=
    ⟨_, _, (List.dropLast_append_getLast hname).symm⟩
  rw [htexts, List.getLast?_append, List.getLast?_singleton, Option.some_or,
    Option.map_some] at hmember
  refine ⟨members, before, last, ?_, htexts, hmember, fun v hv => ?_⟩
  · rw [decode_form ht hform hbody, hmembers]
  · rw [hmember, Option.some.injEq]
    obtain ⟨w, hw⟩ := hv.exists_of_ne_nil (by simp) [last]
    rw [hw.coerce_eq]
    constructor
    · intro heq
      by_contra hbefore
      exact hv.ne_of_append harray hbefore hw heq.symm
    · rintro rfl
      exact hw.unique hv

/-- The schema of an object whose property is an array of texts. -/
def tagged : Schema :=
  { type := some (.one .object), properties := [("tags", Schemas.tagsSchema)] }

/-- Of two texts under one name the first one is lost. -/
theorem member?_decode_form_twice :
    ∃ members, decode [] (some tagged) "application/x-www-form-urlencoded; charset=utf-8"
        (Utf8.encode "tags=a&tags=b".toList) = .ok (.value (.object members)) ∧
      Json.member? members "tags" = some (.array [.string "b"]) ∧
      Json.member? members "tags" ≠ some (.array [.string "a", .string "b"]) := by
  have ht : ContentType.parse? "application/x-www-form-urlencoded; charset=utf-8" =
      some ContentType.form := by decide +kernel
  have hbody : Utf8.decode (Utf8.encode "tags=a&tags=b".toList) =
      .ok "tags=a&tags=b".toList := by decide +kernel
  have htexts : valuesOf (Percent.pairs '&' (String.ofList "tags=a&tags=b".toList)) "tags" =
      ["a", "b"] := by decide +kernel
  have hobject : Schemas.resolve? [] tagged = some tagged := rfl
  have htwo : Schemas.Coerces [] Schemas.tagsSchema ["a", "b"]
      (.array [.string "a", .string "b"]) := ⟨2, rfl⟩
  have hone : Schemas.Coerces [] Schemas.tagsSchema ["b"] (.array [.string "b"]) := ⟨2, rfl⟩
  obtain ⟨members, before, last, hdecode, hsplit, hmember, hiff⟩ :=
    member?_decode_form ht (by decide +kernel) hbody hobject rfl rfl (by rw [htexts]; simp)
  have htail : ["a"] ++ ["b"] = before ++ [last] := htexts.symm.trans hsplit
  obtain ⟨rfl, hlast⟩ := List.append_inj' htail rfl
  obtain rfl := List.singleton_inj.1 hlast
  refine ⟨members, hdecode, ?_, fun h => ?_⟩
  · rw [hmember, hone.coerce_eq]
  · exact absurd ((hiff _ htwo).1 h) (by simp)

end Body

end ApiContract
