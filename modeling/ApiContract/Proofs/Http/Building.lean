/-
**What messages are built of.**

A message is built of texts: a method, a target, and headers with their values.  What is no token is
refused as a method or as the name of a header, a target with a blank in it is refused, and so is a
value with a control character.  So every line of a message ends where it seems to end.

Main definitions:

* `Http.Headers.AreBuilt`, `Http.Request.IsBuilt` — what the building of a message sees to;
* `Http.Headers.EachBuilt` — the same of each name with all its values.

Main results:

* `Http.Uri.not_mem_text_of_ofString?` — no target has a blank in it;
* `Http.Headers.areBuilt_of_ofList?` — names are tokens, and no line ends inside a value;
* `Http.Request.isBuilt_of_ofString?` — **every request that is built is as it has to be**.
-/

import ApiContract.Http.Message
import ApiContract.Proofs.Text.Casing

set_option relaxedAutoImplicit false
set_option autoImplicit false

namespace ApiContract

/-- What holds of all entries holds of them after an insertion if it holds of the new one. -/
theorem Dict.forall_mem_insert {α : Type} {P : String × α → Prop} {d : Dict α} {key : String}
    {value : α} (hd : ∀ p ∈ d, P p) (h : P (key, value)) : ∀ p ∈ d.insert key value, P p := by
  induction d with
  | nil => exact List.forall_mem_singleton.2 h
  | cons first d ih =>
      obtain ⟨k, v⟩ := first
      rw [List.forall_mem_cons] at hd
      unfold Dict.insert
      split
      · rename_i hk
        exact List.forall_mem_cons.2 ⟨hk ▸ h, hd.2⟩
      · exact List.forall_mem_cons.2 ⟨hd.1, ih hd.2⟩

namespace Http

/-! ### What is seen to -/

/-- Names are tokens, and no line ends inside a value. -/
structure Headers.AreBuilt (h : Headers) : Prop where
  name : ∀ f ∈ h.toList, isToken f.1 = true
  line : ∀ f ∈ h.toList, 13 ∉ f.2

/-- The method is a token, no blank stands in the target, and the headers are as they have to be. -/
structure Request.IsBuilt (r : Request) : Prop where
  method : isToken r.method.name = true
  target : ' ' ∉ r.uri.text.toList
  headers : r.headers.AreBuilt

/-! ### Targets -/

namespace Uri

/-- No host has a blank in it. -/
theorem not_mem_of_isHost {cs : List Char} (h : isHost cs = true) : ' ' ∉ cs := by
  have hblank : ∀ s : HostState, s.next? ' ' = none := fun s => rfl
  have hnone : ∀ s : HostState, ' ' ∈ cs → cs.foldlM HostState.next? s = none := by
    clear h
    induction cs with
    | nil => exact fun s hmem => absurd hmem List.not_mem_nil
    | cons c cs ih =>
        intro s hmem
        rw [List.foldlM_cons]
        rcases List.mem_cons.1 hmem with rfl | hmem
        · rw [hblank]
          rfl
        · cases s.next? c with
          | none => rfl
          | some s' => exact ih s' hmem
  intro hmem
  rw [isHost, hnone {} hmem] at h
  cases h

/-- No part of a text that is taken by a class without the blank has one in it. -/
theorem not_mem_takeWhile {p : Char → Bool} (hp : p ' ' = false) (cs : List Char) :
    ' ' ∉ cs.takeWhile p := by
  intro hmem
  rw [List.all_eq_true.1 List.all_takeWhile ' ' hmem] at hp
  cases hp

theorem not_mem_of_splitPath? {cs : List Char} {p : String × Option String}
    (h : splitPath? cs = some p) : ' ' ∉ p.1.toList ∧ ∀ q ∈ p.2, ' ' ∉ q.toList := by
  have hpath : ' ' ∉ (String.ofList (cs.takeWhile isPathChar)).toList := by
    rw [String.toList_ofList]
    exact not_mem_takeWhile rfl cs
  have hquery : ∀ rest : List Char,
      ' ' ∉ (String.ofList (rest.takeWhile isQueryChar)).toList := by
    intro rest
    rw [String.toList_ofList]
    exact not_mem_takeWhile rfl rest
  unfold splitPath? at h
  simp only at h
  split at h
  · cases h
    exact ⟨hpath, nofun⟩
  · cases h
    exact ⟨hpath, nofun⟩
  · split at h
    · cases h
      exact ⟨hpath, by rintro q ⟨⟩; exact hquery _⟩
    · cases h
      exact ⟨hpath, by rintro q ⟨⟩; exact hquery _⟩
    · cases h
  · cases h

theorem not_mem_of_splitScheme? {cs rest : List Char} {scheme : String}
    (h : splitScheme? cs = some (some scheme, rest)) : ' ' ∉ scheme.toList := by
  unfold splitScheme? at h
  simp only at h
  split at h
  · split at h
    · cases h
    · cases h
      unfold normalScheme
      split
      · decide
      split
      · decide
      · rw [String.toList_ofList]
        exact not_mem_takeWhile rfl cs
  · cases h

theorem not_mem_text {u : Uri} (hscheme : ∀ scheme ∈ u.scheme, ' ' ∉ scheme.toList)
    (hauthority : ' ' ∉ u.authority.toList) (hpath : ' ' ∉ u.path.toList)
    (hquery : ∀ query ∈ u.query, ' ' ∉ query.toList) : ' ' ∉ u.text.toList := by
  simp only [text, String.toList_append, List.mem_append, not_or]
  refine ⟨⟨⟨?_, hauthority⟩, hpath⟩, ?_⟩
  · split
    · rename_i scheme hs
      rw [String.toList_append, List.mem_append, not_or]
      exact ⟨hscheme scheme hs, by decide⟩
    · decide
  · split
    · rename_i query hq
      rw [String.toList_append, List.mem_append, not_or]
      exact ⟨by decide, hquery query hq⟩
    · decide

/-- **No target has a blank in it.** -/
theorem not_mem_text_of_ofString? {s : String} {u : Uri} (h : ofString? s = some u) :
    ' ' ∉ u.text.toList := by
  have hempty : ' ' ∉ "".toList := by decide
  have hhost : ∀ {cs : List Char}, isHost cs = true → ' ' ∉ (String.ofList cs).toList := by
    intro cs hcs
    rw [String.toList_ofList]
    exact not_mem_of_isHost hcs
  unfold ofString? at h
  split at h
  · cases h
  unfold ofChars? at h
  split at h
  · cases h
  split at h
  · cases h
    decide
  split at h
  -- a path alone, a host alone, and a full address
  · obtain ⟨p, hp, rfl⟩ := Option.map_eq_some_iff.1 h
    obtain ⟨hpath, hquery⟩ := not_mem_of_splitPath? hp
    exact not_mem_text nofun hempty hpath hquery
  split at h
  · cases h
  · split at h
    · cases h
    · rename_i hrest
      cases h
      simp only [Bool.or_eq_true, Bool.not_eq_true', not_or, Bool.not_eq_false] at hrest
      exact not_mem_text nofun (hhost hrest.2) hempty nofun
  · rename_i scheme rest hscheme
    dsimp only at h
    split at h
    · cases h
    · rename_i hrest
      simp only [Bool.or_eq_true, Bool.not_eq_true', not_or, Bool.not_eq_false] at hrest
      obtain ⟨p, hp, rfl⟩ := Option.map_eq_some_iff.1 h
      obtain ⟨hpath, hquery⟩ := not_mem_of_splitPath? hp
      refine not_mem_text ?_ (hhost hrest.2) ?_ hquery
      · rintro scheme' ⟨⟩
        exact not_mem_of_splitScheme? hscheme
      · dsimp only
        split
        · decide
        · exact hpath

end Uri

/-! ### Headers -/

namespace Headers

theorem isTokenChar_lowerAscii {c : Char} (h : isTokenChar c = true) :
    isTokenChar (Text.lowerAscii c) = true := by
  rcases Text.lowerAscii_cases c with hc | ⟨hlow, hhigh, hc⟩
  · rw [hc]
    exact h
  · have hletter : 'a' ≤ Text.lowerAscii c ∧ Text.lowerAscii c ≤ 'z' := by
      constructor
      · exact show 97 ≤ (Text.lowerAscii c).toNat by omega
      · exact show (Text.lowerAscii c).toNat ≤ 122 by omega
    simp [isTokenChar, hletter]

theorem isToken_lowerCased {s : String} (h : isToken s = true) :
    isToken (Text.lowerCased s) = true := by
  simp only [isToken, Bool.and_eq_true, decide_eq_true_eq, List.all_eq_true] at h ⊢
  refine ⟨?_, fun c hc => ?_⟩
  · intro hnil
    have := congrArg String.toList hnil
    rw [Text.lowerCased, String.toList_ofList] at this
    exact h.1 (String.toList_eq_nil_iff.1 (List.map_eq_nil_iff.1 this))
  · rw [Text.lowerCased, String.toList_ofList] at hc
    obtain ⟨d, hd, rfl⟩ := List.mem_map.1 hc
    exact isTokenChar_lowerAscii (h.2 d hd)

/-- Each name is a token, and no line ends inside any of its values. -/
def EachBuilt (h : Headers) : Prop := ∀ f ∈ h, isToken f.1 = true ∧ ∀ value ∈ f.2, 13 ∉ value

theorem EachBuilt.areBuilt {h : Headers} (hh : h.EachBuilt) : h.AreBuilt := by
  have hfield : ∀ f ∈ h.toList, ∃ entry ∈ h, f.1 = entry.1 ∧ f.2 ∈ entry.2 := by
    intro f hf
    obtain ⟨entry, hentry, hf⟩ := List.mem_flatMap.1 hf
    obtain ⟨value, hvalue, rfl⟩ := List.mem_map.1 hf
    exact ⟨entry, hentry, rfl, hvalue⟩
  constructor
  · intro f hf
    obtain ⟨entry, hentry, hname, -⟩ := hfield f hf
    exact hname ▸ (hh entry hentry).1
  · intro f hf
    obtain ⟨entry, hentry, -, hvalue⟩ := hfield f hf
    exact (hh entry hentry).2 f.2 hvalue

/-- Adding a value to a name keeps them so. -/
theorem EachBuilt.add {h : Headers} (hh : h.EachBuilt) {name : String} {value : List UInt8}
    (hname : isToken name = true) (hvalue : 13 ∉ value) : (h.add name value).EachBuilt := by
  refine Dict.forall_mem_insert hh ⟨isToken_lowerCased hname, ?_⟩
  intro v hv
  rcases List.mem_append.1 hv with hv | hv
  · cases hfound : Dict.get? h (Text.lowerCased name) with
    | none => simp [hfound] at hv
    | some values =>
        rw [hfound, Option.getD_some] at hv
        exact (hh _ (Dict.mem_of_get? hfound)).2 v hv
  · exact List.mem_singleton.1 hv ▸ hvalue

/-- **Names are tokens, and no line ends inside a value.** -/
theorem areBuilt_of_ofList? {fields : List (String × List UInt8)} {h : Headers}
    (hfields : ofList? fields = some h) : h.AreBuilt := by
  unfold ofList? at hfields
  split at hfields
  · rename_i hall
    cases hfields
    simp only [List.all_eq_true, Bool.and_eq_true] at hall
    refine EachBuilt.areBuilt ?_
    refine List.foldlRecOn (motive := EachBuilt) fields _ nofun fun h hh f hf => ?_
    obtain ⟨hname, hvalue⟩ := hall f hf
    simp only [isName, Bool.and_eq_true] at hname
    exact hh.add hname.1 fun hreturn =>
      absurd (List.all_eq_true.1 hvalue 13 hreturn) (by decide)
  · cases hfields

end Headers

/-! ### Requests -/

/-- **Every request that is built is as it has to be.** -/
theorem Request.isBuilt_of_ofString? {r : Request} {method target : String}
    {fields : List (String × List UInt8)} (hmethod : Method.ofString? method = some r.method)
    (htarget : Uri.ofString? target = some r.uri)
    (hheaders : Headers.ofList? fields = some r.headers) : r.IsBuilt where
  method := by
    unfold Method.ofString? at hmethod
    split at hmethod
    · rename_i htoken
      rw [← Option.some.inj hmethod]
      exact htoken
    · cases hmethod
  target := Uri.not_mem_text_of_ofString? htarget
  headers := Headers.areBuilt_of_ofList? hheaders

end Http

end ApiContract
