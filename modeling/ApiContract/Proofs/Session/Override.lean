/-
**A policy in an environment.**

Variables of the environment change a policy one after the other, in an order that nobody chose.
Each setting has a variable of its own, so that of variables with distinct names no two change the
same setting.  What becomes of a policy is therefore known from the value of each variable alone,
and so is whether there is a policy at all.

Main definitions:

* `Policy.variableName` — the variable of a setting under a namespace;
* `Policy.spellings` — the texts of a truth value;
* `Policy.Overridden` — a policy in which each setting is what its own variable says.

Main results:

* `Policy.boolOf?_eq_some_iff` — the texts that are truth values;
* `Policy.overrideOne_eq_ok_iff` — what one variable changes;
* `Policy.override_eq_ok_iff` — **what variables with distinct names change**;
* `Policy.override_perm` — **the order of the variables does not matter**.
-/

import ApiContract.Proofs.Text.Casing
import ApiContract.Proofs.Text.Cutting
import ApiContract.Session.Policy
import Mathlib.Tactic.Choose

set_option relaxedAutoImplicit false
set_option autoImplicit false

namespace ApiContract.Policy

/-! ### Variables and their values -/

/-- The variable of a setting under a namespace. -/
def variableName (space setting : String) : String :=
  Text.upperCased space ++ "_" ++ Text.upperCased setting

/-- The texts of a truth value, in lower case. -/
def spellings : Bool → List String
  | true => ["true", "1", "yes", "on"]
  | false => ["false", "0", "no", "off"]

section

variable {s t space name setting : String} {on : Bool}

/-- **The texts that are truth values**, in any case of their letters. -/
theorem boolOf?_eq_some_iff : boolOf? s = some on ↔ Text.lowerCased s ∈ spellings on := by
  have hany : ∀ on, (spellings on).any (Text.equalIgnoringCase s) = true ↔
      Text.lowerCased s ∈ spellings on := by
    intro on
    have hlower : ∀ t ∈ spellings on, Text.lowerCased t = t := by
      cases on <;> decide
    rw [List.any_eq_true]
    constructor
    · rintro ⟨t, ht, heq⟩
      rw [Text.equalIgnoringCase_iff_lowerCased, hlower t ht] at heq
      exact heq ▸ ht
    · intro ht
      exact ⟨_, ht, Text.equalIgnoringCase_iff_lowerCased.2 (hlower _ ht).symm⟩
  have hdisjoint : ∀ t ∈ spellings false, t ∉ spellings true := by decide
  have hcases : boolOf? s = if (spellings true).any (Text.equalIgnoringCase s) then some true
    else if (spellings false).any (Text.equalIgnoringCase s) then some false else none := rfl
  simp only [hcases, hany]
  split
  · rename_i htrue
    cases on with
    | true => exact iff_of_true rfl htrue
    | false => exact iff_of_false (by simp) fun hfalse => hdisjoint _ hfalse htrue
  · rename_i htrue
    cases on with
    | true => exact iff_of_false (by split <;> simp) htrue
    | false => simp

/-- A variable stands for a setting if its name is that of the setting, after the namespace. -/
theorem settingOf?_eq_some_iff :
    settingOf? space name = some setting ↔ name = Text.upperCased space ++ "_" ++ setting := by
  rw [settingOf?, Option.map_eq_some_iff]
  constructor
  · rintro ⟨cs, hcs, rfl⟩
    rw [Text.isPrefixOf?_eq_some_iff] at hcs
    have hchars : (Text.upperCased space ++ "_" ++ String.ofList cs).toList =
        (Text.upperCased space ++ "_").toList ++ cs := by
      rw [String.toList_append, String.toList_ofList]
    rw [← String.toList_inj, hcs, hchars]
  · rintro rfl
    exact ⟨setting.toList, Text.isPrefixOf?_eq_some_iff.2 String.toList_append,
      String.ofList_toList⟩

theorem settingOf?_variableName (space setting : String) :
    settingOf? space (variableName space setting) = some (Text.upperCased setting) :=
  settingOf?_eq_some_iff.2 rfl

/-- Settings have variables of their own. -/
theorem variableName_inj :
    variableName space s = variableName space t ↔ Text.upperCased s = Text.upperCased t := by
  rw [variableName, variableName, String.append_right_inj]

end

/-! ### What one variable changes -/

section

variable {space name value : String} {f g : Flag} {p q : Policy}

theorem upperCased_name_ne (f : Flag) : Text.upperCased f.name ≠ Text.upperCased baseName := by
  cases f <;> decide

theorem variableName_ne_base (f : Flag) :
    variableName space f.name ≠ variableName space baseName :=
  mt variableName_inj.1 (upperCased_name_ne f)

theorem variableName_name_inj (h : variableName space f.name = variableName space g.name) :
    f = g := by
  rw [variableName_inj] at h
  revert h
  cases f <;> cases g <;> decide

theorem find?_flag (f : Flag) :
    (Flag.all.find? fun g => decide (Text.upperCased g.name = Text.upperCased f.name)) =
      some f := by
  cases f <;> decide

theorem overrideOne_base (space : String) (p : Policy) (value : String) :
    overrideOne space p (variableName space baseName, value) = .ok (p.withBase value) := by
  rw [overrideOne, settingOf?_variableName]
  exact if_pos rfl

theorem overrideOne_flag {on : Bool} (p : Policy) (f : Flag) (h : boolOf? value = some on) :
    overrideOne space p (variableName space f.name, value) = .ok (p.set f on) := by
  rw [overrideOne, settingOf?_variableName]
  simp only [if_neg (upperCased_name_ne f), find?_flag, h]

theorem overrideOne_flag_of_none (p : Policy) (f : Flag) (h : boolOf? value = none) :
    overrideOne space p (variableName space f.name, value) =
      .error (.noTruthValue (variableName space f.name)) := by
  rw [overrideOne, settingOf?_variableName]
  simp only [if_neg (upperCased_name_ne f), find?_flag, h]

theorem overrideOne_other (hbase : name ≠ variableName space baseName)
    (hflag : ∀ f : Flag, name ≠ variableName space f.name) (p : Policy) (value : String) :
    overrideOne space p (name, value) = .ok p := by
  unfold overrideOne
  cases hsetting : settingOf? space name with
  | none => rfl
  | some setting =>
      have hname := settingOf?_eq_some_iff.1 hsetting
      have hnobase : setting ≠ Text.upperCased baseName := by
        rintro rfl
        exact hbase hname
      have hnoflag :
          (Flag.all.find? fun f => decide (Text.upperCased f.name = setting)) = none := by
        rw [List.find?_eq_none]
        intro f _ hf
        exact hflag f (hname.trans (by rw [← of_decide_eq_true hf, variableName]))
      simp only [if_neg hnobase, hnoflag]

end

/-! ### What variables change -/

/-- **What variables make of a policy.**  The base path and each flag is what its own variable says
if there is one, and what it was otherwise. -/
structure Overridden (space : String) (vs : Dict String) (p q : Policy) : Prop where
  base : q.base =
    (vs.get? (variableName space baseName)).elim p.base fun value => some (Path.normalizeBase value)
  flag : ∀ f : Flag,
    some (q.get f) = (vs.get? (variableName space f.name)).elim (some (p.get f)) boolOf?
  logging : q.logging = p.logging

section

variable {space name value : String} {vs ws : Dict String} {p p' q : Policy}

/-- A policy is known from its base path, its flags, and whether it logs. -/
theorem eq_of_get (hbase : p.base = q.base) (hflag : ∀ f, p.get f = q.get f)
    (hlogging : p.logging = q.logging) : p = q := by
  obtain ⟨base, a, b, c, d, logging⟩ := p
  obtain ⟨base', a', b', c', d', logging'⟩ := q
  obtain rfl : base = base' := hbase
  obtain rfl : a = a' := hflag .internalErrors
  obtain rfl : b = b' := hflag .checkRequests
  obtain rfl : c = c' := hflag .partialCoverage
  obtain rfl : d = d' := hflag .ignoreUnsupported
  obtain rfl : logging = logging' := hlogging
  rfl

theorem Overridden.unique {q' : Policy} (h : Overridden space vs p q)
    (h' : Overridden space vs p q') : q = q' :=
  eq_of_get (h.base.trans h'.base.symm)
    (fun f => Option.some.inj ((h.flag f).trans (h'.flag f).symm)) (h.logging.trans h'.logging.symm)

theorem overridden_nil_iff : Overridden space [] p q ↔ q = p := by
  constructor
  · intro h
    exact eq_of_get h.base (fun f => Option.some.inj (h.flag f)) h.logging
  · rintro rfl
    exact ⟨rfl, fun _ => rfl, rfl⟩

/-- What one variable says of a setting, and then others of other names, is what they say
together. -/
theorem elim_get?_cons {α : Type} (hname : name ∉ vs.keys) (setting : String) (a : α)
    (reading : String → α) :
    (vs.get? setting).elim ((Dict.get? [(name, value)] setting).elim a reading) reading =
      (Dict.get? ((name, value) :: vs) setting).elim a reading := by
  rw [Dict.get?_cons, Dict.get?_cons, Dict.get?_nil]
  by_cases h : name = setting
  · rw [if_pos h, if_pos h, Dict.get?_eq_none_iff.2 (h ▸ hname)]
    rfl
  · rw [if_neg h, if_neg h]
    rfl

theorem overridden_cons_iff (hname : name ∉ vs.keys) (h : Overridden space [(name, value)] p p') :
    Overridden space vs p' q ↔ Overridden space ((name, value) :: vs) p q := by
  constructor
  · intro hq
    refine ⟨?_, fun f => ?_, hq.logging.trans h.logging⟩
    · rw [hq.base, h.base, elim_get?_cons hname]
    · rw [hq.flag, h.flag, elim_get?_cons hname]
  · intro hq
    refine ⟨?_, fun f => ?_, hq.logging.trans h.logging.symm⟩
    · rw [hq.base, h.base, elim_get?_cons hname]
    · rw [hq.flag, h.flag, elim_get?_cons hname]

/-- Variables make something of a policy exactly if those of flags are truth values. -/
theorem exists_overridden_iff : (∃ q, Overridden space vs p q) ↔
    ∀ f : Flag, ∀ value, vs.get? (variableName space f.name) = some value →
      boolOf? value ≠ none := by
  constructor
  · rintro ⟨q, hq⟩ f value hvalue hnone
    have hflag := hq.flag f
    rw [hvalue, Option.elim_some, hnone] at hflag
    cases hflag
  · intro h
    have hreads : ∀ f : Flag, ∃ on,
        some on = (vs.get? (variableName space f.name)).elim (some (p.get f)) boolOf? := by
      intro f
      cases hvalue : vs.get? (variableName space f.name) with
      | none => exact ⟨p.get f, rfl⟩
      | some value =>
          obtain ⟨on, hon⟩ := Option.ne_none_iff_exists'.1 (h f value hvalue)
          exact ⟨on, hon.symm⟩
    choose reads hreads using hreads
    refine ⟨⟨_, reads .internalErrors, reads .checkRequests, reads .partialCoverage,
      reads .ignoreUnsupported, p.logging⟩, rfl, fun f => ?_, rfl⟩
    cases f <;> exact hreads _

theorem overridden_withBase :
    Overridden space [(variableName space baseName, value)] p (p.withBase value) := by
  refine ⟨?_, fun f => ?_, rfl⟩
  · rw [Dict.get?_cons, if_pos rfl]
    rfl
  · rw [Dict.get?_cons, if_neg (variableName_ne_base f).symm]
    cases f <;> rfl

theorem overridden_set {f : Flag} {on : Bool} (h : boolOf? value = some on) :
    Overridden space [(variableName space f.name, value)] p (p.set f on) := by
  refine ⟨?_, fun g => ?_, ?_⟩
  · rw [Dict.get?_cons, if_neg (variableName_ne_base f)]
    cases f <;> rfl
  · rw [get_set, Dict.get?_cons]
    by_cases hfg : f = g
    · rw [if_pos hfg, if_pos (by rw [hfg]), Option.elim_some, h]
    · rw [if_neg hfg, if_neg (mt variableName_name_inj hfg)]
      rfl
  · cases f <;> rfl

theorem overridden_other (hbase : name ≠ variableName space baseName)
    (hflag : ∀ f : Flag, name ≠ variableName space f.name) :
    Overridden space [(name, value)] p p := by
  refine ⟨?_, fun f => ?_, rfl⟩
  · rw [Dict.get?_cons, if_neg hbase]
    rfl
  · rw [Dict.get?_cons, if_neg (hflag f)]
    rfl

/-- **What one variable changes.** -/
theorem overrideOne_eq_ok_iff :
    overrideOne space p (name, value) = .ok q ↔ Overridden space [(name, value)] p q := by
  have hof : ∀ {p'}, overrideOne space p (name, value) = .ok p' →
      Overridden space [(name, value)] p p' →
      (overrideOne space p (name, value) = .ok q ↔ Overridden space [(name, value)] p q) := by
    intro p' hone h'
    rw [hone, Except.ok.injEq]
    exact ⟨fun heq => heq ▸ h', h'.unique⟩
  by_cases hbase : name = variableName space baseName
  · subst hbase
    exact hof (overrideOne_base space p value) overridden_withBase
  by_cases hflag : ∃ f : Flag, name = variableName space f.name
  · obtain ⟨f, rfl⟩ := hflag
    cases hvalue : boolOf? value with
    | some on => exact hof (overrideOne_flag p f hvalue) (overridden_set hvalue)
    | none =>
        refine iff_of_false ?_ fun h => ?_
        · simp [overrideOne_flag_of_none p f hvalue]
        · refine exists_overridden_iff.1 ⟨q, h⟩ f value ?_ hvalue
          rw [Dict.get?_cons, if_pos rfl]
  · rw [not_exists] at hflag
    exact hof (overrideOne_other hbase hflag p value) (overridden_other hbase hflag)

theorem override_cons_of_ok {v : String × String} (h : overrideOne space p v = .ok p') :
    override space p (v :: vs) = override space p' vs := by
  rw [override, List.foldlM_cons, h]
  rfl

theorem override_cons_of_error {v : String × String} {e : Error}
    (h : overrideOne space p v = .error e) : override space p (v :: vs) = .error e := by
  rw [override, List.foldlM_cons, h]
  rfl

/-- Of variables that make something of a policy the first one does so alone. -/
theorem exists_overridden_one (h : Overridden space ((name, value) :: vs) p q) :
    ∃ p', Overridden space [(name, value)] p p' := by
  refine exists_overridden_iff.2 fun f other hother => exists_overridden_iff.1 ⟨q, h⟩ f other ?_
  rw [Dict.get?_cons] at hother ⊢
  split at hother
  · rename_i hf
    rw [if_pos hf, hother]
  · cases hother

/-- **What variables with distinct names change.** -/
theorem override_eq_ok_iff (h : vs.keys.Nodup) :
    override space p vs = .ok q ↔ Overridden space vs p q := by
  induction vs generalizing p with
  | nil =>
      have hnil : override space p [] = .ok p := rfl
      rw [overridden_nil_iff, hnil, Except.ok.injEq, eq_comm]
  | cons v vs ih =>
      obtain ⟨name, value⟩ := v
      obtain ⟨hname, hvs⟩ := List.nodup_cons.1 h
      cases hone : overrideOne space p (name, value) with
      | ok p' =>
          rw [override_cons_of_ok hone, ih hvs]
          exact overridden_cons_iff hname (overrideOne_eq_ok_iff.1 hone)
      | error e =>
          rw [override_cons_of_error hone]
          refine iff_of_false (by simp) fun hq => ?_
          obtain ⟨p', hp'⟩ := exists_overridden_one hq
          rw [overrideOne_eq_ok_iff.2 hp'] at hone
          cases hone

/-! ### Variables that are no truth values -/

theorem exists_of_overrideOne_eq_error {e : Error}
    (h : overrideOne space p (name, value) = .error e) :
    ∃ f : Flag, name = variableName space f.name ∧ boolOf? value = none ∧
      e = .noTruthValue name := by
  by_cases hflag : ∃ f : Flag, name = variableName space f.name
  · obtain ⟨f, rfl⟩ := hflag
    cases hvalue : boolOf? value with
    | some on =>
        rw [overrideOne_flag p f hvalue] at h
        cases h
    | none =>
        rw [overrideOne_flag_of_none p f hvalue] at h
        cases h
        exact ⟨f, rfl, rfl, rfl⟩
  · rw [not_exists] at hflag
    by_cases hbase : name = variableName space baseName
    · rw [hbase, overrideOne_base] at h
      cases h
    · rw [overrideOne_other hbase hflag] at h
      cases h

/-- **An error names a variable of a flag** whose value is no truth value. -/
theorem exists_of_override_eq_error {e : Error} (h : override space p vs = .error e) :
    ∃ f : Flag, ∃ value, (variableName space f.name, value) ∈ vs ∧ boolOf? value = none ∧
      e = .noTruthValue (variableName space f.name) := by
  induction vs generalizing p with
  | nil => cases h
  | cons v vs ih =>
      obtain ⟨name, value⟩ := v
      cases hone : overrideOne space p (name, value) with
      | error e' =>
          rw [override_cons_of_error hone] at h
          cases h
          obtain ⟨f, rfl, hvalue, rfl⟩ := exists_of_overrideOne_eq_error hone
          exact ⟨f, value, List.mem_cons_self, hvalue, rfl⟩
      | ok p' =>
          rw [override_cons_of_ok hone] at h
          obtain ⟨f, other, hmem, hother⟩ := ih h
          exact ⟨f, other, List.mem_cons_of_mem _ hmem, hother⟩

/-- There is no policy exactly if a flag has a variable that is no truth value. -/
theorem exists_override_eq_error_iff (h : vs.keys.Nodup) :
    (∃ e, override space p vs = .error e) ↔
      ∃ f : Flag, ∃ value, (variableName space f.name, value) ∈ vs ∧
        ∀ on, Text.lowerCased value ∉ spellings on := by
  have hnone : ∀ value, boolOf? value = none ↔ ∀ on, Text.lowerCased value ∉ spellings on := by
    intro value
    simp only [Option.eq_none_iff_forall_ne_some, Ne, boolOf?_eq_some_iff]
  simp only [← hnone]
  constructor
  · rintro ⟨e, he⟩
    obtain ⟨f, value, hmem, hvalue, -⟩ := exists_of_override_eq_error he
    exact ⟨f, value, hmem, hvalue⟩
  · rintro ⟨f, value, hmem, hvalue⟩
    cases hoverride : override space p vs with
    | error e => exact ⟨e, rfl⟩
    | ok q =>
        have hq := (override_eq_ok_iff h).1 hoverride
        exact absurd hvalue
          (exists_overridden_iff.1 ⟨q, hq⟩ f value ((Dict.get?_eq_some_iff_mem h).2 hmem))

/-! ### The order of variables -/

theorem overridden_perm (h : vs.keys.Nodup) (hp : vs.Perm ws) :
    Overridden space ws p q ↔ Overridden space vs p q := by
  have hget := Dict.get?_of_perm hp h
  constructor
  · rintro ⟨hbase, hflag, hlogging⟩
    simp only [← hget] at hbase hflag
    exact ⟨hbase, hflag, hlogging⟩
  · rintro ⟨hbase, hflag, hlogging⟩
    simp only [hget] at hbase hflag
    exact ⟨hbase, hflag, hlogging⟩

/-- **The order of the variables does not matter.**  Variables with distinct names change a policy
in every order to the same policy or in none to any.  There is none exactly if a flag has a variable
whose value is not one of the texts of truth values; and otherwise each setting is what its own
variable says, or what it was if it has none. -/
theorem override_perm (space : String) (p : Policy) (h : (vs.map Prod.fst).Nodup)
    (hp : vs.Perm ws) :
    (((∃ e, override space p vs = .error e) ∧ ∃ e, override space p ws = .error e) ∨
        ∃ q, override space p vs = .ok q ∧ override space p ws = .ok q) ∧
      ((∃ e, override space p vs = .error e) ↔
        ∃ f : Flag, ∃ value, (variableName space f.name, value) ∈ vs ∧
          ∀ on, Text.lowerCased value ∉ spellings on) ∧
      ∀ q, override space p vs = .ok q ↔ Overridden space vs p q := by
  have h' : ws.keys.Nodup := (hp.map Prod.fst).nodup_iff.1 h
  refine ⟨?_, exists_override_eq_error_iff h, fun q => override_eq_ok_iff h⟩
  cases hvs : override space p vs with
  | error e =>
      refine Or.inl ⟨⟨e, rfl⟩, (exists_override_eq_error_iff h').2 ?_⟩
      simp only [← hp.mem_iff]
      exact (exists_override_eq_error_iff h).1 ⟨e, hvs⟩
  | ok q =>
      refine Or.inr ⟨q, rfl, (override_eq_ok_iff h').2 ((overridden_perm h hp).2 ?_)⟩
      exact (override_eq_ok_iff h).1 hvs

/-- The namespace is put in upper case, and so is the setting. -/
example : variableName "tessera" Flag.checkRequests.name = "TESSERA_VALIDATE_REQUESTS" := by decide

/-- Two settings, a variable of no setting, and a variable of another namespace. -/
def mixedVariables : Dict String :=
  [("TESSERA_BASE_PATH", "api/"), ("TESSERA_VALIDATE_REQUESTS", "Yes"), ("TESSERA_COLOUR", "?"),
    ("OTHER_DISABLE_FULL_COVERAGE", "maybe")]

/-- What two settings say is read in both orders, and neither of the other variables is. -/
theorem override_perm_mixed :
    (mixedVariables.map Prod.fst).Nodup ∧ mixedVariables.Perm mixedVariables.reverse ∧
      override "tessera" {} mixedVariables.reverse =
        .ok { base := some "/api", checkRequests := true } := by
  have hnodup : (mixedVariables.map Prod.fst).Nodup := by decide
  have hperm : mixedVariables.Perm mixedVariables.reverse := (List.reverse_perm _).symm
  have hforward : override "tessera" {} mixedVariables =
      .ok { base := some "/api", checkRequests := true } := rfl
  obtain ⟨⟨⟨e, he⟩, -⟩ | ⟨q, hq, hbackward⟩, -, -⟩ := override_perm "tessera" {} hnodup hperm
  · rw [hforward] at he
    cases he
  · rw [hforward] at hq
    cases hq
    exact ⟨hnodup, hperm, hbackward⟩

end

end ApiContract.Policy
