/-
**Schemas that give a type, and perhaps a list of values.**

Such a schema is satisfied by the values of the type that are listed.  Where its type is one of a
single text, it reads the first text that it is given as a value of that type.

Main definitions:

* `Schema.ofType` — the schema of a type and of a list of values.

Main results:

* `Schemas.accepts_ofType_iff` — which values satisfy it;
* `Schemas.coerce_ofType` — what it reads.
-/

import ApiContract.Proofs.Validation.Depth
import ApiContract.Validation.Coercion

set_option relaxedAutoImplicit false
set_option autoImplicit false

namespace ApiContract

/-- The schema of a type, where the values may be listed. -/
def Schema.ofType (type : ValueType) (values : Option (List Json)) : Schema :=
  { type := some (.one type), enumValues := values }

/-- Nothing but the list says anything of a value of the type. -/
theorem Schema.holds_ofType_iff [Libraries] {R : Schema → Json → Prop} {type : ValueType}
    {values : Option (List Json)} {v : Json} :
    (Schema.ofType type values).Holds R v ↔
      v.hasType type = true ∧ ∀ ws ∈ values, ∃ w ∈ ws, w.same v = true := by
  constructor
  · intro h
    obtain ⟨k, hk, hv⟩ := h.type _ rfl
    obtain rfl := List.mem_singleton.1 hk
    exact ⟨hv, h.enumValues⟩
  · rintro ⟨htype, hlisted⟩
    refine { type := ?_, enumValues := hlisted, constValue := nofun, string := ?_, number := ?_,
             array := ?_, object := ?_, allOf := nofun, anyOf := ?_, oneOf := ?_, not := nofun }
    · rintro rule ⟨⟩
      exact ⟨type, List.mem_singleton.2 rfl, htype⟩
    · rintro text -
      exact ⟨nofun, nofun, nofun, nofun⟩
    · rintro n -
      exact ⟨nofun, nofun, nofun, nofun, nofun, nofun⟩
    · rintro items -
      exact ⟨⟨nofun, nofun, nofun⟩, nofun⟩
    · rintro members -
      exact ⟨⟨nofun, nofun, nofun⟩, fun m _ => ⟨nofun, nofun, nofun⟩⟩
    · exact fun h => absurd rfl h
    · exact fun h => absurd rfl h

namespace Schemas

variable {schemas : Schemas} {type : ValueType} {values : Option (List Json)} {v : Json}

theorem resolve?_ofType : schemas.resolve? (.ofType type values) = some (.ofType type values) := rfl

/-- **Which values satisfy the schema of a type**: those of the type that are listed. -/
theorem accepts_ofType_iff [Libraries] (hnull : type ≠ .null) :
    schemas.accepts (.ofType type values) v = true ↔
      v.hasType type = true ∧ ∀ ws ∈ values, ∃ w ∈ ws, w.same v = true := by
  have hnotnull : ¬ (v = .null ∧ (Schema.ofType type values).HoldsOfNull) := by
    rintro ⟨-, hflag | ⟨rule, ⟨⟩, hmem⟩⟩
    · cases hflag
    · exact hnull (List.mem_singleton.1 hmem).symm
  rw [accepts, List.isEmpty_iff, violations, check_succ_iff, resolve?_ofType]
  simp only [Option.some.injEq, exists_eq_left', Schema.Accepts, hnotnull, false_or,
    Schema.holds_ofType_iff]

/-- A schema of a type other than arrays reads the first text. -/
theorem coerce_ofType (harray : type ≠ .array) (hnull : type ≠ .null) (texts : List String) :
    schemas.coerce (.ofType type values) texts =
      Coercion.scalar (texts.headD "") (some type) := by
  have hprimary : (Schema.ofType type values).primaryType = some type := by
    simp [Schema.primaryType, Schema.ofType, TypeRule.types, hnull]
  have hcoerce : schemas.coerce? (.ofType type values) texts =
      some (Coercion.scalar (texts.headD "") (some type)) := by
    simp [coerce?, coerceWithin?, resolve?_ofType, hprimary, harray]
  rw [coerce, hcoerce, Option.getD_some]

end Schemas

end ApiContract
