/-
**Schemas.**

A schema describes the values that a message may carry.  Schemas are nested; any of them may be a
reference to a schema that the document names.

Main definitions:

* `ValueType`, `TypeRule`, `ExclusiveBound`, `Extra` — parts of schemas;
* `Schema` — a schema;
* `Schema.children`, `Schema.walk`, `Schema.size` — the schemas directly inside a schema, all of
  them, and their number;
* `Schemas.lookup?`, `Schemas.resolve?` — what references stand for.

Main results:

* `Schema.walk_eq` — a walk visits a schema, then walks through its children.
-/

import ApiContract.Dict
import ApiContract.Json.Basic
import ApiContract.Text.Basic

set_option autoImplicit false

namespace ApiContract

/-! ### Parts of schemas -/

/-- The types of values. -/
inductive ValueType where
  | string | number | integer | boolean | array | object | null
  deriving DecidableEq

namespace ValueType

/-- The types, in the order in which they are numbered. -/
def all : List ValueType := [.string, .number, .integer, .boolean, .array, .object, .null]

/-- The name of a type. -/
def name : ValueType → String
  | .string => "string"
  | .number => "number"
  | .integer => "integer"
  | .boolean => "boolean"
  | .array => "array"
  | .object => "object"
  | .null => "null"

end ValueType

/-- The types that a schema allows: one, or a list of them. -/
inductive TypeRule where
  /-- One type. -/
  | one (t : ValueType)
  /-- Any of several types. -/
  | several (ts : List ValueType)
  deriving DecidableEq

/-- The allowed types. -/
def TypeRule.types : TypeRule → List ValueType
  | .one t => [t]
  | .several ts => ts

/-- An exclusive bound: a flag that makes the plain bound exclusive, or a bound of its own. -/
inductive ExclusiveBound where
  /-- Whether the plain bound is exclusive. -/
  | flag (on : Bool)
  /-- A bound that is exclusive. -/
  | bound (x : Float)

/-- The rule for properties that a schema does not list. -/
inductive Extra (σ : Type) where
  /-- Whether they are allowed. -/
  | allowed (yes : Bool)
  /-- They are allowed if they match a schema. -/
  | matching (schema : σ)

/-! ### Schemas -/

/-- A schema. -/
structure Schema where
  /-- The schema that this one stands for. -/
  reference : Option String := none
  /-- The allowed types. -/
  type : Option TypeRule := none
  /-- The format of strings and numbers. -/
  format : Option String := none
  /-- Whether null is allowed. -/
  nullable : Bool := false
  /-- The allowed values. -/
  enumValues : Option (List Json) := none
  /-- The only allowed value. -/
  constValue : Option Json := none
  /-- The properties of objects. -/
  properties : List (String × Schema) := []
  /-- The properties that objects must have. -/
  required : List String := []
  /-- The rule for properties that are not listed. -/
  additionalProperties : Option (Extra Schema) := none
  /-- The least number of properties. -/
  minProperties : Option Nat := none
  /-- The greatest number of properties. -/
  maxProperties : Option Nat := none
  /-- The items of arrays. -/
  items : Option Schema := none
  /-- The least number of items. -/
  minItems : Option Nat := none
  /-- The greatest number of items. -/
  maxItems : Option Nat := none
  /-- Whether the items of an array must differ. -/
  uniqueItems : Bool := false
  /-- Exactly one of these must match. -/
  oneOf : List Schema := []
  /-- At least one of these must match. -/
  anyOf : List Schema := []
  /-- All of these must match. -/
  allOf : List Schema := []
  /-- This one must not match. -/
  not : Option Schema := none
  /-- The least number. -/
  minimum : Option Float := none
  /-- The greatest number. -/
  maximum : Option Float := none
  /-- The exclusive lower bound. -/
  exclusiveMinimum : Option ExclusiveBound := none
  /-- The exclusive upper bound. -/
  exclusiveMaximum : Option ExclusiveBound := none
  /-- Numbers must be a multiple of this one. -/
  multipleOf : Option Float := none
  /-- The least number of characters of a string. -/
  minLength : Option Nat := none
  /-- The greatest number of characters of a string. -/
  maxLength : Option Nat := none
  /-- The pattern that strings must match. -/
  pattern : Option String := none

namespace Schema

instance : Inhabited Schema := ⟨{}⟩

/-- The first allowed type other than null. -/
def primaryType (s : Schema) : Option ValueType :=
  match s.type with
  | some rule => rule.types.find? fun t => t ≠ .null
  | none => none

/-- Whether null is allowed, by the flag or as a type. -/
def allowsNull (s : Schema) : Bool :=
  s.nullable || s.type.any fun rule => ValueType.null ∈ rule.types

/-- The schema in a rule for other properties. -/
def extraSchemas : Option (Extra Schema) → List Schema
  | some (.matching s) => [s]
  | _ => []

/-- The schemas directly inside a schema, in the order in which they are visited. -/
def children (s : Schema) : List Schema :=
  s.properties.map Prod.snd ++ extraSchemas s.additionalProperties ++ s.items.toList ++
    s.oneOf ++ s.anyOf ++ s.allOf ++ s.not.toList

/-- Schemas inside a schema are smaller. -/
theorem sizeOf_lt_of_mem_children {s c : Schema} (h : c ∈ s.children) : sizeOf c < sizeOf s := by
  obtain ⟨reference, type, format, nullable, enumValues, constValue, properties, required,
    additionalProperties, minProperties, maxProperties, items, minItems, maxItems, uniqueItems,
    oneOf, anyOf, allOf, not, minimum, maximum, exclusiveMinimum, exclusiveMaximum, multipleOf,
    minLength, maxLength, pattern⟩ := s
  simp only [children, List.mem_append, List.mem_map] at h
  rcases h with (((((h | h) | h) | h) | h) | h) | h
  · obtain ⟨⟨k, v⟩, hm, rfl⟩ := h
    have := List.sizeOf_lt_of_mem hm
    simp at this ⊢
    omega
  · match additionalProperties, h with
    | some (.matching t), h =>
      simp [extraSchemas] at h
      subst h
      simp
      omega
  · match items, h with
    | some t, h =>
      simp at h
      subst h
      simp
      omega
  · have := List.sizeOf_lt_of_mem h
    simp at this ⊢
    omega
  · have := List.sizeOf_lt_of_mem h
    simp at this ⊢
    omega
  · have := List.sizeOf_lt_of_mem h
    simp at this ⊢
    omega
  · match not, h with
    | some t, h =>
      simp at h
      subst h
      simp
      omega

/-- The schema and all schemas inside it, each before those inside it. -/
def walk (s : Schema) : List Schema :=
  s :: s.children.attach.flatMap fun c => walk c.1
termination_by sizeOf s
decreasing_by exact sizeOf_lt_of_mem_children c.2

/-- A walk visits a schema, then walks through its children. -/
theorem walk_eq (s : Schema) : s.walk = s :: s.children.flatMap walk := by
  rw [walk]
  simp [List.flatMap_subtype]

/-- The number of schemas in a schema. -/
def size (s : Schema) : Nat := s.walk.length

end Schema

/-! ### References -/

/-- The schemas that a document names. -/
abbrev Schemas := Dict Schema

namespace Schemas

/-- How references to named schemas begin. -/
def referenceStart : String := "#/components/schemas/"

/-- The name that follows in a reference, where `~1` stands for a slash and `~0` for a tilde. -/
def unescapedName (cs : List Char) : String :=
  String.ofList (Text.replaceAll ['~', '0'] ['~'] (Text.replaceAll ['~', '1'] ['/'] cs))

/-- The schema that a reference names. -/
def lookup? (schemas : Schemas) (reference : String) : Option Schema :=
  match referenceStart.toList.isPrefixOf? reference.toList with
  | some name => Dict.get? schemas (unescapedName name)
  | none => none

/-- The number of references that are followed one after the other. -/
def maxHops : Nat := 64

/-- Follow references from a schema, at most as many as there are hops. -/
def resolveWithin? (schemas : Schemas) : Nat → Schema → Option Schema
  | 0, _ => none
  | hops + 1, s =>
    match s.reference with
    | none => some s
    | some r =>
      match lookup? schemas r with
      | some t => resolveWithin? schemas hops t
      | none => none

/-- The schema that a schema stands for; none for a reference to something else, for a missing
target and for references in a circle. -/
def resolve? (schemas : Schemas) (s : Schema) : Option Schema := resolveWithin? schemas maxHops s

end Schemas

end ApiContract
