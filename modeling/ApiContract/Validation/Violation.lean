/-
**Violations of schemas.**

A violation says where in a value something is wrong, and what.

Main definitions:

* `Violation.Step` — one step from a value to a part of it;
* `Violation.Reason` — what is wrong, with `Reason.message`;
* `Violation` — a path into the value with a reason;
* `Violation.location` — the text of the path, after the name of the value.
-/

import ApiContract.Decimal.Layout
import ApiContract.Document.Schema
import ApiContract.Tree

set_option autoImplicit false

namespace ApiContract

namespace Violation

/-- A step from a value to a part of it. -/
inductive Step where
  /-- To an item of an array. -/
  | index (n : Nat)
  /-- To a member of an object. -/
  | name (s : String)
  deriving DecidableEq

/-- The text of a path after a step: names are separated by points, but not from nothing. -/
def Step.after (path : String) : Step → String
  | .index n => path ++ "[" ++ toString n ++ "]"
  | .name s => if path = "" then s else path ++ "." ++ s

/-- What is wrong with a value. -/
inductive Reason where
  /-- The schemas are nested too deeply. -/
  | tooDeep
  /-- A reference leads to no schema. -/
  | unresolvable (reference : String)
  /-- The value has none of the allowed types. -/
  | wrongType (expected : List ValueType) (actual : String)
  /-- It is none of the allowed values. -/
  | notListed (value : Json)
  /-- It is not the only allowed value. -/
  | notConstant (expected actual : Json)
  /-- A string is too short. -/
  | shorterThan (least : Nat)
  /-- A string is too long. -/
  | longerThan (most : Nat)
  /-- A string does not match a pattern. -/
  | noMatch (pattern : String)
  /-- The pattern for a string is none. -/
  | invalidPattern (pattern fault : String)
  /-- A string does not have a format. -/
  | wrongFormat (format : String)
  /-- A number is not greater than a bound. -/
  | notGreater (bound : Float)
  /-- A number is less than a bound. -/
  | lessThan (bound : Float)
  /-- A number is not less than a bound. -/
  | notLess (bound : Float)
  /-- A number is greater than a bound. -/
  | greaterThan (bound : Float)
  /-- A number is no multiple of a divisor. -/
  | noMultiple (divisor : Float)
  /-- An integer does not fit 32 bits. -/
  | notInt32
  /-- An array has too few items. -/
  | fewItems (least : Nat)
  /-- An array has too many items. -/
  | manyItems (most : Nat)
  /-- Two items of an array are equal. -/
  | equalItems
  /-- An object lacks a property. -/
  | missing (property : String)
  /-- An object has too few properties. -/
  | fewProperties
  /-- An object has too many properties. -/
  | manyProperties
  /-- A property is not allowed. -/
  | extraProperty
  /-- No schema of a choice matches. -/
  | noneMatches
  /-- Not exactly one schema of a choice matches. -/
  | matchCount (count : Nat)
  /-- A forbidden schema matches. -/
  | forbidden

/-- The text of a reason. -/
def Reason.message : Reason → String
  | .tooDeep => "schema nesting too deep"
  | .unresolvable r => "unresolvable schema reference " ++ r
  | .wrongType expected actual =>
    "expected " ++ Text.joined " or " (expected.map ValueType.name) ++ ", got " ++ actual
  | .notListed v => "value " ++ v.compact ++ " is not one of the allowed values"
  | .notConstant expected actual =>
    "expected constant " ++ expected.compact ++ ", got " ++ actual.compact
  | .shorterThan n => "string shorter than minLength " ++ toString n
  | .longerThan n => "string longer than maxLength " ++ toString n
  | .noMatch p => "string does not match pattern " ++ p
  | .invalidPattern p fault => "invalid pattern " ++ p ++ ": " ++ fault
  | .wrongFormat f => "string is not a valid " ++ f
  | .notGreater x => "value must be greater than " ++ Decimal.inMessage x
  | .lessThan x => "value must be at least " ++ Decimal.inMessage x
  | .notLess x => "value must be less than " ++ Decimal.inMessage x
  | .greaterThan x => "value must be at most " ++ Decimal.inMessage x
  | .noMultiple x => "value must be a multiple of " ++ Decimal.inMessage x
  | .notInt32 => "value does not fit in int32"
  | .fewItems n => "array has fewer than " ++ toString n ++ " items"
  | .manyItems n => "array has more than " ++ toString n ++ " items"
  | .equalItems => "array items are not unique"
  | .missing s => "missing required property '" ++ s ++ "'"
  | .fewProperties => "object has too few properties"
  | .manyProperties => "object has too many properties"
  | .extraProperty => "additional property is not allowed"
  | .noneMatches => "value does not match any schema in anyOf"
  | .matchCount n => "value matches " ++ toString n ++ " schemas in oneOf, expected exactly 1"
  | .forbidden => "value must not match the schema in not"

end Violation

/-- Something wrong in a value. -/
structure Violation where
  /-- The steps to where it is. -/
  path : List Violation.Step
  /-- What it is. -/
  reason : Violation.Reason

namespace Violation

/-- Something wrong with the value itself. -/
def here (c : Reason) : Violation := ⟨[], c⟩

/-- The violation seen from one step before. -/
def under (s : Step) (v : Violation) : Violation := { v with path := s :: v.path }

/-- The text of the path, after the name of the value. -/
def location (root : String) (v : Violation) : String := v.path.foldl Step.after root

/-- The text of what is wrong. -/
def message (v : Violation) : String := v.reason.message

end Violation

end ApiContract
