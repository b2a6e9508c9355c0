/-
**Checking values against schemas.**

A value is checked keyword by keyword, and everything that is wrong is reported.  A value of a wrong
type is not checked further.  References are followed where they are met; as they may lead back to
the schema that they are in, the depth of the nesting is limited, and what lies beyond the limit
is a violation.

Main definitions:

* `Schema.check` — the violations of a schema by a value, to a given depth;
* `Schemas.violations` — the same, to the usual depth;
* `Schemas.accepts` — whether there are none.
-/

import ApiContract.Libraries
import ApiContract.Validation.Format
import ApiContract.Validation.Violation

set_option autoImplicit false

namespace ApiContract

variable [Libraries]

/-! ### Types of values -/

namespace Json

/-- Whether a value is null. -/
def isNull : Json → Bool
  | .null => true
  | _ => false

/-- Whether a number has no fraction. -/
def Number.isWhole : Number → Bool
  | .int _ => true
  | .float x => x.isFinite && x.floor == x

/-- Whether a value has a type; a number without fraction is an integer. -/
def hasType (v : Json) : ValueType → Bool
  | .string => match v with | .string _ => true | _ => false
  | .number => match v with | .number _ => true | _ => false
  | .integer => match v with | .number n => n.isWhole | _ => false
  | .boolean => match v with | .bool _ => true | _ => false
  | .array => match v with | .array _ => true | _ => false
  | .object => match v with | .object _ => true | _ => false
  | .null => v.isNull

/-- What a value is called in messages. -/
def typeName : Json → String
  | .null => "null"
  | .bool _ => "boolean"
  | .number (.int _) => "integer"
  | .number (.float _) => "number"
  | .string _ => "string"
  | .array _ => "array"
  | .object _ => "object"

end Json

/-! ### Multiples -/

/-- The arithmetic in which multiples are decided. -/
structure Arithmetic (ν : Type) where
  /-- Whether a number is positive. -/
  isPositive : ν → Bool
  /-- The quotient of two numbers. -/
  quotient : ν → ν → ν
  /-- The distance from a number to the nearest integer. -/
  distance : ν → ν
  /-- Whether a distance is too large to be an error of rounding. -/
  isLarge : ν → Bool

/-- Whether a number is a multiple of a divisor, which need be positive: the quotient is near an
integer. -/
def Arithmetic.isMultiple {ν : Type} (a : Arithmetic ν) (n divisor : ν) : Bool :=
  !a.isPositive divisor || !a.isLarge (a.distance (a.quotient n divisor))

/-- The arithmetic of floating-point numbers. -/
def Arithmetic.floating : Arithmetic Float where
  isPositive d := d > 0.0
  quotient n d := n / d
  distance q := (q - q.round).abs
  isLarge e := e > 1e-9

namespace Schema

open Violation (Reason here under)

/-! ### What is wrong with the value itself -/

/-- A type that is not allowed. -/
def typeFaults (s : Schema) (v : Json) : List Reason :=
  match s.type with
  | some rule => if rule.types.any v.hasType then [] else [.wrongType rule.types v.typeName]
  | none => []

/-- A value that is not listed. -/
def enumFaults (s : Schema) (v : Json) : List Reason :=
  match s.enumValues with
  | some values => if values.any fun w => w.same v then [] else [.notListed v]
  | none => []

/-- A value other than the constant. -/
def constFaults (s : Schema) (v : Json) : List Reason :=
  match s.constValue with
  | some w => if w.same v then [] else [.notConstant w v]
  | none => []

/-- A string that does not match the pattern, or a pattern that is none. -/
def patternFaults (s : Schema) (text : String) : List Reason :=
  match s.pattern with
  | some p =>
    match Libraries.compilePattern p with
    | .ok found => if found text then [] else [.noMatch p]
    | .error fault => [.invalidPattern p fault]
  | none => []

/-- What is wrong with a string. -/
def stringFaults (s : Schema) (text : String) : List Reason :=
  (match s.minLength with
   | some n => if text.length < n then [.shorterThan n] else []
   | none => []) ++
  (match s.maxLength with
   | some n => if n < text.length then [.longerThan n] else []
   | none => []) ++
  s.patternFaults text ++
  (match s.format with
   | some f => if Format.accepts f text then [] else [.wrongFormat f]
   | none => [])

/-- Whether a flag makes the plain bound exclusive. -/
def isExclusive : Option ExclusiveBound → Bool
  | some (.flag on) => on
  | _ => false

/-- What is wrong with a number at its lower bounds. -/
def minimumFaults (s : Schema) (x : Float) : List Reason :=
  match s.minimum with
  | some m =>
    if isExclusive s.exclusiveMinimum then (if x ≤ m then [.notGreater m] else [])
    else (if x < m then [.lessThan m] else [])
  | none => []

/-- What is wrong with a number at its upper bounds. -/
def maximumFaults (s : Schema) (x : Float) : List Reason :=
  match s.maximum with
  | some m =>
    if isExclusive s.exclusiveMaximum then (if x ≥ m then [.notLess m] else [])
    else (if x > m then [.greaterThan m] else [])
  | none => []

/-- What is wrong with a number at the bounds that are exclusive by themselves. -/
def exclusiveFaults (s : Schema) (x : Float) : List Reason :=
  (match s.exclusiveMinimum with
   | some (.bound m) => if x ≤ m then [.notGreater m] else []
   | _ => []) ++
  (match s.exclusiveMaximum with
   | some (.bound m) => if x ≥ m then [.notLess m] else []
   | _ => [])

/-- A number that is no multiple. -/
def multipleFaults (s : Schema) (x : Float) : List Reason :=
  match s.multipleOf with
  | some d => if Arithmetic.floating.isMultiple x d then [] else [.noMultiple d]
  | none => []

/-- A number that does not fit 32 bits though its format says so. -/
def int32Faults (s : Schema) (x : Float) : List Reason :=
  if s.primaryType = some .integer ∧ s.format = some "int32" ∧
      (x < -2147483648.0 ∨ x > 2147483647.0) then [.notInt32] else []

/-- What is wrong with a number. -/
def numberFaults (s : Schema) (x : Float) : List Reason :=
  s.minimumFaults x ++ s.maximumFaults x ++ s.exclusiveFaults x ++ s.multipleFaults x ++
    s.int32Faults x

/-- What is wrong with a string or a number. -/
def scalarFaults (s : Schema) : Json → List Reason
  | .string text => s.stringFaults text
  | .number n => s.numberFaults n.toFloat
  | _ => []

/-- Whether an item equals a later one. -/
def hasEqualItems : List Json → Bool
  | [] => false
  | v :: vs => vs.any (fun w => v.same w) || hasEqualItems vs

/-- What is wrong with an array, apart from its items. -/
def arrayFaults (s : Schema) (items : List Json) : List Reason :=
  (match s.minItems with
   | some n => if items.length < n then [.fewItems n] else []
   | none => []) ++
  (match s.maxItems with
   | some n => if n < items.length then [.manyItems n] else []
   | none => []) ++
  (if s.uniqueItems && hasEqualItems items then [.equalItems] else [])

/-- What is wrong with an object, apart from its properties. -/
def objectFaults (s : Schema) (members : List (String × Json)) : List Reason :=
  (s.required.filter fun name => (Json.member? members name).isNone).map .missing ++
  (match s.minProperties with
   | some n => if members.length < n then [.fewProperties] else []
   | none => []) ++
  (match s.maxProperties with
   | some n => if n < members.length then [.manyProperties] else []
   | none => [])

/-! ### What is wrong with its parts -/

section

variable (inside : Schema → Json → List Violation)

/-- What is wrong with the items of an array, numbered from a position. -/
def itemViolations (item : Schema) : Nat → List Json → List Violation
  | _, [] => []
  | n, v :: vs => (inside item v).map (under (.index n)) ++ itemViolations item (n + 1) vs

/-- What is wrong with a member of an object. -/
def memberViolations (s : Schema) (member : String × Json) : List Violation :=
  (match Dict.get? s.properties member.1 with
   | some p => inside p member.2
   | none =>
     match s.additionalProperties with
     | some (.allowed false) => [here .extraProperty]
     | some (.matching extra) => inside extra member.2
     | _ => []).map (under (.name member.1))

/-- What is wrong with the parts of a value. -/
def partViolations (s : Schema) : Json → List Violation
  | .array items =>
    (s.arrayFaults items).map here ++
      (match s.items with
       | some item => itemViolations inside item 0 items
       | none => [])
  | .object members =>
    (s.objectFaults members).map here ++ members.flatMap (s.memberViolations inside)
  | _ => []

/-- Whether a value matches a schema. -/
def matchesInside (v : Json) (s : Schema) : Bool := (inside s v).isEmpty

/-- What is wrong with a value as a choice of schemas. -/
def choiceFaults (s : Schema) (v : Json) : List Reason :=
  (if !s.anyOf.isEmpty && !s.anyOf.any (matchesInside inside v) then [.noneMatches] else []) ++
  (let count := s.oneOf.countP (matchesInside inside v)
   if !s.oneOf.isEmpty && count ≠ 1 then [.matchCount count] else []) ++
  (match s.not with
   | some t => if matchesInside inside v t then [.forbidden] else []
   | none => [])

/-- What is wrong with a value that has an allowed type. -/
def valueViolations (s : Schema) (v : Json) : List Violation :=
  (s.enumFaults v ++ s.constFaults v ++ s.scalarFaults v).map here ++
    s.partViolations inside v ++
    s.allOf.flatMap (fun t => inside t v) ++
    (s.choiceFaults inside v).map here

end

/-! ### Everything that is wrong -/

/-- The violations of a schema by a value, where `limit` schemas may be inside each other. -/
def check (schemas : Schemas) : Nat → Schema → Json → List Violation
  | 0, _, _ => [here .tooDeep]
  | limit + 1, s, v =>
    match schemas.resolve? s with
    | none => [here (.unresolvable (s.reference.getD ""))]
    | some s =>
      if v.isNull && s.allowsNull then []
      else if !(s.typeFaults v).isEmpty then (s.typeFaults v).map here
      else s.valueViolations (check schemas limit) v

end Schema

namespace Schemas

/-- The depth to which schemas may be inside the schema that is checked. -/
def maxDepth : Nat := 64

/-- The violations of a schema by a value. -/
def violations (schemas : Schemas) (s : Schema) (v : Json) : List Violation :=
  s.check schemas (maxDepth + 1) v

/-- Whether a value satisfies a schema. -/
def accepts (schemas : Schemas) (s : Schema) (v : Json) : Bool := (schemas.violations s v).isEmpty

end Schemas

end ApiContract
