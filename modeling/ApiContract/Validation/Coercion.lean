/-
**Values of parameters.**

Parameters come as texts.  The type that a schema declares says what a text stands for; a text that
cannot be read as that type is kept, and is found wrong when it is checked.

Main definitions:

* `Coercion.scalar` — the value of a text of a given type;
* `Schemas.coerceWithin?` — the value of texts, to a given depth of arrays in arrays;
* `Schemas.coerce?` — the value of texts, to whatever depth they have one;
* `Schemas.coerce` — the value of texts that have one;
* `Reading`, `Schemas.completes` — texts that are to be read, and whether they have values.
-/

import ApiContract.Decimal.Reading
import ApiContract.Document.Schema
import ApiContract.Validation.Check

set_option autoImplicit false

namespace ApiContract

/-- The value that a text of a given type is written for; none if it is not written so. -/
def Coercion.parsed? (text : String) : Option ValueType → Option Json
  | some .integer => (Decimal.readInt64? text.toList).map fun n => .number (.int n)
  | some .number =>
    match Decimal.readFloat? text.toList with
    | some x => if x.isFinite then some (.number (.float x)) else none
    | none => none
  | some .boolean =>
    if text = "true" then some (.bool true)
    else if text = "false" then some (.bool false)
    else none
  | _ => none

/-- The value of a text of a given type: the text itself if it cannot be read. -/
def Coercion.scalar (text : String) (type : Option ValueType) : Json :=
  (parsed? text type).getD (.string text)

/-- The texts of the items of an array: those of a single text are separated by commas. -/
def Coercion.itemTexts : List String → List String
  | [text] => (Text.fields ',' text.toList).map String.ofList
  | texts => texts

namespace Schemas

/-- The value of texts as a schema says, where a limited number of arrays may be inside each other;
none beyond that. -/
def coerceWithin? (schemas : Schemas) : Nat → Schema → List String → Option Json
  | 0, _, _ => none
  | limit + 1, s, texts =>
    let s := (schemas.resolve? s).getD s
    if s.primaryType = some .array then
      match s.items with
      | none => some (.array ((Coercion.itemTexts texts).map .string))
      | some item =>
        ((Coercion.itemTexts texts).mapM fun t => coerceWithin? schemas limit item [t]).map .array
    else some (Coercion.scalar (texts.headD "") s.primaryType)

/-- The number of all schemas inside a schema and inside named schemas.  Arrays inside each other
that are more than these lead around in a circle. -/
def sizeWith (schemas : Schemas) (s : Schema) : Nat :=
  s.size + (schemas.map fun p => p.2.size).foldr (· + ·) 0

/-- The value of texts as a schema says; none if arrays are inside each other without end. -/
def coerce? (schemas : Schemas) (s : Schema) (texts : List String) : Option Json :=
  schemas.coerceWithin? (schemas.sizeWith s + 1) s texts

/-- The value of texts that have one.  Of texts that have none it says nothing: what asks for their
value has no result, as `completes` tells. -/
def coerce (schemas : Schemas) (s : Schema) (texts : List String) : Json :=
  (schemas.coerce? s texts).getD (.string (texts.headD ""))

end Schemas

/-! ### Readings -/

/-- Texts that are to be read as a schema says; there is one at least. -/
structure Reading where
  /-- The schema. -/
  schema : Schema
  /-- The texts. -/
  texts : List String
  texts_ne_nil : texts ≠ []

/-- The texts of a parameter or a header are read if there are any and a schema says how. -/
def Reading.ofTexts (schema : Option Schema) (texts : List String) : List Reading :=
  match schema with
  | some t => if h : texts = [] then [] else [⟨t, texts, h⟩]
  | none => []

/-- Whether all texts have values, so that to read them comes to an end. -/
def Schemas.completes (schemas : Schemas) (readings : List Reading) : Bool :=
  readings.all fun r => (schemas.coerce? r.schema r.texts).isSome

end ApiContract
