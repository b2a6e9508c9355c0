/-
**Content of messages.**

The media type of a message selects one of the media types that a document declares, and says how
the bytes of the body are to be read.

Main definitions:

* `Body.negotiate?` — the declared media type for that of a message;
* `Body.Decoded`, `Body.DecodeError` — what can come of reading a body;
* `Body.decode` — the value of a body;
* `Body.readings`, `Body.decode?` — the texts that are read on the way, and the value of a body if
  they have values.
-/

import ApiContract.Document.Basic
import ApiContract.Http.ContentType
import ApiContract.Json.Parser
import ApiContract.Libraries
import ApiContract.Text.Percent
import ApiContract.Text.Quoted
import ApiContract.Validation.Coercion

set_option autoImplicit false

namespace ApiContract.Body

variable [Libraries]

/-! ### Media types -/

/-- The declared media types with what they stand for; a key that is no media type is passed
over. -/
def declared {β : Type} (content : Dict β) : List (ContentType × String × β) :=
  content.filterMap fun p => (ContentType.parse? p.1).map fun t => (t, p.1, p.2)

/-- The declared media type for that of a message: the same one, else one for all subtypes, else one
for all types; of several the first.  Parameters make no difference. -/
def negotiate? {β : Type} (content : Dict β) (contentType : String) : Option (String × β) :=
  match ContentType.parse? contentType with
  | none => none
  | some actual =>
    let ts := declared content
    let same := ts.find? fun t => t.1.essence = actual.essence
    let partly := ts.find? fun t => t.1.main = actual.main ∧ t.1.sub = "*"
    let any := ts.find? fun t => t.1.main = "*"
    ((same.or partly).or any).map Prod.snd

/-! ### Values -/

/-- What a body is read as. -/
inductive Decoded where
  /-- A value. -/
  | value (v : Json)
  /-- Bytes without structure. -/
  | unstructured

/-- What is wrong with a body that cannot be read. -/
inductive Malformation where
  /-- What should be a media type is none. -/
  | contentType (text : String)
  /-- A structured value is not well-formed. -/
  | json (error : String)
  /-- A text is not. -/
  | text (e : Utf8.Error)
  /-- A form is not. -/
  | form (e : Utf8.Error)

/-- The text of what is wrong. -/
def Malformation.message : Malformation → String
  | .contentType t => "invalid Content-Type " ++ Text.quote t
  | .json e => "invalid JSON body: " ++ e
  | .text e => "body is not valid UTF-8: " ++ e.message
  | .form e => "form body is not valid UTF-8: " ++ e.message

/-- Why a body cannot be read. -/
inductive DecodeError where
  /-- Nothing is known about its media type. -/
  | unsupported (mediaType : String)
  /-- It is not what its media type says. -/
  | malformed (m : Malformation)

/-- The properties that a form may have. -/
def formProperties (schemas : Schemas) (schema : Option Schema) : Dict Schema :=
  match schema.bind schemas.resolve? with
  | some s => s.properties
  | none => []

/-- The value of the fields of a form: each has the type that its property declares, and of fields
with one name the last one counts. -/
def formValue (schemas : Schemas) (schema : Option Schema) (fields : List (String × String)) :
    Json :=
  Json.ofMembers (fields.map fun f =>
    (f.1, match Dict.get? (formProperties schemas schema) f.1 with
      | some p => schemas.coerce p [f.2]
      | none => .string f.2))

/-- The media type of forms. -/
def formType : String := "application/x-www-form-urlencoded"

/-- The value of a body of a given media type. -/
def decodeAs (schemas : Schemas) (schema : Option Schema) (t : ContentType) (body : List UInt8) :
    Except DecodeError Decoded :=
  if t.isJson then
    match Json.ofBytes? body with
    | some v => .ok (.value v)
    | none => .error (.malformed (.json (Libraries.jsonError body)))
  else if t.main = "text" then
    match Utf8.decode body with
    | .ok cs => .ok (.value (.string (String.ofList cs)))
    | .error e => .error (.malformed (.text e))
  else if t.essence = "application/octet-stream" then .ok .unstructured
  else if t.essence = formType then
    match Utf8.decode body with
    | .ok cs => .ok (.value (formValue schemas schema (Percent.pairs '&' (String.ofList cs))))
    | .error e => .error (.malformed (.form e))
  else .error (.unsupported t.essence)

/-- The value of a body under the media type that a message gives. -/
def decode (schemas : Schemas) (schema : Option Schema) (contentType : String)
    (body : List UInt8) : Except DecodeError Decoded :=
  match ContentType.parse? contentType with
  | some t => decodeAs schemas schema t body
  | none => .error (.malformed (.contentType contentType))

/-! ### Values that are read -/

/-- The texts of a form that are read as schemas say: every field that has a property, by itself. -/
def formReadings (schemas : Schemas) (schema : Option Schema) (fields : List (String × String)) :
    List Reading :=
  fields.filterMap fun f =>
    (Dict.get? (formProperties schemas schema) f.1).map fun p =>
      ⟨p, [f.2], List.cons_ne_nil _ _⟩

/-- The texts of a body that are read as schemas say; none but those of a form. -/
def readings (schemas : Schemas) (schema : Option Schema) (contentType : String)
    (body : List UInt8) : List Reading :=
  match ContentType.parse? contentType, Utf8.decode body with
  | some t, .ok cs =>
    if t.essence = formType then
      formReadings schemas schema (Percent.pairs '&' (String.ofList cs))
    else []
  | _, _ => []

/-- The value of a body; none if reading its texts does not come to an end. -/
def decode? (schemas : Schemas) (schema : Option Schema) (contentType : String)
    (body : List UInt8) : Option (Except DecodeError Decoded) :=
  if schemas.completes (readings schemas schema contentType body) then
    some (decode schemas schema contentType body)
  else none

end ApiContract.Body
