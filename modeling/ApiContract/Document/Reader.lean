/-
**Documents from trees.**

Every object of a document is a record with known fields: the fields that the library does not need
are passed over, fields that are left out have a default, and no field may occur twice.  Where a
field may hold values of different types, the type is that of the value itself.

Main definitions:

* `Schema.ofTree?` — a schema;
* `Document.ofTree?` — a document.
-/

import ApiContract.Document.Basic
import ApiContract.Document.Readable

set_option autoImplicit false

namespace ApiContract

/-! ### Parts of schemas -/

/-- A type by its name. -/
def ValueType.ofTree? {α : Type} [Readable α] (t : Tree α) : Option ValueType :=
  (t.choice? (all.map name)).bind fun s => all.find? fun v => v.name = s

/-- A type, or a list of types. -/
def TypeRule.ofTree? (t : Tree Atom) : Option TypeRule :=
  match ValueType.ofTree? t with
  | some v => some (.one v)
  | none => (t.list? ValueType.ofTree?).map .several

/-- A flag, or a bound. -/
def ExclusiveBound.ofTree? (t : Tree Atom) : Option ExclusiveBound :=
  match t.bool? with
  | some b => some (.flag b)
  | none => t.float?.map .bound

/-- A flag, or what else is read from a tree. -/
def Extra.ofTree? {σ : Type} (schema? : Tree Atom → Option σ) (t : Tree Atom) : Option (Extra σ) :=
  match t.bool? with
  | some b => some (.allowed b)
  | none => (schema? t).map .matching

namespace Schema

/-- The names of the fields of a schema, in order. -/
def fieldNames : List String :=
  ["$ref", "type", "format", "nullable", "enum", "const", "properties", "required",
    "additionalProperties", "minProperties", "maxProperties", "items", "minItems", "maxItems",
    "uniqueItems", "oneOf", "anyOf", "allOf", "not", "minimum", "maximum", "exclusiveMinimum",
    "exclusiveMaximum", "multipleOf", "minLength", "maxLength", "pattern"]

/-- The schema of a tree that is less deep than a given number. -/
def ofTreeWithin? (limit : Nat) {α : Type} [Readable α] (t : Tree α) : Option Schema :=
  match limit with
  | 0 => none
  | n + 1 => do
    let f ← t.record? fieldNames
    return {
      reference := ← f.optional? "$ref" Tree.text?
      type := ← f.optional? "type" fun t => t.atoms?.bind TypeRule.ofTree?
      format := ← f.optional? "format" Tree.text?
      nullable := ← f.orElse? "nullable" false Tree.bool?
      enumValues := ← f.optional? "enum" (Tree.list? Tree.json?)
      constValue := ← f.optional? "const" Tree.json?
      properties := ← f.orElse? "properties" [] (Tree.dict? (ofTreeWithin? n))
      required := ← f.orElse? "required" [] (Tree.list? Tree.text?)
      additionalProperties := ← f.optional? "additionalProperties" fun t =>
        t.atoms?.bind (Extra.ofTree? (ofTreeWithin? n))
      minProperties := ← f.optional? "minProperties" Tree.nat?
      maxProperties := ← f.optional? "maxProperties" Tree.nat?
      items := ← f.optional? "items" (ofTreeWithin? n)
      minItems := ← f.optional? "minItems" Tree.nat?
      maxItems := ← f.optional? "maxItems" Tree.nat?
      uniqueItems := ← f.orElse? "uniqueItems" false Tree.bool?
      oneOf := ← f.orElse? "oneOf" [] (Tree.list? (ofTreeWithin? n))
      anyOf := ← f.orElse? "anyOf" [] (Tree.list? (ofTreeWithin? n))
      allOf := ← f.orElse? "allOf" [] (Tree.list? (ofTreeWithin? n))
      not := ← f.optional? "not" (ofTreeWithin? n)
      minimum := ← f.optional? "minimum" Tree.float?
      maximum := ← f.optional? "maximum" Tree.float?
      exclusiveMinimum := ← f.optional? "exclusiveMinimum" fun t =>
        t.atoms?.bind ExclusiveBound.ofTree?
      exclusiveMaximum := ← f.optional? "exclusiveMaximum" fun t =>
        t.atoms?.bind ExclusiveBound.ofTree?
      multipleOf := ← f.optional? "multipleOf" Tree.float?
      minLength := ← f.optional? "minLength" Tree.nat?
      maxLength := ← f.optional? "maxLength" Tree.nat?
      pattern := ← f.optional? "pattern" Tree.text? }

/-- The schema of a tree. -/
def ofTree? {α : Type} [Readable α] (t : Tree α) : Option Schema := ofTreeWithin? (t.depth + 1) t

end Schema

/-- The named schemas of a tree. -/
def Schemas.ofTree? {α : Type} [Readable α] (t : Tree α) : Option Schemas :=
  t.dict? Schema.ofTree?

/-! ### Parts of documents -/

section

variable {α : Type} [Readable α]

/-- What an interface is called. -/
def Info.ofTree? (t : Tree α) : Option Info := do
  let f ← t.record? ["title", "version", "description"]
  return {
    title := ← f.orElse? "title" "" Tree.text?
    version := ← f.orElse? "version" "" Tree.text?
    description := ← f.optional? "description" Tree.text? }

/-- A variable of a server; its value must be there. -/
def ServerVariable.ofTree? (t : Tree α) : Option ServerVariable := do
  let f ← t.record? ["default", "enum"]
  return {
    value := ← f.required? "default" Tree.text?
    choices := ← f.orElse? "enum" [] (Tree.list? Tree.text?) }

/-- A server; its address must be there. -/
def Server.ofTree? (t : Tree α) : Option Server := do
  let f ← t.record? ["url", "description", "variables"]
  return {
    url := ← f.required? "url" Tree.text?
    description := ← f.optional? "description" Tree.text?
    addressValues := ← f.orElse? "variables" [] (Tree.dict? ServerVariable.ofTree?) }

/-- A location by its name. -/
def Location.ofTree? (t : Tree α) : Option Location :=
  (t.choice? (all.map name)).bind fun s => all.find? fun l => l.name = s

/-- A parameter. -/
def Parameter.ofTree? (t : Tree α) : Option Parameter := do
  let f ← t.record? ["$ref", "name", "in", "required", "allowEmptyValue", "explode", "schema"]
  return {
    reference := ← f.optional? "$ref" Tree.text?
    name := ← f.orElse? "name" "" Tree.text?
    location := ← f.optional? "in" Location.ofTree?
    required := ← f.orElse? "required" false Tree.bool?
    allowEmptyValue := ← f.orElse? "allowEmptyValue" false Tree.bool?
    explode := ← f.optional? "explode" Tree.bool?
    schema := ← f.optional? "schema" Schema.ofTree? }

/-- The content of a media type. -/
def MediaType.ofTree? (t : Tree α) : Option MediaType := do
  let f ← t.record? ["schema"]
  return { schema := ← f.optional? "schema" Schema.ofTree? }

/-- The body of a request. -/
def RequestBody.ofTree? (t : Tree α) : Option RequestBody := do
  let f ← t.record? ["$ref", "required", "content"]
  return {
    reference := ← f.optional? "$ref" Tree.text?
    required := ← f.orElse? "required" false Tree.bool?
    content := ← f.orElse? "content" [] (Tree.dict? MediaType.ofTree?) }

/-- A header of a response. -/
def Header.ofTree? (t : Tree α) : Option Header := do
  let f ← t.record? ["required", "schema"]
  return {
    required := ← f.orElse? "required" false Tree.bool?
    schema := ← f.optional? "schema" Schema.ofTree? }

/-- A response. -/
def Response.ofTree? (t : Tree α) : Option Response := do
  let f ← t.record? ["$ref", "description", "headers", "content"]
  return {
    reference := ← f.optional? "$ref" Tree.text?
    description := ← f.orElse? "description" "" Tree.text?
    headers := ← f.orElse? "headers" [] (Tree.dict? Header.ofTree?)
    content := ← f.orElse? "content" [] (Tree.dict? MediaType.ofTree?) }

/-- An operation. -/
def Operation.ofTree? (t : Tree α) : Option Operation := do
  let f ← t.record?
    ["operationId", "summary", "deprecated", "parameters", "requestBody", "responses"]
  return {
    operationId := ← f.optional? "operationId" Tree.text?
    summary := ← f.optional? "summary" Tree.text?
    deprecated := ← f.orElse? "deprecated" false Tree.bool?
    parameters := ← f.orElse? "parameters" [] (Tree.list? Parameter.ofTree?)
    requestBody := ← f.optional? "requestBody" RequestBody.ofTree?
    responses := ← f.orElse? "responses" [] (Tree.dict? Response.ofTree?) }

/-- The operations on a path. -/
def PathItem.ofTree? (t : Tree α) : Option PathItem := do
  let f ← t.record?
    ["get", "put", "post", "delete", "options", "head", "patch", "trace", "parameters"]
  return {
    get := ← f.optional? "get" Operation.ofTree?
    put := ← f.optional? "put" Operation.ofTree?
    post := ← f.optional? "post" Operation.ofTree?
    delete := ← f.optional? "delete" Operation.ofTree?
    options := ← f.optional? "options" Operation.ofTree?
    head := ← f.optional? "head" Operation.ofTree?
    patch := ← f.optional? "patch" Operation.ofTree?
    trace := ← f.optional? "trace" Operation.ofTree?
    parameters := ← f.orElse? "parameters" [] (Tree.list? Parameter.ofTree?) }

/-- What a document names. -/
def Components.ofTree? (t : Tree α) : Option Components := do
  let f ← t.record? ["schemas", "responses", "parameters", "requestBodies"]
  return {
    schemas := ← f.orElse? "schemas" [] Schemas.ofTree?
    responses := ← f.orElse? "responses" [] (Tree.dict? Response.ofTree?)
    parameters := ← f.orElse? "parameters" [] (Tree.dict? Parameter.ofTree?)
    requestBodies := ← f.orElse? "requestBodies" [] (Tree.dict? RequestBody.ofTree?) }

/-- A document; its format and its name must be there. -/
def Document.ofTree? (t : Tree α) : Option Document := do
  let f ← t.record? ["openapi", "info", "servers", "paths", "components"]
  return {
    format := ← f.required? "openapi" Tree.text?
    info := ← f.required? "info" Info.ofTree?
    servers := ← f.orElse? "servers" [] (Tree.list? Server.ofTree?)
    paths := ← f.orElse? "paths" [] (Tree.dict? PathItem.ofTree?)
    components := ← f.orElse? "components" {} Components.ofTree? }

end

end ApiContract
