/-
**Trees from documents.**

A document is written as a tree of records whose fields are in a fixed order.  Fields that have
their default are left out, apart from a few that are always written.

Main definitions:

* `Tree.ofFields` — the tree of a record, some of whose fields are left out;
* `Schema.toTree` — the tree of a schema;
* `Document.toTree` — the tree of a document.
-/

import ApiContract.Document.Basic
import ApiContract.Tree

set_option autoImplicit false

namespace ApiContract

/-! ### Fields -/

namespace Tree

/-- A field of a record: its name, and its value unless it is left out. -/
abbrev Field := String × Option (Tree Atom)

/-- The fields that are written, with their values. -/
def written (fields : List Field) : List (String × Tree Atom) :=
  fields.filterMap fun f => f.2.map fun t => (f.1, t)

/-- The tree of a record. -/
def ofFields (fields : List Field) : Tree Atom := .record (written fields)

/-- A field that is always written. -/
def field (name : String) (t : Tree Atom) : Field := (name, some t)

/-- A field that is written if it has a value. -/
def fieldOf {β : Type} (name : String) (write : β → Tree Atom) (value : Option β) : Field :=
  (name, value.map write)

/-- A field that is written if it is set. -/
def flagField (name : String) (on : Bool) : Field :=
  (name, if on then some (.bool true) else none)

/-- A field that is written if it is not empty. -/
def listField {β : Type} (name : String) (write : β → Tree Atom) (items : List β) : Field :=
  (name, if items.isEmpty then none else some (.list (items.map write)))

/-- The tree of a dictionary. -/
def ofDict {β : Type} (write : β → Tree Atom) (d : Dict β) : Tree Atom :=
  .record (d.map fun p => (p.1, write p.2))

/-- A field that is written if it is not empty. -/
def dictField {β : Type} (name : String) (write : β → Tree Atom) (d : Dict β) : Field :=
  (name, if d.isEmpty then none else some (ofDict write d))

end Tree

open ApiContract.Tree

/-! ### Schemas -/

/-- The tree of a type. -/
def ValueType.toTree (t : ValueType) : Tree Atom := .text t.name

/-- The tree of the allowed types. -/
def TypeRule.toTree : TypeRule → Tree Atom
  | .one t => t.toTree
  | .several ts => .list (ts.map ValueType.toTree)

/-- The tree of an exclusive bound. -/
def ExclusiveBound.toTree : ExclusiveBound → Tree Atom
  | .flag b => .bool b
  | .bound x => .float x

/-- The tree of a rule for other properties. -/
def Extra.toTree {σ : Type} (write : σ → Tree Atom) : Extra σ → Tree Atom
  | .allowed b => .bool b
  | .matching s => write s

namespace Schema

/-- The tree of a schema whose schemas inside each other are fewer than a given number. -/
def toTreeWithin : Nat → Schema → Tree Atom
  | 0, _ => .ofFields []
  | n + 1, s => .ofFields [
    fieldOf "$ref" .text s.reference,
    fieldOf "type" TypeRule.toTree s.type,
    fieldOf "format" .text s.format,
    flagField "nullable" s.nullable,
    fieldOf "enum" (fun vs => .list (vs.map Json.toTree)) s.enumValues,
    fieldOf "const" Json.toTree s.constValue,
    dictField "properties" (toTreeWithin n) s.properties,
    listField "required" .text s.required,
    fieldOf "additionalProperties" (Extra.toTree (toTreeWithin n)) s.additionalProperties,
    fieldOf "minProperties" .nat s.minProperties,
    fieldOf "maxProperties" .nat s.maxProperties,
    fieldOf "items" (toTreeWithin n) s.items,
    fieldOf "minItems" .nat s.minItems,
    fieldOf "maxItems" .nat s.maxItems,
    flagField "uniqueItems" s.uniqueItems,
    listField "oneOf" (toTreeWithin n) s.oneOf,
    listField "anyOf" (toTreeWithin n) s.anyOf,
    listField "allOf" (toTreeWithin n) s.allOf,
    fieldOf "not" (toTreeWithin n) s.not,
    fieldOf "minimum" .float s.minimum,
    fieldOf "maximum" .float s.maximum,
    fieldOf "exclusiveMinimum" ExclusiveBound.toTree s.exclusiveMinimum,
    fieldOf "exclusiveMaximum" ExclusiveBound.toTree s.exclusiveMaximum,
    fieldOf "multipleOf" .float s.multipleOf,
    fieldOf "minLength" .nat s.minLength,
    fieldOf "maxLength" .nat s.maxLength,
    fieldOf "pattern" .text s.pattern]

/-- The tree of a schema. -/
def toTree (s : Schema) : Tree Atom := toTreeWithin s.size s

end Schema

/-! ### Parts of documents -/

/-- The tree of what an interface is called. -/
def Info.toTree (i : Info) : Tree Atom := .ofFields [
  field "title" (.text i.title),
  field "version" (.text i.version),
  fieldOf "description" .text i.description]

/-- The tree of a variable of a server. -/
def ServerVariable.toTree (v : ServerVariable) : Tree Atom := .ofFields [
  field "default" (.text v.value),
  listField "enum" .text v.choices]

/-- The tree of a server. -/
def Server.toTree (s : Server) : Tree Atom := .ofFields [
  field "url" (.text s.url),
  fieldOf "description" .text s.description,
  dictField "variables" ServerVariable.toTree s.addressValues]

/-- The tree of a location. -/
def Location.toTree (l : Location) : Tree Atom := .text l.name

/-- The tree of a parameter. -/
def Parameter.toTree (p : Parameter) : Tree Atom := .ofFields [
  fieldOf "$ref" .text p.reference,
  field "name" (.text p.name),
  fieldOf "in" Location.toTree p.location,
  field "required" (.bool p.required),
  field "allowEmptyValue" (.bool p.allowEmptyValue),
  fieldOf "explode" .bool p.explode,
  fieldOf "schema" Schema.toTree p.schema]

/-- The tree of the content of a media type. -/
def MediaType.toTree (m : MediaType) : Tree Atom := .ofFields [
  fieldOf "schema" Schema.toTree m.schema]

/-- The tree of the body of a request. -/
def RequestBody.toTree (b : RequestBody) : Tree Atom := .ofFields [
  fieldOf "$ref" .text b.reference,
  field "required" (.bool b.required),
  field "content" (ofDict MediaType.toTree b.content)]

/-- The tree of a header. -/
def Header.toTree (h : Header) : Tree Atom := .ofFields [
  field "required" (.bool h.required),
  fieldOf "schema" Schema.toTree h.schema]

/-- The tree of a response. -/
def Response.toTree (r : Response) : Tree Atom := .ofFields [
  fieldOf "$ref" .text r.reference,
  field "description" (.text r.description),
  dictField "headers" Header.toTree r.headers,
  dictField "content" MediaType.toTree r.content]

/-- The tree of an operation. -/
def Operation.toTree (o : Operation) : Tree Atom := .ofFields [
  fieldOf "operationId" .text o.operationId,
  fieldOf "summary" .text o.summary,
  flagField "deprecated" o.deprecated,
  listField "parameters" Parameter.toTree o.parameters,
  fieldOf "requestBody" RequestBody.toTree o.requestBody,
  field "responses" (ofDict Response.toTree o.responses)]

/-- The tree of the operations on a path. -/
def PathItem.toTree (p : PathItem) : Tree Atom := .ofFields [
  fieldOf "get" Operation.toTree p.get,
  fieldOf "put" Operation.toTree p.put,
  fieldOf "post" Operation.toTree p.post,
  fieldOf "delete" Operation.toTree p.delete,
  fieldOf "options" Operation.toTree p.options,
  fieldOf "head" Operation.toTree p.head,
  fieldOf "patch" Operation.toTree p.patch,
  fieldOf "trace" Operation.toTree p.trace,
  listField "parameters" Parameter.toTree p.parameters]

/-- The tree of what a document names. -/
def Components.toTree (c : Components) : Tree Atom := .ofFields [
  dictField "schemas" Schema.toTree c.schemas,
  dictField "responses" Response.toTree c.responses,
  dictField "parameters" Parameter.toTree c.parameters,
  dictField "requestBodies" RequestBody.toTree c.requestBodies]

/-- The tree of a document. -/
def Document.toTree (d : Document) : Tree Atom := .ofFields [
  field "openapi" (.text d.format),
  field "info" d.info.toTree,
  listField "servers" Server.toTree d.servers,
  dictField "paths" PathItem.toTree d.paths,
  field "components" d.components.toTree]

end ApiContract
