/-
**Documents are read back as they were written.**

Each part of a document is a record whose fields are read by the rules by which they were written,
so that a part is read back if the parts inside it are.  Dictionaries are lists here, and stay in
order; that they list no key twice goes without saying where a dictionary is more than a list, and
is said here of the whole document at once.

Main definitions:

* `Document.Regular` — dictionaries and values of a document are in their only form.

Main results:

* `Document.ofTree?_toTree_eq_some` — **nothing of a document is lost when it is written**, if its
  bounds are finite and null is no constant.
-/

import ApiContract.Proofs.Document.Schema

set_option relaxedAutoImplicit false
set_option autoImplicit false

namespace ApiContract

/-! ### Names and addresses -/

theorem Info.ofTree?_toTree (i : Info) : Info.ofTree? i.toTree = some i := by
  refine Tree.bind_record?_ofFields rfl (by decide) fun f hget => ?_
  rw [Dict.orElse?_of_get? (hget 0 rfl), Dict.orElse?_of_get? (hget 1 rfl),
    Dict.optional?_text (hget 2 rfl)]
  rfl

theorem ServerVariable.ofTree?_toTree (v : ServerVariable) :
    ServerVariable.ofTree? v.toTree = some v := by
  refine Tree.bind_record?_ofFields rfl (by decide) fun f hget => ?_
  rw [Dict.required?_of_get? (hget 0 rfl), Dict.orElse?_list (hget 1 rfl) fun _ _ => rfl]
  rfl

theorem Server.ofTree?_toTree {s : Server} (h : s.addressValues.keys.Nodup) :
    Server.ofTree? s.toTree = some s := by
  refine Tree.bind_record?_ofFields rfl (by decide) fun f hget => ?_
  rw [Dict.required?_of_get? (hget 0 rfl), Dict.optional?_text (hget 1 rfl),
    Dict.orElse?_dict (hget 2 rfl) h fun v _ => v.ofTree?_toTree]
  rfl

/-! ### Parameters and content -/

theorem Location.ofTree?_toTree (l : Location) : Location.ofTree? l.toTree = some l := by
  cases l <;> rfl

/-- A schema that may be missing is read back. -/
theorem Dict.optional?_schema {f : Dict (Tree Atom)} {name : String} {schema : Option Schema}
    (hget : f.get? name = schema.map Schema.toTree)
    (h : ∀ s ∈ schema, Schema.ofTree? s.toTree = some s) :
    f.optional? name Schema.ofTree? = some schema :=
  optional?_eq hget (fun _ _ => Schema.toTreeWithin_ne_null) h

theorem Parameter.ofTree?_toTree {p : Parameter}
    (h : ∀ s ∈ p.schema, Schema.ofTree? s.toTree = some s) :
    Parameter.ofTree? p.toTree = some p := by
  refine Tree.bind_record?_ofFields rfl (by decide) fun f hget => ?_
  rw [Dict.optional?_text (hget 0 rfl), Dict.orElse?_of_get? (hget 1 rfl),
    Dict.optional?_eq (hget 2 rfl) (fun _ _ => nofun) fun l _ => l.ofTree?_toTree,
    Dict.orElse?_of_get? (hget 3 rfl), Dict.orElse?_of_get? (hget 4 rfl),
    Dict.optional?_bool (hget 5 rfl), Dict.optional?_schema (hget 6 rfl) h]
  rfl

theorem MediaType.ofTree?_toTree {m : MediaType}
    (h : ∀ s ∈ m.schema, Schema.ofTree? s.toTree = some s) :
    MediaType.ofTree? m.toTree = some m := by
  refine Tree.bind_record?_ofFields rfl (by decide) fun f hget => ?_
  rw [Dict.optional?_schema (hget 0 rfl) h]
  rfl

/-- Media types are read back if the schemas of the content are. -/
theorem MediaType.forall_ofTree?_toTree {content : Dict MediaType}
    (h : ∀ s ∈ contentSchemas content, Schema.ofTree? s.toTree = some s) :
    ∀ m ∈ content.values, MediaType.ofTree? m.toTree = some m := fun m hm =>
  m.ofTree?_toTree fun s hs => h s (List.mem_filterMap.2 ⟨m, hm, hs⟩)

theorem RequestBody.ofTree?_toTree {b : RequestBody} (hkeys : b.content.keys.Nodup)
    (h : ∀ s ∈ contentSchemas b.content, Schema.ofTree? s.toTree = some s) :
    RequestBody.ofTree? b.toTree = some b := by
  refine Tree.bind_record?_ofFields rfl (by decide) fun f hget => ?_
  rw [Dict.optional?_text (hget 0 rfl), Dict.orElse?_of_get? (hget 1 rfl),
    Dict.orElse?_of_get? (hget 2 rfl),
    Tree.dict?_ofDict hkeys (MediaType.forall_ofTree?_toTree h)]
  rfl

/-! ### Responses -/

theorem Header.ofTree?_toTree {h : Header}
    (hschema : ∀ s ∈ h.schema, Schema.ofTree? s.toTree = some s) :
    Header.ofTree? h.toTree = some h := by
  refine Tree.bind_record?_ofFields rfl (by decide) fun f hget => ?_
  rw [Dict.orElse?_of_get? (hget 0 rfl), Dict.optional?_schema (hget 1 rfl) hschema]
  rfl

theorem Response.ofTree?_toTree {r : Response} (hheaders : r.headers.keys.Nodup)
    (hcontent : r.content.keys.Nodup) (h : ∀ s ∈ r.schemas, Schema.ofTree? s.toTree = some s) :
    Response.ofTree? r.toTree = some r := by
  rw [Response.schemas, List.forall_mem_append] at h
  refine Tree.bind_record?_ofFields rfl (by decide) fun f hget => ?_
  rw [Dict.optional?_text (hget 0 rfl), Dict.orElse?_of_get? (hget 1 rfl),
    Dict.orElse?_dict (hget 2 rfl) hheaders fun v hv => v.ofTree?_toTree fun s hs =>
      h.2 s (List.mem_filterMap.2 ⟨v, hv, hs⟩),
    Dict.orElse?_dict (hget 3 rfl) hcontent (MediaType.forall_ofTree?_toTree h.1)]
  rfl

/-! ### Operations and paths -/

theorem Operation.ofTree?_toTree {o : Operation} (hkeys : o.responses.keys.Nodup)
    (hparameters : ∀ p ∈ o.parameters, Parameter.ofTree? p.toTree = some p)
    (hbody : ∀ b ∈ o.requestBody, RequestBody.ofTree? b.toTree = some b)
    (hresponses : ∀ r ∈ o.responses.values, Response.ofTree? r.toTree = some r) :
    Operation.ofTree? o.toTree = some o := by
  refine Tree.bind_record?_ofFields rfl (by decide) fun f hget => ?_
  rw [Dict.optional?_text (hget 0 rfl), Dict.optional?_text (hget 1 rfl),
    Dict.orElse?_flag (hget 2 rfl), Dict.orElse?_list (hget 3 rfl) hparameters,
    Dict.optional?_eq (hget 4 rfl) (fun _ _ => nofun) hbody,
    Dict.orElse?_of_get? (hget 5 rfl), Tree.dict?_ofDict hkeys hresponses]
  rfl

/-- An operation that may be missing is read back. -/
theorem Dict.optional?_operation {f : Dict (Tree Atom)} {name : String}
    {operation : Option Operation} (hget : f.get? name = operation.map Operation.toTree)
    (h : ∀ o ∈ operation, Operation.ofTree? o.toTree = some o) :
    f.optional? name Operation.ofTree? = some operation :=
  optional?_eq hget (fun _ _ => nofun) h

/-- The operations on a path are those of the eight methods. -/
theorem PathItem.forall_mem_operations_iff {i : PathItem} {P : Operation → Prop} :
    (∀ o ∈ i.operations.map Prod.snd, P o) ↔
      (∀ o ∈ i.get, P o) ∧ (∀ o ∈ i.head, P o) ∧ (∀ o ∈ i.put, P o) ∧ (∀ o ∈ i.post, P o) ∧
        (∀ o ∈ i.delete, P o) ∧ (∀ o ∈ i.patch, P o) ∧ (∀ o ∈ i.options, P o) ∧
          ∀ o ∈ i.trace, P o := by
  simp [PathItem.operations, or_imp, forall_and]

theorem PathItem.ofTree?_toTree {i : PathItem}
    (hoperations : ∀ o ∈ i.operations.map Prod.snd, Operation.ofTree? o.toTree = some o)
    (hparameters : ∀ p ∈ i.parameters, Parameter.ofTree? p.toTree = some p) :
    PathItem.ofTree? i.toTree = some i := by
  obtain ⟨hget, hhead, hput, hpost, hdelete, hpatch, hoptions, htrace⟩ :=
    PathItem.forall_mem_operations_iff.1 hoperations
  refine Tree.bind_record?_ofFields rfl (by decide) fun f hfield => ?_
  rw [Dict.optional?_operation (hfield 0 rfl) hget, Dict.optional?_operation (hfield 1 rfl) hput,
    Dict.optional?_operation (hfield 2 rfl) hpost, Dict.optional?_operation (hfield 3 rfl) hdelete,
    Dict.optional?_operation (hfield 4 rfl) hoptions,
    Dict.optional?_operation (hfield 5 rfl) hhead,
    Dict.optional?_operation (hfield 6 rfl) hpatch,
    Dict.optional?_operation (hfield 7 rfl) htrace, Dict.orElse?_list (hfield 8 rfl) hparameters]
  rfl

/-! ### Documents -/

theorem Components.ofTree?_toTree {c : Components} (hschemas : c.schemas.keys.Nodup)
    (hresponses : c.responses.keys.Nodup) (hparameters : c.parameters.keys.Nodup)
    (hbodies : c.requestBodies.keys.Nodup)
    (hschema : ∀ s ∈ c.schemas.values, Schema.ofTree? s.toTree = some s)
    (hresponse : ∀ r ∈ c.responses.values, Response.ofTree? r.toTree = some r)
    (hparameter : ∀ p ∈ c.parameters.values, Parameter.ofTree? p.toTree = some p)
    (hbody : ∀ b ∈ c.requestBodies.values, RequestBody.ofTree? b.toTree = some b) :
    Components.ofTree? c.toTree = some c := by
  refine Tree.bind_record?_ofFields rfl (by decide) fun f hget => ?_
  have hread : f.orElse? "schemas" [] Schemas.ofTree? = some c.schemas :=
    Dict.orElse?_dict (hget 0 rfl) hschemas hschema
  rw [hread, Dict.orElse?_dict (hget 1 rfl) hresponses hresponse,
    Dict.orElse?_dict (hget 2 rfl) hparameters hparameter,
    Dict.orElse?_dict (hget 3 rfl) hbodies hbody]
  rfl

namespace Document

/-- What every dictionary and every value in a document satisfies: a dictionary lists no key twice,
and a value is in its only form. -/
structure Regular (d : Document) : Prop where
  servers : ∀ s ∈ d.servers, s.addressValues.keys.Nodup
  paths : d.paths.keys.Nodup
  operations : ∀ o ∈ d.operations, o.responses.keys.Nodup
  requestBodies : ∀ b ∈ d.requestBodies, b.content.keys.Nodup
  responses : ∀ r ∈ d.responses, r.headers.keys.Nodup ∧ r.content.keys.Nodup
  components : d.components.schemas.keys.Nodup ∧ d.components.responses.keys.Nodup ∧
    d.components.parameters.keys.Nodup ∧ d.components.requestBodies.keys.Nodup
  properties : ∀ s ∈ d.schemas, (Dict.keys s.properties).Nodup
  enumValues : ∀ s ∈ d.schemas, ∀ vs ∈ s.enumValues, ∀ v ∈ vs, v.Canonical
  constValue : ∀ s ∈ d.schemas, ∀ v ∈ s.constValue, v.Canonical

section

variable {d : Document} (hd : d.Regular)
  (hparameter : ∀ p ∈ d.parameters, Parameter.ofTree? p.toTree = some p)
  (hbody : ∀ b ∈ d.requestBodies, RequestBody.ofTree? b.toTree = some b)
  (hresponse : ∀ r ∈ d.responses, Response.ofTree? r.toTree = some r)
include hd hparameter hbody hresponse

/-- The paths of a document are read back if what their operations carry is. -/
theorem Regular.paths_ofTree?_toTree :
    ∀ i ∈ d.paths.values, PathItem.ofTree? i.toTree = some i := by
  intro i hi
  have hdeclared {p : Parameter}
      (hp : p ∈ i.parameters ++ i.operations.flatMap fun o => o.2.parameters) : p ∈ d.parameters :=
    List.mem_append_right _ (List.mem_flatMap.2 ⟨i, hi, hp⟩)
  refine i.ofTree?_toTree (fun o ho => ?_) fun p hp => hparameter p (hdeclared ?_)
  · have hmem : o ∈ d.operations := List.mem_flatMap.2 ⟨i, hi, ho⟩
    obtain ⟨mo, hmo, rfl⟩ := List.mem_map.1 ho
    refine Operation.ofTree?_toTree (hd.operations _ hmem) (fun p hp => ?_) (fun b hb => ?_)
      fun r hr => ?_
    · exact hparameter p
        (hdeclared (List.mem_append_right _ (List.mem_flatMap.2 ⟨mo, hmo, hp⟩)))
    · exact hbody b (List.mem_append_right _ (List.mem_filterMap.2 ⟨_, hmem, hb⟩))
    · exact hresponse r (List.mem_append_right _ (List.mem_flatMap.2 ⟨_, hmem, hr⟩))
  · exact List.mem_append_left _ hp

/-- The components of a document are read back if each of them is. -/
theorem Regular.components_ofTree?_toTree
    (hschema : ∀ s ∈ d.components.schemas.values, Schema.ofTree? s.toTree = some s) :
    Components.ofTree? d.components.toTree = some d.components := by
  obtain ⟨hschemas, hresponses, hparameters, hbodies⟩ := hd.components
  exact Components.ofTree?_toTree hschemas hresponses hparameters hbodies hschema
    (fun r hr => hresponse r (List.mem_append_left _ hr))
    (fun p hp => hparameter p (List.mem_append_left _ hp))
    fun b hb => hbody b (List.mem_append_left _ hb)

end

/-- **Nothing of a document is lost when it is written.** -/
theorem ofTree?_toTree_eq_some {d : Document} (hd : d.Regular)
    (hbounds : ∀ s ∈ d.schemas, ∀ x ∈ s.bounds, x.isFinite = true)
    (hconst : ∀ s ∈ d.schemas, s.constValue ≠ some .null) :
    Document.ofTree? d.toTree = some d := by
  have hroot : ∀ s ∈ d.schemaRoots, Schema.ofTree? s.toTree = some s := by
    intro s hs
    refine Schema.ofTree?_toTree fun t ht => ?_
    have htd : t ∈ d.schemas := List.mem_flatMap.2 ⟨s, hs, ht⟩
    exact ⟨hd.properties t htd, hd.enumValues t htd, hd.constValue t htd, hconst t htd,
      hbounds t htd⟩
  simp only [schemaRoots, List.forall_mem_append] at hroot
  obtain ⟨⟨⟨hschema, hparameterSchema⟩, hbodySchema⟩, hresponseSchema⟩ := hroot
  have hparameter : ∀ p ∈ d.parameters, Parameter.ofTree? p.toTree = some p := fun p hp =>
    p.ofTree?_toTree fun s hs => hparameterSchema s (List.mem_filterMap.2 ⟨p, hp, hs⟩)
  have hbody : ∀ b ∈ d.requestBodies, RequestBody.ofTree? b.toTree = some b := fun b hb =>
    b.ofTree?_toTree (hd.requestBodies b hb) fun s hs =>
      hbodySchema s (List.mem_flatMap.2 ⟨b, hb, hs⟩)
  have hresponse : ∀ r ∈ d.responses, Response.ofTree? r.toTree = some r := fun r hr =>
    r.ofTree?_toTree (hd.responses r hr).1 (hd.responses r hr).2 fun s hs =>
      hresponseSchema s (List.mem_flatMap.2 ⟨r, hr, hs⟩)
  have hpaths := hd.paths_ofTree?_toTree hparameter hbody hresponse
  have hcomponents := hd.components_ofTree?_toTree hparameter hbody hresponse hschema
  refine Tree.bind_record?_ofFields rfl (by decide) fun f hget => ?_
  rw [Dict.required?_of_get? (hget 0 rfl), Dict.required?_of_get? (hget 1 rfl), Info.ofTree?_toTree,
    Dict.orElse?_list (hget 2 rfl) fun s hs => s.ofTree?_toTree (hd.servers s hs),
    Dict.orElse?_dict (hget 3 rfl) hd.paths hpaths, Dict.orElse?_of_get? (hget 4 rfl), hcomponents]
  rfl

/-- The schema of a number with two bounds. -/
def widthSchema : Schema := { minimum := some 0.5, exclusiveMaximum := some (.bound 100) }

/-- A schema with values that it allows, one of them with members. -/
def labelSchema : Schema :=
  { enumValues := some [.null, .number (.int 1)]
    constValue := some (.object [("a", .number (.float 1.5)), ("b", .null)]) }

/-- A schema with these schemas inside it. -/
def pictureSchema : Schema :=
  { type := some (.several [.object, .null])
    properties := [("width", widthSchema)]
    additionalProperties := some (.matching labelSchema) }

/-- A document with these schemas in a parameter, in content and among its components. -/
def measuredDocument : Document :=
  { format := "3.1.0"
    info := { title := "Pictures", version := "1" }
    servers := [{ url := "/{stage}", addressValues := [("stage", { value := "test" })] }]
    paths := [("/pictures",
      { get := some
          { parameters := [{ name := "width", location := some .query, schema := some widthSchema }]
            responses := [("default", {}), ("200",
              { content := [("application/json", { schema := some pictureSchema })] })] } })]
    components := { schemas := [("width", widthSchema), ("label", labelSchema)] } }

theorem ofTree?_toTree_measured :
    measuredDocument.Regular ∧
      (∀ s ∈ measuredDocument.schemas, ∀ x ∈ s.bounds, x.isFinite = true) ∧
      (∀ s ∈ measuredDocument.schemas, s.constValue ≠ some .null) ∧
      Document.ofTree? measuredDocument.toTree = some measuredDocument := by
  have hschemas : measuredDocument.schemas =
      [widthSchema, labelSchema, widthSchema, pictureSchema, widthSchema, labelSchema] := by
    have hroots : measuredDocument.schemaRoots =
        [widthSchema, labelSchema, widthSchema, pictureSchema] := rfl
    have hwidth : widthSchema.walk = [widthSchema] := by rw [Schema.walk_eq]; rfl
    have hlabel : labelSchema.walk = [labelSchema] := by rw [Schema.walk_eq]; rfl
    have hpicture : pictureSchema.walk = [pictureSchema, widthSchema, labelSchema] := by
      have hchildren : pictureSchema.children = [widthSchema, labelSchema] := rfl
      rw [Schema.walk_eq, hchildren]
      simp [hwidth, hlabel]
    rw [schemas, hroots]
    simp [hwidth, hlabel, hpicture]
  have hbounds : ∀ s ∈ measuredDocument.schemas, ∀ x ∈ s.bounds, x.isFinite = true := by
    rw [hschemas]
    decide
  have hconst : ∀ s ∈ measuredDocument.schemas, s.constValue ≠ some .null := by
    rw [hschemas]
    simp [widthSchema, labelSchema, pictureSchema]
  have hcanonical : (Json.object [("a", .number (.float 1.5)), ("b", .null)]).Canonical := by
    refine .object (by decide) ?_
    simp [Json.Canonical.null, Json.Canonical.float (show (1.5 : Float).isFinite = true by decide)]
  have hregular : measuredDocument.Regular :=
    { servers := by decide
      paths := by decide
      operations := by decide
      requestBodies := by decide
      responses := by decide
      components := by decide
      properties := by
        rw [hschemas]
        decide
      enumValues := by
        rw [hschemas]
        simp [widthSchema, labelSchema, pictureSchema, Json.Canonical.null, Json.Canonical.int]
      constValue := by
        rw [hschemas]
        simp [widthSchema, labelSchema, pictureSchema, hcanonical] }
  exact ⟨hregular, hbounds, hconst, ofTree?_toTree_eq_some hregular hbounds hconst⟩

end Document

end ApiContract
