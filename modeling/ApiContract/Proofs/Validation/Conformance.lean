/-
**What an accepted response carries.**

A check of a response comes to an end without findings in few ways: every branch of it that reports
nothing is a header that suits its schema, or content that suits the media type which was selected
for it.  The one other branch is deliberate: a response without a media type may have no body, even
if content is declared.

Main definitions:

* `ContentType.Covers` — a declared media type, which may stand for many, covers another one;
* `Specification.CarriesHeader` — headers hold what is declared of one of them;
* `Specification.CarriesContent` — **a message carries content of a declared media type**.

Main results:

* `Body.exists_covers_of_negotiate?` — what is selected is declared and covers the media type;
* `Specification.headerFindings_eq_nil_iff`, `Specification.contentFindings_eq_nil_iff` — nothing is
  found exactly where headers and content are carried;
* `Specification.checkResponse_eq_none_iff` — **which responses are accepted**;
* `Specification.not_carriesContent_of_checkResponse` — not all of them carry content.
-/

import ApiContract.Pattern.Library
import ApiContract.Proofs.Session.Documented
import ApiContract.Proofs.Specification.Resolution

set_option relaxedAutoImplicit false
set_option autoImplicit false

namespace ApiContract

/-! ### Media types -/

/-- A declared media type covers another one: it is the same, or it stands for all subtypes, or for
all types.  Parameters make no difference. -/
def ContentType.Covers (range actual : ContentType) : Prop :=
  range.essence = actual.essence ∨ (range.main = actual.main ∧ range.sub = "*") ∨ range.main = "*"

namespace Body

variable {β : Type} {content : Dict β} {contentType key : String} {b : β}

theorem mem_declared_iff {t : ContentType} :
    (t, key, b) ∈ declared content ↔ (key, b) ∈ content ∧ ContentType.parse? key = some t := by
  unfold declared
  rw [List.mem_filterMap]
  constructor
  · rintro ⟨p, hp, hmap⟩
    obtain ⟨u, hu, heq⟩ := Option.map_eq_some_iff.1 hmap
    cases heq
    exact ⟨hp, hu⟩
  · rintro ⟨hp, ht⟩
    exact ⟨(key, b), hp, by rw [ht]; rfl⟩

/-- What is selected is declared, and covers the media type of the message. -/
theorem exists_covers_of_negotiate? (h : negotiate? content contentType = some (key, b)) :
    (key, b) ∈ content ∧ ∃ range actual, ContentType.parse? key = some range ∧
      ContentType.parse? contentType = some actual ∧ range.Covers actual := by
  unfold negotiate? at h
  split at h
  · cases h
  · rename_i actual hactual
    obtain ⟨⟨range, key', b'⟩, hfound, heq⟩ := Option.map_eq_some_iff.1 h
    cases heq
    have hcovers : (range, key, b) ∈ declared content ∧ range.Covers actual := by
      rcases Option.or_eq_some_iff.1 hfound with hfound | ⟨-, hfound⟩
      · rcases Option.or_eq_some_iff.1 hfound with hfound | ⟨-, hfound⟩
        · have hsame := List.find?_some hfound
          exact ⟨List.mem_of_find?_eq_some hfound, Or.inl (by simpa using hsame)⟩
        · have hpartly := List.find?_some hfound
          exact ⟨List.mem_of_find?_eq_some hfound, Or.inr (Or.inl (by simpa using hpartly))⟩
      · have hany := List.find?_some hfound
        exact ⟨List.mem_of_find?_eq_some hfound, Or.inr (Or.inr (by simpa using hany))⟩
    obtain ⟨hmem, hrange⟩ := mem_declared_iff.1 hcovers.1
    exact ⟨hmem, range, actual, hrange, hactual, hcovers.2⟩

end Body

namespace Specification

/-! ### Headers and content that suit their schemas -/

/-- Headers hold what is declared of one of them: it is there if it must be, and its texts suit its
schema. -/
structure CarriesHeader [Libraries] (s : Specification) (headers : Http.Headers)
    (h : String × Header) : Prop where
  /-- A header that must be there has a readable text. -/
  present : h.2.required = true → headers.texts h.1 ≠ []
  /-- The texts of a header that is there suit its schema. -/
  suits : headers.texts h.1 ≠ [] → ∀ t ∈ h.2.schema, s.components.schemas.accepts t
    (s.components.schemas.coerce t (headers.texts h.1)) = true

/-- **A message carries content of a declared media type**: it has a media type that can be read,
one of those declared covers it and is selected for it, the body can be read as that one, and if it
has structure its value suits the schema. -/
def CarriesContent [Libraries] (s : Specification) (content : Dict MediaType)
    (headers : Http.Headers) (body : List UInt8) : Prop :=
  ∃ text actual key range m decoded,
    headers.contentType? = some text ∧ ContentType.parse? text = some actual ∧
      (key, m) ∈ content ∧ ContentType.parse? key = some range ∧ range.Covers actual ∧
      Body.negotiate? content text = some (key, m) ∧
      Body.decode s.components.schemas m.schema text body = .ok decoded ∧
      ∀ v, decoded = .value v → ∀ t ∈ m.schema, s.components.schemas.accepts t v = true

section

variable [Libraries] {s : Specification} {e : Endpoint} {site : Site} {r : Http.Response}
  {documented : Response} {headers : Http.Headers} {body : List UInt8} {content : Dict MediaType}
  {part : Part}

theorem textViolations_eq_nil_iff {schema : Option Schema} {texts : List String} :
    s.textViolations schema texts = [] ↔ ∀ t ∈ schema, s.components.schemas.accepts t
      (s.components.schemas.coerce t texts) = true := by
  cases schema with
  | none => simp [textViolations]
  | some t => simp [textViolations, Schemas.accepts]

/-- Nothing is found wrong with a header exactly if the headers hold what is declared of it, the
media type apart. -/
theorem headerFindings_eq_nil_iff {h : String × Header} :
    s.headerFindings headers h = [] ↔
      Text.equalIgnoringCase h.1 "content-type" = true ∨ s.CarriesHeader headers h := by
  unfold headerFindings
  split
  · rename_i htype
    exact iff_of_true rfl (Or.inl htype)
  · rename_i htype
    rw [or_iff_right htype]
    split
    · rename_i hnone
      constructor
      · intro hnil
        refine ⟨fun hrequired => ?_, fun hne => absurd hnone hne⟩
        rw [if_pos hrequired] at hnil
        cases hnil
      · intro hcarries
        rw [if_neg fun hrequired => hcarries.present hrequired hnone]
    · rename_i texts hne
      rw [List.map_eq_nil_iff, textViolations_eq_nil_iff]
      exact ⟨fun h => ⟨fun _ => hne, fun _ => h⟩, fun h => h.suits hne⟩

/-- Nothing is found wrong with a body exactly if it can be read and suits the schema. -/
theorem bodyFindings_eq_nil_iff {m : MediaType} {contentType : String} :
    s.bodyFindings part m contentType body = [] ↔
      ∃ decoded, Body.decode s.components.schemas m.schema contentType body = .ok decoded ∧
        ∀ v, decoded = .value v → ∀ t ∈ m.schema, s.components.schemas.accepts t v = true := by
  unfold bodyFindings
  cases hdecode : Body.decode s.components.schemas m.schema contentType body with
  | error reason => cases reason <;> simp
  | ok decoded =>
      cases decoded with
      | unstructured => simp
      | value v =>
          cases hschema : m.schema with
          | none => simp
          | some t => simp [Schemas.accepts]

/-- Nothing is found wrong with the content of a message exactly if it is content of a declared
media type. -/
theorem contentFindings_eq_nil_iff :
    s.contentFindings part content headers body = [] ↔ s.CarriesContent content headers body := by
  unfold contentFindings CarriesContent
  cases htype : headers.contentType? with
  | none => simp
  | some text =>
      cases hselected : Body.negotiate? content text with
      | none => simp [hselected]
      | some found =>
          obtain ⟨key, m⟩ := found
          obtain ⟨hmem, range, actual, hrange, hactual, hcovers⟩ :=
            Body.exists_covers_of_negotiate? hselected
          simp only [hselected, bodyFindings_eq_nil_iff]
          constructor
          · rintro ⟨decoded, hdecode, hsuits⟩
            exact ⟨text, actual, key, range, m, decoded, rfl, hactual, hmem, hrange, hcovers,
              hselected, hdecode, hsuits⟩
          · rintro ⟨text', -, key', -, m', decoded, htext, -, -, -, -, hselected', hdecode, hsuits⟩
            obtain rfl := Option.some.inj htext
            cases hselected.symm.trans hselected'
            exact ⟨decoded, hdecode, hsuits⟩

theorem checkResponse_eq_none_iff_findings :
    s.checkResponse e site r = none ↔ s.responseFindings e site r = [] := by
  simp [checkResponse, failure?, Failure.ofIssues?]

/-- **Which responses are accepted.**  A response that is documented with content, to a method other
than the one that asks for headers alone, is accepted exactly if it holds every header that is
declared, the media type apart, and carries content of a declared media type, or has neither a media
type that can be read nor a body. -/
theorem checkResponse_eq_none_iff (hdocuments : e.Documents r.status.code documented)
    (hcontent : documented.content ≠ []) (hmethod : site.method ≠ .head) :
    s.checkResponse e site r = none ↔
      (∀ h ∈ documented.headers, Text.equalIgnoringCase h.1 "content-type" = false →
        s.CarriesHeader r.headers h) ∧
      ((r.headers.contentType? = none ∧ r.body = []) ∨
        s.CarriesContent documented.content r.headers r.body) := by
  rw [checkResponse_eq_none_iff_findings, responseFindings_eq hdocuments, documentedFindings,
    List.append_eq_nil_iff, List.flatMap_eq_nil_iff]
  refine and_congr ?_ ?_
  · refine forall₂_congr fun h _ => ?_
    rw [headerFindings_eq_nil_iff, ← Bool.not_eq_true, or_iff_not_imp_left]
  · unfold responseBodyFindings
    simp only [hcontent, hmethod, false_or]
    split
    · rename_i hempty
      exact iff_of_true rfl (Or.inl hempty)
    · rename_i hempty
      rw [or_iff_right hempty, contentFindings_eq_nil_iff]

end

/-! ### A response without content -/

/-- A response with a header and content. -/
def ratedResponse : Response :=
  { headers := [("X-Rate", { required := true, schema := some { type := some (.one .integer) } })]
    content := [("application/*", { schema := some { type := some (.one .object) } })] }

/-- A document with that response. -/
def ratedDocument : Document :=
  { format := "3.0.3"
    info := { title := "A", version := "1" }
    paths := [("/a", { get := some { responses := [("2XX", ratedResponse)] } })] }

/-- The endpoint of that document. -/
def ratedEndpoint : Endpoint :=
  { operationId := none
    deprecated := false
    parameters := []
    requestBody := none
    responses := [("2XX", ratedResponse)] }

/-- The specification of that document. -/
def rated : Specification := ⟨"A", "1", [""], [⟨"/a", [(.get, ratedEndpoint)]⟩], {}⟩

theorem ofDocument_ratedDocument : ofDocument ratedDocument = .ok rated := by
  have hleads : ratedDocument.Leads := by
    intro p hp o ho
    obtain rfl := List.mem_singleton.1 hp
    obtain rfl := List.mem_singleton.1 ho
    exact ⟨by decide, by decide, by decide⟩
  exact ofDocument_eq_ok_iff.2 ⟨rfl, by decide +kernel, hleads, rfl⟩

theorem documents_ratedEndpoint : ratedEndpoint.Documents 203 ratedResponse :=
  ⟨"2XX", by decide, rfl⟩

/-- A reply with the header `X-Rate: 5` and the content `{}`. -/
def fullReply : Http.Response :=
  { status := ⟨203, by decide⟩
    headers := [("x-rate", [[53]]), ("content-type", ["application/json".toUTF8.toList])]
    body := [123, 125] }

/-- The reply with content is accepted, so that it has the header and carries content. -/
theorem checkResponse_eq_none_iff_fullReply :
    ratedEndpoint.Documents fullReply.status.code ratedResponse ∧ ratedResponse.content ≠ [] ∧
      Http.Method.get ≠ .head ∧
      (∀ h ∈ ratedResponse.headers, Text.equalIgnoringCase h.1 "content-type" = false →
        rated.CarriesHeader fullReply.headers h) ∧
      rated.CarriesContent ratedResponse.content fullReply.headers fullReply.body := by
  have haccepted : rated.checkResponse ratedEndpoint ⟨.get, "/a"⟩ fullReply = none := by
    decide +kernel
  obtain ⟨hheaders, hcontent⟩ :=
    (checkResponse_eq_none_iff documents_ratedEndpoint (by simp [ratedResponse])
      (by decide)).1 haccepted
  refine ⟨documents_ratedEndpoint, by simp [ratedResponse], by decide, hheaders, ?_⟩
  exact hcontent.resolve_left fun hbare => absurd hbare.2 (by decide)

/-- A reply with the header `X-Rate: 5` and nothing else. -/
def bareReply : Http.Response := { status := ⟨203, by decide⟩, headers := [("x-rate", [[53]])] }

/-- **Not every response that is accepted carries content that is declared**: one without a media
type and without a body is accepted. -/
theorem not_carriesContent_of_checkResponse :
    ¬ ∀ (d : Document) (s : Specification) (e : Endpoint) (site : Site) (r : Http.Response)
      (documented : Response), ofDocument d = .ok s →
      s.operation? site.template site.method = some e → site.method ≠ .head →
      e.Documents r.status.code documented → documented.content ≠ [] →
      s.checkResponse e site r = none →
      s.CarriesContent documented.content r.headers r.body ∧
        ∀ h ∈ documented.headers, Text.equalIgnoringCase h.1 "content-type" = false →
          s.CarriesHeader r.headers h := by
  intro hall
  obtain ⟨⟨text, -, -, -, -, -, htext, -⟩, -⟩ :=
    hall ratedDocument rated ratedEndpoint ⟨.get, "/a"⟩ bareReply ratedResponse
      ofDocument_ratedDocument rfl (by decide) documents_ratedEndpoint (by simp [ratedResponse])
      (by decide +kernel)
  rw [show bareReply.headers.contentType? = none from by decide] at htext
  cases htext

end Specification

end ApiContract
