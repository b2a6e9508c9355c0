/-
**Dumps can be told apart.**

A dump is a first line, a line for each header, an empty line and the body.  Nothing in it is
quoted: that it can be taken apart again rests on what methods, targets and headers are made of.  A
header begins with a character of its name, so that the first line that begins with the end of a
line is the empty one, and everything behind it is the body, whatever that looks like.

Main definitions:

* `Http.Headers.AreTexts` — headers whose values are text.

Main results:

* `Http.afterFirstLine_inj` — headers and body are known from what follows the first line;
* `Http.dump_eq_iff` — **messages have the same dump exactly if they agree in all that is shown**.
-/

import ApiContract.Proofs.Http.Building
import ApiContract.Proofs.Specification.StatusKey
import ApiContract.Proofs.Text.Cutting
import ApiContract.Proofs.Text.Utf8

set_option relaxedAutoImplicit false
set_option autoImplicit false

namespace ApiContract.Http

/-! ### Tokens -/

theorem toList_ne_nil_of_isToken {s : String} (h : isToken s = true) : s.toList ≠ [] := by
  simp only [isToken, Bool.and_eq_true, decide_eq_true_eq] at h
  rw [Ne, String.toList_eq_nil_iff]
  exact h.1

/-- A character of no token stands in none. -/
theorem not_mem_of_isToken {s : String} (h : isToken s = true) {c : Char}
    (hc : isTokenChar c = false) : c ∉ s.toList := by
  simp only [isToken, Bool.and_eq_true] at h
  intro hmem
  rw [List.all_eq_true.1 h.2 c hmem] at hc
  cases hc

/-! ### Headers and body -/

/-- The values are text. -/
def Headers.AreTexts (h : Headers) : Prop := ∀ f ∈ h.toList, Utf8.IsText f.2

/-- A header whose line can be read: the name is a token, and the value is text in which no line
ends. -/
structure Headers.IsReadableField (f : String × List UInt8) : Prop where
  name : isToken f.1 = true
  line : 13 ∉ f.2
  text : Utf8.IsText f.2

section

open Headers (IsReadableField)

variable {h h' : Headers} {f f' : String × List UInt8} {fields fields' : List (String × List UInt8)}
  {body body' : List UInt8} {rest rest' : List Char}

/-- No line ends inside what is read of a value. -/
theorem not_mem_decodeLossy (hf : IsReadableField f) : '\r' ∉ Utf8.decodeLossy f.2 := by
  obtain ⟨cs, hcs⟩ := hf.text
  rw [← hcs, Utf8.decodeLossy_encode]
  intro hmem
  exact hf.line (hcs ▸ List.mem_flatMap.2 ⟨'\r', hmem, by decide⟩)

/-- A header and what follows it are known from its line and what follows that. -/
theorem headerLine_append_inj (hf : IsReadableField f) (hf' : IsReadableField f')
    (h : headerLine f ++ rest = headerLine f' ++ rest') : f = f' ∧ rest = rest' := by
  simp only [headerLine, lineEnd, List.append_assoc, List.cons_append, List.nil_append] at h
  -- the name ends at the first colon, and the value at the first end of a line
  obtain ⟨hname, hvalueOn⟩ := Text.append_cons_inj (not_mem_of_isToken hf.name (by decide))
    (not_mem_of_isToken hf'.name (by decide)) h
  obtain ⟨hvalue, hrest⟩ := Text.append_cons_inj (not_mem_decodeLossy hf) (not_mem_decodeLossy hf')
    (List.cons.inj hvalueOn).2
  refine ⟨Prod.ext (String.toList_inj.1 hname) ?_, (List.cons.inj hrest).2⟩
  exact (Utf8.decodeLossy_inj hf.text hf'.text).1 hvalue

/-- The line of a header is not the empty line. -/
theorem headerLine_append_ne (hf : IsReadableField f) :
    headerLine f ++ rest ≠ lineEnd ++ rest' := by
  intro heq
  obtain ⟨c, cs, hcs⟩ := List.exists_cons_of_ne_nil (toList_ne_nil_of_isToken hf.name)
  have hc : c ∈ f.1.toList := hcs ▸ List.mem_cons_self
  simp only [headerLine, lineEnd, hcs, List.cons_append, List.cons.injEq] at heq
  exact not_mem_of_isToken hf.name (by decide) (heq.1 ▸ hc)

/-- The headers, and what follows the empty line, are known from all the lines. -/
theorem headerLines_inj (hf : ∀ f ∈ fields, IsReadableField f)
    (hf' : ∀ f ∈ fields', IsReadableField f)
    (h : fields.flatMap headerLine ++ (lineEnd ++ rest) =
      fields'.flatMap headerLine ++ (lineEnd ++ rest')) :
    fields = fields' ∧ rest = rest' := by
  induction fields generalizing fields' with
  | nil =>
      cases fields' with
      | nil => exact ⟨rfl, List.append_cancel_left h⟩
      | cons f' fields' =>
          rw [List.flatMap_cons, List.append_assoc] at h
          exact absurd h.symm (headerLine_append_ne (hf' f' List.mem_cons_self))
  | cons f fields ih =>
      cases fields' with
      | nil =>
          rw [List.flatMap_cons, List.append_assoc] at h
          exact absurd h (headerLine_append_ne (hf f List.mem_cons_self))
      | cons f' fields' =>
          rw [List.forall_mem_cons] at hf hf'
          rw [List.flatMap_cons, List.flatMap_cons, List.append_assoc, List.append_assoc] at h
          obtain ⟨hfirst, hmore⟩ := headerLine_append_inj hf.1 hf'.1 h
          obtain ⟨hfields, hrest⟩ := ih hf.2 hf'.2 hmore
          exact ⟨by rw [hfirst, hfields], hrest⟩

theorem Headers.AreBuilt.isReadableField (hb : h.AreBuilt) (ht : h.AreTexts) :
    ∀ f ∈ h.toList, IsReadableField f := fun f hf =>
  ⟨hb.name f hf, hb.line f hf, ht f hf⟩

/-- **Headers and body are known from what follows the first line.** -/
theorem afterFirstLine_inj (hb : h.AreBuilt) (hb' : h'.AreBuilt) (ht : h.AreTexts)
    (ht' : h'.AreTexts) (hbody : Utf8.IsText body) (hbody' : Utf8.IsText body') :
    afterFirstLine h body = afterFirstLine h' body' ↔ h.toList = h'.toList ∧ body = body' := by
  constructor
  · intro heq
    simp only [afterFirstLine, List.append_assoc] at heq
    obtain ⟨hfields, hrest⟩ :=
      headerLines_inj (hb.isReadableField ht) (hb'.isReadableField ht') heq
    exact ⟨hfields, (Utf8.decodeLossy_inj hbody hbody').1 hrest⟩
  · rintro ⟨hfields, rfl⟩
    rw [afterFirstLine, afterFirstLine, hfields]

end

/-! ### First lines -/

theorem Version.text_inj {v v' : Version} (h : v.text = v'.text) : v = v' := by
  cases v <;> cases v' <;> first | rfl | exact absurd h (by decide)

theorem Version.not_mem_text (v : Version) : ' ' ∉ v.text.toList ∧ '\r' ∉ v.text.toList := by
  cases v <;> decide

/-- The code of a status is known from the beginning of its text. -/
theorem Status.text_append_inj {s s' : Status} {rest rest' : List Char}
    (h : s.text.toList ++ rest = s'.text.toList ++ rest') : s = s' := by
  have hdigits : ∀ n : Nat, ' ' ∉ (toString n).toList := fun n hmem =>
    absurd (StatusKey.isDigit_of_mem_toString hmem) (by decide)
  simp only [Status.text, String.toList_append, List.append_assoc] at h
  obtain ⟨hcode, -⟩ := Text.append_cons_inj (hdigits s.code) (hdigits s'.code) h
  obtain ⟨code, hrange⟩ := s
  obtain ⟨code', hrange'⟩ := s'
  obtain rfl : code = code' := StatusKey.eq_of_toString_eq (String.toList_inj.1 hcode)
  rfl

/-! ### Dumps -/

/-- The first line of a request is taken apart at its blanks and at its end. -/
theorem Request.dump_eq_iff_parts {r r' : Request} (hr : r.IsBuilt) (hr' : r'.IsBuilt) :
    r.dump = r'.dump ↔
      r.method = r'.method ∧ r.uri.text = r'.uri.text ∧ r.version = r'.version ∧
        afterFirstLine r.headers r.body = afterFirstLine r'.headers r'.body := by
  constructor
  · intro h
    replace h := String.ofList_injective h
    simp only [dumpChars, firstLine, lineEnd, String.toList_append, List.append_assoc] at h
    obtain ⟨hmethod, htarget⟩ := Text.append_cons_inj (not_mem_of_isToken hr.method (by decide))
      (not_mem_of_isToken hr'.method (by decide)) h
    obtain ⟨htext, hversion⟩ := Text.append_cons_inj hr.target hr'.target htarget
    obtain ⟨hnumber, hrest⟩ :=
      Text.append_cons_inj r.version.not_mem_text.2 r'.version.not_mem_text.2 hversion
    refine ⟨?_, String.toList_inj.1 htext, Version.text_inj (String.toList_inj.1 hnumber),
      (List.cons.inj hrest).2⟩
    exact congrArg Method.mk (String.toList_inj.1 hmethod)
  · rintro ⟨hmethod, htarget, hversion, hrest⟩
    simp only [dump, dumpChars, firstLine, hmethod, htarget, hversion, hrest]

/-- The first line of a response is taken apart at its first two blanks. -/
theorem Response.dump_eq_iff_parts {r r' : Response} :
    r.dump = r'.dump ↔
      r.version = r'.version ∧ r.status = r'.status ∧
        afterFirstLine r.headers r.body = afterFirstLine r'.headers r'.body := by
  constructor
  · intro h
    replace h := String.ofList_injective h
    simp only [dumpChars, firstLine, String.toList_append, List.append_assoc] at h
    obtain ⟨hversion, hstatus⟩ :=
      Text.append_cons_inj r.version.not_mem_text.1 r'.version.not_mem_text.1 h
    have hcode := Status.text_append_inj hstatus
    rw [hcode] at hstatus
    exact ⟨Version.text_inj (String.toList_inj.1 hversion), hcode,
      List.append_cancel_left (List.append_cancel_left hstatus)⟩
  · rintro ⟨hversion, hstatus, hrest⟩
    simp only [dump, dumpChars, firstLine, hversion, hstatus, hrest]

/-- **Messages have the same dump exactly if they agree in all that is shown**: requests in the
method, the text of the target, the version, the headers with their values one by one and the body,
responses in the version, the status, the headers and the body.  No value of a header and no body
makes up for a difference. -/
theorem dump_eq_iff :
    (∀ r r' : Request, r.IsBuilt → r'.IsBuilt → r.headers.AreTexts → r'.headers.AreTexts →
      Utf8.IsText r.body → Utf8.IsText r'.body →
      (r.dump = r'.dump ↔
        r.method = r'.method ∧ r.uri.text = r'.uri.text ∧ r.version = r'.version ∧
          r.headers.toList = r'.headers.toList ∧ r.body = r'.body)) ∧
    ∀ r r' : Response, r.headers.AreBuilt → r'.headers.AreBuilt → r.headers.AreTexts →
      r'.headers.AreTexts → Utf8.IsText r.body → Utf8.IsText r'.body →
      (r.dump = r'.dump ↔
        r.version = r'.version ∧ r.status = r'.status ∧
          r.headers.toList = r'.headers.toList ∧ r.body = r'.body) := by
  constructor
  · intro r r' hr hr' ht ht' hbody hbody'
    rw [Request.dump_eq_iff_parts hr hr',
      afterFirstLine_inj hr.headers hr'.headers ht ht' hbody hbody']
  · intro r r' hb hb' ht ht' hbody hbody'
    rw [Response.dump_eq_iff_parts, afterFirstLine_inj hb hb' ht ht' hbody hbody']

/-! ### Bodies that look like headers -/

/-- A request with a header `x: y` and no body. -/
def headedRequest : Request :=
  { method := .get, uri := ⟨none, "", "/a", none⟩, headers := [("x", [Utf8.bytes "y"])] }

/-- A request without headers, whose body looks like the rest of the other one. -/
def imitatingRequest : Request :=
  { method := .get, uri := ⟨none, "", "/a", none⟩, body := Utf8.bytes "x: y\r\n\r\n" }

/-- Responses of that kind. -/
def headedResponse : Response := { status := ⟨201, by decide⟩, headers := headedRequest.headers }
@[inherit_doc headedResponse] def imitatingResponse : Response :=
  { status := ⟨201, by decide⟩, body := imitatingRequest.body }

/-- A body that looks like a header is told from it. -/
theorem dump_eq_iff_imitating :
    (headedRequest.IsBuilt ∧ imitatingRequest.IsBuilt ∧ headedRequest.headers.AreTexts ∧
      imitatingRequest.headers.AreTexts ∧ Utf8.IsText headedRequest.body ∧
      Utf8.IsText imitatingRequest.body) ∧
    headedRequest.dump ≠ imitatingRequest.dump ∧
      headedResponse.dump ≠ imitatingResponse.dump := by
  have hmethod : Method.ofString? "GET" = some headedRequest.method := by decide
  have htarget : Uri.ofString? "/a" = some headedRequest.uri := by decide
  have hfields : Headers.ofList? [("X", Utf8.bytes "y")] = some headedRequest.headers := by decide
  have hbuilt : headedRequest.IsBuilt := Request.isBuilt_of_ofString? hmethod htarget hfields
  have hbuilt' : imitatingRequest.IsBuilt :=
    Request.isBuilt_of_ofString? hmethod htarget (show Headers.ofList? [] = some _ from rfl)
  have htexts : headedRequest.headers.AreTexts := List.forall_mem_singleton.2 ⟨['y'], rfl⟩
  have htexts' : imitatingRequest.headers.AreTexts := List.forall_mem_nil _
  have hbody : Utf8.IsText headedRequest.body := ⟨[], rfl⟩
  have hbody' : Utf8.IsText imitatingRequest.body := ⟨_, rfl⟩
  refine ⟨⟨hbuilt, hbuilt', htexts, htexts', hbody, hbody'⟩, fun h => ?_, fun h => ?_⟩
  · obtain ⟨-, -, -, -, hsame⟩ :=
      (dump_eq_iff.1 _ _ hbuilt hbuilt' htexts htexts' hbody hbody').1 h
    exact absurd hsame (by decide)
  · obtain ⟨-, -, -, hsame⟩ :=
      (dump_eq_iff.2 _ _ hbuilt.headers hbuilt'.headers htexts htexts' hbody hbody').1 h
    exact absurd hsame (by decide)

end ApiContract.Http
