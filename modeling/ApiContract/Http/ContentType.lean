/-
**Media types in message headers.**

Main definitions:

* `ContentType` — a media type without its parameters;
* `ContentType.parse?` — the media type of a header value;
* `ContentType.isJson` — whether content of the type is a structured value in the interchange
  format.
-/

import ApiContract.Http.Token
import ApiContract.Text.Basic

set_option autoImplicit false

namespace ApiContract

/-- A media type, in lower case. -/
structure ContentType where
  /-- What stands before the slash. -/
  main : String
  /-- What stands between the slash and the last plus sign. -/
  sub : String
  /-- What stands after the last plus sign. -/
  suffix : Option String
  deriving DecidableEq

namespace ContentType

open Text

/-! ### Parameters -/

/-- The characters inside quotation marks. -/
def isQuotable (c : Char) : Bool := 31 < c.toNat && c.toNat ≠ 127

/-- Where in a list of parameters a character stands.  Blanks may stand before a name and after a
value in quotation marks; a value is empty only at the end, and not in quotation marks. -/
inductive ParameterState where
  /-- Before a name. -/
  | gap
  /-- In a name. -/
  | name
  /-- Before a value. -/
  | valueStart
  /-- In a value. -/
  | value
  /-- In a value in quotation marks, before its first character. -/
  | quoteStart
  /-- In a value in quotation marks. -/
  | quoted
  /-- After a value in quotation marks. -/
  | afterQuote
  deriving DecidableEq

/-- Read a character of a list of parameters. -/
def ParameterState.next? (s : ParameterState) (c : Char) : Option ParameterState :=
  match s with
  | .gap => if c = ' ' then some .gap else if Http.isTokenChar c then some .name else none
  | .name => if c = '=' then some .valueStart else if Http.isTokenChar c then some .name else none
  | .valueStart =>
    if c = '"' then some .quoteStart else if Http.isTokenChar c then some .value else none
  | .value => if c = ';' then some .gap else if Http.isTokenChar c then some .value else none
  | .quoteStart => if isQuotable c then some .quoted else none
  | .quoted => if c = '"' then some .afterQuote else if isQuotable c then some .quoted else none
  | .afterQuote => if c = ';' then some .gap else if c = ' ' then some .afterQuote else none

/-- Whether a list of parameters may end. -/
def ParameterState.isFinal : ParameterState → Bool
  | .gap | .valueStart | .value | .afterQuote => true
  | _ => false

/-- Whether a list of parameters is well-formed. -/
def areParameters (s : ParameterState) : List Char → Bool
  | [] => s.isFinal
  | c :: cs =>
    match s.next? c with
    | some s => areParameters s cs
    | none => false

/-! ### Types -/

/-- Split at the last plus sign that is not the first character. -/
def splitSuffix (cs : List Char) : List Char × Option (List Char) :=
  match cs with
  | [] => ([], none)
  | c :: rest =>
    let suffix := (rest.reverse.takeWhile fun c => c ≠ '+').reverse
    if suffix.length = rest.length then (cs, none)
    else (c :: rest.take (rest.length - suffix.length - 1), some suffix)

/-- The media type of a header value.  What stands before the slash is not empty; what stands after
it may be empty only where nothing follows. -/
def parse? (s : String) : Option ContentType :=
  match cutAt ['/'] s.toList with
  | none => none
  | some (main, rest) =>
    let sub := rest.takeWhile fun c => c ≠ ';'
    let parametersAreGood :=
      match rest.drop sub.length with
      | [] => true
      | _ :: parameters => sub ≠ [] && areParameters .gap parameters
    if main ≠ [] && main.all Http.isTokenChar && sub.all Http.isTokenChar && parametersAreGood then
      let lower (cs : List Char) : String := String.ofList (cs.map lowerAscii)
      let (name, suffix) := splitSuffix sub
      some ⟨lower main, lower name, suffix.map lower⟩
    else none

/-- The text of a media type. -/
def essence (t : ContentType) : String :=
  t.main ++ "/" ++ t.sub ++ (match t.suffix with | some s => "+" ++ s | none => "")

/-- Whether the content is a structured value. -/
def isJson (t : ContentType) : Bool := t.sub = "json" || t.suffix = some "json"

end ContentType

end ApiContract
