/-
**Addresses of requests.**

The target of a request is a path with a query, a full address, a host alone, or an asterisk.  A
fragment is dropped.  The path and the query are kept as they are written, escapes and all.

Main definitions:

* `Http.Uri` — a target;
* `Http.Uri.ofString?` — the target that a text is;
* `Http.Uri.text` — the text of a target.
-/

import ApiContract.Text.Basic

set_option autoImplicit false

namespace ApiContract.Http

open Text

/-- The target of a request. -/
structure Uri where
  /-- The scheme; only full addresses have one. -/
  scheme : Option String
  /-- The host, with what may stand beside it; empty for a path alone. -/
  authority : String
  /-- The path, as it is written; empty for a host alone. -/
  path : String
  /-- What follows the question mark. -/
  query : Option String
  deriving DecidableEq

namespace Uri

/-- The text of a target. -/
def text (u : Uri) : String :=
  (match u.scheme with | some s => s ++ "://" | none => "") ++ u.authority ++ u.path ++
    (match u.query with | some q => "?" ++ q | none => "")

/-! ### Schemes -/

/-- The characters of schemes. -/
def isSchemeChar (c : Char) : Bool :=
  ('a' ≤ c && c ≤ 'z') || ('A' ≤ c && c ≤ 'Z') || isDigit c || "+-.~".toList.contains c

/-- The length of the longest scheme. -/
def maxSchemeLength : Nat := 64

/-- The lower-case form of one of the two common schemes, any other scheme as it is. -/
def normalScheme (s : String) : String :=
  if equalIgnoringCase s "http" then "http"
  else if equalIgnoringCase s "https" then "https"
  else s

/-- The scheme before the first colon, if two slashes follow that, and what stands after them; a
scheme that is too long is an error. -/
def splitScheme? (cs : List Char) : Option (Option String × List Char) :=
  let scheme := cs.takeWhile isSchemeChar
  match cs.drop scheme.length with
  | ':' :: '/' :: '/' :: rest =>
    if maxSchemeLength < scheme.length then none
    else some (some (normalScheme (String.ofList scheme)), rest)
  | _ => some (none, cs)

/-! ### Hosts -/

/-- The characters that may stand anywhere in a target without an escape. -/
def isUriChar (c : Char) : Bool :=
  ('a' ≤ c && c ≤ 'z') || ('A' ≤ c && c ≤ 'Z') || isDigit c ||
    "!#$&'()*+,-./:;=?@[]_~".toList.contains c

/-- What has been seen of a host. -/
structure HostState where
  /-- The colons that may belong to a port. -/
  colons : Nat := 0
  /-- Whether a bracket was opened. -/
  opened : Bool := false
  /-- Whether a bracket was closed. -/
  closed : Bool := false
  /-- Whether an escape may belong to the host. -/
  escaped : Bool := false
  /-- Whether the last character is the end of a user's name. -/
  atSign : Bool := false

/-- The number of colons in a row of numbers with a port. -/
def maxColons : Nat := 8

/-- Read a character of a host.  Neither colons nor escapes count if they stand before a closing
bracket or before the end of a user's name. -/
def HostState.next? (s : HostState) (c : Char) : Option HostState :=
  let s := { s with atSign := c = '@' }
  if c = ':' then if maxColons ≤ s.colons then none else some { s with colons := s.colons + 1 }
  else if c = '[' then if s.escaped || s.opened then none else some { s with opened := true }
  else if c = ']' then
    if !s.opened || s.closed then none
    else some { s with closed := true, colons := 0, escaped := false }
  else if c = '@' then some { s with colons := 0, escaped := false }
  else if c = '%' then some { s with escaped := true }
  else if isUriChar c then some s
  else none

/-- Whether a host may end. -/
def HostState.isFinal (s : HostState) : Bool :=
  s.opened == s.closed && s.colons ≤ 1 && !s.atSign && !s.escaped

/-- Whether a text is a host with what may stand beside it. -/
def isHost (cs : List Char) : Bool :=
  (cs.foldlM HostState.next? {}).any HostState.isFinal

/-- Whether a character ends a host. -/
def endsHost (c : Char) : Bool := c = '/' || c = '?' || c = '#'

/-! ### Paths -/

/-- The characters of queries. -/
def isQueryChar (c : Char) : Bool :=
  '!' ≤ c && !(c = '"' || c = '#' || c = '<' || c = '>')

/-- The characters of paths.  Quotation marks and braces, which should be escaped, are among
them. -/
def isPathChar (c : Char) : Bool :=
  '!' ≤ c && !(c = '#' || c = '<' || c = '>' || c = '?' || c.toNat = 0x60)

/-- The path and the query of a text, without its fragment. -/
def splitPath? (cs : List Char) : Option (String × Option String) :=
  let path := cs.takeWhile isPathChar
  match cs.drop path.length with
  | [] => some (String.ofList path, none)
  | '#' :: _ => some (String.ofList path, none)
  | '?' :: rest =>
    let query := rest.takeWhile isQueryChar
    match rest.drop query.length with
    | [] => some (String.ofList path, some (String.ofList query))
    | '#' :: _ => some (String.ofList path, some (String.ofList query))
    | _ => none
  | _ => none

/-! ### Targets -/

/-- The number of bytes of the longest target. -/
def maxLength : Nat := 65534

/-- The target that characters are. -/
def ofChars? (cs : List Char) : Option Uri :=
  if cs = [] then none
  else if cs = ['*'] then some ⟨none, "", "*", none⟩
  else if cs.head? = some '/' then
    (splitPath? cs).map fun p => ⟨none, "", p.1, p.2⟩
  else
    match splitScheme? cs with
    | none => none
    | some (none, rest) =>
      if rest.any endsHost || !isHost rest then none
      else some ⟨none, String.ofList rest, "", none⟩
    | some (some scheme, rest) =>
      let host := rest.takeWhile fun c => !endsHost c
      if host = [] || !isHost host then none
      else
        (splitPath? (rest.drop host.length)).map fun p =>
          ⟨some scheme, String.ofList host, if p.1 = "" then "/" else p.1, p.2⟩

/-- The target that a text is. -/
def ofString? (s : String) : Option Uri :=
  if maxLength < s.utf8ByteSize then none else ofChars? s.toList

end Uri

end ApiContract.Http
