/-
**Messages.**

An exchange is a request with the response to it.  A message is dumped as it would be written to a
connection: a first line, the headers, an empty line and the body.

Main definitions:

* `Http.Version`, `Http.Request`, `Http.Response`, `Http.Exchange`;
* `Http.Request.dump`, `Http.Response.dump` — the texts of messages.
-/

import ApiContract.Http.Headers
import ApiContract.Http.Method
import ApiContract.Http.Status
import ApiContract.Http.Uri

set_option autoImplicit false

namespace ApiContract.Http

/-- The versions of the protocol. -/
inductive Version where
  | http09 | http10 | http11 | http2 | http3
  deriving DecidableEq, Repr

namespace Version

/-- The versions, in order. -/
def all : List Version := [http09, http10, http11, http2, http3]

/-- The number of a version. -/
def number : Version → String
  | http09 => "0.9"
  | http10 => "1.0"
  | http11 => "1.1"
  | http2 => "2.0"
  | http3 => "3.0"

/-- The text of a version. -/
def text (v : Version) : String := "HTTP/" ++ v.number

end Version

/-- A request. -/
structure Request where
  /-- The method. -/
  method : Method
  /-- The target. -/
  uri : Uri
  /-- The version of the protocol. -/
  version : Version := .http11
  /-- The headers. -/
  headers : Headers := []
  /-- The body. -/
  body : List UInt8 := []

/-- A response. -/
structure Response where
  /-- The status code. -/
  status : Status
  /-- The version of the protocol. -/
  version : Version := .http11
  /-- The headers. -/
  headers : Headers := []
  /-- The body. -/
  body : List UInt8 := []

/-- A request with the response to it. -/
structure Exchange where
  /-- The request. -/
  request : Request
  /-- The response. -/
  response : Response

/-! ### Dumps -/

/-- The end of a line. -/
def lineEnd : List Char := ['\r', '\n']

/-- The line of a header. -/
def headerLine (field : String × List UInt8) : List Char :=
  field.1.toList ++ ':' :: ' ' :: Utf8.decodeLossy field.2 ++ lineEnd

/-- What follows the first line of a message. -/
def afterFirstLine (headers : Headers) (body : List UInt8) : List Char :=
  headers.toList.flatMap headerLine ++ lineEnd ++ Utf8.decodeLossy body

/-- The first line of a request. -/
def Request.firstLine (r : Request) : String :=
  r.method.name ++ " " ++ r.uri.text ++ " " ++ r.version.text

/-- The first line of a response. -/
def Response.firstLine (r : Response) : String := r.version.text ++ " " ++ r.status.text

/-- The characters of a request. -/
def Request.dumpChars (r : Request) : List Char :=
  r.firstLine.toList ++ lineEnd ++ afterFirstLine r.headers r.body

/-- The characters of a response. -/
def Response.dumpChars (r : Response) : List Char :=
  r.firstLine.toList ++ lineEnd ++ afterFirstLine r.headers r.body

/-- The text of a request. -/
def Request.dump (r : Request) : String := String.ofList r.dumpChars

/-- The text of a response. -/
def Response.dump (r : Response) : String := String.ofList r.dumpChars

end ApiContract.Http
