import Webhook.Http.Target
import Webhook.Text.Lowercase
import Webhook.Text.Utf8

/-!
# Requests and answers

A request names a method and a target, and carries headers and a body.  An answer has a status,
headers and a body.  The names of headers do not depend on the case of their letters, and their
values are bytes, which need not be text.
-/

namespace Webhook.Http

/-- Headers in the order in which they were given. -/
abbrev Headers := List (String × Bytes)

namespace Headers

/-- The first value under a name. -/
def first? (headers : Headers) (name : String) : Option Bytes :=
  (headers.find? fun h => Text.sameUpToAsciiCase h.1 name).map (·.2)

/-- A byte that can be read as text: a visible letter, a space or a tab. -/
def isReadable (b : UInt8) : Bool := b == 9 || (32 ≤ b && b < 127)

/-- The text of a value, if all of it can be read. -/
def readable? (value : Bytes) : Option String :=
  if value.all isReadable then some (String.ofList (value.map fun b => Char.ofNat b.toNat)) else none

/-- The text of the first value under a name, empty when there is none that can be read. -/
def text (headers : Headers) (name : String) : String :=
  ((headers.first? name).bind readable?).getD ""

end Headers

/-- A request to the server. -/
structure Request where
  /-- The method, whose case matters. -/
  method : String
  /-- What is asked for. -/
  target : Target
  /-- The headers. -/
  headers : Headers
  /-- The body. -/
  body : Bytes

/-- The path that a request asks for. -/
def Request.path (r : Request) : String := r.target.path

/-- An answer of the server. -/
structure Response where
  /-- The status code. -/
  status : Nat
  /-- The headers. -/
  headers : List (String × Bytes)
  /-- The body. -/
  body : String
  deriving DecidableEq, Repr

/-- A header whose value is text. -/
def textHeader (name value : String) : String × Bytes := (name, Utf8.encode value)

/-- The header for the media type of the body. -/
def contentType (mediaType : String) : String × Bytes := textHeader "content-type" mediaType

/-- The name of the header for the length of the body. -/
def lengthHeader : String := "content-length"

/-- The header for the length of the body. -/
def contentLength (bytes : Nat) : String × Bytes := textHeader lengthHeader (toString bytes)

/-- The media type of JSON. -/
def jsonMediaType : String := "application/json"

/-- The media type of plain text. -/
def textMediaType : String := "text/plain; charset=utf-8"

/-- The same answer with a header for the length of its body, unless it has one. -/
def Response.measured (r : Response) : Response :=
  { r with
    headers := if (Headers.first? r.headers lengthHeader).isSome then r.headers
      else r.headers ++ [contentLength r.body.utf8ByteSize] }

/-- The same answer without its body. -/
def Response.withoutBody (r : Response) : Response := { r with body := "" }

/-- The answer that is a text. -/
def Response.ofText (body : String) : Response := ⟨200, [contentType textMediaType], body⟩

end Webhook.Http
