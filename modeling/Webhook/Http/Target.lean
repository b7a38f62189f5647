import Webhook.Text.Offset

/-!
# Targets of requests

A request asks for a target: a path with a query, a star, a host, or an address that names a scheme
and a host in front of its path.  Not every text is a target.  A path and a query have no space and
no control character below it, and some marks have to be written in another way there.  A target has
a greatest length, too.

`Target` holds a text together with the fact that it is one.
-/

namespace Webhook.Http

namespace Target

/-! ## Characters -/

/-- A character of a path: one beyond the space, and none of `#`, `<`, `>`, `?` and the backtick. -/
def isPathChar (c : Char) : Bool :=
  let n := c.toNat
  n == 0x21 || n == 0x22 || (0x24 ≤ n && n ≤ 0x3B) || n == 0x3D || (0x40 ≤ n && n ≤ 0x5F) || 0x61 ≤ n

/-- A character of a query: one beyond the space, and none of the quotation mark, `#`, `<` and `>`. -/
def isQueryChar (c : Char) : Bool :=
  let n := c.toNat
  n == 0x21 || (0x24 ≤ n && n ≤ 0x3B) || n == 0x3D || 0x3F ≤ n

/-- A letter or a digit. -/
def isWordChar (c : Char) : Bool := c.isAlphanum

/-- A character of a scheme. -/
def isSchemeChar (c : Char) : Bool := isWordChar c || ['+', '-', '.', '~'].contains c

/-- A character of a host that stands for itself. -/
def isHostChar (c : Char) : Bool :=
  isWordChar c
    || ['!', '$', '&', '\'', '(', ')', '*', '+', ',', '-', '.', ';', '=', '_', '~'].contains c

/-- A character that ends a host. -/
def endsHost (c : Char) : Bool := c == '/' || c == '?' || c == '#'

/-! ## Hosts -/

/-- What is known of a host so far. -/
structure Host where
  /-- The colons since the last mark that takes them back. -/
  colons : Nat
  /-- There is an opening bracket. -/
  opened : Bool
  /-- There is a closing bracket. -/
  closed : Bool
  /-- There is a percent sign since the last mark that takes it back. -/
  percent : Bool
  /-- The last character ends the part for the user. -/
  bare : Bool
  deriving DecidableEq, Repr

namespace Host

/-- Nothing is known. -/
def start : Host := ⟨0, false, false, false, false⟩

/-- Reads a character.  A colon or a percent sign counts for nothing in brackets or in the part for
the user, which ends with an at sign. -/
def step (h : Host) (c : Char) : Option Host :=
  if c == ':' then
    if 8 ≤ h.colons then none else some { h with colons := h.colons + 1, bare := false }
  else if c == '[' then
    if h.percent || h.opened then none else some { h with opened := true, bare := false }
  else if c == ']' then
    if !h.opened || h.closed then none
    else some { h with closed := true, colons := 0, percent := false, bare := false }
  else if c == '@' then some { h with colons := 0, percent := false, bare := true }
  else if c == '%' then some { h with percent := true, bare := false }
  else if isHostChar c then some { h with bare := false }
  else none

/-- Whether a host can end here: at most one colon is left, which is that of the port. -/
def isDone (h : Host) : Bool := h.opened == h.closed && h.colons ≤ 1 && !h.bare && !h.percent

end Host

/-- Whether a text is a host, with a user before it and a port after it. -/
def isHost (text : List Char) : Bool :=
  !text.isEmpty && (text.foldlM Host.step Host.start).any Host.isDone

/-! ## Paths -/

/-- What stands before the query and the fragment. -/
def withoutQuery (text : List Char) : List Char := text.takeWhile fun c => c != '?' && c != '#'

/-- Whether nothing follows, or a fragment. -/
def isEndOrFragment : List Char → Bool
  | [] => true
  | c :: _ => c == '#'

/-- Whether a text is a path with a query and a fragment, both of which may be left out. -/
def isLocator (text : List Char) : Bool :=
  match text.dropWhile isPathChar with
  | '?' :: query => isEndOrFragment (query.dropWhile isQueryChar)
  | rest => isEndOrFragment rest

/-! ## Forms -/

/-- What a target can be. -/
inductive Form where
  /-- A path on the server, with its query and its fragment. -/
  | place (locator : List Char)
  /-- The server as a whole. -/
  | whole
  /-- A host. -/
  | host (name : List Char)
  /-- A path on a host. -/
  | address (scheme name locator : List Char)
  deriving DecidableEq, Repr

/-- The form of a text. -/
def form : List Char → Form
  | '/' :: rest => .place ('/' :: rest)
  | ['*'] => .whole
  | text =>
    match text.dropWhile isSchemeChar with
    | ':' :: '/' :: '/' :: located =>
      .address (text.takeWhile isSchemeChar) (located.takeWhile (!endsHost ·))
        (located.dropWhile (!endsHost ·))
    | _ => .host text

/-- The greatest length of a scheme. -/
def maxScheme : Nat := 64

/-- The greatest number of bytes of a target. -/
def maxLength : Nat := 65534

namespace Form

/-- Whether all parts are as they have to be. -/
def isWellFormed : Form → Bool
  | place locator => isLocator locator
  | whole => true
  | host name => isHost name
  | address scheme name locator => scheme.length ≤ maxScheme && isHost name && isLocator locator

/-- The path that is asked for.  It is the root for an address that has none, and a host by itself
has no path. -/
def path : Form → List Char
  | place locator => withoutQuery locator
  | whole => ['*']
  | host _ => []
  | address _ _ locator =>
    match withoutQuery locator with
    | [] => ['/']
    | path => path

end Form

/-- Whether a text is a target. -/
def isTarget (text : List Char) : Bool :=
  Text.byteLength text ≤ maxLength && (form text).isWellFormed

example : (form "/a/b?c=/d".toList).path = "/a/b".toList := by decide +kernel
example : (form "http://host?x".toList).path = ['/'] := by decide +kernel
example : (form "https://host:1/a#b".toList).path = ['/', 'a'] := by decide +kernel
example : (form "host:80".toList).path = [] := by decide +kernel
example : isTarget "http://u:p%20@[::1]:80/".toList = true := by decide +kernel
example : isTarget "/a b".toList = false := by decide +kernel
example : isTarget "host:1:2".toList = false := by decide +kernel

end Target

/-- A target of a request. -/
structure Target where
  /-- How it is written. -/
  text : String
  /-- It is a target. -/
  wellFormed : Target.isTarget text.toList = true := by decide +kernel
  deriving DecidableEq

namespace Target

/-- A text as a target, if it is one. -/
def ofText? (text : String) : Option Target :=
  if h : isTarget text.toList = true then some ⟨text, h⟩ else none

/-- The root of the server. -/
def root : Target := .mk "/"

/-- The path of a target. -/
def path (t : Target) : String := String.ofList (form t.text.toList).path

end Target
end Webhook.Http
