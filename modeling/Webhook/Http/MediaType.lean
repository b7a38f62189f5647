import Webhook.Http.Message

/-!
# Media types

A media type is a type, a slash, a subtype and then parameters, each after a semicolon.  Spaces may
stand before a parameter and after a quoted value.  The list of parameters may end in a semicolon.
The type and the subtype together are the *essence*, for which the case of letters does not matter.
-/

namespace Webhook.Http.MediaType

/-- The marks that may stand in a token. -/
def tokenMarks : List Char :=
  ['!', '#', '$', '%', '&', '\'', '+', '-', '.', '^', '_', '\x60', '|', '~']

/-- A letter of a token. -/
def isTokenChar (c : Char) : Bool := c.isAlphanum || tokenMarks.contains c

/-- A letter of a quoted value. -/
def isQuotedChar (c : Char) : Bool := ' ' ≤ c && c != '\x7F'

/-- How far a media type has been read. -/
inductive Phase where
  /-- At the start. -/
  | start
  /-- In the type. -/
  | type
  /-- After the slash. -/
  | slash
  /-- In the subtype. -/
  | subtype
  /-- After a semicolon, before the name of a parameter. -/
  | gap
  /-- In the name of a parameter. -/
  | name
  /-- After an equals sign. -/
  | equals
  /-- In a value without quotes. -/
  | value
  /-- After the opening quote. -/
  | opened
  /-- In a quoted value. -/
  | quoted
  /-- After the closing quote. -/
  | closed
  deriving DecidableEq, Repr

namespace Phase

/-- Goes on within a token, or elsewhere at one mark. -/
def token (inside : Phase) (mark : Char) (after : Phase) (c : Char) : Option Phase :=
  if c = mark then some after else if isTokenChar c then some inside else none

/-- Reads one letter. -/
def step (c : Char) : Phase → Option Phase
  | start => if isTokenChar c then some type else none
  | type => token type '/' slash c
  | slash => if isTokenChar c then some subtype else none
  | subtype => token subtype ';' gap c
  | gap => if c = ' ' then some gap else if isTokenChar c then some name else none
  | name => token name '=' equals c
  | equals => token value '"' opened c
  | value => token value ';' gap c
  | opened => if isQuotedChar c then some quoted else none
  | quoted => if c = '"' then some closed else if isQuotedChar c then some quoted else none
  | closed => if c = ';' then some gap else if c = ' ' then some closed else none

/-- Whether a media type may end here. -/
def mayEnd : Phase → Bool
  | slash | subtype | gap | equals | value | closed => true
  | start | type | name | opened | quoted => false

/-- Whether the rest of a media type can be read from a phase on. -/
def reads : Phase → List Char → Bool
  | p, [] => p.mayEnd
  | p, c :: rest =>
    match p.step c with
    | some next => next.reads rest
    | none => false

end Phase

/-- Whether a text is a media type. -/
def isWellFormed (text : List Char) : Bool := Phase.start.reads text

/-- The type and the subtype. -/
def essence (text : List Char) : List Char := text.takeWhile (· != ';')

/-- Whether a text is a media type of a given essence, which is written in small letters. -/
def hasEssence (wanted : String) (text : String) : Bool :=
  isWellFormed text.toList && (essence text.toList).map Char.toLower == wanted.toList

/-- Whether a text is the media type of JSON. -/
def isJson (text : String) : Bool := hasEssence jsonMediaType text

example : isJson "Application/JSON; a=b;" = true := by decide +kernel
example : isJson "application/json; a=\"b;\" ; c=" = true := by decide +kernel
example : isJson "application/json ; a=b" = false := by decide +kernel
example : isJson "application/json;;" = false := by decide +kernel

end Webhook.Http.MediaType
