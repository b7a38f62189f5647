import Webhook.Pattern.Compile
import Webhook.Text.Quoted
import Webhook.Text.Blank
import Webhook.Text.Lowercase
import Webhook.Text.Offset

/-!
# Log filters

A filter says which events are worth showing.  It is a list of directives with commas between them,
and empty directives do not count.  A directive is a level, or a target with a level; after the
target it may name a span and a field of the span in brackets, with a value to look for.

A directive is read without the blanks around it, but its parts are looked up in the text with the
blanks, at the places that they have without them.  So with blanks in front a part can start or end
inside of a character, and then the check breaks off.

The dependencies of the server are only worth a line when something is wrong with them, so every
filter is put behind a few directives that quieten them.
-/

namespace Webhook.LogFilter

/-- What can be wrong with a filter. -/
inductive Fault where
  /-- A directive is not well-formed. -/
  | directive
  /-- A level is not known. -/
  | level
  /-- The pattern for the value of a field is refused. -/
  | pattern
  /-- The pattern for the value of a field asks for the edge of a word. -/
  | wordEdge
  deriving DecidableEq, Repr

/-- The words for what is wrong. -/
def Fault.message : Fault → String
  | directive => "invalid filter directive"
  | level =>
    "error parsing level filter: expected one of \"off\", \"error\", \"warn\", \"info\", "
      ++ "\"debug\", \"trace\", or a number 0-5"
  | pattern => "invalid field filter: error building NFA"
  | wordEdge =>
    "invalid field filter: unsupported regex feature for DFAs: cannot build DFAs for regexes with "
      ++ "Unicode word boundaries; switch to ASCII word boundaries, or heuristically enable Unicode "
      ++ "word boundaries or use a different regex engine"

/-! ## Levels -/

/-- The words for levels. -/
def levelWords : List String := ["off", "error", "warn", "info", "debug", "trace"]

/-- The number that digits stand for, if there are digits and nothing else. -/
def number? (digits : List Char) : Option Nat :=
  if !digits.isEmpty && digits.all Char.isDigit then
    some (digits.foldl (fun n c => n * 10 + Text.Ranges.digitValue c) 0)
  else none

/-- Text without a plus sign at the front. -/
def withoutPlus : List Char → List Char
  | '+' :: rest => rest
  | text => text

/-- Whether a text is a level: a word in any case, or a number from 0 to 5. -/
def isLevel (text : List Char) : Bool :=
  (number? (withoutPlus text)).any (· ≤ 5)
    || levelWords.any (Text.sameUpToAsciiCase (String.ofList text))

/-- A level may also be left out. -/
def checkLevel (text : List Char) : Except Fault Unit :=
  if text.isEmpty || isLevel text then .ok () else .error .level

/-! ## Fields -/

/-- Whether there is an exponent, or nothing. -/
def isExponentOrEmpty : List Char → Bool
  | [] => true
  | 'e' :: rest | 'E' :: rest =>
    match rest with
    | '+' :: digits | '-' :: digits => (number? digits).isSome
    | digits => (number? digits).isSome
  | _ => false

/-- Whether a text is a decimal number without a sign. -/
def isDecimal (text : List Char) : Bool :=
  let whole := text.takeWhile Char.isDigit
  match text.dropWhile Char.isDigit with
  | '.' :: rest =>
    let fraction := rest.takeWhile Char.isDigit
    !(whole.isEmpty && fraction.isEmpty) && isExponentOrEmpty (rest.dropWhile Char.isDigit)
  | rest => !whole.isEmpty && isExponentOrEmpty rest

/-- Whether a text is a number, or one of the words for what is no number or not finite. -/
def isNumeral (text : List Char) : Bool :=
  let magnitude := match text with
    | '+' :: rest | '-' :: rest => rest
    | _ => text
  isDecimal magnitude
    || ["inf", "infinity", "nan"].any (Text.sameUpToAsciiCase (String.ofList magnitude))

/-- Whether a pattern asks for the edge of a word of any script. -/
def asksForWordEdge : Pattern.Regex → Bool
  | .empty | .chars _ => false
  | .look (.wordEdge u) | .look (.noWordEdge u) | .look (.wordStart u) | .look (.wordEnd u)
  | .look (.wordStartHalf u) | .look (.wordEndHalf u) => u
  | .look _ => false
  | .seq a b | .alt a b => asksForWordEdge a || asksForWordEdge b
  | .rep a _ greatest => greatest != some 0 && asksForWordEdge a

/-- Checks the value of a field: a number or a pattern. -/
def checkValue (text : List Char) : Except Fault Unit :=
  if isNumeral text then .ok ()
  else
    match (Pattern.parse (String.ofList text)).bind Pattern.Node.toRegex with
    | .error _ => .error .pattern
    | .ok r => if asksForWordEdge r then .error .wordEdge else .ok ()

/-- The text between the first and the second equals sign. -/
def valueOf? (field : List Char) : Option (List Char) :=
  match field.dropWhile (· != '=') with
  | [] => none
  | _ :: rest => some (rest.takeWhile (· != '='))

/-- Checks a field: a name, or a name and a value. -/
def checkField (text : List Char) : Except Fault Unit :=
  if text.isEmpty then .error .directive
  else
    match valueOf? text with
    | none => .ok ()
    | some value => checkValue value

/-! ## Directives -/

/-- How the check of a directive can stop. -/
inductive Stop where
  /-- The directive is refused. -/
  | refused (fault : Fault)
  /-- A part of it starts or ends inside of a character, and the check breaks off. -/
  | brokenOff
  deriving DecidableEq, Repr

/-- How far a directive is read.  The numbers are the places where parts of it start. -/
inductive Place where
  /-- At the start. -/
  | start
  /-- In a level or a target. -/
  | first
  /-- In brackets, in the name of a span. -/
  | span (first : Nat)
  /-- In braces, in a field. -/
  | field (first : Nat)
  /-- After the braces. -/
  | fields
  /-- After the brackets. -/
  | target
  /-- In the level after an equals sign. -/
  | level (first : Nat)
  deriving DecidableEq, Repr

/-- Whether a directive can start with a character other than a bracket. -/
def canStart (c : Char) : Bool :=
  c == '-' || c == ':' || c == '_' || Unicode.isAlphabetic c || Unicode.isNumeric c

/-- The part of a text from one place up to another. -/
def part (text : List Char) (start stop : Nat) : Except Stop (List Char) :=
  match Text.slice? text start stop with
  | some part => .ok part
  | none => .error .brokenOff

/-- The part of a text after a place. -/
def partFrom (text : List Char) (start : Nat) : Except Stop (List Char) :=
  match Text.from? text start with
  | some part => .ok part
  | none => .error .brokenOff

/-- Goes on at a place, once a part of the text is there. -/
def takePart (text : List Char) (start stop : Nat) (next : Place) : Except Stop Place :=
  (part text start stop).map fun _ => next

/-- Reads the character at a place. -/
def step (text : List Char) (i : Nat) (c : Char) : Place → Except Stop Place
  | .start =>
    if c == '[' then .ok (.span (i + 1))
    else if canStart c then .ok .first
    else .error (.refused .directive)
  | .first =>
    if c == '=' then takePart text 0 i (.level (i + 1))
    else if c == '[' then takePart text 0 i (.span (i + 1))
    else .ok .first
  | .span start =>
    if c == ']' then takePart text start i .target
    else if c == '\x7b' then takePart text start i (.field (i + 1))
    else .ok (.span start)
  | .field start =>
    if c == '\x7d' then do
      let field ← part text start i
      (checkField field).mapError .refused
      return .fields
    else .ok (.field start)
  | .fields => if c == ']' then .ok .target else .error (.refused .directive)
  | .target => if c == '=' then .ok (.level (i + 1)) else .error (.refused .directive)
  | .level start => .ok (.level start)

/-- Checks what is read at the end. -/
def finish (text : List Char) : Place → Except Stop Unit
  | .first | .target => .ok ()
  | .level start => do (checkLevel (← partFrom text start)).mapError .refused
  | .start | .span _ | .field _ | .fields => .error (.refused .directive)

/-- Reads characters from a place on. -/
def readFrom (text : List Char) : (i : Nat) → Place → List Char → Except Stop Unit
  | _, p, [] => finish text p
  | i, p, c :: rest => do readFrom text (i + c.utf8Size) (← step text i c p) rest

/-- Checks a directive.  It is read without the blanks around it, and the places found in it are
places in the whole text. -/
def checkDirective (text : List Char) : Except Stop Unit :=
  readFrom text 0 .start (Text.trimChars text)

/-! ## Filters -/

/-- The directives of a filter. -/
def directives (filter : String) : List (List Char) :=
  (filter.toList.splitOn ',').filter fun d => !d.isEmpty

/-- Checks a filter. -/
def check (filter : String) : Except Stop Unit := (directives filter).forM checkDirective

/-- The directives that quieten the dependencies of the server. -/
def quietDirectives : List String := ["hyper=warn", "h2=warn", "rustls=warn", "notify=warn"]

/-- A filter behind the directives that quieten the dependencies. -/
def withQuiet (filter : String) : String := ",".intercalate (quietDirectives ++ [filter])

/-- What can go wrong when the log is set up. -/
inductive SetupFault where
  /-- The filter is refused. -/
  | badFilter (filter : String) (fault : Fault)
  /-- The check of the filter breaks off. -/
  | brokenOff
  /-- Something else takes the log already. -/
  | taken
  deriving DecidableEq, Repr

/-- What goes wrong when the check of a filter stops. -/
def SetupFault.ofStop (filter : String) : Stop → SetupFault
  | .refused fault => badFilter filter fault
  | .brokenOff => brokenOff

/-- The words for what goes wrong, without the place where a check breaks off. -/
def SetupFault.message : SetupFault → String
  | badFilter filter fault =>
    "invalid log filter " ++ Text.quoted filter ++ ": " ++ fault.message
  | brokenOff => "byte index is not a char boundary"
  | taken =>
    "cannot install log subscriber: a global default trace dispatcher has already been set"

/-- Checks a filter behind the directives that quieten the dependencies. -/
def checkBehindQuiet (filter : String) : Except SetupFault Unit :=
  match check (withQuiet filter) with
  | .error stop => .error (.ofStop filter stop)
  | .ok () => .ok ()

/-- Sets up the log, of which there is one in a process. -/
def setUp (taken : Bool) (filter : String) : Except SetupFault Unit := do
  checkBehindQuiet filter
  if taken then throw .taken

example : check "info,,a=" = .ok () := by rfl
example : check "a=6" = .error (.refused .level) := by rfl
example : check " é=info" = .error .brokenOff := by rfl

end Webhook.LogFilter
