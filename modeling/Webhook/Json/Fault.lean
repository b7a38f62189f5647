import Webhook.Json.Value
import Webhook.Text.Quoted
import Webhook.Text.Utf8

/-!
# What can be wrong with a JSON text

A text can break the grammar of JSON, or it can be a JSON text of the wrong form for the data
expected.  The first is a `Slip`, the second a `Mismatch`.  A `Fault` is either of them together
with the place it was noticed at, counted in bytes from the start of the text.

Reading stops at the first fault.  `message` is the sentence a caller is answered with.
-/

namespace Webhook.Json

/-- A breach of the grammar, or of one of the limits on texts. -/
inductive Slip where
  /-- The text ends inside a list. -/
  | endInList
  /-- The text ends inside an object. -/
  | endInObject
  /-- The text ends inside a string. -/
  | endInString
  /-- The text ends where a value is due or inside one. -/
  | endInValue
  /-- The name of a member is not followed by a colon. -/
  | missingColon
  /-- Neither a comma nor the end of the list follows an item. -/
  | missingListComma
  /-- Neither a comma nor the end of the object follows a member. -/
  | missingObjectComma
  /-- A word that starts like `null`, `true` or `false` but is none of them. -/
  | unknownWord
  /-- No value starts here. -/
  | missingValue
  /-- An escape that JSON does not have. -/
  | badEscape
  /-- A number that breaks off or goes on wrongly. -/
  | badNumber
  /-- A number too large for floating point. -/
  | numberTooLarge
  /-- The bytes of a string are not well formed. -/
  | badText
  /-- A bare character below the blank inside a string. -/
  | controlCharacter
  /-- Something other than a string where the name of a member is due. -/
  | nameNotString
  /-- An escaped half of a character without its other half. -/
  | lonelyHalf
  /-- A comma right before the end of a list or object. -/
  | trailingComma
  /-- Something follows the end of the text. -/
  | trailingText
  /-- No escape follows the first half of a character. -/
  | missingHalf
  /-- Lists and objects are nested too deeply. -/
  | tooDeep
  deriving DecidableEq, Repr

/-- The words for a slip. -/
def Slip.message : Slip → String
  | .endInList => "EOF while parsing a list"
  | .endInObject => "EOF while parsing an object"
  | .endInString => "EOF while parsing a string"
  | .endInValue => "EOF while parsing a value"
  | .missingColon => "expected `:`"
  | .missingListComma => "expected `,` or `]`"
  | .missingObjectComma => "expected `,` or `\x7d`"
  | .unknownWord => "expected ident"
  | .missingValue => "expected value"
  | .badEscape => "invalid escape"
  | .badNumber => "invalid number"
  | .numberTooLarge => "number out of range"
  | .badText => "invalid unicode code point"
  | .controlCharacter => "control character (\\u0000-\\u001F) found while parsing a string"
  | .nameNotString => "key must be a string"
  | .lonelyHalf => "lone leading surrogate in hex escape"
  | .trailingComma => "trailing comma"
  | .trailingText => "trailing characters"
  | .missingHalf => "unexpected end of hex escape"
  | .tooDeep => "recursion limit exceeded"

/-- What stands where something else is expected. -/
inductive Found where
  | null
  | bool (b : Bool)
  | number (n : Number)
  | string (s : String)
  | list
  | object
  deriving DecidableEq, Repr

/-- What a value is, where something else is expected. -/
def Value.found : Value → Found
  | .null => .null
  | .bool b => .bool b
  | .number n => .number n
  | .string s => .string s
  | .list _ => .list
  | .object _ => .object

/-- The words for what was found. -/
def Found.describe : Found → String
  | .null => "null"
  | .bool true => "boolean `true`"
  | .bool false => "boolean `false`"
  | .number (.whole n) => "integer `" ++ String.ofList (Number.whole n).render ++ "`"
  | .number (.float x) => "floating point `" ++ String.ofList x.render ++ "`"
  | .string s => "string " ++ Text.quoted s
  | .list => "sequence"
  | .object => "map"

/-- A well formed text that is not of the expected form. -/
inductive Mismatch where
  /-- A value of the wrong type. -/
  | wrongType (found : Found) (expected : String)
  /-- A value of the right type that is not among the expected ones. -/
  | wrongValue (found : Found) (expected : String)
  /-- A list that is too short for the record it stands for. -/
  | wrongLength (length : Nat) (expected : String)
  /-- A word that is none of the ones expected. -/
  | unknownVariant (word : String) (expected : List String)
  /-- A required member is absent. -/
  | missingField (name : String)
  /-- A member is there twice. -/
  | duplicateField (name : String)
  /-- A reader of a special text has its own words. -/
  | custom (text : String)
  deriving DecidableEq, Repr

/-- A word in the marks that set it off from the sentence. -/
def ticked (word : String) : String := "`" ++ word ++ "`"

/-- The words for a mismatch. -/
def Mismatch.message : Mismatch → String
  | .wrongType found expected => "invalid type: " ++ found.describe ++ ", expected " ++ expected
  | .wrongValue found expected => "invalid value: " ++ found.describe ++ ", expected " ++ expected
  | .wrongLength length expected =>
    "invalid length " ++ String.ofList (Binary64.digitsOf length) ++ ", expected " ++ expected
  | .unknownVariant word expected =>
    "unknown variant " ++ ticked word ++ ", expected one of "
      ++ ", ".intercalate (expected.map ticked)
  | .missingField name => "missing field " ++ ticked name
  | .duplicateField name => "duplicate field " ++ ticked name
  | .custom text => text

/-- What is wrong. -/
inductive Cause where
  /-- The text is not JSON. -/
  | slip (s : Slip)
  /-- The text is not of the expected form. -/
  | mismatch (m : Mismatch)
  deriving DecidableEq, Repr

/-- The words for a cause. -/
def Cause.message : Cause → String
  | .slip s => s.message
  | .mismatch m => m.message

/-- Something wrong, and the offset in bytes it was noticed at. -/
structure Fault where
  /-- What is wrong. -/
  cause : Cause
  /-- The offset. -/
  offset : Nat
  deriving DecidableEq, Repr

/-- A slip at an offset. -/
def slipAt (s : Slip) (offset : Nat) : Fault := ⟨.slip s, offset⟩

/-- A mismatch at an offset. -/
def mismatchAt (m : Mismatch) (offset : Nat) : Fault := ⟨.mismatch m, offset⟩

/-- The line of an offset, counted from one, and the bytes before it on that line. -/
def lineColumn (text : Bytes) (offset : Nat) : Nat × Nat :=
  (text.take offset).foldl
    (fun (at' : Nat × Nat) b => if b == 0x0A then (at'.1 + 1, 0) else (at'.1, at'.2 + 1)) (1, 0)

/-- The words for a fault of a text, with the place. -/
def Fault.message (text : Bytes) (f : Fault) : String :=
  let (line, column) := lineColumn text f.offset
  f.cause.message ++ " at line " ++ String.ofList (Binary64.digitsOf line)
    ++ " column " ++ String.ofList (Binary64.digitsOf column)

end Webhook.Json
