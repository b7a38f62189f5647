import Webhook.Server.Address
import Webhook.Text.Lowercase
import Webhook.Text.Ranges

/-!
# Values of options

The value of an option is text, a switch, a number, an address or one of a few words.
-/

namespace Webhook.CommandLine

/-- What can be wrong with a value. -/
inductive ValueFault where
  /-- It is empty. -/
  | required
  /-- It is none of the words that are possible. -/
  | notListed
  /-- It cannot be read. -/
  | malformed (reason : String)
  deriving DecidableEq, Repr

/-! ## Numbers -/

/-- What can be wrong with a number. -/
inductive NumberFault where
  /-- There is nothing. -/
  | empty
  /-- Something is not a digit. -/
  | notDigit
  /-- The number is above the greatest one. -/
  | tooLarge
  /-- The number is below the least one. -/
  | tooSmall
  deriving DecidableEq, Repr

/-- The words for what is wrong. -/
def NumberFault.message : NumberFault → String
  | empty => "cannot parse integer from empty string"
  | notDigit => "invalid digit found in string"
  | tooLarge => "number too large to fit in target type"
  | tooSmall => "number too small to fit in target type"

/-- Reads digits up to a greatest number.  The first letter that is wrong decides what is wrong. -/
def readDigits (greatest : Nat) (excess : NumberFault) (value : Nat) :
    List Char → Except NumberFault Nat
  | [] => .ok value
  | c :: rest =>
    if !c.isDigit then .error .notDigit
    else
      let next := value * 10 + Text.Ranges.digitValue c
      if greatest < next then .error excess else readDigits greatest excess next rest

/-- Reads at least one digit. -/
def readMagnitude (greatest : Nat) (excess : NumberFault) (digits : List Char) :
    Except NumberFault Nat :=
  if digits.isEmpty then .error .notDigit else readDigits greatest excess 0 digits

/-- The greatest natural number of 64 bits. -/
def maxNatural : Nat := 0xFFFFFFFFFFFFFFFF

/-- Reads a natural number of 64 bits.  A plus sign may stand before it. -/
def readNatural (text : String) : Except NumberFault Nat :=
  match text.toList with
  | [] => .error .empty
  | '+' :: digits => readMagnitude maxNatural .tooLarge digits
  | digits => readMagnitude maxNatural .tooLarge digits

/-- The greatest whole number of 64 bits. -/
def maxWhole : Nat := 0x7FFFFFFFFFFFFFFF

/-- Reads a whole number of 64 bits.  A sign may stand before it. -/
def readWhole (text : String) : Except NumberFault Int :=
  match text.toList with
  | [] => .error .empty
  | '-' :: digits => (readMagnitude (maxWhole + 1) .tooSmall digits).map fun n => -(n : Int)
  | '+' :: digits => (readMagnitude maxWhole .tooLarge digits).map Int.ofNat
  | digits => (readMagnitude maxWhole .tooLarge digits).map Int.ofNat

/-! ## Kinds of values -/

/-- How the log is written. -/
inductive LogFormat where
  | text
  | json
  deriving DecidableEq, Repr

namespace LogFormat

/-- The word for a format. -/
def name : LogFormat → String
  | text => "text"
  | json => "json"

/-- All formats. -/
def all : List LogFormat := [text, json]

/-- The format of a word, whose case may be ignored. -/
def ofWord? (ignoreCase : Bool) (word : String) : Option LogFormat :=
  all.find? fun f => if ignoreCase then Text.sameUpToAsciiCase f.name word else f.name == word

/-- What is said of a word that is no format. -/
def unknownMessage (word : String) : String := "invalid variant: " ++ word

end LogFormat

/-- A port. -/
abbrev Port := Fin 0x10000

/-- Text that must not be empty. -/
def readPath (text : String) : Except ValueFault String :=
  if text = "" then .error .required else .ok text

/-- One of the two words for a switch. -/
def readSwitch (text : String) : Except ValueFault Bool :=
  if text = "true" then .ok true
  else if text = "false" then .ok false
  else if text = "" then .error .required
  else .error .notListed

/-- One of the words for a format. -/
def readFormat (text : String) : Except ValueFault LogFormat :=
  match LogFormat.ofWord? false text with
  | some format => .ok format
  | none => if text = "" then .error .required else .error .notListed

/-- An address. -/
def readAddress (text : String) : Except ValueFault IpAddress :=
  match IpAddress.parse? text with
  | some address => .ok address
  | none => .error (.malformed "invalid IP address syntax")

/-- A number of seconds. -/
def readSeconds (text : String) : Except ValueFault Nat :=
  (readNatural text).mapError fun fault => .malformed fault.message

/-- A port, which is a whole number in a range. -/
def readPort (text : String) : Except ValueFault Port :=
  match readWhole text with
  | .error fault => .error (.malformed fault.message)
  | .ok n =>
    if h : 0 ≤ n ∧ n < 0x10000 then .ok ⟨n.toNat, by omega⟩
    else .error (.malformed (toString n ++ " is not in 0..=65535"))

example : (readPort "+80").toOption = some 80 := by decide +kernel
example : readWhole "-0" = .ok 0 := by rfl

end Webhook.CommandLine
