import Webhook.Json.Value

/-!
# Compact JSON text

A value is written without any blank.  In a string the quotation mark, the backslash and the
characters below the blank are escaped, five of the latter with a letter of their own and the
others with four hexadecimal digits.  Every other character is written as it is.
-/

namespace Webhook.Json

/-- The lower case hexadecimal digit of a number below sixteen. -/
def hexDigit (n : Nat) : Char := Nat.digitChar n

/-- What stands for a character inside a string. -/
def escapeChar (c : Char) : List Char :=
  if c = '"' then ['\\', '"']
  else if c = '\\' then ['\\', '\\']
  else if c = '\x08' then ['\\', 'b']
  else if c = '\x0c' then ['\\', 'f']
  else if c = '\n' then ['\\', 'n']
  else if c = '\r' then ['\\', 'r']
  else if c = '\t' then ['\\', 't']
  else if c.toNat < 0x20 then
    ['\\', 'u', '0', '0', hexDigit (c.toNat / 16), hexDigit (c.toNat % 16)]
  else [c]

/-- A string in quotation marks. -/
def quote (s : String) : List Char := '"' :: (s.toList.flatMap escapeChar ++ ['"'])

/-- Texts with commas between them. -/
def commaSeparated : List (List Char) → List Char
  | [] => []
  | [t] => t
  | t :: ts => t ++ ',' :: commaSeparated ts

/-- A list of texts. -/
def printList (items : List (List Char)) : List Char := '[' :: (commaSeparated items ++ [']'])

/-- A member: its quoted name, a colon and the text of its value. -/
def printMember (name : String) (text : List Char) : List Char := quote name ++ ':' :: text

/-- An object of members already written. -/
def printObject (members : List (List Char)) : List Char :=
  '\x7b' :: (commaSeparated members ++ ['\x7d'])

/-- A truth value. -/
def printBool (b : Bool) : List Char :=
  if b then ['t', 'r', 'u', 'e'] else ['f', 'a', 'l', 's', 'e']

/-- The word for no value. -/
def printNull : List Char := ['n', 'u', 'l', 'l']

mutual

/-- The text of a value. -/
def Value.print : Value → List Char
  | .null => printNull
  | .bool b => printBool b
  | .number n => n.render
  | .string s => quote s
  | .list items => printList (printItems items)
  | .object members => printObject (printMembers members)
termination_by structural v => v

/-- The texts of the items of a list. -/
def printItems : List Value → List (List Char)
  | [] => []
  | v :: vs => v.print :: printItems vs
termination_by structural vs => vs

/-- The texts of the members of an object. -/
def printMembers : List (String × Value) → List (List Char)
  | [] => []
  | m :: ms => printMemberOf m :: printMembers ms
termination_by structural ms => ms

/-- The text of one member. -/
def printMemberOf : String × Value → List Char
  | (name, v) => printMember name v.print
termination_by structural m => m

end

/-- The text of a value, as a string. -/
def Value.render (v : Value) : String := String.ofList v.print

example : (Value.object [("a", .list [.null, .bool true, .string "x\n\x01\""])]).render
    = "\x7b\"a\":[null,true,\"x\\n\\u0001\\\"\"]\x7d" := by decide +kernel

end Webhook.Json
