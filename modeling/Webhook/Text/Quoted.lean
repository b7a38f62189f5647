import Webhook.Text.Showable

/-!
# Quoted text

How a text is shown inside a message: between quotation marks, with the marks, backslashes and
line controls escaped by a letter, and every other character that cannot be shown by itself
escaped by its code point in braces.
-/

namespace Webhook.Text

/-- The lower case hexadecimal digits of a number. -/
def hexDigits (n : Nat) : List Char := Nat.toDigits 16 n

/-- What stands for a character between the quotation marks. -/
def quoteChar (c : Char) : List Char :=
  if c = '\x00' then ['\\', '0']
  else if c = '\t' then ['\\', 't']
  else if c = '\n' then ['\\', 'n']
  else if c = '\r' then ['\\', 'r']
  else if c = '"' then ['\\', '"']
  else if c = '\\' then ['\\', '\\']
  else if isUnshowable c then '\\' :: 'u' :: '\x7b' :: (hexDigits c.toNat ++ ['\x7d'])
  else [c]

/-- A text between quotation marks. -/
def quoted (s : String) : String :=
  String.ofList ('"' :: (s.toList.flatMap quoteChar ++ ['"']))

/-- Texts in brackets, each quoted, with commas between them. -/
def quotedList (texts : List String) : String := "[" ++ ", ".intercalate (texts.map quoted) ++ "]"

example : ['"', '\\', '\n', '\x00'].flatMap quoteChar
    = ['\\', '"', '\\', '\\', '\\', 'n', '\\', '0'] := by decide

end Webhook.Text
