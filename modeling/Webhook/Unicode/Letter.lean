import Webhook.Unicode.Category
import Webhook.Unicode.Property

/-!
# Letters, digits and words

The classes of characters that names, numbers and words are made of.
-/

namespace Webhook.Unicode

open Text (Ranges)

/-- The characters of alphabets. -/
def alphabetic : Ranges := property "Alphabetic"

/-- The digits of decimal numbers. -/
def decimalDigits : Ranges := category "Nd"

/-- The characters of numbers. -/
def numeric : Ranges := decimalDigits ++ category "Nl" ++ category "No"

/-- The characters that are white space. -/
def whiteSpace : Ranges := property "White_Space"

/-- The characters of words: those of alphabets, marks, digits, connecting punctuation and the
invisible controls that join letters. -/
def wordCharacters : Ranges :=
  alphabetic ++ category "Mc" ++ category "Me" ++ category "Mn" ++ decimalDigits
    ++ category "Pc" ++ property "Join_Control"

/-- Whether a character belongs to an alphabet. -/
def isAlphabetic (c : Char) : Bool := alphabetic.has c.toNat

/-- Whether a character belongs to a number. -/
def isNumeric (c : Char) : Bool := numeric.has c.toNat

end Webhook.Unicode
