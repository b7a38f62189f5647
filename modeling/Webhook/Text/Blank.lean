/-!
# Blank characters

The characters that count as space at the ends of a text, and trimming by them.
-/

namespace Webhook.Text

/-- Whether a character is white space. -/
def isBlank (c : Char) : Bool :=
  let n := c.toNat
  (9 ≤ n && n ≤ 13) || n == 0x20 || n == 0x85 || n == 0xA0 || n == 0x1680
    || (0x2000 ≤ n && n ≤ 0x200A) || n == 0x2028 || n == 0x2029 || n == 0x202F || n == 0x205F
    || n == 0x3000

/-- The characters without the blanks at both ends. -/
def trimChars (cs : List Char) : List Char :=
  ((cs.dropWhile isBlank).reverse.dropWhile isBlank).reverse

/-- A text without the blanks at both ends. -/
def trim (s : String) : String := String.ofList (trimChars s.toList)

/-- A text is blank when nothing but blanks is in it. -/
def isBlankText (s : String) : Bool := s.toList.all isBlank

theorem isBlankText_append (a b : String) :
    isBlankText (a ++ b) = (isBlankText a && isBlankText b) := by
  rw [isBlankText, String.toList_append, List.all_append]
  rfl

example : trim " \u3000a b\n" = "a b" := by decide +kernel
example : isBlankText "\u2003\t" = true := by decide +kernel
example : isBlankText "\u200b" = false := by decide +kernel

end Webhook.Text
