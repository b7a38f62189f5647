/-!
# Ranges of code points

Large classes of characters are kept as text: the ranges in ascending order, each as one
hexadecimal code point or as two with a hyphen between them, and a blank between ranges.  A table
is a list of such lines.  `Ranges.ofTable` reads it.
-/

namespace Webhook.Text

/-- Ranges of code points, both ends included. -/
abbrev Ranges := List (Nat × Nat)

namespace Ranges

/-- Whether a code point lies in one of the ranges. -/
def has (rs : Ranges) (n : Nat) : Bool := rs.any fun r => r.1 ≤ n && n ≤ r.2

/-- The value of a lower case hexadecimal digit. -/
def digitValue (c : Char) : Nat :=
  if c.isDigit then c.toNat - '0'.toNat else c.toNat - 'a'.toNat + 10

/-- Reads a line from a given place: the ranges so far, latest first, the start of the current
range if its hyphen has been passed, and the current number. -/
def read (done : Ranges) (low : Option Nat) (n : Nat) : List Char → Ranges
  | [] => ((low.getD n, n) :: done).reverse
  | ' ' :: rest => read ((low.getD n, n) :: done) none 0 rest
  | '-' :: rest => read done (some n) 0 rest
  | c :: rest => read done low (n * 16 + digitValue c) rest

/-- The ranges of a line. -/
def ofLine (line : String) : Ranges :=
  match line.toList with
  | [] => []
  | cs => read [] none 0 cs

/-- The ranges of a table. -/
def ofTable (table : List String) : Ranges := table.flatMap ofLine

example : ofTable ["9-d 20", "a0"] = [(9, 13), (32, 32), (160, 160)] := by decide +kernel

end Ranges
end Webhook.Text
