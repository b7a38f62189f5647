import Webhook.Text.Ranges

/-!
# Sets of code points

The operations on sets that are given by ranges.  Ranges may overlap and stand in any order.  Only
the complement sorts them.
-/

namespace Webhook.Text.Ranges

/-- The range of one code point. -/
def single (n : Nat) : Ranges := [(n, n)]


/-- Puts a range into ranges that are sorted by their first code point. -/
def insertSorted (r : Nat × Nat) : Ranges → Ranges
  | [] => [r]
  | s :: rest => if r.1 ≤ s.1 then r :: s :: rest else s :: insertSorted r rest

/-- Ranges sorted by their first code point. -/
def sorted (rs : Ranges) : Ranges := rs.foldr insertSorted []

/-- What sorted ranges leave out, from one code point to another. -/
def gaps (low high : Nat) : Ranges → Ranges
  | [] => if low ≤ high then [(low, high)] else []
  | (a, b) :: rest =>
    if low < a then
      (if low ≤ high then [(low, min (a - 1) high)] else []) ++ gaps (max low (b + 1)) high rest
    else gaps (max low (b + 1)) high rest

/-- The code points up to a greatest one that are not in the set. -/
def complement (greatest : Nat) (rs : Ranges) : Ranges := gaps 0 greatest rs.sorted

/-- The greatest code point. -/
def maxCodePoint : Nat := 0x10FFFF

/-- The code points in two sets. -/
def intersection (a b : Ranges) : Ranges :=
  complement maxCodePoint (complement maxCodePoint a ++ complement maxCodePoint b)

/-- The code points in the first of two sets only. -/
def difference (a b : Ranges) : Ranges :=
  complement maxCodePoint (complement maxCodePoint a ++ b)

/-- The code points in exactly one of two sets. -/
def symmetricDifference (a b : Ranges) : Ranges := difference a b ++ difference b a

/-- Whether only code points of ASCII are in the set. -/
def isAscii (rs : Ranges) : Bool := rs.all fun r => r.2 < 128

/-- A range and the sorted ranges after it, those that touch or overlap put together. -/
def merged (low high : Nat) : Ranges → Ranges
  | [] => [(low, high)]
  | (a, b) :: rest =>
    if a ≤ high + 1 then merged low (max high b) rest else (low, high) :: merged a b rest

/-- The fewest ranges for a set. -/
def normalized (rs : Ranges) : Ranges :=
  match rs.sorted with
  | [] => []
  | (a, b) :: rest => merged a b rest

example : complement 9 [(3, 4), (6, 6)] = [(0, 2), (5, 5), (7, 9)] := by decide +kernel

end Webhook.Text.Ranges
