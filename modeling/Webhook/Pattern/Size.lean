import Webhook.Pattern.Regex
import Webhook.Text.Utf8

/-!
# The size of an expression

An expression is turned into an automaton over bytes, and the memory for the automaton is limited.
`Regex.size` is the number of bytes that it takes.

A set beyond ASCII becomes a tree of byte ranges.  A range of code points is first cut into pieces
whose encodings are products of byte ranges.
-/

namespace Webhook.Pattern

open Text (Ranges)

/-- The greatest number of bytes for an automaton. -/
def sizeLimit : Nat := 10 * 0x100000

/-- The bytes for a state. -/
def stateSize : Nat := 32

/-- The bytes for a choice of a state among others. -/
def choiceSize : Nat := 4

/-- The bytes for a byte range of a state. -/
def rangeSize : Nat := 8

/-! ## Byte ranges -/

/-- The last code points of one, two and three bytes, and those next to the code points that no
character has. -/
def cuts : List Nat := [0x7F, 0x7FF, 0xD7FF, 0xDFFF, 0xFFFF]

/-- The place right after which a range has to be cut, so that the code points of each piece agree
in all but the last bytes. -/
def cut? (a b : Nat) : Option Nat :=
  match cuts.find? fun c => a ≤ c && c < b with
  | some c => some c
  | none =>
    if b < 0x80 then none
    else [1, 2, 3].findSome? fun i =>
      let m := 1 <<< (6 * i)
      if a / m = b / m then none
      else if a % m ≠ 0 then some ((a / m + 1) * m - 1)
      else if b % m ≠ m - 1 then some (b / m * m - 1)
      else none

/-- The pieces of a range. -/
def pieces : (fuel : Nat) → Nat → Nat → List (Nat × Nat)
  | 0, a, b => [(a, b)]
  | fuel + 1, a, b =>
    match cut? a b with
    | some c => pieces fuel a c ++ pieces fuel (c + 1) b
    | none => [(a, b)]

/-- The byte ranges of a piece. -/
def byteRanges (piece : Nat × Nat) : List (UInt8 × UInt8) :=
  (Utf8.encodeChar (Char.ofNat piece.1)).zip (Utf8.encodeChar (Char.ofNat piece.2))

/-- The number of byte ranges that do not follow the same ones as those of the piece before. -/
def newRanges : List (UInt8 × UInt8) → List (UInt8 × UInt8) → Nat
  | a :: as, b :: bs => if a = b then newRanges as bs else (b :: bs).length
  | _, bs => bs.length

/-- The number of byte ranges in the tree of pieces in ascending order. -/
def treeSize (before : List (UInt8 × UInt8)) : List (List (UInt8 × UInt8)) → Nat
  | [] => 0
  | p :: rest => newRanges before p + treeSize p rest

/-- The bytes for a set with as few ranges as possible. -/
def setSize (set : Ranges) : Nat :=
  if set.isAscii then
    match set with
    | [] => stateSize
    | [(a, b)] => if a = b then stateSize else 2 * stateSize + rangeSize
    | _ => 2 * stateSize + rangeSize * set.length
  else
    let all := ((set.flatMap fun r => pieces 64 r.1 r.2).filter fun p =>
      p.1 < 0xD800 || 0xDFFF < p.1).map byteRanges
    (treeSize [] all + 2) * stateSize + choiceSize * all.length

/-! ## Expressions -/

namespace Regex

/-- Whether an expression matches empty stretches only. -/
def takesNothing : Regex → Bool
  | empty | look _ => true
  | chars set => set.isEmpty
  | seq a b | alt a b => a.takesNothing && b.takesNothing
  | rep a _ _ => a.takesNothing

/-- The bytes for a repetition of a part of a given size. -/
def repSize (part least : Nat) : Option Nat → Nat
  | none => max 1 least * part + 2 * stateSize + 2 * choiceSize
  | some greatest =>
    greatest * part + (greatest - least) * (stateSize + 2 * choiceSize) + stateSize

/-- The bytes for an expression. -/
def size : Regex → Nat
  | empty => stateSize
  | look _ => stateSize
  | chars set => setSize set
  | seq a empty => a.size
  | seq a b => a.size + b.size
  | alt a b => a.size + choiceSize + b.size
  | rep a least greatest =>
    if a.takesNothing then repSize a.size (min least 1) (some ((greatest.map (min 1)).getD 1))
    else repSize a.size least greatest

end Regex
end Webhook.Pattern
