import Webhook.Text.RangeSet
import Webhook.Unicode.Letter

/-!
# Regular expressions

A regular expression over characters, with assertions about the characters on both sides of a
place.  `Matches` says which stretches of a text it matches.  `search` tells whether it matches any
stretch at all.  It reads the text once and keeps the list of what may still follow.

A stretch of a text is seen with the character before it and the one after it.  There is none at
the ends of the text.
-/

namespace Webhook.Pattern

open Text (Ranges)

/-- An assertion about the characters on both sides of a place.  Words are made of characters of
all scripts, or of ASCII alone. -/
inductive Look where
  | textStart
  | textEnd
  | lineStart (carriageReturn : Bool)
  | lineEnd (carriageReturn : Bool)
  | wordEdge (unicode : Bool)
  | noWordEdge (unicode : Bool)
  | wordStart (unicode : Bool)
  | wordEnd (unicode : Bool)
  | wordStartHalf (unicode : Bool)
  | wordEndHalf (unicode : Bool)
  deriving DecidableEq, Repr

/-- Whether a character of ASCII belongs to words. -/
def isAsciiWord (c : Char) : Bool := c.isAlphanum || c == '_'

/-- Whether there is a character, and it belongs to words. -/
def inWord (unicode : Bool) : Option Char → Bool
  | none => false
  | some c => if unicode then Unicode.wordCharacters.has c.toNat else isAsciiWord c

namespace Look

/-- Whether an assertion holds between two characters. -/
def holds (before after : Option Char) : Look → Bool
  | textStart => before.isNone
  | textEnd => after.isNone
  | lineStart false => before.isNone || before == some '\n'
  | lineStart true =>
    before.isNone || before == some '\n' || (before == some '\r' && after != some '\n')
  | lineEnd false => after.isNone || after == some '\n'
  | lineEnd true =>
    after.isNone || after == some '\r' || (after == some '\n' && before != some '\r')
  | wordEdge u => inWord u before != inWord u after
  | noWordEdge u => inWord u before == inWord u after
  | wordStart u => !inWord u before && inWord u after
  | wordEnd u => inWord u before && !inWord u after
  | wordStartHalf u => !inWord u before
  | wordEndHalf u => !inWord u after

end Look

/-- A regular expression. -/
inductive Regex where
  /-- Nothing at all. -/
  | empty
  /-- One character of a set. -/
  | chars (set : Ranges)
  /-- Nothing, where an assertion holds. -/
  | look (l : Look)
  /-- One after the other. -/
  | seq (a b : Regex)
  /-- One of two. -/
  | alt (a b : Regex)
  /-- A repetition; without a greatest number it has no end. -/
  | rep (a : Regex) (least : Nat) (greatest : Option Nat)
  deriving DecidableEq, Repr

namespace Regex

/-- Whether an expression matches the empty stretch between two characters. -/
def nullable (before after : Option Char) : Regex → Bool
  | empty => true
  | chars _ => false
  | look l => l.holds before after
  | seq a b => a.nullable before after && b.nullable before after
  | alt a b => a.nullable before after || b.nullable before after
  | rep a least _ => least == 0 || a.nullable before after

/-- One after the other, where the first one may be nothing. -/
def follow : Regex → Regex → Regex
  | empty, b => b
  | a, b => seq a b

/-- What is left of a repetition after one round, unless that was the last one. -/
def oneLess (a : Regex) (least : Nat) : Option Nat → Option Regex
  | none => some (rep a least none)
  | some 0 => none
  | some (n + 1) => some (rep a least (some n))

/-- What may follow after a character, given the character before it. -/
def after (before : Option Char) (c : Char) : Regex → List Regex
  | empty | look _ => []
  | chars set => if set.has c.toNat then [empty] else []
  | seq a b =>
    (a.after before c).map (·.follow b)
      ++ if a.nullable before (some c) then b.after before c else []
  | alt a b => a.after before c ++ b.after before c
  | rep a least greatest =>
    let left := if a.nullable before (some c) then 0 else least - 1
    match oneLess a left greatest with
    | none => []
    | some rest => (a.after before c).map (·.follow rest)

/-- Reads a text and keeps what may still follow.  At each place the expression may start
anew. -/
def searchFrom (r : Regex) (before : Option Char) (pending : List Regex) : List Char → Bool
  | [] => (r :: pending).any (nullable before none)
  | c :: rest =>
    (r :: pending).any (nullable before (some c))
      || searchFrom r (some c) (((r :: pending).flatMap (after before c)).eraseDups) rest

/-- Whether an expression matches some stretch of a text. -/
def search (r : Regex) (text : List Char) : Bool := searchFrom r none [] text

/-- An expression matches a stretch between two characters. -/
inductive Matches : Regex → Option Char → List Char → Option Char → Prop where
  /-- Nothing matches the empty stretch. -/
  | empty {p q} : Matches .empty p [] q
  /-- A set matches each of its characters. -/
  | chars {set c p q} : set.has c.toNat = true → Matches (.chars set) p [c] q
  /-- An assertion matches the empty stretch where it holds. -/
  | look {l p q} : l.holds p q = true → Matches (.look l) p [] q
  /-- Two expressions match two stretches one after the other. -/
  | seq {a b p u v q} : Matches a p u (v.head?.or q) → Matches b (u.getLast?.or p) v q →
      Matches (.seq a b) p (u ++ v) q
  /-- The first of two expressions matches. -/
  | left {a b p w q} : Matches a p w q → Matches (.alt a b) p w q
  /-- The second of two expressions matches. -/
  | right {a b p w q} : Matches b p w q → Matches (.alt a b) p w q
  /-- A repetition that needs no round matches the empty stretch. -/
  | done {a greatest p q} : Matches (.rep a 0 greatest) p [] q
  /-- A repetition matches by a round and what is left of it after that. -/
  | round {a least greatest rest p u v q} : oneLess a (least - 1) greatest = some rest →
      Matches a p u (v.head?.or q) → Matches rest (u.getLast?.or p) v q →
      Matches (.rep a least greatest) p (u ++ v) q

end Regex
end Webhook.Pattern
