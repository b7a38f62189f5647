import Webhook.Pattern.Fault

/-!
# The structure of a pattern

A pattern as a tree.  Every part knows the stretch of the pattern it was read from, because a part
can turn out to be wrong long after it was read.
-/

namespace Webhook.Pattern

/-- The classes that have a letter of their own. -/
inductive LetterClass where
  /-- Digits. -/
  | digit
  /-- White space. -/
  | space
  /-- What words are made of. -/
  | word
  deriving DecidableEq, Repr

/-- The classes of ASCII that have a name between colons. -/
inductive AsciiClass where
  | alnum
  | alpha
  | ascii
  | blank
  | cntrl
  | digit
  | graph
  | lower
  | print
  | punct
  | space
  | upper
  | word
  | xdigit
  deriving DecidableEq, Repr

/-- A place in the text where something has to hold of the characters on both sides. -/
inductive Assertion where
  /-- The start of a line, or of the text. -/
  | lineStart
  /-- The end of a line, or of the text. -/
  | lineEnd
  /-- The start of the text. -/
  | textStart
  /-- The end of the text. -/
  | textEnd
  /-- An edge of a word. -/
  | wordEdge
  /-- No edge of a word. -/
  | noWordEdge
  /-- The start of a word. -/
  | wordStart
  /-- The end of a word. -/
  | wordEnd
  /-- No word before. -/
  | wordStartHalf
  /-- No word after. -/
  | wordEndHalf
  deriving DecidableEq, Repr

/-- A question about a character: a property by itself, or with a value. -/
inductive Query where
  /-- A name alone. -/
  | name (name : String)
  /-- A property and its value. -/
  | value (name value : String)
  deriving DecidableEq, Repr

/-- What can be switched on and off inside a pattern. -/
inductive Flag where
  /-- The case of letters does not matter. -/
  | ignoreCase
  /-- Lines have starts and ends. -/
  | lines
  /-- The dot includes the end of a line. -/
  | dotAll
  /-- Repetitions prefer few. -/
  | lazy
  /-- Characters of all scripts are known. -/
  | unicode
  /-- A carriage return ends a line too. -/
  | carriageReturn
  /-- Blanks and comments are skipped. -/
  | verbose
  deriving DecidableEq, Repr

/-- An item in a list of flags: a flag, or the minus that the flags after it are switched off
by. -/
inductive FlagItem where
  | flag (f : Flag)
  | minus
  deriving DecidableEq, Repr

/-- What a list of flags says about a flag: the first mention counts. -/
def flagState (f : Flag) : (on : Bool) → List FlagItem → Option Bool
  | _, [] => none
  | _, .minus :: rest => flagState f false rest
  | on, .flag g :: rest => if g = f then some on else flagState f on rest

/-- The two ways in which sets of characters are combined, beside their union. -/
inductive SetOp where
  | intersection
  | difference
  | symmetricDifference
  deriving DecidableEq, Repr

/-- A character as it is written: `byte` tells whether by two hexadecimal digits, which name a
byte where characters of all scripts are not known. -/
structure Literal where
  /-- The stretch. -/
  span : Span
  /-- The character. -/
  char : Char
  /-- Whether it is written as a byte. -/
  byte : Bool
  deriving DecidableEq, Repr

/-- A part of a set of characters. -/
inductive SetNode where
  /-- Nothing. -/
  | empty (span : Span)
  /-- A character. -/
  | literal (l : Literal)
  /-- All characters from one to another. -/
  | range (span : Span) (low high : Literal)
  /-- A named class of ASCII. -/
  | ascii (span : Span) (c : AsciiClass) (negated : Bool)
  /-- A class with a letter. -/
  | letter (span : Span) (c : LetterClass) (negated : Bool)
  /-- The characters with a property. -/
  | property (span : Span) (q : Query) (negated : Bool)
  /-- A set in brackets. -/
  | bracketed (span : Span) (negated : Bool) (inner : SetNode)
  /-- Several parts together. -/
  | union (span : Span) (parts : List SetNode)
  /-- Two parts combined. -/
  | op (span : Span) (o : SetOp) (left right : SetNode)
  deriving Repr

/-- The stretch of a part of a set. -/
def SetNode.span : SetNode → Span
  | .empty span | .range span .. | .ascii span .. | .letter span .. | .property span ..
  | .bracketed span .. | .union span _ | .op span .. => span
  | .literal l => l.span

/-- A part of a pattern. -/
inductive Node where
  /-- Nothing. -/
  | empty (span : Span)
  /-- Flags for the rest of the group. -/
  | flags (span : Span) (items : List FlagItem)
  /-- A character. -/
  | literal (l : Literal)
  /-- The dot. -/
  | dot (span : Span)
  /-- An assertion. -/
  | assertion (span : Span) (a : Assertion)
  /-- A class with a letter. -/
  | letter (span : Span) (c : LetterClass) (negated : Bool)
  /-- The characters with a property. -/
  | property (span : Span) (q : Query) (negated : Bool)
  /-- A set in brackets. -/
  | set (span : Span) (negated : Bool) (inner : SetNode)
  /-- A repetition; without a greatest number it has no end. -/
  | repetition (span : Span) (least : Nat) (greatest : Option Nat) (body : Node)
  /-- A group, which may be remembered and may have flags of its own. -/
  | group (span : Span) (remembered : Bool) (items : List FlagItem) (body : Node)
  /-- One of several. -/
  | alternation (span : Span) (branches : List Node)
  /-- One after another. -/
  | concat (span : Span) (parts : List Node)
  deriving Repr

/-- The stretch of a part of a pattern. -/
def Node.span : Node → Span
  | .empty span | .flags span _ | .dot span | .assertion span _ | .letter span ..
  | .property span .. | .set span .. | .repetition span .. | .group span ..
  | .alternation span _ | .concat span _ => span
  | .literal l => l.span

/-- Whether a part can be repeated. -/
def Node.repeatable : Node → Bool
  | .empty _ | .flags .. => false
  | _ => true

/-- Parts one after another, as one part. -/
def Node.ofParts (span : Span) : List Node → Node
  | [] => .empty span
  | [n] => n
  | parts => .concat span parts

/-- Parts of a set together, as one part. -/
def SetNode.ofParts (span : Span) : List SetNode → SetNode
  | [] => .empty span
  | [n] => n
  | parts => .union span parts

end Webhook.Pattern
