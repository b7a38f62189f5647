import Webhook.Json.Printer
import Webhook.Text.Blank

/-!
# What can be wrong with a pattern

A fault of a pattern names the stretch of the pattern that is to blame, and sometimes a second
one.  `Fault.message` shows the pattern with marks under those stretches.

A stretch is given by the number of characters that are left at its start and at its end.  So the
stretches of a pattern do not change when something is put in front of it.
-/

namespace Webhook.Pattern

/-- A stretch of a pattern, given by the characters left at its two ends. -/
structure Span where
  /-- The number of characters from the start of the stretch to the end of the pattern. -/
  start : Nat
  /-- The number of characters from the end of the stretch to the end of the pattern. -/
  stop : Nat
  deriving DecidableEq, Repr

namespace Span

/-- From one rest of a pattern to a later one. -/
def between (s t : List Char) : Span := ⟨s.length, t.length⟩

/-- The empty stretch before a rest. -/
def point (s : List Char) : Span := ⟨s.length, s.length⟩

/-- The first character of a rest. -/
def first (s : List Char) : Span := ⟨s.length, s.length - 1⟩

/-- From the start of one stretch to the end of another. -/
def cover (a b : Span) : Span := ⟨a.start, b.stop⟩

end Span

/-- A breach of the grammar of patterns, or of one of the limits on them. -/
inductive Slip where
  /-- An escape that may not stand in a set. -/
  | escapeInSet
  /-- A range that ends before it starts. -/
  | emptyRange
  /-- A range between things that are not characters. -/
  | rangeOfClasses
  /-- A set without an end. -/
  | openSet
  /-- A count that is too large. -/
  | badDecimal
  /-- A code point without a digit. -/
  | noHexDigit
  /-- A number that is no code point of a character. -/
  | notACharacter
  /-- Something other than a digit in a code point. -/
  | badHexDigit
  /-- The pattern ends inside an escape. -/
  | endInEscape
  /-- An escape that there is not. -/
  | unknownEscape
  /-- A minus with no flag after it. -/
  | danglingMinus
  /-- A flag that is there twice. -/
  | repeatedFlag
  /-- A second minus. -/
  | repeatedMinus
  /-- The pattern ends where a flag is due. -/
  | endInFlags
  /-- A flag that there is not. -/
  | unknownFlag
  /-- A name that two groups have. -/
  | repeatedName
  /-- A name without a character. -/
  | emptyName
  /-- A character that may not stand in a name. -/
  | badName
  /-- The pattern ends inside the name of a group. -/
  | endInName
  /-- A group without an end. -/
  | openGroup
  /-- The end of a group that has no start. -/
  | unopenedGroup
  /-- Parts are nested too deeply. -/
  | tooDeep
  /-- A repetition whose least number is above its greatest. -/
  | emptyCounts
  /-- A repetition that lacks its number. -/
  | noCount
  /-- A counted repetition without an end. -/
  | openCount
  /-- A repetition of nothing. -/
  | nothingToRepeat
  /-- An edge of a word in braces that are not closed. -/
  | openEdge
  /-- An edge of a word that there is not. -/
  | unknownEdge
  /-- The pattern ends after the brace that follows an edge of a word. -/
  | endInEdge
  /-- A class of characters without a name. -/
  | badProperty
  /-- A reference to a group. -/
  | backreference
  /-- A look ahead or behind. -/
  | lookAround
  /-- A class of characters of all scripts where only ASCII is known. -/
  | notAsciiHere
  /-- Something that could match a part of a character. -/
  | splitsCharacters
  /-- A property that there is not. -/
  | unknownProperty
  /-- A value that a property does not have. -/
  | unknownValue
  deriving DecidableEq, Repr

/-- The number of parts that may be nested in one another. -/
def depthLimit : Nat := 250

/-- The words for a slip. -/
def Slip.message : Slip → String
  | .escapeInSet => "invalid escape sequence found in character class"
  | .emptyRange => "invalid character class range, the start must be <= the end"
  | .rangeOfClasses => "invalid range boundary, must be a literal"
  | .openSet => "unclosed character class"
  | .badDecimal => "decimal literal invalid"
  | .noHexDigit => "hexadecimal literal empty"
  | .notACharacter => "hexadecimal literal is not a Unicode scalar value"
  | .badHexDigit => "invalid hexadecimal digit"
  | .endInEscape => "incomplete escape sequence, reached end of pattern prematurely"
  | .unknownEscape => "unrecognized escape sequence"
  | .danglingMinus => "dangling flag negation operator"
  | .repeatedFlag => "duplicate flag"
  | .repeatedMinus => "flag negation operator repeated"
  | .endInFlags => "expected flag but got end of regex"
  | .unknownFlag => "unrecognized flag"
  | .repeatedName => "duplicate capture group name"
  | .emptyName => "empty capture group name"
  | .badName => "invalid capture group character"
  | .endInName => "unclosed capture group name"
  | .openGroup => "unclosed group"
  | .unopenedGroup => "unopened group"
  | .tooDeep =>
    "exceed the maximum number of nested parentheses/brackets ("
      ++ String.ofList (Binary64.digitsOf depthLimit) ++ ")"
  | .emptyCounts => "invalid repetition count range, the start must be <= the end"
  | .noCount => "repetition quantifier expects a valid decimal"
  | .openCount => "unclosed counted repetition"
  | .nothingToRepeat => "repetition operator missing expression"
  | .openEdge =>
    "special word boundary assertion is either unclosed or contains an invalid character"
  | .unknownEdge =>
    "unrecognized special word boundary assertion, valid choices are: start, end, start-half or "
      ++ "end-half"
  | .endInEdge =>
    "found either the beginning of a special word boundary or a bounded repetition on a \\b with "
      ++ "an opening brace, but no closing brace"
  | .badProperty => "invalid Unicode character class"
  | .backreference => "backreferences are not supported"
  | .lookAround => "look-around, including look-ahead and look-behind, is not supported"
  | .notAsciiHere => "Unicode not allowed here"
  | .splitsCharacters => "pattern can match invalid UTF-8"
  | .unknownProperty => "Unicode property not found"
  | .unknownValue => "Unicode property value not found"

/-- Something wrong, and the stretches that are to blame. -/
structure Fault where
  /-- What is wrong. -/
  slip : Slip
  /-- Where it was noticed. -/
  span : Span
  /-- An earlier stretch that it is in conflict with. -/
  other : Option Span
  deriving DecidableEq, Repr

/-- A fault with one stretch. -/
def fault (slip : Slip) (span : Span) : Fault := ⟨slip, span, none⟩

/-! ## Showing a fault -/

/-- A place in a text, both numbers counted from one. -/
structure Place where
  /-- The line. -/
  line : Nat
  /-- The column, in characters. -/
  column : Nat
  deriving DecidableEq, Repr

/-- The place after a text that starts at a given place. -/
def Place.after : Place → List Char → Place
  | p, [] => p
  | p, c :: cs => Place.after (if c = '\n' then ⟨p.line + 1, 1⟩ else ⟨p.line, p.column + 1⟩) cs

/-- The place in a pattern where so many characters are left. -/
def placeOf (pattern : List Char) (left : Nat) : Place :=
  Place.after ⟨1, 1⟩ (pattern.take (pattern.length - left))

/-- The lines of a text, each without its end. -/
def linesFrom (line : List Char) : List Char → List (List Char)
  | [] => if line.isEmpty then [] else [line.reverse]
  | '\r' :: '\n' :: rest => line.reverse :: linesFrom [] rest
  | '\n' :: rest => line.reverse :: linesFrom [] rest
  | c :: rest => linesFrom (c :: line) rest

/-- A decimal number. -/
def decimal (n : Nat) : List Char := Binary64.digitsOf n

/-- Marks under stretches of one line, from a given column on. -/
def marksFrom (column : Nat) : List (Place × Place) → List Char
  | [] => []
  | (start, stop) :: rest =>
    let width := max 1 (stop.column - start.column)
    List.replicate (start.column - column) ' ' ++ List.replicate width '^'
      ++ marksFrom (max column start.column + width) rest

/-- A number in a field of a given width. -/
def padded (width : Nat) (n : Nat) : List Char :=
  List.replicate (width - (decimal n).length) ' ' ++ decimal n

/-- The lines of a pattern from a given number on, with marks under the stretches.  When there are
several lines they are numbered. -/
def showLines (numberWidth : Nat) (marked : List (Place × Place)) (number : Nat) :
    List (List Char) → List Char
  | [] => []
  | line :: rest =>
    let margin := if numberWidth = 0 then List.replicate 4 ' '
      else padded numberWidth number ++ [':', ' ']
    let here := marked.filter fun m => m.1.line == number
    let marks := if here.isEmpty then []
      else List.replicate margin.length ' ' ++ marksFrom 1 here ++ ['\n']
    margin ++ line ++ '\n' :: (marks ++ showLines numberWidth marked (number + 1) rest)

/-- What is said of a stretch over several lines. -/
def describeStretch (m : Place × Place) : List Char :=
  "on line ".toList ++ decimal m.1.line ++ " (column ".toList ++ decimal m.1.column
    ++ ") through line ".toList ++ decimal m.2.line ++ " (column ".toList
    ++ decimal (m.2.column - 1) ++ ")\n".toList

/-- The line above and below a pattern of several lines. -/
def rule : List Char := List.replicate 79 '~' ++ ['\n']

/-- The stretches of a fault in the order of the text. -/
def Fault.spans (f : Fault) : List Span :=
  match f.other with
  | none => [f.span]
  | some other =>
    if other.start > f.span.start || (other.start == f.span.start && other.stop ≥ f.span.stop)
    then [other, f.span] else [f.span, other]

/-- The words for a fault of a pattern. -/
def Fault.message (pattern : String) (f : Fault) : String :=
  let text := pattern.toList
  let lines := linesFrom [] text
  let count := lines.length + (if text.getLast? == some '\n' then 1 else 0)
  let numberWidth := if count ≤ 1 then 0 else (decimal count).length
  let places := f.spans.map fun s => (placeOf text s.start, placeOf text s.stop)
  let short := places.filter fun m => m.1.line == m.2.line
  let long := places.filter fun m => m.1.line != m.2.line
  let shown := showLines numberWidth short 1 lines
  let body := if text.contains '\n' then rule ++ shown ++ rule ++ long.flatMap describeStretch
    else shown
  "regex parse error:\n" ++ String.ofList body ++ "error: " ++ f.slip.message

end Webhook.Pattern
