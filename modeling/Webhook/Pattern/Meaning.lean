import Webhook.Pattern.Parser
import Webhook.Pattern.Regex
import Webhook.Unicode.Query

/-!
# The meaning of a pattern

A pattern stands for a regular expression.  What a part stands for depends on the flags that are
on where it stands.  Flags that are set inside a group last until its end.

Where characters of all scripts are known, sets hold characters.  Otherwise they hold bytes, and a
set that holds bytes beyond ASCII is refused, because it could match a part of a character.
-/

namespace Webhook.Pattern

open Text (Ranges)

/-! ## Flags -/

/-- The flags that are on. -/
structure Settings where
  /-- The case of letters does not matter. -/
  ignoreCase : Bool
  /-- Lines have starts and ends. -/
  lines : Bool
  /-- The dot includes the end of a line. -/
  dotAll : Bool
  /-- Characters of all scripts are known. -/
  unicode : Bool
  /-- A carriage return ends a line too. -/
  carriageReturn : Bool
  deriving DecidableEq, Repr

namespace Settings

/-- The flags at the start of a pattern. -/
def initial : Settings := ⟨false, false, false, true, false⟩

/-- The flags after a list of flags. -/
def apply (s : Settings) (items : List FlagItem) : Settings :=
  { ignoreCase := (flagState .ignoreCase true items).getD s.ignoreCase
    lines := (flagState .lines true items).getD s.lines
    dotAll := (flagState .dotAll true items).getD s.dotAll
    unicode := (flagState .unicode true items).getD s.unicode
    carriageReturn := (flagState .carriageReturn true items).getD s.carriageReturn }

/-- A set together with what the case of letters does not tell from it, if case does not
matter. -/
def fold (s : Settings) (set : Ranges) : Ranges :=
  if s.ignoreCase then
    if s.unicode then Unicode.ignoringCase set else Unicode.ignoringAsciiCase set
  else set

/-- A set or all that is not in it. -/
def negate (s : Settings) (negated : Bool) (set : Ranges) : Ranges :=
  if negated then set.complement (if s.unicode then Ranges.maxCodePoint else 0xFF) else set

/-- Refuses a set of bytes that is not within ASCII. -/
def checkSet (s : Settings) (span : Span) (set : Ranges) : Except Fault Ranges :=
  if s.unicode || set.isAscii then .ok set else .error (fault .splitsCharacters span)

end Settings

/-! ## Classes -/

/-- The characters of a class of ASCII. -/
def AsciiClass.ranges : AsciiClass → Ranges
  | .alnum => [(0x30, 0x39), (0x41, 0x5A), (0x61, 0x7A)]
  | .alpha => [(0x41, 0x5A), (0x61, 0x7A)]
  | .ascii => [(0x00, 0x7F)]
  | .blank => [(0x09, 0x09), (0x20, 0x20)]
  | .cntrl => [(0x00, 0x1F), (0x7F, 0x7F)]
  | .digit => [(0x30, 0x39)]
  | .graph => [(0x21, 0x7E)]
  | .lower => [(0x61, 0x7A)]
  | .print => [(0x20, 0x7E)]
  | .punct => [(0x21, 0x2F), (0x3A, 0x40), (0x5B, 0x60), (0x7B, 0x7E)]
  | .space => [(0x09, 0x0D), (0x20, 0x20)]
  | .upper => [(0x41, 0x5A)]
  | .word => [(0x30, 0x39), (0x41, 0x5A), (0x5F, 0x5F), (0x61, 0x7A)]
  | .xdigit => [(0x30, 0x39), (0x41, 0x46), (0x61, 0x66)]

/-- The characters of a class with a letter. -/
def LetterClass.ranges (unicode : Bool) : LetterClass → Ranges
  | .digit => if unicode then Unicode.decimalDigits else AsciiClass.digit.ranges
  | .space => if unicode then Unicode.whiteSpace else AsciiClass.space.ranges
  | .word => if unicode then Unicode.wordCharacters else AsciiClass.word.ranges

/-- The set of a class with a letter. -/
def letterSet (s : Settings) (span : Span) (c : LetterClass) (negated : Bool) :
    Except Fault Ranges :=
  s.checkSet span (s.negate negated (c.ranges s.unicode))

/-- The set of a property. -/
def propertySet (s : Settings) (span : Span) (q : Query) (negated : Bool) :
    Except Fault Ranges :=
  if !s.unicode then .error (fault .notAsciiHere span)
  else
    let answer := match q with
      | .name property => Unicode.byName property
      | .value property wanted => Unicode.byValue property wanted
    match answer with
    | .ok set => .ok (s.negate negated (s.fold set))
    | .error .property => .error (fault .unknownProperty span)
    | .error .value => .error (fault .unknownValue span)

/-- Refuses a byte beyond ASCII where characters of all scripts are not known. -/
def checkLiteral (s : Settings) (l : Literal) : Except Fault Unit :=
  if !s.unicode && l.byte && 0x7F < l.char.toNat then
    .error (fault .splitsCharacters l.span)
  else .ok ()

/-- The code point of a character in a set. -/
def memberOf (s : Settings) (l : Literal) : Except Fault Nat := do
  checkLiteral s l
  if !s.unicode && 0x7F < l.char.toNat then throw (fault .notAsciiHere l.span)
  return l.char.toNat

mutual

/-- The characters of a part of a set. -/
def SetNode.meaning (s : Settings) : SetNode → Except Fault Ranges
  | .empty _ => .ok []
  | .literal l => (memberOf s l).map Ranges.single
  | .range _ low high => do return [(← memberOf s low, ← memberOf s high)]
  | .ascii span c negated => s.checkSet span (s.negate negated (s.fold c.ranges))
  | .letter span c negated => letterSet s span c negated
  | .property span q negated => propertySet s span q negated
  | .bracketed span negated inner => do
    s.checkSet span (s.negate negated (s.fold (← inner.meaning s)))
  | .union _ parts => SetNode.meanings s parts
  | .op _ o left right => do
    let a := s.fold (← left.meaning s)
    let b := s.fold (← right.meaning s)
    match o with
    | .intersection => return a.intersection b
    | .difference => return a.difference b
    | .symmetricDifference => return a.symmetricDifference b
termination_by structural n => n

/-- The characters of several parts of a set. -/
def SetNode.meanings (s : Settings) : List SetNode → Except Fault Ranges
  | [] => .ok []
  | n :: ns => do return (← n.meaning s) ++ (← SetNode.meanings s ns)
termination_by structural ns => ns

end

/-! ## Expressions -/

/-- The expression of a set: its ranges are kept as few as possible. -/
def Regex.ofSet (set : Ranges) : Regex := .chars set.normalized

/-- The expression of a character. -/
def literalMeaning (s : Settings) (l : Literal) : Except Fault Regex := do
  checkLiteral s l
  return .ofSet (s.fold (.single l.char.toNat))

/-- The expression of the dot. -/
def dotMeaning (s : Settings) (span : Span) : Except Fault Regex :=
  if !s.unicode then .error (fault .splitsCharacters span)
  else
    let ends : Ranges := if s.dotAll then []
      else if s.carriageReturn then [(0x0A, 0x0A), (0x0D, 0x0D)]
      else [(0x0A, 0x0A)]
    .ok (.chars (ends.complement Ranges.maxCodePoint))

/-- The assertion under given flags. -/
def Assertion.look (s : Settings) : Assertion → Look
  | .lineStart => if s.lines then .lineStart s.carriageReturn else .textStart
  | .lineEnd => if s.lines then .lineEnd s.carriageReturn else .textEnd
  | .textStart => .textStart
  | .textEnd => .textEnd
  | .wordEdge => .wordEdge s.unicode
  | .noWordEdge => .noWordEdge s.unicode
  | .wordStart => .wordStart s.unicode
  | .wordEnd => .wordEnd s.unicode
  | .wordStartHalf => .wordStartHalf s.unicode
  | .wordEndHalf => .wordEndHalf s.unicode

mutual

/-- The expression of a part, and the flags after it. -/
def Node.meaning (s : Settings) : Node → Except Fault (Regex × Settings)
  | .empty _ => .ok (.empty, s)
  | .flags _ items => .ok (.empty, s.apply items)
  | .literal l => (literalMeaning s l).map (·, s)
  | .dot span => (dotMeaning s span).map (·, s)
  | .assertion _ a => .ok (.look (a.look s), s)
  | .letter span c negated => (letterSet s span c negated).map (.ofSet ·, s)
  | .property span q negated => (propertySet s span q negated).map (.ofSet ·, s)
  | .set span negated inner => do
    let set ← s.checkSet span (s.negate negated (s.fold (← inner.meaning s)))
    return (.ofSet set, s)
  | .repetition _ least greatest body => do
    let (r, s) ← body.meaning s
    return (.rep r least greatest, s)
  | .group _ _ items body => do
    let (r, _) ← body.meaning (s.apply items)
    return (r, s)
  | .alternation _ branches => Node.oneOf s branches
  | .concat _ parts => Node.inTurn s parts
termination_by structural n => n

/-- The expression of parts one after another. -/
def Node.inTurn (s : Settings) : List Node → Except Fault (Regex × Settings)
  | [] => .ok (.empty, s)
  | n :: ns => do
    let (a, s) ← n.meaning s
    let (b, s) ← Node.inTurn s ns
    return (.seq a b, s)
termination_by structural ns => ns

/-- The expression of branches. -/
def Node.oneOf (s : Settings) : List Node → Except Fault (Regex × Settings)
  | [] => .ok (.chars [], s)
  | n :: ns => do
    let (a, s) ← n.meaning s
    let (b, s) ← Node.oneOf s ns
    return (.alt a b, s)
termination_by structural ns => ns

end

/-- The expression that a tree stands for. -/
def Node.toRegex (n : Node) : Except Fault Regex := (n.meaning .initial).map (·.1)

end Webhook.Pattern
