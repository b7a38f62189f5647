import Webhook.Pattern.Syntax

/-!
# Escapes

What a backslash starts: a character that would otherwise mean something else, a control
character, a character by its code point, a class of characters or an assertion.

Where blanks and comments are skipped, they are skipped inside most escapes as well.
-/

namespace Webhook.Pattern

/-! ## Skipping -/

/-- Skips blanks and comments. -/
def skipFrom : (inComment : Bool) → List Char → List Char
  | _, [] => []
  | true, c :: r => skipFrom (c != '\n') r
  | false, c :: r =>
    if Text.isBlank c then skipFrom false r
    else if c == '#' then skipFrom true r
    else c :: r

/-- Skips blanks and comments where they are to be skipped. -/
def skip (verbose : Bool) (s : List Char) : List Char := if verbose then skipFrom false s else s

/-- The rest after the first character and the blanks and comments behind it. -/
def advance (verbose : Bool) (s : List Char) : List Char := skip verbose (s.drop 1)

/-- The longest run of characters of a kind.  The blanks and comments behind each of them are
skipped where they are to be skipped. -/
def run (verbose : Bool) (p : Char → Bool) : (inComment : Bool) → List Char →
    List Char × List Char
  | _, [] => ([], [])
  | true, c :: r => run verbose p (c != '\n') r
  | false, c :: r =>
    if verbose && Text.isBlank c then run verbose p false r
    else if verbose && c == '#' then run verbose p true r
    else if p c then
      let (cs, t) := run verbose p false r
      (c :: cs, t)
    else ([], c :: r)

/-- Removes a text from the front. -/
def strip? : List Char → List Char → Option (List Char)
  | [], s => some s
  | p :: ps, c :: r => if p = c then strip? ps r else none
  | _ :: _, [] => none

/-! ## Characters -/

/-- Characters that mean something by themselves. -/
def isMeta (c : Char) : Bool := "\\.+*?()|[]\x7b\x7d^$#&-~".toList.contains c

/-- Characters that may be escaped to stand for themselves. -/
def isEscapable (c : Char) : Bool :=
  isMeta c || (c.toNat < 128 && !c.isAlphanum && c != '<' && c != '>')

/-- The control characters that have a letter. -/
def control? : Char → Option Char
  | 'a' => some '\x07'
  | 'f' => some '\x0c'
  | 't' => some '\t'
  | 'n' => some '\n'
  | 'r' => some '\r'
  | 'v' => some '\x0b'
  | _ => none

/-- The assertions that have a letter. -/
def assertion? : Char → Option Assertion
  | 'A' => some .textStart
  | 'z' => some .textEnd
  | 'B' => some .noWordEdge
  | '<' => some .wordStart
  | '>' => some .wordEnd
  | _ => none

/-- The classes that have a letter, and whether it stands for all other characters. -/
def letterClass? : Char → Option (LetterClass × Bool)
  | 'd' => some (.digit, false)
  | 'D' => some (.digit, true)
  | 's' => some (.space, false)
  | 'S' => some (.space, true)
  | 'w' => some (.word, false)
  | 'W' => some (.word, true)
  | _ => none

/-! ## Code points -/

/-- Whether a character is a hexadecimal digit. -/
def isHexDigit (c : Char) : Bool :=
  c.isDigit || ('a' ≤ c && c ≤ 'f') || ('A' ≤ c && c ≤ 'F')

/-- The value of a hexadecimal digit. -/
def hexValue (c : Char) : Nat :=
  if c.isDigit then c.toNat - '0'.toNat
  else if 'a' ≤ c then c.toNat - 'a'.toNat + 10
  else c.toNat - 'A'.toNat + 10

/-- The character of a code point in hexadecimal digits. -/
def charOfHex? (digits : List Char) : Option Char :=
  let n := digits.foldl (fun n c => n * 16 + hexValue c) 0
  if h : n.isValidChar then some (Char.ofNatAux n h) else none

/-- Reads so many hexadecimal digits. -/
def hexDigits (verbose : Bool) : Nat → List Char → Except Fault (List Char × List Char)
  | 0, s => .ok ([], s)
  | k + 1, s =>
    match s with
    | [] => .error (fault .endInEscape (.point s))
    | c :: _ =>
      if isHexDigit c then do
        let (cs, t) ← hexDigits verbose k (advance verbose s)
        return (c :: cs, t)
      else .error (fault .badHexDigit (.first s))

/-- Reads the code point after the letter of an escape.  Returns the character, whether it is
written as a byte, and the rest. -/
def readHex (verbose : Bool) (letter : Char) (s : List Char) :
    Except Fault (Char × Bool × List Char) :=
  match s with
  | [] => .error (fault .endInEscape (.point s))
  | '\x7b' :: inside =>
    let (digits, t) := run verbose isHexDigit false (skip verbose inside)
    match t with
    | [] => .error (fault .endInEscape (.between s t))
    | '\x7d' :: _ =>
      let after := advance verbose t
      if digits.isEmpty then .error (fault .noHexDigit (.between s after))
      else match charOfHex? digits with
        | some c => .ok (c, false, after)
        | none => .error (fault .notACharacter (.between inside t))
    | _ :: _ => .error (fault .badHexDigit (.first t))
  | _ => do
    let count := if letter = 'x' then 2 else if letter = 'u' then 4 else 8
    let (digits, after) ← hexDigits verbose count s
    match charOfHex? digits with
    | some c => return (c, letter = 'x', after)
    | none => .error (fault .notACharacter (.between s after))

/-! ## Properties -/

/-- Splits a list before the first place where a text stands, and drops that text. -/
def splitAt? (mark : List Char) : List Char → Option (List Char × List Char)
  | [] => none
  | c :: r =>
    match strip? mark (c :: r) with
    | some after => some ([], after)
    | none => (splitAt? mark r).map fun p => (c :: p.1, p.2)

/-- The question in the braces of a property. -/
def Query.ofChars (cs : List Char) : Query :=
  match (splitAt? ['!', '='] cs).or ((splitAt? [':'] cs).or (splitAt? ['='] cs)) with
  | some (property, wanted) => .value (String.ofList property) (String.ofList wanted)
  | none => .name (String.ofList cs)

/-- Reads the question after the letter of a property. -/
def readProperty (verbose : Bool) (s : List Char) : Except Fault (Query × List Char) :=
  match s with
  | [] => .error (fault .endInEscape (.point s))
  | '\x7b' :: inside =>
    let (name, t) := run verbose (· != '\x7d') false (skip verbose inside)
    match t with
    | [] => .error (fault .endInEscape (.point t))
    | _ :: after => .ok (.ofChars name, after)
  | c :: _ =>
    if c = '\\' then .error (fault .badProperty (.first s))
    else .ok (.name (String.singleton c), advance verbose s)

/-! ## Edges of words -/

/-- The edges of words that have a name. -/
def edge? (name : List Char) : Option Assertion :=
  if name = "start".toList then some .wordStart
  else if name = "end".toList then some .wordEnd
  else if name = "start-half".toList then some .wordStartHalf
  else if name = "end-half".toList then some .wordEndHalf
  else none

/-- Whether a character may stand in the name of an edge. -/
def isEdgeChar (c : Char) : Bool := c.isAlpha || c == '-'

/-- Reads the name of an edge in braces, from the opening brace on; `start` is the start of the
escape.  What is in the braces may also be the count of a repetition, and then nothing is
read. -/
def readEdge (verbose : Bool) (start s : List Char) :
    Except Fault (Option (Assertion × List Char)) :=
  let inside := advance verbose s
  match inside with
  | [] => .error (fault .endInEdge (.between start inside))
  | c :: _ =>
    if !isEdgeChar c then .ok none
    else
      let (name, t) := run verbose isEdgeChar false inside
      match t with
      | '\x7d' :: after =>
        match edge? name with
        | some a => .ok (some (a, after))
        | none => .error (fault .unknownEdge (.between inside t))
      | _ => .error (fault .openEdge (.between s t))

/-! ## Escapes -/

/-- What an escape stands for. -/
inductive Escaped where
  /-- A character. -/
  | literal (l : Literal)
  /-- An assertion. -/
  | assertion (span : Span) (a : Assertion)
  /-- A class with a letter. -/
  | letter (span : Span) (c : LetterClass) (negated : Bool)
  /-- The characters with a property. -/
  | property (span : Span) (q : Query) (negated : Bool)
  deriving Repr

/-- The stretch of an escape. -/
def Escaped.span : Escaped → Span
  | .literal l => l.span
  | .assertion span _ | .letter span .. | .property span .. => span

/-- Reads an escape, from the backslash on. -/
def readEscape (verbose : Bool) (s : List Char) : Except Fault (Escaped × List Char) :=
  match s.drop 1 with
  | [] => .error (fault .endInEscape (.between s []))
  | c :: after =>
    let span := Span.between s after
    if c.isDigit then .error (fault .backreference span)
    else if c = 'x' || c = 'u' || c = 'U' then do
      let (char, byte, rest) ← readHex verbose c (skip verbose after)
      return (.literal ⟨.between s rest, char, byte⟩, rest)
    else if c = 'p' || c = 'P' then do
      let (q, rest) ← readProperty verbose (skip verbose after)
      return (.property (.between s rest) q (c = 'P'), rest)
    else if let some (cls, negated) := letterClass? c then
      .ok (.letter span cls negated, after)
    else if isEscapable c then .ok (.literal ⟨span, c, false⟩, after)
    else if let some char := control? c then .ok (.literal ⟨span, char, false⟩, after)
    else if let some a := assertion? c then .ok (.assertion span a, after)
    else if c = 'b' then
      match after with
      | '\x7b' :: _ => do
        match ← readEdge verbose s after with
        | some (a, rest) => return (.assertion (.between s rest) a, rest)
        | none => return (.assertion span .wordEdge, after)
      | _ => .ok (.assertion span .wordEdge, after)
    else .error (fault .unknownEscape span)

end Webhook.Pattern
