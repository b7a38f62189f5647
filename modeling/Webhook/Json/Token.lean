import Webhook.Json.Fault

/-!
# The tokens of a JSON text

A text is cut into tokens in one pass over its bytes: marks, words, numbers and strings, with
blanks between them.  The pass checks what can be seen without interpreting a token: that a
number has the form of a number and that the escapes of a string exist.  Whether a number is too
large and whether the bytes of a string are text is left to those who use the token, so a reader
that passes over a value never meets such a fault.

A token that breaks off ends the sequence.
-/

namespace Webhook.Json

/-- The words of JSON. -/
inductive Word where
  | null
  | yes
  | no
  deriving DecidableEq, Repr

/-- The spelling of a word. -/
def Word.letters : Word → Bytes
  | .null => [0x6E, 0x75, 0x6C, 0x6C]
  | .yes => [0x74, 0x72, 0x75, 0x65]
  | .no => [0x66, 0x61, 0x6C, 0x73, 0x65]

/-- How a string ends. -/
inductive Closing where
  /-- With a quotation mark, the byte before this offset. -/
  | closed (stop : Nat)
  /-- It breaks off, with the slip and offset noticed by one who passes over it. -/
  | cut (slip : Slip) (offset : Nat)
  deriving DecidableEq, Repr

/-- A value that is neither list nor object, as it stands in the text. -/
inductive Scalar where
  /-- A word. -/
  | word (w : Word)
  /-- The start of a word, gone wrong. -/
  | cutWord (slip : Slip) (offset : Nat)
  /-- A number. -/
  | number (digits : Bytes)
  /-- A number that breaks off, at the end of the text or at another byte. -/
  | cutNumber (atEnd : Bool) (offset : Nat)
  /-- The bytes between the quotation marks. -/
  | string (raw : Bytes) (closing : Closing)
  deriving DecidableEq, Repr

/-- Whether a scalar is complete. -/
def Scalar.intact : Scalar → Bool
  | .word _ | .number _ | .string _ (.closed _) => true
  | _ => false

/-- The fault noticed by one who passes over a scalar that breaks off. -/
def Scalar.skipFault? : Scalar → Option Fault
  | .cutWord slip offset => some (slipAt slip offset)
  | .cutNumber _ offset => some (slipAt .badNumber offset)
  | .string _ (.cut slip offset) => some (slipAt slip offset)
  | _ => none

/-- A token and the offset it starts at. -/
inductive Token where
  /-- The start of a list. -/
  | openList (start : Nat)
  /-- The start of an object. -/
  | openObject (start : Nat)
  /-- The end of a list. -/
  | closeList (start : Nat)
  /-- The end of an object. -/
  | closeObject (start : Nat)
  /-- A comma. -/
  | comma (start : Nat)
  /-- A colon. -/
  | colon (start : Nat)
  /-- A scalar. -/
  | scalar (start : Nat) (s : Scalar)
  /-- A byte that starts no token. -/
  | stray (start : Nat)
  /-- The end of the text. -/
  | finish (start : Nat)
  deriving DecidableEq, Repr

/-- The offset a token starts at. -/
def Token.start : Token → Nat
  | .openList n | .openObject n | .closeList n | .closeObject n | .comma n | .colon n
  | .scalar n _ | .stray n | .finish n => n

/-- The offset after a complete scalar that starts at the given one. -/
def Scalar.stop (start : Nat) : Scalar → Nat
  | .word w => start + w.letters.length
  | .number digits => start + digits.length
  | .string _ (.closed stop) => stop
  | .cutWord _ offset | .cutNumber _ offset | .string _ (.cut _ offset) => offset

/-! ## The pass over the bytes -/

/-- How far a number has come. -/
inductive NumberPhase where
  /-- After the sign. -/
  | sign
  /-- After a leading zero. -/
  | zero
  /-- In the whole part. -/
  | whole
  /-- After the point. -/
  | point
  /-- In the places after the point. -/
  | places
  /-- After the letter of the exponent. -/
  | letter
  /-- After the sign of the exponent. -/
  | exponentSign
  /-- In the digits of the exponent. -/
  | exponent
  deriving DecidableEq, Repr

/-- A decimal digit. -/
def isDigit (b : UInt8) : Bool := 0x30 ≤ b && b ≤ 0x39

/-- A hexadecimal digit in either case. -/
def isHexDigit (b : UInt8) : Bool :=
  isDigit b || (0x41 ≤ b && b ≤ 0x46) || (0x61 ≤ b && b ≤ 0x66)

/-- The letter of an exponent. -/
def isExponentLetter (b : UInt8) : Bool := b == 0x65 || b == 0x45

/-- What a further byte does to a number. -/
inductive NumberStep where
  /-- It belongs to the number. -/
  | more (next : NumberPhase)
  /-- The number has ended before it. -/
  | ended
  /-- The number cannot go on like this. -/
  | bad
  deriving DecidableEq, Repr

/-- The step of a number at a byte. -/
def NumberPhase.step (p : NumberPhase) (b : UInt8) : NumberStep :=
  match p with
  | .sign => if b == 0x30 then .more .zero else if isDigit b then .more .whole else .bad
  | .zero =>
    if isDigit b then .bad
    else if b == 0x2E then .more .point
    else if isExponentLetter b then .more .letter
    else .ended
  | .whole =>
    if isDigit b then .more .whole
    else if b == 0x2E then .more .point
    else if isExponentLetter b then .more .letter
    else .ended
  | .point => if isDigit b then .more .places else .bad
  | .places =>
    if isDigit b then .more .places
    else if isExponentLetter b then .more .letter
    else .ended
  | .letter =>
    if isDigit b then .more .exponent
    else if b == 0x2B || b == 0x2D then .more .exponentSign
    else .bad
  | .exponentSign => if isDigit b then .more .exponent else .bad
  | .exponent => if isDigit b then .more .exponent else .ended

/-- Whether a number may end here. -/
def NumberPhase.mayEnd : NumberPhase → Bool
  | .zero | .whole | .places | .exponent => true
  | .sign | .point | .letter | .exponentSign => false

/-- What is due next inside a string. -/
inductive StringPhase where
  /-- A character, an escape or the end. -/
  | plain
  /-- The letter of an escape. -/
  | escape
  /-- So many more hexadecimal digits, less one. -/
  | hex (more : Nat)
  deriving DecidableEq, Repr

/-- Where the pass stands. -/
inductive Phase where
  /-- Between tokens. -/
  | between
  /-- In a word, before the given letters of it. -/
  | word (w : Word) (start : Nat) (due : Bytes)
  /-- In a number, with its bytes so far, latest first. -/
  | number (start : Nat) (seen : Bytes) (p : NumberPhase)
  /-- In a string, with its bytes so far, latest first. -/
  | string (start : Nat) (seen : Bytes) (p : StringPhase)
  deriving DecidableEq, Repr

/-- A blank of JSON. -/
def isSpace (b : UInt8) : Bool := b == 0x20 || b == 0x0A || b == 0x09 || b == 0x0D

/-- What a byte between tokens does: the token it completes, if any, and the phase after it. -/
def startToken (b : UInt8) (offset : Nat) : Option Token × Phase :=
  if isSpace b then (none, .between)
  else if b == 0x5B then (some (.openList offset), .between)
  else if b == 0x7B then (some (.openObject offset), .between)
  else if b == 0x5D then (some (.closeList offset), .between)
  else if b == 0x7D then (some (.closeObject offset), .between)
  else if b == 0x2C then (some (.comma offset), .between)
  else if b == 0x3A then (some (.colon offset), .between)
  else if b == 0x22 then (none, .string offset [] .plain)
  else if b == 0x2D then (none, .number offset [b] .sign)
  else if b == 0x30 then (none, .number offset [b] .zero)
  else if isDigit b then (none, .number offset [b] .whole)
  else if b == 0x6E then (none, .word .null offset (Word.letters .null).tail)
  else if b == 0x74 then (none, .word .yes offset (Word.letters .yes).tail)
  else if b == 0x66 then (none, .word .no offset (Word.letters .no).tail)
  else (some (.stray offset), .between)

/-- The letters that may follow the backslash of a short escape. -/
def isEscapeLetter (b : UInt8) : Bool :=
  b == 0x22 || b == 0x5C || b == 0x2F || b == 0x62 || b == 0x66 || b == 0x6E || b == 0x72
    || b == 0x74

/-- The tokens for a text that ends in a phase. -/
def Phase.atEnd (offset : Nat) : Phase → List Token
  | .between => [.finish offset]
  | .word w start due =>
    if due.isEmpty then [.scalar start (.word w), .finish offset]
    else [.scalar start (.cutWord .endInValue offset)]
  | .number start seen p =>
    if p.mayEnd then [.scalar start (.number seen.reverse), .finish offset]
    else [.scalar start (.cutNumber true offset)]
  | .string start seen _ => [.scalar start (.string seen.reverse (.cut .endInString offset))]

/-- What one byte does. -/
inductive Step where
  /-- The tokens it completes, earliest first, and the phase after it. -/
  | next (done : List Token) (p : Phase)
  /-- The token that breaks off at it. -/
  | stop (last : Token)
  deriving DecidableEq, Repr

/-- A byte that stands between tokens, after a token that has just ended. -/
def Step.after (ended : List Token) (b : UInt8) (offset : Nat) : Step :=
  match startToken b offset with
  | (some t, p) => .next (ended ++ [t]) p
  | (none, p) => .next ended p

/-- A string that breaks off. -/
def Step.cutString (start : Nat) (seen : Bytes) (slip : Slip) (offset : Nat) : Step :=
  .stop (.scalar start (.string seen.reverse (.cut slip offset)))

/-- The step of a phase at a byte with the given offset, when the given bytes follow it. -/
def Phase.step (offset : Nat) (b : UInt8) (following : Bytes) : Phase → Step
  | .between => .after [] b offset
  | .word w start [] => .after [.scalar start (.word w)] b offset
  | .word w start (d :: due) =>
    if b == d then .next [] (.word w start due)
    else .stop (.scalar start (.cutWord .unknownWord (offset + 1)))
  | .number start seen p =>
    match p.step b with
    | .more next => .next [] (.number start (b :: seen) next)
    | .ended => .after [.scalar start (.number seen.reverse)] b offset
    | .bad => .stop (.scalar start (.cutNumber false (offset + 1)))
  | .string start seen .plain =>
    if b == 0x22 then .next [.scalar start (.string seen.reverse (.closed (offset + 1)))] .between
    else if b == 0x5C then .next [] (.string start (b :: seen) .escape)
    else if b < 0x20 then .cutString start (b :: seen) .controlCharacter offset
    else .next [] (.string start (b :: seen) .plain)
  | .string start seen .escape =>
    if b == 0x75 then .next [] (.string start (b :: seen) (.hex 3))
    else if isEscapeLetter b then .next [] (.string start (b :: seen) .plain)
    else .cutString start (b :: seen) .badEscape (offset + 1)
  | .string start seen (.hex more) =>
    if isHexDigit b then
      .next [] (.string start (b :: seen) (match more with | 0 => .plain | n + 1 => .hex n))
    else if more ≤ following.length then
      .cutString start (b :: seen) .badEscape (offset + 1 + more)
    else .cutString start (b :: seen) .endInString (offset + 1 + following.length)

/-- The tokens of the rest of a text, from an offset and a phase, after the tokens `done`, which
stand latest first. -/
def tokensFrom (offset : Nat) (done : List Token) (p : Phase) : Bytes → List Token
  | [] => (done.reverse ++ p.atEnd offset)
  | b :: rest =>
    match p.step offset b rest with
    | .next new q => tokensFrom (offset + 1) (new.reverse ++ done) q rest
    | .stop last => (last :: done).reverse

/-- The tokens of a text. -/
def tokens (text : Bytes) : List Token := tokensFrom 0 [] .between text

example : tokens [0x5B, 0x31, 0x20, 0x2C, 0x22, 0x61, 0x22, 0x5D]
    = [.openList 0, .scalar 1 (.number [0x31]), .comma 3,
      .scalar 4 (.string [0x61] (.closed 7)), .closeList 7, .finish 8] := by decide +kernel

end Webhook.Json
