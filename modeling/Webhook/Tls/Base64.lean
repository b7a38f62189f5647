import Webhook.Text.Utf8

/-!
# Base 64

Bytes are written six bits at a time, each six as one of 64 symbols.  Blanks between the symbols do
not count.  Four symbols stand for three bytes.  Fewer bytes at the end have fewer symbols, which
padding makes up to four; it may be left out as a whole, but not in part.  The bits of such symbols
that do not fill a byte are dropped.

Symbols are taken eight at a time.  Padding that comes too early is noticed when the next eight
start or when the text ends, so a byte that is no symbol can be noticed before it.
-/

namespace Webhook.Tls.Base64

/-- What can be wrong with encoded bytes. -/
inductive Fault where
  /-- A byte is no symbol. -/
  | badSymbol (b : UInt8)
  /-- More symbols follow padding. -/
  | earlyPadding
  /-- The last symbols are too few, or do not have the padding that they need. -/
  | badPadding
  deriving DecidableEq, Repr

/-- The words for what is wrong. -/
def Fault.message : Fault → String
  | badSymbol b => "InvalidCharacter(" ++ toString b.toNat ++ ")"
  | earlyPadding => "PrematurePadding"
  | badPadding => "InvalidTrailingPadding"

/-- A blank between symbols. -/
def isBlank (b : UInt8) : Bool := b == 0x20 || (0x09 ≤ b && b ≤ 0x0D)

/-- The value of a symbol, none for the padding. -/
abbrev Symbol := Option Nat

/-- The symbol that a byte is. -/
def symbol? (b : UInt8) : Option Symbol :=
  if 0x41 ≤ b && b ≤ 0x5A then some (some (b.toNat - 0x41))
  else if 0x61 ≤ b && b ≤ 0x7A then some (some (b.toNat - 0x61 + 26))
  else if 0x30 ≤ b && b ≤ 0x39 then some (some (b.toNat - 0x30 + 52))
  else if b == 0x2B then some (some 62)
  else if b == 0x2F then some (some 63)
  else if b == 0x3D then some none
  else none

/-- The bytes of four values. -/
def unpack (a b c d : Nat) : Bytes :=
  let n := a * 0x40000 + b * 0x1000 + c * 0x40 + d
  [UInt8.ofNat (n / 0x10000), UInt8.ofNat (n / 0x100), UInt8.ofNat n]

/-- The bytes of the last symbols, four or fewer. -/
def ending : List Symbol → Except Fault Bytes
  | [] => .ok []
  | [some a, some b, some c, some d] => .ok (unpack a b c d)
  | [some a, some b, some c, none] | [some a, some b, some c] => .ok ((unpack a b c 0).take 2)
  | [some a, some b, none, none] | [some a, some b] => .ok ((unpack a b 0 0).take 1)
  | _ => .error .badPadding

/-- The bytes of four symbols and then of the others, as these are read. -/
def withRest (rest : List Symbol → Except Fault Bytes) : List Symbol → Except Fault Bytes
  | some a :: some b :: some c :: some d :: more => (rest more).map (unpack a b c d ++ ·)
  | _ => .error .earlyPadding

/-- The bytes of eight symbols that are followed by another one. -/
def middle : List Symbol → Except Fault Bytes :=
  withRest (withRest fun _ => .ok [])

/-- The bytes of the last symbols, eight or fewer. -/
def last (symbols : List Symbol) : Except Fault Bytes :=
  if 4 < symbols.length then withRest ending symbols else ending symbols

/-- The bytes of a text.  Those that are read stand in reverse order, and so do the symbols after
them. -/
def decodeFrom (done : Bytes) (symbols : List Symbol) : Bytes → Except Fault Bytes
  | [] => (last symbols.reverse).map (done.reverse ++ ·)
  | b :: rest =>
    if isBlank b then decodeFrom done symbols rest
    else
      match symbol? b with
      | none => .error (.badSymbol b)
      | some symbol =>
        if symbols.length < 8 then decodeFrom done (symbol :: symbols) rest
        else
          match middle symbols.reverse with
          | .ok bytes => decodeFrom (bytes.reverse ++ done) [symbol] rest
          | .error fault => .error fault

/-- Decodes bytes. -/
def decode (text : Bytes) : Except Fault Bytes := decodeFrom [] [] text

example : decode (Utf8.encode "Zm9v Ym\tFyYm\nF6") = .ok (Utf8.encode "foobarbaz") := by rfl
example : decode (Utf8.encode "Zm8") = .ok (Utf8.encode "fo") := by rfl
example : decode (Utf8.encode "Zm8=Zg") = .error .earlyPadding := by rfl
example : decode (Utf8.encode "Zg=") = .error .badPadding := by rfl
example : decode (Utf8.encode "Zg==Zg=!") = .error (.badSymbol 0x21) := by rfl

end Webhook.Tls.Base64
