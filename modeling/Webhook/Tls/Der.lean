import Webhook.Text.Utf8

/-!
# Distinguished encoding

A value is a tag, a length and as many bytes of content.  The length has its shortest form.  Readers
take values off the front of bytes, and give the content and what is left.
-/

namespace Webhook.Tls.Der

/-- The tag of a value, as a byte. -/
abbrev Tag := UInt8

namespace Tag

/-- A truth value. -/
def boolean : Tag := 0x01

/-- A whole number. -/
def integer : Tag := 0x02

/-- A string of bits. -/
def bitString : Tag := 0x03

/-- A string of bytes. -/
def octetString : Tag := 0x04

/-- Nothing. -/
def null : Tag := 0x05

/-- An identifier. -/
def identifier : Tag := 0x06

/-- Several values. -/
def sequence : Tag := 0x30

/-- A value whose meaning depends on where it stands, with values in it. -/
def context (n : UInt8) : Tag := 0xA0 + n

/-- A value whose meaning depends on where it stands, with bytes in it. -/
def contextBytes (n : UInt8) : Tag := 0x80 + n

end Tag

/-- What is read off the front of bytes, and what is left. -/
abbrev Reader (α : Type) := Bytes → Option (α × Bytes)

/-- Takes a number of bytes off the front. -/
def takeExactly (n : Nat) : Reader Bytes := fun bytes =>
  let front := bytes.take n
  if front.length = n then some (front, bytes.drop n) else none

/-- The number that bytes stand for, the most significant one first. -/
def toNat (bytes : Bytes) : Nat := bytes.foldl (fun n b => n * 256 + b.toNat) 0

/-- Reads a length.  A long form is no longer than it needs to be. -/
def readLength : Reader Nat
  | [] => none
  | b :: rest =>
    if b < 0x80 then some (b.toNat, rest)
    else
      let count := b.toNat - 0x80
      if count = 0 || 4 < count then none
      else
        match takeExactly count rest with
        | none => none
        | some (digits, rest) =>
          let n := toNat digits
          if n < 0x80 || n < 1 <<< (8 * (count - 1)) then none else some (n, rest)

/-- Reads any value: its tag and its content.  Tags of more than one byte are not read. -/
def readAny (limit : Nat) : Reader (Tag × Bytes)
  | [] => none
  | tag :: rest =>
    if tag &&& 0x1F = 0x1F then none
    else
      match readLength rest with
      | none => none
      | some (n, rest) =>
        if limit ≤ n then none
        else (takeExactly n rest).map fun (content, rest) => ((tag, content), rest)

/-- The bound on the length of a content. -/
def usualLimit : Nat := 0xFFFF

/-- Reads the content of a value of a given tag. -/
def read (tag : Tag) : Reader Bytes := fun bytes =>
  match readAny usualLimit bytes with
  | some ((t, content), rest) => if t = tag then some (content, rest) else none
  | none => none

/-- Reads the content of a value of a given tag, if one comes next. -/
def readOptional (tag : Tag) : Reader (Option Bytes) := fun bytes =>
  match bytes with
  | [] => some (none, [])
  | b :: _ =>
    if b = tag then (read tag bytes).map fun (content, rest) => (some content, rest)
    else some (none, bytes)

/-- What is read if nothing is left. -/
def only {α : Type} (result : Option (α × Bytes)) : Option α :=
  match result with
  | some (a, []) => some a
  | _ => none

/-- The bytes of a natural number in an integer: at least one, without a sign, and without a zero in
front that does not keep the sign away. -/
def natural? : Bytes → Option Bytes
  | [] => none
  | [b] => if b < 0x80 then some [b] else none
  | b :: c :: rest =>
    if b = 0 then if c < 0x80 then none else some (c :: rest)
    else if b < 0x80 then some (b :: c :: rest)
    else none

/-- Reads a natural number. -/
def readNatural : Reader Nat := fun bytes => do
  let (content, rest) ← read Tag.integer bytes
  return (toNat (← natural? content), rest)

/-- Reads bits of whole bytes. -/
def readBits : Reader Bytes := fun bytes =>
  match read Tag.bitString bytes with
  | some (0 :: bits, rest) => some (bits, rest)
  | _ => none

/-! ## Writing -/

/-- The bytes of a number, the most significant one first. -/
def ofNat (n : Nat) : Bytes :=
  (List.range (n.log2 / 8 + 1)).reverse.map fun i => UInt8.ofNat (n >>> (8 * i))

/-- The bytes of a number, filled up with zeros to a given length. -/
def ofNatPadded (length n : Nat) : Bytes :=
  (List.range length).reverse.map fun i => UInt8.ofNat (n >>> (8 * i))

/-- Writes a length in its shortest form. -/
def writeLength (n : Nat) : Bytes :=
  if n < 0x80 then [UInt8.ofNat n]
  else
    let digits := ofNat n
    UInt8.ofNat (0x80 + digits.length) :: digits

/-- Writes a value. -/
def write (tag : Tag) (content : Bytes) : Bytes := tag :: (writeLength content.length ++ content)

/-- Writes a natural number. -/
def writeNatural (n : Nat) : Bytes :=
  let digits := ofNat n
  write Tag.integer (if digits.head?.any (0x80 ≤ ·) then 0 :: digits else digits)

/-- Writes bits of whole bytes. -/
def writeBits (bits : Bytes) : Bytes := write Tag.bitString (0 :: bits)

example : readNatural (writeNatural 0x80) = some (0x80, []) := by decide +kernel
example : read Tag.sequence [0x30, 0x81, 0x01, 0x00] = none := by decide +kernel

end Webhook.Tls.Der
