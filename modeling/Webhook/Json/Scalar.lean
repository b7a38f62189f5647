import Webhook.Json.Tree

/-!
# The value of a scalar

Numbers.  A whole number is exact when it fits into 64 bits.  Any other number is read in floating
point from the leading digits that fit into 64 bits, scaled by a power of ten in one rounded step
where the exponent allows it.  So the last digit of a long number may differ from that of the
nearest floating point number.

Strings.  An escape stands for a character, and two escapes in a row for one outside the basic
plane.  All other bytes stand for themselves and have to be well formed.  A fault in them is
noticed last, at the first byte that belongs to no character.  An escape is never part of an
ill formed piece, so that byte is found in the string as written.
-/

namespace Webhook.Json

/-! ## Numbers -/

/-- The greatest natural of 64 bits. -/
def maxNatural : Nat := 0xFFFFFFFFFFFFFFFF

/-- The greatest exponent that is read exactly. -/
def maxExponent : Nat := 0x7FFFFFFF

/-- The value of a decimal digit. -/
def digitValue (b : UInt8) : Nat := b.toNat - 0x30

/-- The leading digits of a whole part that fit into 64 bits, and the number of digits after
them. -/
def readWhole (n dropped : Nat) : Bytes → Nat × Nat
  | [] => (n, dropped)
  | b :: rest =>
    if dropped = 0 && n * 10 + digitValue b ≤ maxNatural then
      readWhole (n * 10 + digitValue b) 0 rest
    else readWhole n (dropped + 1) rest

/-- The digits with those places after the point that still fit into 64 bits, and the number of
those places. -/
def readPlaces (n used : Nat) : Bytes → Nat × Nat
  | [] => (n, used)
  | b :: rest =>
    if n * 10 + digitValue b ≤ maxNatural then readPlaces (n * 10 + digitValue b) (used + 1) rest
    else (n, used)

/-- The digits of an exponent, or the number of them up to the one that makes it too large. -/
def readExponent (e used : Nat) : Bytes → Except Nat Nat
  | [] => .ok e
  | b :: rest =>
    if e * 10 + digitValue b ≤ maxExponent then readExponent (e * 10 + digitValue b) (used + 1) rest
    else .error (used + 1)

/-- `x * 10 ^ e`, in steps of at most `10 ^ 308`; nothing when it is too large. -/
def scaleByTen : Nat → Binary64 → Int → Option Binary64
  | 0, x, _ => some x
  | fuel + 1, x, e =>
    if 0 ≤ e then
      if e ≤ 308 then (Binary64.pow10 e.toNat).bind x.mul
      else if x.isZero then some x
      else none
    else if -308 ≤ e then (Binary64.pow10 (-e).toNat).bind x.div
    else if x.isZero then some x
    else ((Binary64.pow10 308).bind x.div).bind fun y => scaleByTen fuel y (e + 308)

/-- The floating point number with the given digits and exponent of ten. -/
def floatOf (negative : Bool) (n : Nat) (e : Int) : Option Number :=
  ((Binary64.ofNat n).bind fun x => scaleByTen (e.natAbs / 308 + 2) x e).map fun x =>
    .float (if negative then x.neg else x)

/-- A number without point and exponent whose digits fit into 64 bits. -/
def wholeOf (negative : Bool) (n : Nat) : Option Number :=
  if !negative then some (.whole n)
  else if n = 0 || 0x8000000000000000 < n then floatOf true n 0
  else some (.whole (-n))

/-- The number a text of the form of a number stands for.  The fault of a number that is too large
is noticed where that is clear. -/
def readNumber (start : Nat) (text : Bytes) : Except Fault Number :=
  let negative := text.head? == some 0x2D
  let unsigned := if negative then text.drop 1 else text
  let whole := unsigned.takeWhile isDigit
  let afterWhole := unsigned.dropWhile isDigit
  let (n, dropped) := readWhole 0 0 whole
  let hasPoint := afterWhole.head? == some 0x2E
  let places := if hasPoint then (afterWhole.drop 1).takeWhile isDigit else []
  let afterPlaces := if hasPoint then (afterWhole.drop 1).dropWhile isDigit else afterWhole
  let (n, used) := readPlaces n 0 places
  let scale : Int := (dropped : Int) - used
  let stop := start + text.length
  let tooLarge (offset : Nat) : Fault := slipAt .numberTooLarge offset
  let orTooLarge (x : Option Number) : Except Fault Number :=
    match x with
    | some x => .ok x
    | none => .error (tooLarge stop)
  match afterPlaces with
  | [] =>
    if hasPoint || dropped ≠ 0 then orTooLarge (floatOf negative n scale)
    else orTooLarge (wholeOf negative n)
  | _ :: signed =>
    let shrinks := signed.head? == some 0x2D
    let digits := if shrinks || signed.head? == some 0x2B then signed.drop 1 else signed
    match readExponent 0 0 digits with
    | .ok e => orTooLarge (floatOf negative n (if shrinks then scale - e else scale + e))
    | .error seen =>
      if n ≠ 0 && !shrinks then .error (tooLarge (stop - digits.length + seen))
      else .ok (.float (if negative then Binary64.zero.neg else Binary64.zero))

/-! ## Strings -/

/-- The value of a hexadecimal digit in either case. -/
def hexValue (b : UInt8) : Nat :=
  if isDigit b then b.toNat - 0x30
  else if b < 0x60 then b.toNat - 0x41 + 10
  else b.toNat - 0x61 + 10

/-- The number of four hexadecimal digits. -/
def hex4 (a b c d : UInt8) : Nat :=
  ((hexValue a * 16 + hexValue b) * 16 + hexValue c) * 16 + hexValue d

/-- The first half of a character outside the basic plane. -/
def isHighHalf (n : Nat) : Bool := 0xD800 ≤ n && n ≤ 0xDBFF

/-- The second half of a character outside the basic plane. -/
def isLowHalf (n : Nat) : Bool := 0xDC00 ≤ n && n ≤ 0xDFFF

/-- The character of two halves. -/
def joinHalves (high low : Nat) : Char :=
  Char.ofNat ((high - 0xD800) * 0x400 + (low - 0xDC00) + 0x10000)

/-- What the letter of a short escape stands for. -/
def shortEscape (b : UInt8) : UInt8 :=
  if b == 0x62 then 0x08
  else if b == 0x66 then 0x0C
  else if b == 0x6E then 0x0A
  else if b == 0x72 then 0x0D
  else if b == 0x74 then 0x09
  else b

/-- The bytes of a string without its escapes. -/
inductive Unescaped where
  /-- All bytes, latest first. -/
  | done (bytes : Bytes)
  /-- The string breaks off, inside an escape or after the first half of a character. -/
  | ranOut (afterHalf : Bool)
  /-- The halves of a character do not fit. -/
  | fault (f : Fault)
  deriving DecidableEq, Repr

/-- The bytes a raw string stands for, put in front of `done` in reverse.  The raw string starts
at the offset.  `high` is the first half of a character, when one came right before. -/
def unescape (offset : Nat) (done : Bytes) (high : Option Nat) : Bytes → Unescaped
  | [] => match high with
    | none => .done done
    | some _ => .ranOut true
  | 0x5C :: 0x75 :: a :: b :: c :: d :: rest =>
    if [a, b, c, d].all isHexDigit then
      let n := hex4 a b c d
      match high with
      | none =>
        if isLowHalf n then .fault (slipAt .lonelyHalf (offset + 6))
        else if isHighHalf n then unescape (offset + 6) done (some n) rest
        else unescape (offset + 6) ((Utf8.encodeChar (Char.ofNat n)).reverse ++ done) none rest
      | some h =>
        if isLowHalf n then
          unescape (offset + 6) ((Utf8.encodeChar (joinHalves h n)).reverse ++ done) none rest
        else .fault (slipAt .lonelyHalf (offset + 6))
    else .ranOut false
  | 0x5C :: b :: rest =>
    match high with
    | some _ => if b == 0x75 then .ranOut false else .fault (slipAt .missingHalf (offset + 2))
    | none =>
      if isEscapeLetter b then unescape (offset + 2) (shortEscape b :: done) none rest
      else .ranOut false
  | b :: rest =>
    match high with
    | some _ => if b == 0x5C then .ranOut false else .fault (slipAt .missingHalf (offset + 1))
    | none => if b == 0x5C then .ranOut false else unescape (offset + 1) (b :: done) none rest

/-- The fault noticed by one who reads a string that breaks off. -/
def cutStringFault (slip : Slip) (offset : Nat) : Fault :=
  if slip = .controlCharacter then slipAt slip (offset + 1) else slipAt slip offset

/-- The text of a string that starts at the offset. -/
def readString (start : Nat) (raw : Bytes) (closing : Closing) : Except Fault String :=
  match unescape (start + 1) [] none raw, closing with
  | .fault f, _ => .error f
  | .done bytes, .closed _ =>
    match Utf8.decode? bytes.reverse with
    | some s => .ok s
    | none => .error (slipAt .badText (Utf8.wellFormedLength (start + 1) raw + 1))
  | .ranOut _, .closed stop => .error (slipAt .missingHalf stop)
  | _, .cut slip offset => .error (cutStringFault slip offset)

/-! ## Scalars -/

/-- The value of a scalar that starts at the offset, as one finds it where something is
expected. -/
def Scalar.read (start : Nat) : Scalar → Except Fault Found
  | .word .null => .ok .null
  | .word .yes => .ok (.bool true)
  | .word .no => .ok (.bool false)
  | .cutWord slip offset => .error (slipAt slip offset)
  | .number digits => (readNumber start digits).map .number
  | .cutNumber atEnd offset => .error (slipAt (if atEnd then .endInValue else .badNumber) offset)
  | .string raw closing => (readString start raw closing).map .string

/-- Whether a scalar is the word for no value, or starts like it. -/
def Scalar.isNull : Scalar → Bool
  | .word .null => true
  | _ => false

end Webhook.Json
