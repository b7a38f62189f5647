import Webhook.Text.Quoted
import Webhook.Text.Utf8

/-!
# Timestamps

A timestamp is a date, the letter `T` or a blank, a time of day and an offset from universal time,
such as `2024-01-02T03:04:05Z`.  Minutes, seconds and up to nine digits of a fraction may be left
out, the separators too, and annotations in brackets may follow.  The first one can name a time
zone, and any others have a key and values.  A leap second counts as the second before it.

Reading gives the seconds since 1970, or the reason why the text is no timestamp.
-/

namespace Webhook.Instant

/-- The parts of a timestamp that are written with two digits. -/
inductive Part where
  | month
  | day
  | hour
  | minute
  | second
  deriving DecidableEq, Repr

/-- The name of a part. -/
def Part.name : Part → String
  | .month => "month"
  | .day => "day"
  | .hour => "hour"
  | .minute => "minute"
  | .second => "second"

/-- The least value of a part. -/
def Part.least : Part → Nat
  | .month | .day => 1
  | .hour | .minute | .second => 0

/-- The greatest value of a part.  The last second is a leap second. -/
def Part.greatest : Part → Nat
  | .month => 12
  | .day => 31
  | .hour => 23
  | .minute => 59
  | .second => 60

/-- The parts of an offset, each of which has two digits. -/
inductive OffsetPart where
  | hour
  | minute
  | second
  deriving DecidableEq, Repr

/-- The name of a part. -/
def OffsetPart.name : OffsetPart → String
  | .hour => "hour"
  | .minute => "minute"
  | .second => "second"

/-- What comes before a part. -/
def OffsetPart.before : OffsetPart → String
  | .hour => "sign"
  | .minute => "hours"
  | .second => "minutes"

/-- The greatest value of a part. -/
def OffsetPart.greatest : OffsetPart → Nat
  | .hour => 25
  | .minute | .second => 59

/-- The words in annotations. -/
inductive Word where
  /-- A part of the name of a time zone. -/
  | name
  /-- The key of an annotation. -/
  | key
  /-- A value of an annotation. -/
  | value
  deriving DecidableEq, Repr

/-- What a word is the start of. -/
def Word.role : Word → String
  | .name => "annotation or IANA time zone component name"
  | .key => "annotation key"
  | .value => "annotation value"

/-- What a word has to start with. -/
def Word.due : Word → String
  | .name =>
    "ASCII alphabetic byte (or underscore or period) at the start of an RFC 9557 annotation or "
      ++ "time zone component name"
  | .key =>
    "lowercase alphabetic byte (or underscore) at the start of an RFC 9557 annotation key"
  | .value => "alphanumeric ASCII byte at the start of an RFC 9557 annotation value"

/-- The marks in annotations. -/
inductive Mark where
  /-- The end of a time zone. -/
  | zoneEnd
  /-- What stands between a key and its values. -/
  | equals
  /-- The end of an annotation with a key. -/
  | valueEnd
  deriving DecidableEq, Repr

/-- The byte of a mark. -/
def Mark.byte : Mark → UInt8
  | .equals => 0x3D
  | .zoneEnd | .valueEnd => 0x5D

/-- A mark, and what it comes after. -/
def Mark.due : Mark → String
  | .zoneEnd => "an ']' after parsing an RFC 9557 time zone annotation"
  | .equals => "an '=' after parsing an RFC 9557 annotation key"
  | .valueEnd => "an ']' after parsing an RFC 9557 annotation key and value"

/-- Why a text is no timestamp. -/
inductive Problem where
  /-- The text ends inside the year; a year with a sign has six digits. -/
  | shortYear (signed : Bool)
  /-- A byte of the year is no digit. -/
  | yearDigit (signed : Bool) (b : UInt8)
  /-- The year zero has a minus sign. -/
  | negativeZero
  /-- The year has more than four digits that count. -/
  | yearRange
  /-- The text ends inside a part. -/
  | shortPart (p : Part)
  /-- A byte of a part is no digit. -/
  | partDigit (p : Part) (b : UInt8)
  /-- A part is out of its range. -/
  | partRange (p : Part)
  /-- There is no hyphen where one is due: the end of the text or another byte. -/
  | noHyphen (found : Option UInt8)
  /-- There is a hyphen where none is due. -/
  | extraHyphen
  /-- The month has no such day. -/
  | noSuchDay (year : Int) (month : Nat) (last : Nat)
  /-- A point without digits after it. -/
  | emptyFraction
  /-- There is no time of day. -/
  | noTime
  /-- There is no offset. -/
  | noOffset
  /-- The text ends inside a part of the offset. -/
  | shortOffset (p : OffsetPart)
  /-- A byte of a part of the offset is no digit. -/
  | offsetDigit (p : OffsetPart) (b : UInt8)
  /-- A part of the offset is out of its range. -/
  | offsetRange (p : OffsetPart)
  /-- The text ends before a word of an annotation. -/
  | shortWord (w : Word)
  /-- A word of an annotation cannot start with a byte. -/
  | wordByte (w : Word) (b : UInt8)
  /-- A mark of an annotation is missing: the end of the text or another byte. -/
  | noMark (m : Mark) (found : Option UInt8)
  /-- A time zone is not the first annotation. -/
  | lateZone
  /-- The offset of a time zone has seconds. -/
  | zoneSeconds
  /-- An annotation that must not be passed over is not known. -/
  | critical
  /-- The offset is out of its range once its fraction is rounded. -/
  | offsetRounding
  /-- The instant is too far away; its offset is given in seconds. -/
  | tooFar (offset : Int)
  /-- Something follows the timestamp. -/
  | unread (value rest : String)
  deriving DecidableEq, Repr

/-- A byte as it is shown in a message. -/
def showByte (b : UInt8) : String :=
  if b == 0x22 || b == 0x27 || b == 0x5C then String.ofList ['\\', Char.ofNat b.toNat]
  else if 0x20 ≤ b && b < 0x7F then String.singleton (Char.ofNat b.toNat)
  else if b == 0x0A then "\\n"
  else if b == 0x0D then "\\r"
  else if b == 0x09 then "\\t"
  else "\\x" ++ String.ofList
    [(Nat.digitChar (b.toNat / 16)).toUpper, (Nat.digitChar (b.toNat % 16)).toUpper]

/-- A natural in decimal digits. -/
def showNat (n : Nat) : String := String.ofList (Nat.toDigits 10 n)

/-- A natural in at least so many decimal digits. -/
def padded (width n : Nat) : String :=
  let ds := Nat.toDigits 10 n
  String.ofList (List.replicate (width - ds.length) '0' ++ ds)

/-- An offset as it is shown in a message: as many parts of it as are needed. -/
def showOffset (offset : Int) : String :=
  let n := offset.natAbs
  let part (m : Nat) : String := ":" ++ padded 2 (m % 60)
  (if offset < 0 then "-" else "+") ++ padded 2 (n / 3600)
    ++ (if n % 3600 = 0 then "" else part (n / 60)) ++ (if n % 60 = 0 then "" else part n)

/-- The earliest and the latest instant. -/
def limits : Int × Int := (-377705023201, 253402207200)

/-- The words for a value out of its range. -/
def rangeMessage (name : String) (least greatest : Int) : String :=
  "parameter '" ++ name ++ "' is not in the required range of " ++ toString least ++ "..="
    ++ toString greatest

/-- The words for a byte that is no digit. -/
def digitMessage (b : UInt8) : String := "invalid digit, expected 0-9 but got " ++ showByte b

/-- The words for a problem. -/
def Problem.message : Problem → String
  | .shortYear false =>
    "expected four digit year (or leading sign for six digit year), but found end of input"
  | .shortYear true =>
    "expected six digit year (because of a leading sign), but found end of input"
  | .yearDigit false b => "failed to parse four digit integer as year: " ++ digitMessage b
  | .yearDigit true b => "failed to parse six digit integer as year: " ++ digitMessage b
  | .yearRange =>
    "failed to parse six digit integer as year: " ++ rangeMessage "year" (-9999) 9999
  | .negativeZero =>
    "year zero must be written without a sign or a positive sign, but not a negative sign"
  | .shortPart p => "expected two digit " ++ p.name ++ ", but found end of input"
  | .partDigit p b => "failed to parse two digit integer as " ++ p.name ++ ": " ++ digitMessage b
  | .partRange p =>
    "failed to parse two digit integer as " ++ p.name ++ ": "
      ++ rangeMessage p.name p.least p.greatest
  | .noHyphen none => "expected `-` separator, but found end of input"
  | .noHyphen (some b) => "expected `-` separator, but found `" ++ showByte b ++ "`"
  | .extraHyphen =>
    "expected no separator since none was found after the year, but found a `-` separator"
  | .noSuchDay year month last =>
    "parsed date is not valid: parameter 'day' for `"
      ++ (if year < 0 then "-" ++ padded 6 year.natAbs else padded 4 year.natAbs)
      ++ "-" ++ padded 2 month ++ "` is invalid, must be in range `1..=" ++ showNat last ++ "`"
  | .emptyFraction =>
    "found decimal after seconds component, but did not find any digits after decimal"
  | .noTime => "failed to find time component, which is required for parsing a timestamp"
  | .noOffset => "failed to find offset component, which is required for parsing a timestamp"
  | .shortOffset p =>
    "expected two digit " ++ p.name ++ " after " ++ p.before ++ ", but found end of input"
  | .offsetDigit p b =>
    "failed to parse " ++ p.name ++ "s (requires a two digit integer): " ++ digitMessage b
  | .offsetRange p =>
    "failed to parse " ++ p.name ++ "s (requires a two digit integer): "
      ++ rangeMessage ("time zone offset " ++ p.name ++ "s") (-p.greatest) p.greatest
  | .shortWord w => "expected the start of an RFC 9557 " ++ w.role ++ ", but found end of input instead"
  | .wordByte w b => "expected " ++ w.due ++ ", but found `" ++ showByte b ++ "` instead"
  | .noMark m none => "expected " ++ m.due ++ ", but found end of input instead"
  | .noMark m (some b) => "expected " ++ m.due ++ ", but found `" ++ showByte b ++ "` instead"
  | .lateZone =>
    "expected " ++ Mark.equals.due
      ++ ", but found `/` instead (time zone annotations must come first)"
  | .zoneSeconds =>
    "subminute precision for UTC numeric offset is not enabled in this context "
      ++ "(must provide only integral minutes)"
  | .critical => "found unsupported RFC 9557 annotation with the critical flag ('!') set"
  | .offsetRounding =>
    "due to precision loss, offset is rounded to a value that is out of bounds"
  | .tooFar offset =>
    "failed to convert civil datetime to timestamp with offset " ++ showOffset offset
      ++ ": converting datetime with time zone offset `" ++ showOffset offset
      ++ "` to timestamp overflowed: "
      ++ rangeMessage "Unix timestamp seconds" limits.1 limits.2
  | .unread value rest =>
    "parsed value '" ++ value ++ "', but unparsed input " ++ Text.quoted rest
      ++ " remains (expected no unparsed input)"

/-- A reader takes bytes off the front. -/
abbrev Reader (α : Type) := Bytes → Except Problem (α × Bytes)

/-- Whether a byte is a decimal digit. -/
def isDigit (b : UInt8) : Bool := 0x30 ≤ b && b ≤ 0x39

/-- The value of decimal digits, or the first byte that is none. -/
def digits (n : Nat) : Bytes → Except UInt8 Nat
  | [] => .ok n
  | b :: rest => if isDigit b then digits (n * 10 + (b.toNat - 0x30)) rest else .error b

/-- Reads the year. -/
def readYear : Reader Int := fun input =>
  let signed := input.head? == some 0x2B || input.head? == some 0x2D
  let negative := input.head? == some 0x2D
  let unsigned := if signed then input.drop 1 else input
  let width := if signed then 6 else 4
  if unsigned.length < width then .error (.shortYear signed)
  else match digits 0 (unsigned.take width) with
    | .error b => .error (.yearDigit signed b)
    | .ok n =>
      if negative && n == 0 then .error .negativeZero
      else if 9999 < n then .error .yearRange
      else .ok (if negative then -(n : Int) else n, unsigned.drop width)

/-- Reads a part of two digits.  A second may be a leap second. -/
def readPart (p : Part) : Reader Nat := fun input =>
  if input.length < 2 then .error (.shortPart p)
  else match digits 0 (input.take 2) with
    | .error b => .error (.partDigit p b)
    | .ok n =>
      if n < p.least || p.greatest < n then .error (.partRange p)
      else .ok (if p = .second then min n 59 else n, input.drop 2)

/-- Reads the hyphen of a date, which is there everywhere or nowhere. -/
def readHyphen (due : Bool) : Reader Unit := fun input =>
  match due, input with
  | true, 0x2D :: rest => .ok ((), rest)
  | true, b :: _ => .error (.noHyphen (some b))
  | true, [] => .error (.noHyphen none)
  | false, 0x2D :: _ => .error .extraHyphen
  | false, rest => .ok ((), rest)

/-- Whether a year has a 29th of February. -/
def isLeap (year : Int) : Bool := year % 4 == 0 && (year % 100 != 0 || year % 400 == 0)

/-- The last day of a month. -/
def lastDay (year : Int) (month : Nat) : Nat :=
  if month = 2 then if isLeap year then 29 else 28
  else if month = 4 || month = 6 || month = 9 || month = 11 then 30
  else 31

/-- A date. -/
structure Date where
  /-- The year, negative before the year zero. -/
  year : Int
  /-- The month, from one. -/
  month : Nat
  /-- The day of the month, from one. -/
  day : Nat
  deriving DecidableEq, Repr

/-- Reads a date. -/
def readDate : Reader Date := fun input => do
  let (year, input) ← readYear input
  let hyphens := input.head? == some 0x2D
  let ((), input) ← readHyphen hyphens input
  let (month, input) ← readPart .month input
  let ((), input) ← readHyphen hyphens input
  let (day, input) ← readPart .day input
  if lastDay year month < day then .error (.noSuchDay year month (lastDay year month))
  else .ok (⟨year, month, day⟩, input)

/-- Whether a further part of the time follows, and the input after its separator. -/
def nextPart (colons : Bool) (input : Bytes) : Bool × Bytes :=
  if colons then
    match input with
    | 0x3A :: rest => (true, rest)
    | rest => (false, rest)
  else (2 ≤ input.length && (input.take 2).all isDigit, input)

/-- Reads a fraction of a second, if there is one: at most nine digits after a point or comma.  Tells
whether it is a half or more. -/
def readFraction : Reader Bool := fun input =>
  match input with
  | b :: rest =>
    if b == 0x2E || b == 0x2C then
      match (rest.takeWhile isDigit).take 9 with
      | [] => .error .emptyFraction
      | first :: places => .ok (0x35 ≤ first, rest.drop (places.length + 1))
    else .ok (false, input)
  | [] => .ok (false, input)

/-- Reads a time of day, in seconds. -/
def readTime : Reader Nat := fun input => do
  let (hour, input) ← readPart .hour input
  let colons := input.head? == some 0x3A
  match nextPart colons input with
  | (false, input) => .ok (hour * 3600, input)
  | (true, input) =>
    let (minute, input) ← readPart .minute input
    match nextPart colons input with
    | (false, input) => .ok (hour * 3600 + minute * 60, input)
    | (true, input) =>
      let (second, input) ← readPart .second input
      let (_, input) ← readFraction input
      .ok (hour * 3600 + minute * 60 + second, input)

/-- Reads two digits of an offset. -/
def readOffsetPart (p : OffsetPart) : Reader Nat := fun input =>
  if input.length < 2 then .error (.shortOffset p)
  else match digits 0 (input.take 2) with
    | .error b => .error (.offsetDigit p b)
    | .ok n => if p.greatest < n then .error (.offsetRange p) else .ok (n, input.drop 2)

/-- Reads the hours and minutes of an offset, in seconds, and tells whether it goes on. -/
def readOffsetHours : Reader (Nat × Bool) := fun input => do
  let (hours, input) ← readOffsetPart .hour input
  let colons := input.head? == some 0x3A
  match nextPart colons input with
  | (false, input) => .ok ((hours * 3600, false), input)
  | (true, input) =>
    let (minutes, input) ← readOffsetPart .minute input
    .ok ((hours * 3600 + minutes * 60, (nextPart colons input).1), input)

/-- Reads an offset without its sign, in seconds.  A half of a second or more is rounded up. -/
def readOffsetSize : Reader Nat := fun input => do
  let ((size, more), input) ← readOffsetHours input
  if more then
    let input := if input.head? == some 0x3A then input.drop 1 else input
    let (seconds, input) ← readOffsetPart .second input
    let (half, input) ← readFraction input
    .ok (size + seconds + (if half then 1 else 0), input)
  else .ok (size, input)

/-- Reads an offset, in seconds, if there is one. -/
def readOffset : Reader (Option Int) := fun input =>
  match input with
  | [] => .ok (none, [])
  | b :: rest =>
    if b == 0x5A || b == 0x7A then .ok (some 0, rest)
    else if b == 0x2B || b == 0x2D then do
      let (size, rest) ← readOffsetSize rest
      .ok (some (if b == 0x2B then (size : Int) else -size), rest)
    else .ok (none, input)

/-! ## Annotations -/

/-- Whether a byte is a small letter. -/
def isSmall (b : UInt8) : Bool := 0x61 ≤ b && b ≤ 0x7A

/-- Whether a byte is a letter. -/
def isLetter (b : UInt8) : Bool := isSmall b || (0x41 ≤ b && b ≤ 0x5A)

/-- Whether a word can start with a byte. -/
def Word.starts (b : UInt8) : Word → Bool
  | .name => isLetter b || b == 0x5F || b == 0x2E
  | .key => isSmall b || b == 0x5F
  | .value => isLetter b || isDigit b

/-- Whether a word can go on with a byte. -/
def Word.goesOn (b : UInt8) : Word → Bool
  | .name => isLetter b || isDigit b || b == 0x5F || b == 0x2E || b == 0x2B || b == 0x2D
  | .key => isSmall b || isDigit b || b == 0x5F || b == 0x2D
  | .value => isLetter b || isDigit b

/-- Reads a word. -/
def readWord (w : Word) : Reader Unit := fun input =>
  match input with
  | [] => .error (.shortWord w)
  | b :: rest =>
    if w.starts b then .ok ((), rest.dropWhile (w.goesOn ·)) else .error (.wordByte w b)

/-- Reads further words, each after a separator. -/
def readWords (w : Word) (separator : UInt8) : (due : Bool) → Reader Unit
  | true, [] => .error (.shortWord w)
  | true, b :: rest =>
    if w.starts b then readWords w separator false rest else .error (.wordByte w b)
  | false, [] => .ok ((), [])
  | false, b :: rest =>
    if w.goesOn b then readWords w separator false rest
    else if b == separator then readWords w separator true rest
    else .ok ((), b :: rest)

/-- Reads a mark. -/
def readMark (m : Mark) : Reader Unit := fun input =>
  match input with
  | [] => .error (.noMark m none)
  | b :: rest => if b == m.byte then .ok ((), rest) else .error (.noMark m (some b))

/-- What follows a byte, if the input starts with it. -/
def after? (b : UInt8) (input : Bytes) : Option Bytes :=
  match input with
  | c :: rest => if c == b then some rest else none
  | [] => none

/-- The flag of an annotation that must not be passed over. -/
def flag : UInt8 := 0x21

/-- Reads a time zone in brackets, if there is one: an offset in hours and minutes, or names with
slashes between them.  A name before an equals sign is a key, and is left unread. -/
def readZone : Reader Unit := fun input =>
  match after? 0x5B input with
  | none => .ok ((), input)
  | some rest => do
    let rest := (after? flag rest).getD rest
    match (after? 0x2B rest).or (after? 0x2D rest) with
    | some offset =>
      let (_, rest) ← readOffsetHours offset
      if rest.head? == some 0x3A then throw .zoneSeconds
      readMark .zoneEnd rest
    | none =>
      let ((), rest) ← readWord .name rest
      if rest.head? == some 0x3D then return ((), input)
      let ((), rest) ← readWords .name 0x2F false rest
      readMark .zoneEnd rest

/-- Reads annotations with keys, at most so many.  None of them is known. -/
def readAnnotations : Nat → Reader Unit
  | 0 => fun input => .ok ((), input)
  | fuel + 1 => fun input =>
    match after? 0x5B input with
    | none => .ok ((), input)
    | some rest => do
      let critical := rest.head? == some flag
      let ((), rest) ← readWord .key ((after? flag rest).getD rest)
      if rest.head? == some 0x2F then throw .lateZone
      let ((), rest) ← readMark .equals rest
      let ((), rest) ← readWords .value 0x2D true rest
      let ((), rest) ← readMark .valueEnd rest
      if critical then throw .critical
      readAnnotations fuel rest

/-- The days from the start of the year zero to the start of a year. -/
def daysBeforeYear (year : Int) : Int :=
  let y := year - 1
  365 * year + y.fdiv 4 - y.fdiv 100 + y.fdiv 400 + 1

/-- The days from the start of a year to a date in it. -/
def dayOfYear (d : Date) : Nat :=
  (List.range (d.month - 1)).foldl (fun n m => n + lastDay d.year (m + 1)) 0 + (d.day - 1)

/-- The days from the first day of 1970 to a date. -/
def Date.days (d : Date) : Int :=
  daysBeforeYear d.year + dayOfYear d - daysBeforeYear 1970

/-- The greatest offset. -/
def maxOffset : Nat := 25 * 3600 + 59 * 60 + 59

/-- Reads a timestamp, in seconds since 1970. -/
def parse (text : String) : Except Problem Int := do
  let bytes := Utf8.encode text
  let (date, input) ← readDate bytes
  let (time, offset, input) ← match input with
    | b :: rest =>
      if b == 0x20 || b == 0x54 || b == 0x74 then do
        let (time, rest) ← readTime rest
        let (offset, rest) ← readOffset rest
        pure (some time, offset, rest)
      else pure (none, none, b :: rest)
    | [] => pure (none, none, [])
  let ((), input) ← readZone input
  let ((), input) ← readAnnotations input.length input
  if !input.isEmpty then
    .error (.unread (Utf8.decodeLossy (bytes.take (bytes.length - input.length)))
      (Utf8.decodeLossy input))
  else match time, offset with
    | none, _ => .error .noTime
    | some _, none => .error .noOffset
    | some time, some offset =>
      let seconds := date.days * 86400 + time - offset
      if maxOffset < offset.natAbs then .error .offsetRounding
      else if seconds < limits.1 || limits.2 < seconds then .error (.tooFar offset)
      else .ok seconds

example : (parse "1970-01-01T00:00:00Z").toOption = some 0 := by decide +kernel
example : (parse "2024-01-02T03:04:05+01:00").toOption = some 1704161045 := by decide +kernel
example : (parse "2023-02-29T00:00:00Z").toOption = none := by decide +kernel
example : (parse "9999-12-30T22:00:00.999999999Z").toOption = some 253402207200 := by
  decide +kernel
example : (parse "1970-01-01T00:00:00+00:00:01.5[Etc/UTC][u-ca=iso]").toOption = some (-2) := by
  decide +kernel
example : (parse "1970-01-01T00:00:00Z[!a=1]").toOption = none := by decide +kernel

end Webhook.Instant
