import Webhook.Text.Ranges

/-!
# IP addresses

An address of version four is four octets, written in decimal with dots.  An address of version six
is eight groups of sixteen bits, written in hexadecimal with colons.  One run of zero groups may be
left out, and the last two groups may be written as an address of version four.

An address is written in its shortest form: the longest run of two or more zero groups is left out,
and the first of several such runs.
-/

namespace Webhook

/-- An IP address. -/
inductive IpAddress where
  /-- An address of version four, as its octets. -/
  | v4 (octets : List Nat)
  /-- An address of version six, as its groups. -/
  | v6 (groups : List Nat)
  deriving DecidableEq, Repr

namespace IpAddress

/-! ## Reading -/

/-- The value of a digit in a base up to sixteen. -/
def digit? (base : Nat) (c : Char) : Option Nat :=
  if c.isDigit || ('a' ≤ c && c ≤ 'f') || ('A' ≤ c && c ≤ 'F') then
    let d := Text.Ranges.digitValue c.toLower
    if d < base then some d else none
  else none

/-- Reads digits, up to a number of them and to the first letter that is none.  There is no result
when there are more digits. -/
def readDigits (base : Nat) : (most value : Nat) → List Char → Option (Nat × List Char)
  | _, value, [] => some (value, [])
  | most, value, c :: rest =>
    match digit? base c, most with
    | none, _ => some (value, c :: rest)
    | some _, 0 => none
    | some d, most + 1 => readDigits base most (value * base + d) rest

/-- Reads an octet: one to three digits, up to 255 and without a leading zero. -/
def readOctet (text : List Char) : Option (Nat × List Char) :=
  match text with
  | [] => none
  | c :: more =>
    if (digit? 10 c).isNone then none
    else if c == '0' && more.head?.any (digit? 10 · |>.isSome) then none
    else (readDigits 10 3 0 text).filter (·.1 < 256)

/-- Reads a group: one to four digits. -/
def readGroup (text : List Char) : Option (Nat × List Char) :=
  match text with
  | [] => none
  | c :: _ => if (digit? 16 c).isNone then none else readDigits 16 4 0 text

/-- Reads a mark. -/
def readMark (mark : Char) : List Char → Option (List Char)
  | c :: rest => if c = mark then some rest else none
  | [] => none

/-- Reads four octets with dots between them. -/
def readOctets (text : List Char) : Option (List Nat × List Char) := do
  let (a, text) ← readOctet text
  let (b, text) ← readOctet (← readMark '.' text)
  let (c, text) ← readOctet (← readMark '.' text)
  let (d, text) ← readOctet (← readMark '.' text)
  return ([a, b, c, d], text)

/-- Two groups from four octets. -/
def pairOctets : List Nat → List Nat
  | a :: b :: rest => (a * 256 + b) :: pairOctets rest
  | _ => []

/-- The groups that were read, whether octets were among them, and what is left. -/
structure Groups where
  /-- The groups. -/
  groups : List Nat
  /-- Whether the last two groups were written as octets. -/
  octets : Bool
  /-- What is left of the text. -/
  rest : List Char

/-- The text after the colon that stands before all groups but the first. -/
def afterColon (isFirst : Bool) (text : List Char) : Option (List Char) :=
  if isFirst then some text else readMark ':' text

/-- Reads groups with colons between them, up to a number of them.  Octets stand for two groups and
end the reading. -/
def readGroups : (limit : Nat) → (isFirst : Bool) → List Char → Groups
  | 0, _, text => ⟨[], false, text⟩
  | limit + 1, isFirst, text =>
    match if 0 < limit then (afterColon isFirst text).bind readOctets else none with
    | some (octets, rest) => ⟨pairOctets octets, true, rest⟩
    | none =>
      match (afterColon isFirst text).bind readGroup with
      | none => ⟨[], false, text⟩
      | some (group, rest) =>
        let more := readGroups limit false rest
        { more with groups := group :: more.groups }

/-- Reads an address of version six. -/
def readV6 (text : List Char) : Option (List Nat × List Char) := do
  let head := readGroups 8 true text
  if head.groups.length = 8 then return (head.groups, head.rest)
  if head.octets then none
  let rest ← readMark ':' (← readMark ':' head.rest)
  let tail := readGroups (7 - head.groups.length) true rest
  let gap := 8 - head.groups.length - tail.groups.length
  return (head.groups ++ List.replicate gap 0 ++ tail.groups, tail.rest)

/-- The result of reading a whole text. -/
def whole? {α : Type} (result : α × List Char) : Option α :=
  if result.2.isEmpty then some result.1 else none

/-- The address that a text stands for. -/
def parse? (text : String) : Option IpAddress :=
  match readOctets text.toList with
  | some result => (whole? result).map v4
  | none => (readV6 text.toList).bind fun result => (whole? result).map v6

/-! ## Writing -/

/-- Octets with dots between them. -/
def writeOctets (octets : List Nat) : String := ".".intercalate (octets.map toString)

/-- Groups with colons between them. -/
def writeGroups (groups : List Nat) : String :=
  ":".intercalate (groups.map fun g => String.ofList (Nat.toDigits 16 g))

/-- The number of zero groups at the front. -/
def zeroRun (groups : List Nat) : Nat := (groups.takeWhile (· == 0)).length

/-- Where the longest run of zero groups starts, and how long it is; the first of several. -/
def longestRun (position : Nat) : List Nat → Nat × Nat
  | [] => (position, 0)
  | g :: rest =>
    let here := zeroRun (g :: rest)
    let later := longestRun (position + 1) rest
    if later.2 ≤ here then (position, here) else later

/-- Writes an address. -/
def render : IpAddress → String
  | v4 octets => writeOctets octets
  | v6 [0, 0, 0, 0, 0, 65535, g, h] =>
    "::ffff:" ++ writeOctets [g / 256, g % 256, h / 256, h % 256]
  | v6 groups =>
    let (start, length) := longestRun 0 groups
    if length < 2 then writeGroups groups
    else writeGroups (groups.take start) ++ "::" ++ writeGroups (groups.drop (start + length))

example : (parse? "1:0:0:2:0:0:0:3").map render = some "1:0:0:2::3" := by decide +kernel
example : (parse? "::").map render = some "::" := by decide +kernel
example : (parse? "::1.2.3.4").map render = some "::102:304" := by decide +kernel
example : parse? "01.2.3.4" = none := by decide +kernel
example : parse? "1:2:3:4:5:6:7:8:9" = none := by decide +kernel

end IpAddress
end Webhook
