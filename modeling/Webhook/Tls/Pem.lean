import Webhook.Text.Quoted
import Webhook.Tls.Base64

/-!
# Armoured sections

A file of certificates and keys is text with sections in it.  A section starts with a line that
names its label between dashes and ends with a line that repeats the label, and what stands between
is in base 64.  Lines outside of sections do not matter, and neither do sections whose label is not
known.  A section that is started within another one takes its place.

A line ends with a line feed or a carriage return, which belongs to it.
-/

namespace Webhook.Tls.Pem

/-- What a section holds. -/
inductive Kind where
  /-- A certificate. -/
  | certificate
  /-- A private key of the RSA algorithm. -/
  | rsaKey
  /-- A private key of any algorithm. -/
  | privateKey
  /-- A private key on an elliptic curve. -/
  | curveKey
  /-- Something else that is known. -/
  | other (label : String)
  deriving DecidableEq, Repr

namespace Kind

/-- The labels of sections that hold something else. -/
def otherLabels : List String := ["PUBLIC KEY", "X509 CRL", "CERTIFICATE REQUEST", "ECHCONFIG"]

/-- The kind of a label. -/
def ofLabel? (label : Bytes) : Option Kind :=
  if label = Utf8.encode "CERTIFICATE" then some certificate
  else if label = Utf8.encode "RSA PRIVATE KEY" then some rsaKey
  else if label = Utf8.encode "PRIVATE KEY" then some privateKey
  else if label = Utf8.encode "EC PRIVATE KEY" then some curveKey
  else (otherLabels.find? fun l => label = Utf8.encode l).map other

/-- Whether a section holds a private key. -/
def isKey : Kind → Bool
  | rsaKey | privateKey | curveKey => true
  | certificate | other _ => false

end Kind

/-- A section: what it holds, and its bytes. -/
structure Section where
  /-- What it holds. -/
  kind : Kind
  /-- The bytes. -/
  der : Bytes
  deriving DecidableEq, Repr

/-- What can be wrong with a file. -/
inductive Fault where
  /-- A section does not end. -/
  | unfinished (label : Bytes)
  /-- A section does not start as it should. -/
  | badStart (line : Bytes)
  /-- The text of a section is not base 64. -/
  | badText (fault : Base64.Fault)
  deriving DecidableEq, Repr

/-- The words for what is wrong. -/
def Fault.message : Fault → String
  | unfinished label => "section end " ++ Text.quoted (Utf8.decodeLossy label) ++ " missing"
  | badStart line => "illegal section start: " ++ Text.quoted (Utf8.decodeLossy line)
  | badText fault => fault.message

/-! ## Lines -/

/-- The end of a line. -/
def isLineEnd (b : UInt8) : Bool := b == 0x0A || b == 0x0D

/-- The lines of a text.  What is read of the current line stands in reverse order, and so do the
lines before it. -/
def linesFrom (done : List Bytes) (current : Bytes) : Bytes → List Bytes
  | [] => (if current.isEmpty then done else current.reverse :: done).reverse
  | b :: rest =>
    if isLineEnd b then linesFrom ((b :: current).reverse :: done) [] rest
    else linesFrom done (b :: current) rest

/-- The lines of a text. -/
def lines (text : Bytes) : List Bytes := linesFrom [] [] text

/-- The start of a line that starts a section. -/
def beginMark : Bytes := Utf8.encode "-----BEGIN "

/-- The start of a line that ends a section. -/
def endMark : Bytes := Utf8.encode "-----END "

/-- A dash. -/
def dash : UInt8 := 0x2D

/-- The dashes on both sides of a label. -/
def dashes : Bytes := List.replicate 5 dash

/-- A byte that may stand among the dashes at the end of a line. -/
def isTrailing (b : UInt8) : Bool := isLineEnd b || b == 0x20 || b == dash

/-- The label after the start of a line, if exactly five dashes follow it.  Blanks may stand among
the dashes, and before them they belong to the label. -/
def label? (rest : Bytes) : Option Bytes :=
  let trailing := rest.reverse.takeWhile isTrailing
  if trailing.count dash = 5 then
    let fromFirstDash := (trailing.reverse.dropWhile (· != dash)).length
    some (rest.take (rest.length - fromFirstDash))
  else none

/-- Whether a line ends the section of a label. -/
def endsSection (label line : Bytes) : Bool := (endMark ++ label ++ dashes).isPrefixOf line

/-! ## Sections -/

/-- The sections of a file up to the first thing that is wrong. -/
structure Scan where
  /-- The sections. -/
  sections : List Section
  /-- What is wrong after them. -/
  fault : Option Fault
  deriving DecidableEq, Repr

/-- One more section in front. -/
def Scan.cons (s : Section) (scan : Scan) : Scan := { scan with sections := s :: scan.sections }

/-- The section that is being read: its label, and its lines in reverse order. -/
abbrev Open := Option Bytes × List Bytes

/-- Scans lines, given the section that is being read. -/
def scanFrom : Open → List Bytes → Scan
  | (none, _), [] => ⟨[], none⟩
  | (some label, _), [] => ⟨[], some (.unfinished label)⟩
  | (label, text), line :: rest =>
    if beginMark.isPrefixOf line then
      match label? (line.drop beginMark.length) with
      | some label => scanFrom (some label, text) rest
      | none => ⟨[], some (.badStart line)⟩
    else
      match label with
      | none => scanFrom (none, text) rest
      | some label =>
        if endsSection label line then
          match Kind.ofLabel? label with
          | none => scanFrom (none, []) rest
          | some kind =>
            match Base64.decode text.reverse.flatten with
            | .ok der => (scanFrom (none, []) rest).cons ⟨kind, der⟩
            | .error fault => ⟨[], some (.badText fault)⟩
        else scanFrom (some label, line :: text) rest

/-- Scans a file. -/
def scan (text : Bytes) : Scan := scanFrom (none, []) (lines text)

/-- The certificates of a file, all of which must be well-formed. -/
def certificates (text : Bytes) : Except Fault (List Bytes) :=
  let s := scan text
  match s.fault with
  | some fault => .error fault
  | none => .ok ((s.sections.filter (·.kind = .certificate)).map (·.der))

/-- The first private key of a file.  What comes after it does not matter. -/
def privateKey (text : Bytes) : Except Fault (Option Section) :=
  let s := scan text
  match s.sections.find? (·.kind.isKey), s.fault with
  | some key, _ => .ok (some key)
  | none, some fault => .error fault
  | none, none => .ok none

end Webhook.Tls.Pem
