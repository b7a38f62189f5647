import Webhook.Pattern.Escape

/-!
# Sets in brackets

A set lists characters, ranges and classes, and other sets.  Two sets are combined by an operator
of two characters.  Operators bind less tightly than the mere sequence of parts, and to the left.
-/

namespace Webhook.Pattern

/-! ## Parts of a set -/

/-- The classes of ASCII by their names. -/
def AsciiClass.ofName? (name : List Char) : Option AsciiClass :=
  let table : List (String × AsciiClass) :=
    [ ("alnum", .alnum), ("alpha", .alpha), ("ascii", .ascii), ("blank", .blank),
      ("cntrl", .cntrl), ("digit", .digit), ("graph", .graph), ("lower", .lower),
      ("print", .print), ("punct", .punct), ("space", .space), ("upper", .upper),
      ("word", .word), ("xdigit", .xdigit) ]
  table.lookup (String.ofList name)

/-- Reads a class of ASCII between a bracket and a colon and the same again, if one stands
here. -/
def readAscii? (s : List Char) : Option (SetNode × List Char) :=
  match strip? ['[', ':'] s with
  | none => none
  | some inside =>
    let (negated, named) := match inside with
      | '^' :: r => (true, r)
      | r => (false, r)
    let name := named.takeWhile (· != ':')
    match strip? [':', ']'] (named.dropWhile (· != ':')), AsciiClass.ofName? name with
    | some after, some c => some (.ascii (.between s after) c negated, after)
    | _, _ => none

/-- Reads a character, an escape or a class. -/
def readMember (verbose : Bool) (s : List Char) : Except Fault (Escaped × List Char) :=
  match s with
  | '\\' :: _ => readEscape verbose s
  | c :: r => .ok (.literal ⟨.first s, c, false⟩, r)
  | [] => .error (fault .openSet (.point s))

/-- A part of a set that stands alone. -/
def Escaped.toPart : Escaped → Except Fault SetNode
  | .literal l => .ok (.literal l)
  | .letter span c negated => .ok (.letter span c negated)
  | .property span q negated => .ok (.property span q negated)
  | .assertion span _ => .error (fault .escapeInSet span)

/-- A part of a set that is the end of a range. -/
def Escaped.toLimit : Escaped → Except Fault Literal
  | .literal l => .ok l
  | other => .error (fault .rangeOfClasses other.span)

/-- The next character to be looked at after one that may be the minus of a range.  Only a blank
ends a comment here. -/
def peekFrom : (inComment : Bool) → List Char → Option Char
  | _, [] => none
  | inComment, c :: r =>
    if Text.isBlank c then peekFrom inComment r
    else if !inComment && c == '#' then peekFrom true r
    else some c

/-- The character after the first one, past the blanks and comments that are skipped. -/
def peekPast (verbose : Bool) (s : List Char) : Option Char :=
  let rest := s.drop 1
  if verbose then (peekFrom false rest).or rest.head? else rest.head?

/-- Reads a part of a set; `opened` is the stretch of the start of the innermost set. -/
def readPart (verbose : Bool) (opened : Span) (s : List Char) :
    Except Fault (SetNode × List Char) := do
  let (low, afterLow) ← readMember verbose s
  let t := skip verbose afterLow
  if t.isEmpty then throw (fault .openSet opened)
  if t.head? != some '-' || peekPast verbose t == some ']' || peekPast verbose t == some '-' then
    return (← low.toPart, t)
  let u := advance verbose t
  if u.isEmpty then throw (fault .openSet opened)
  let (high, afterHigh) ← readMember verbose u
  let span := low.span.cover high.span
  let lowest ← low.toLimit
  let highest ← high.toLimit
  if highest.char < lowest.char then throw (fault .emptyRange span)
  return (.range span lowest highest, afterHigh)

/-! ## Whole sets -/

/-- A set that is being read. -/
structure OpenSet where
  /-- The stretch of its start. -/
  opened : Span
  /-- Whether it stands for all other characters. -/
  negated : Bool
  /-- The operands before the current one, combined, and the operator that is pending. -/
  pending : Option (SetOp × SetNode)
  /-- The parts of the current operand, latest first. -/
  parts : List SetNode
  /-- The place where the current operand starts, if it has no parts. -/
  place : Nat
  deriving Repr

namespace OpenSet

/-- The current operand. -/
def operand (o : OpenSet) : SetNode :=
  let span : Span := match o.parts.getLast?, o.parts.head? with
    | some a, some b => a.span.cover b.span
    | _, _ => ⟨o.place, o.place⟩
  .ofParts span o.parts.reverse

/-- All operands, combined. -/
def combined (o : OpenSet) : SetNode :=
  match o.pending with
  | none => o.operand
  | some (op, left) => .op (left.span.cover o.operand.span) op left o.operand

/-- Adds a part. -/
def push (o : OpenSet) (n : SetNode) : OpenSet := { o with parts := n :: o.parts }

/-- Adds an operator; the next operand starts at a given rest. -/
def pushOp (o : OpenSet) (op : SetOp) (rest : List Char) : OpenSet :=
  { o with pending := some (op, o.combined), parts := [], place := rest.length }

end OpenSet

/-- Reads the minuses at the start of a set, which stand for themselves, latest first. -/
def leadingMinuses (verbose : Bool) : (inComment : Bool) → List SetNode → List Char →
    List SetNode × List Char
  | _, done, [] => (done, [])
  | true, done, c :: r => leadingMinuses verbose (c != '\n') done r
  | false, done, c :: r =>
    if verbose && Text.isBlank c then leadingMinuses verbose false done r
    else if verbose && c == '#' then leadingMinuses verbose true done r
    else if c == '-' then
      leadingMinuses verbose false (.literal ⟨.first (c :: r), c, false⟩ :: done) r
    else (done, c :: r)

/-- Reads the start of a set, from the bracket on. -/
def readOpen (verbose : Bool) (s : List Char) : Except Fault (OpenSet × List Char) := do
  let inside := advance verbose s
  if inside.isEmpty then throw (fault .openSet (.between s inside))
  let negated := inside.head? == some '^'
  let first := if negated then advance verbose inside else inside
  if first.isEmpty then throw (fault .openSet (.between s first))
  let (minuses, t) := leadingMinuses verbose false [] first
  if t.isEmpty then throw (fault .openSet (.point s))
  if minuses.isEmpty && t.head? == some ']' then
    let u := advance verbose t
    if u.isEmpty then throw (fault .openSet (.between s u))
    return (⟨.between s u, negated, none, [.literal ⟨.first t, ']', false⟩], t.length⟩, u)
  return (⟨.between s t, negated, none, minuses, t.length⟩, t)

/-- The operator that stands here. -/
def setOp? : List Char → Option (SetOp × List Char)
  | '&' :: '&' :: r => some (.intersection, r)
  | '-' :: '-' :: r => some (.difference, r)
  | '~' :: '~' :: r => some (.symmetricDifference, r)
  | _ => none

/-- Reads the rest of a set.  `outer` are the sets around it, innermost first. -/
def readSetFrom (verbose : Bool) : (fuel : Nat) → (current : OpenSet) →
    (outer : List OpenSet) → List Char → Except Fault (Node × List Char)
  | 0, current, _, _ => .error (fault .openSet current.opened)
  | fuel + 1, current, outer, s =>
    match skip verbose s with
    | [] => .error (fault .openSet current.opened)
    | '[' :: r =>
      match readAscii? ('[' :: r) with
      | some (n, t) => readSetFrom verbose fuel (current.push n) outer t
      | none => do
        let (inner, t) ← readOpen verbose ('[' :: r)
        readSetFrom verbose fuel inner (current :: outer) t
    | ']' :: r =>
      let span : Span := ⟨current.opened.start, r.length⟩
      match outer with
      | [] => .ok (.set span current.negated current.combined, r)
      | around :: outer =>
        let n := SetNode.bracketed span current.negated current.combined
        readSetFrom verbose fuel (around.push n) outer r
    | t =>
      match setOp? t with
      | some (op, rest) => readSetFrom verbose fuel (current.pushOp op rest) outer rest
      | none => do
        let (n, rest) ← readPart verbose current.opened t
        readSetFrom verbose fuel (current.push n) outer rest

/-- Reads a set, from the bracket on. -/
def readSet (verbose : Bool) (s : List Char) : Except Fault (Node × List Char) := do
  let (current, t) ← readOpen verbose s
  readSetFrom verbose t.length.succ current [] t

end Webhook.Pattern
