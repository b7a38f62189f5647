import Webhook.Pattern.Bracket
import Webhook.Pattern.Group

/-!
# Reading a pattern

A pattern is read from left to right.  What has been read so far is a `Builder`: the groups that
are still open, and in each of them the parts and the branches so far.  `Builder.step` reads the
next part, and `Builder.finish` gives the tree when nothing is left.
-/

namespace Webhook.Pattern

/-! ## What has been read -/

/-- The parts of a group, or of the whole pattern, that have been read. -/
structure Level where
  /-- The place where the group's inside starts. -/
  start : Nat
  /-- The branches that are complete, latest first. -/
  branches : List Node
  /-- The place where the current branch starts. -/
  branchStart : Nat
  /-- The parts of the current branch, latest first. -/
  parts : List Node
  deriving Repr

namespace Level

/-- A level without parts, at a given rest. -/
def empty (s : List Char) : Level := ⟨s.length, [], s.length, []⟩

/-- Adds a part. -/
def push (l : Level) (n : Node) : Level := { l with parts := n :: l.parts }

/-- The current branch, when it ends at a given rest. -/
def branch (l : Level) (s : List Char) : Node :=
  .ofParts ⟨l.branchStart, s.length⟩ l.parts.reverse

/-- Ends the current branch at a bar, and starts another after it. -/
def nextBranch (l : Level) (bar after : List Char) : Level :=
  { l with branches := l.branch bar :: l.branches, branchStart := after.length, parts := [] }

/-- All branches, when the last one ends at a given rest. -/
def close (l : Level) (s : List Char) : Node :=
  match l.branches with
  | [] => l.branch s
  | branches => .alternation ⟨l.start, s.length⟩ ((l.branch s :: branches).reverse)

end Level

/-- A group that is still open. -/
structure OpenGroup where
  /-- The stretch of its opening parenthesis. -/
  opened : Span
  /-- Whether it is remembered. -/
  remembered : Bool
  /-- Its flags. -/
  items : List FlagItem
  /-- The level around it. -/
  outer : Level
  /-- Whether blanks and comments are skipped around it. -/
  outerVerbose : Bool
  deriving Repr

/-- What has been read so far. -/
structure Builder where
  /-- Whether blanks and comments are skipped. -/
  verbose : Bool
  /-- The innermost level. -/
  level : Level
  /-- The open groups, innermost first. -/
  groups : List OpenGroup
  /-- The names of groups, latest first. -/
  names : List (String × Span)
  deriving Repr

namespace Builder

/-- Nothing has been read of a pattern. -/
def empty (s : List Char) : Builder := ⟨false, .empty s, [], []⟩

/-- Adds a part. -/
def push (b : Builder) (n : Node) : Builder := { b with level := b.level.push n }

/-! ## Groups -/

/-- Opens a group. -/
def openGroup (b : Builder) (opened : Span) (remembered : Bool) (items : List FlagItem)
    (inside : List Char) : Builder :=
  { b with
    verbose := (flagState .verbose true items).getD b.verbose
    level := .empty inside
    groups := ⟨opened, remembered, items, b.level, b.verbose⟩ :: b.groups }

/-- Reads the start of a group, from the parenthesis on. -/
def stepOpen (b : Builder) (s : List Char) : Except Fault (Builder × List Char) := do
  let (opening, rest) ← readOpening b.verbose s
  match opening with
  | .remembered none => return (b.openGroup (.first s) true [] rest, rest)
  | .remembered (some (name, span)) =>
    match b.names.lookup name with
    | some earlier => throw ⟨.repeatedName, span, some earlier⟩
    | none =>
      let b := { b with names := (name, span) :: b.names }
      return (b.openGroup (.first s) true [] rest, rest)
  | .plain items => return (b.openGroup (.first s) false items rest, rest)
  | .flags items =>
    let b := { b with verbose := (flagState .verbose true items).getD b.verbose }
    return (b.push (.flags (.between s rest) items), rest)

/-- Closes the innermost group; `s` starts with the parenthesis and `rest` follows it. -/
def stepClose (b : Builder) (s rest : List Char) : Except Fault Builder :=
  match b.groups with
  | [] => .error (fault .unopenedGroup (.first s))
  | g :: groups =>
    let n := Node.group ⟨g.opened.start, rest.length⟩ g.remembered g.items (b.level.close s)
    .ok { b with verbose := g.outerVerbose, level := g.outer.push n, groups }

/-! ## Repetitions -/

/-- Takes away the part that is to be repeated; `s` starts with the operator. -/
def takeRepeated (b : Builder) (s : List Char) : Except Fault (Node × Builder) :=
  match b.level.parts with
  | n :: parts =>
    if n.repeatable then .ok (n, { b with level := { b.level with parts } })
    else .error (fault .nothingToRepeat (.point s))
  | [] => .error (fault .nothingToRepeat (.point s))

/-- The rest after a question mark, if one stands here. -/
def dropLazy : List Char → List Char
  | '?' :: rest => rest
  | rest => rest

/-- Repeats the last part; `s` starts with the operator, `rest` follows it and its question
mark. -/
def repeatLast (b : Builder) (s rest : List Char) (least : Nat) (greatest : Option Nat) :
    Except Fault Builder := do
  let (n, b) ← b.takeRepeated s
  return b.push (.repetition ⟨n.span.start, rest.length⟩ least greatest n)

/-- Reads a number of repetitions.  There may be none. -/
def readNumber (verbose : Bool) (s : List Char) : Except Fault Nat × List Char :=
  let t := s.dropWhile Text.isBlank
  let (digits, u) := run verbose Char.isDigit false t
  let n := digits.foldl (fun n c => n * 10 + (c.toNat - '0'.toNat)) 0
  let number := if digits.isEmpty then .error (fault .noCount (.between t u))
    else if n < 0x100000000 then .ok n
    else .error (fault .badDecimal (.between t u))
  (number, u.dropWhile Text.isBlank)

/-- Reads a count in braces, from the opening brace on. -/
def readCount (verbose : Bool) (s : List Char) :
    Except Fault (Nat × Option Nat × List Char) := do
  let unclosed (t : List Char) : Fault := fault .openCount (.between s t)
  let inside := advance verbose s
  if inside.isEmpty then throw (unclosed inside)
  let (first, t) := readNumber verbose inside
  if t.isEmpty then throw (unclosed t)
  let (least, greatest, u) ←
    if t.head? == some ',' then do
      let u := advance verbose t
      if u.isEmpty then throw (unclosed u)
      if u.head? == some '\x7d' then
        let least ← first
        pure (least, none, u)
      else
        let least ← first
        let (second, w) := readNumber verbose u
        let greatest ← second
        pure (least, some greatest, w)
    else do
      let exactly ← first
      pure (exactly, some exactly, t)
  if u.head? != some '\x7d' then throw (unclosed u)
  let rest := dropLazy (advance verbose u)
  if (greatest.map fun g => decide (g < least)).getD false then
    throw (fault .emptyCounts (.between s rest))
  return (least, greatest, rest)

/-- Repeats the last part as often as a count in braces says; `s` starts with the opening
brace. -/
def stepCount (b : Builder) (s : List Char) : Except Fault (Builder × List Char) := do
  let _ ← b.takeRepeated s
  let (least, greatest, rest) ← readCount b.verbose s
  return (← b.repeatLast s rest least greatest, rest)

/-! ## Steps -/

/-- An escape as a part of a pattern. -/
def nodeOfEscape : Escaped → Node
  | .literal l => .literal l
  | .assertion span a => .assertion span a
  | .letter span c negated => .letter span c negated
  | .property span q negated => .property span q negated

/-- Reads the next part; there is one. -/
def step (b : Builder) (s : List Char) : Except Fault (Builder × List Char) :=
  match s with
  | [] => .ok (b, [])
  | c :: r =>
    match c with
    | '(' => b.stepOpen s
    | ')' => (b.stepClose s r).map fun b => (b, r)
    | '|' => .ok ({ b with level := b.level.nextBranch s r }, r)
    | '[' => (readSet b.verbose s).map fun p => (b.push p.1, p.2)
    | '?' => (b.repeatLast s (dropLazy r) 0 (some 1)).map fun b => (b, dropLazy r)
    | '*' => (b.repeatLast s (dropLazy r) 0 none).map fun b => (b, dropLazy r)
    | '+' => (b.repeatLast s (dropLazy r) 1 none).map fun b => (b, dropLazy r)
    | '\x7b' => b.stepCount s
    | '\\' => (readEscape b.verbose s).map fun p => (b.push (nodeOfEscape p.1), p.2)
    | '.' => .ok (b.push (.dot (.first s)), r)
    | '^' => .ok (b.push (.assertion (.first s) .lineStart), r)
    | '$' => .ok (b.push (.assertion (.first s) .lineEnd), r)
    | _ => .ok (b.push (.literal ⟨.first s, c, false⟩), r)

/-- The tree, when nothing is left. -/
def finish (b : Builder) : Except Fault Node :=
  match b.groups with
  | [] => .ok (b.level.close [])
  | g :: _ => .error (fault .openGroup g.opened)

/-- Reads the rest of a pattern. -/
def run : (fuel : Nat) → Builder → List Char → Except Fault Node
  | 0, b, _ => b.finish
  | fuel + 1, b, s =>
    match skip b.verbose s with
    | [] => b.finish
    | t => do
      let (b, rest) ← b.step t
      run fuel b rest

end Builder

/-! ## The limit on nesting -/

mutual

/-- Refuses parts of a set that are nested too deeply, when so many parts are around them. -/
def SetNode.checkDepth (depth : Nat) : SetNode → Except Fault Unit
  | .bracketed span _ inner =>
    if depth < depthLimit then inner.checkDepth (depth + 1) else .error (fault .tooDeep span)
  | .union span parts =>
    if depth < depthLimit then SetNode.checkDepths (depth + 1) parts
    else .error (fault .tooDeep span)
  | .op span _ left right =>
    if depth < depthLimit then do
      left.checkDepth (depth + 1)
      right.checkDepth (depth + 1)
    else .error (fault .tooDeep span)
  | _ => .ok ()
termination_by structural n => n

/-- Refuses parts of a set that are nested too deeply. -/
def SetNode.checkDepths (depth : Nat) : List SetNode → Except Fault Unit
  | [] => .ok ()
  | n :: ns => do
    n.checkDepth depth
    SetNode.checkDepths depth ns
termination_by structural ns => ns

end

mutual

/-- Refuses parts that are nested too deeply, when so many parts are around them. -/
def Node.checkDepth (depth : Nat) : Node → Except Fault Unit
  | .set span _ inner =>
    if depth < depthLimit then inner.checkDepth (depth + 1) else .error (fault .tooDeep span)
  | .repetition span _ _ body | .group span _ _ body =>
    if depth < depthLimit then body.checkDepth (depth + 1) else .error (fault .tooDeep span)
  | .alternation span parts | .concat span parts =>
    if depth < depthLimit then Node.checkDepths (depth + 1) parts
    else .error (fault .tooDeep span)
  | _ => .ok ()
termination_by structural n => n

/-- Refuses parts that are nested too deeply. -/
def Node.checkDepths (depth : Nat) : List Node → Except Fault Unit
  | [] => .ok ()
  | n :: ns => do
    n.checkDepth depth
    Node.checkDepths depth ns
termination_by structural ns => ns

end

/-- Reads a pattern. -/
def parse (text : String) : Except Fault Node := do
  let s := text.toList
  let n ← Builder.run s.length.succ (.empty s) s
  n.checkDepth 0
  return n

end Webhook.Pattern
