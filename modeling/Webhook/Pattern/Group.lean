import Webhook.Pattern.Escape
import Webhook.Unicode.Letter

/-!
# Starts of groups

What may follow an opening parenthesis: nothing, a name, or flags.  Flags that are closed at once
are for the rest of the group around them.
-/

namespace Webhook.Pattern

/-- What an opening parenthesis starts. -/
inductive Opening where
  /-- A group that is remembered, with its name. -/
  | remembered (name : Option (String × Span))
  /-- A group that is not remembered, with flags of its own. -/
  | plain (items : List FlagItem)
  /-- No group: flags for the rest of the group around them. -/
  | flags (items : List FlagItem)
  deriving Repr

/-- Whether a character may stand in a name. -/
def isNameChar (first : Bool) (c : Char) : Bool :=
  if first then c == '_' || Unicode.isAlphabetic c
  else c == '_' || c == '.' || c == '[' || c == ']' || Unicode.isAlphabetic c || Unicode.isNumeric c

/-- Reads a name up to its closing mark; `start` is where it starts. -/
def readNameFrom (start : List Char) : (first : Bool) → List Char → List Char →
    Except Fault (String × Span × List Char)
  | _, _, [] => .error (fault .endInName (.point []))
  | first, done, c :: r =>
    if c = '>' then
      if first then .error (fault .emptyName (.point start))
      else .ok (String.ofList done.reverse, .between start (c :: r), r)
    else if isNameChar first c then readNameFrom start false (c :: done) r
    else .error (fault .badName (.first (c :: r)))

/-- Reads a name. -/
def readName (s : List Char) : Except Fault (String × Span × List Char) :=
  readNameFrom s true [] s

/-- The flag of a letter. -/
def Flag.ofChar? : Char → Option Flag
  | 'i' => some .ignoreCase
  | 'm' => some .lines
  | 's' => some .dotAll
  | 'U' => some .lazy
  | 'u' => some .unicode
  | 'R' => some .carriageReturn
  | 'x' => some .verbose
  | _ => none

/-- Reads flags up to a colon or parenthesis.  `done` are the flags before, latest first. -/
def readFlagsFrom (done : List (FlagItem × Span)) : List Char →
    Except Fault (List FlagItem × List Char)
  | [] => .error (fault .endInFlags (.point []))
  | c :: r =>
    if c = ':' || c = ')' then
      match done with
      | (.minus, span) :: _ => .error (fault .danglingMinus span)
      | _ => .ok ((done.map (·.1)).reverse, c :: r)
    else
      let span := Span.first (c :: r)
      let item? := if c = '-' then some FlagItem.minus else (Flag.ofChar? c).map .flag
      match item? with
      | none => .error (fault .unknownFlag span)
      | some item =>
        match done.lookup item with
        | some earlier =>
          let slip := if item = .minus then Slip.repeatedMinus else .repeatedFlag
          .error ⟨slip, span, some earlier⟩
        | none => readFlagsFrom ((item, span) :: done) r

/-- The marks after an opening parenthesis that stand for a look ahead or behind. -/
def lookMarks : List (List Char) :=
  ["?=".toList, "?!".toList, "?<=".toList, "?<!".toList]

/-- Reads the start of a group, from the parenthesis on. -/
def readOpening (verbose : Bool) (s : List Char) : Except Fault (Opening × List Char) :=
  let inside := advance verbose s
  match lookMarks.findSome? fun mark => strip? mark inside with
  | some rest => .error (fault .lookAround (.between s rest))
  | none =>
    match (strip? "?P<".toList inside).or (strip? "?<".toList inside) with
    | some named => do
      let (name, span, rest) ← readName named
      return (.remembered (some (name, span)), rest)
    | none =>
      match inside with
      | '?' :: flagged =>
        if flagged.isEmpty then .error (fault .openGroup (.first s))
        else do
          let (items, rest) ← readFlagsFrom [] flagged
          match rest with
          | ')' :: rest =>
            if items.isEmpty then throw (fault .nothingToRepeat (.point inside))
            return (.flags items, rest)
          | _ => return (.plain items, rest.drop 1)
      | _ => .ok (.remembered none, inside)

end Webhook.Pattern
