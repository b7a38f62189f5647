import Webhook.Json.Token

/-!
# The tree of a JSON text

The tokens of a text are put together to a tree of lists, objects and scalars, each with the
offsets that faults are reported at.  A text that breaks the grammar has a tree too: it ends at
the place where the text breaks, and every list and object still open there says so.  Whether
that place matters, and under which name the fault is reported, depends on how far and for what
the tree is read.  One who passes over a value reports some breaks under another name than one
who reads it, so a `Break` keeps what was due and what was found instead of a slip.

The tree is built by one pass over the tokens with a stack of the lists and objects that are open.
-/

namespace Webhook.Json

/-- What is due at a place of a text. -/
inductive Due where
  /-- A value, at the start of the text or after a colon. -/
  | value
  /-- The first item of a list, or its end. -/
  | firstItem
  /-- An item, after a comma. -/
  | nextItem
  /-- The name of the first member of an object, or its end. -/
  | firstName
  /-- The name of a member, after a comma. -/
  | nextName
  /-- The colon after a name. -/
  | colon
  /-- A comma or the end, after an item. -/
  | listSeparator
  /-- A comma or the end, after a member. -/
  | objectSeparator
  deriving DecidableEq, Repr

/-- What is found at a place where something else is due. -/
inductive Obstacle where
  /-- The end of the text. -/
  | finish
  /-- The end of a list. -/
  | closeList
  /-- The end of an object. -/
  | closeObject
  /-- A comma. -/
  | comma
  /-- Anything else. -/
  | other
  deriving DecidableEq, Repr

/-- The place where a text stops being JSON. -/
inductive Break where
  /-- Something is due and something else is found at the offset.  The token after that one
  starts at `beyond`. -/
  | misplaced (due : Due) (found : Obstacle) (offset : Nat) (beyond : Nat)
  /-- A scalar breaks off, with the fault noticed by one who passes over it. -/
  | scalar (fault : Fault)
  deriving DecidableEq, Repr

/-- The offset reported for an obstacle: just after its first byte, or the end of the text. -/
def Obstacle.report (found : Obstacle) (offset : Nat) : Nat :=
  if found = .finish then offset else offset + 1

/-- The slip noticed by one who reads the value around the place. -/
def Due.slip (found : Obstacle) : Due → Slip
  | .value => if found = .finish then .endInValue else .missingValue
  | .firstItem => if found = .finish then .endInList else .missingValue
  | .nextItem =>
    if found = .finish then .endInValue
    else if found = .closeList then .trailingComma
    else .missingValue
  | .firstName => if found = .finish then .endInObject else .nameNotString
  | .nextName =>
    if found = .finish then .endInValue
    else if found = .closeObject then .trailingComma
    else .nameNotString
  | .colon => if found = .finish then .endInObject else .missingColon
  | .listSeparator => if found = .finish then .endInList else .missingListComma
  | .objectSeparator => if found = .finish then .endInObject else .missingObjectComma

/-- The slip noticed by one who passes over the value around the place. -/
def Due.skipSlip (found : Obstacle) : Due → Slip
  | .nextItem => if found = .finish then .endInValue else .missingValue
  | .nextName => if found = .finish then .endInObject else .nameNotString
  | due => due.slip found

/-- The fault noticed by one who reads the value around the place. -/
def Break.fault : Break → Fault
  | .misplaced due found offset _ => slipAt (due.slip found) (found.report offset)
  | .scalar fault => fault

/-- The fault noticed by one who passes over the value around the place. -/
def Break.skipFault : Break → Fault
  | .misplaced due found offset _ => slipAt (due.skipSlip found) (found.report offset)
  | .scalar fault => fault

/-- How a list or object ends. -/
inductive Ending where
  /-- Properly, before this offset. -/
  | closed (stop : Nat)
  /-- The text breaks before its end. -/
  | broken (b : Break)
  deriving DecidableEq, Repr

mutual

/-- A piece of a JSON text that stands for a value. -/
inductive Tree where
  /-- A scalar that starts at an offset. -/
  | scalar (start : Nat) (s : Scalar)
  /-- A list. -/
  | list (start : Nat) (items : List Tree) (ending : Ending)
  /-- An object. -/
  | object (start : Nat) (members : List Member) (ending : Ending)
  /-- No value: the text breaks here. -/
  | broken (b : Break)

/-- A member of an object.  A name that is not a string breaks the text, and then the value is
broken. -/
structure Member where
  /-- What stands in the place of the name. -/
  name : Tree
  /-- The offset of the token after the name. -/
  afterName : Nat
  /-- The value. -/
  value : Tree
  /-- The offset of the token after the value. -/
  afterValue : Nat

end

/-- The fault noticed by one who passes over a tree, if the text breaks inside it. -/
def Tree.skipFault? : Tree → Option Fault
  | .scalar _ s => s.skipFault?
  | .list _ _ (.broken b) | .object _ _ (.broken b) | .broken b => some b.skipFault
  | .list _ _ (.closed _) | .object _ _ (.closed _) => none

/-- A whole text: its tree, and the offset of what follows the value if something does. -/
structure Document where
  /-- The value. -/
  root : Tree
  /-- Where something follows the value. -/
  trailing : Option Nat

/-! ## Building the tree -/

/-- A list or object that is open, with its items or members so far, latest first. -/
inductive Frame where
  /-- An open list. -/
  | list (start : Nat) (items : List Tree)
  /-- An open object in which the value after a name is due. -/
  | object (start : Nat) (members : List Member) (name : Tree) (afterName : Nat)

/-- Where the pass stands: what is due and what is open, innermost first. -/
inductive Builder where
  /-- A value, for one of three reasons. -/
  | atValue (due : Due) (stack : List Frame)
  /-- The name of a member of the object that starts at the offset. -/
  | atName (due : Due) (start : Nat) (members : List Member) (stack : List Frame)
  /-- The colon after a name. -/
  | atColon (start : Nat) (members : List Member) (name : Tree) (stack : List Frame)
  /-- What follows a value. -/
  | afterValue (value : Tree) (stack : List Frame)

/-- The tree of a text that breaks, from its innermost piece out. -/
def unwind (b : Break) (t : Tree) : List Frame → Tree
  | [] => t
  | .list start items :: stack => unwind b (.list start (t :: items).reverse (.broken b)) stack
  | .object start members name afterName :: stack =>
    unwind b
      (.object start (⟨name, afterName, t, afterName⟩ :: members).reverse (.broken b)) stack

/-- The obstacle a token is. -/
def Token.obstacle : Token → Obstacle
  | .finish _ => .finish
  | .closeList _ => .closeList
  | .closeObject _ => .closeObject
  | .comma _ => .comma
  | _ => .other

/-- The tree of a token that stands where a name is due: what a reader finds there. -/
def Token.asName? (b : Break) : Token → Option Tree
  | .scalar start s => some (.scalar start s)
  | .openList start => some (.list start [] (.broken b))
  | .openObject start => some (.object start [] (.broken b))
  | _ => none

/-- The tree of a text that breaks at a token where something else is due. -/
def Builder.broken (b : Break) (t : Token) : Builder → Tree
  | .atValue _ stack => unwind b (.broken b) stack
  | .atName _ start members stack =>
    let members : List Member := match t.asName? b with
      | some name => ⟨name, t.start, .broken b, t.start⟩ :: members
      | none => members
    unwind b (.object start members.reverse (.broken b)) stack
  | .atColon start members name stack =>
    unwind b
      (.object start (⟨name, t.start, .broken b, t.start⟩ :: members).reverse (.broken b)) stack
  | .afterValue value [] => value
  | .afterValue value (.list start items :: stack) =>
    unwind b (.list start (value :: items).reverse (.broken b)) stack
  | .afterValue value (.object start members name afterName :: stack) =>
    unwind b
      (.object start (⟨name, afterName, value, t.start⟩ :: members).reverse (.broken b)) stack

/-- What is due. -/
def Builder.due : Builder → Due
  | .atValue due _ | .atName due _ _ _ => due
  | .atColon _ _ _ _ => .colon
  | .afterValue _ (.list _ _ :: _) => .listSeparator
  | .afterValue _ _ => .objectSeparator

/-- The pass after a token, or nothing when the token cannot stand here. -/
def Builder.step? (t : Token) : Builder → Option Builder
  | .atValue due stack =>
    match t with
    | .scalar start s => if s.intact then some (.afterValue (.scalar start s) stack) else none
    | .openList start => some (.atValue .firstItem (.list start [] :: stack))
    | .openObject start => some (.atName .firstName start [] stack)
    | .closeList stop =>
      match due, stack with
      | .firstItem, .list start items :: stack =>
        some (.afterValue (.list start items.reverse (.closed (stop + 1))) stack)
      | _, _ => none
    | _ => none
  | .atName due start members stack =>
    match t with
    | .scalar at' (.string raw (.closed stop)) =>
      some (.atColon start members (.scalar at' (.string raw (.closed stop))) stack)
    | .closeObject stop =>
      if due = .firstName then
        some (.afterValue (.object start members.reverse (.closed (stop + 1))) stack)
      else none
    | _ => none
  | .atColon start members name stack =>
    match t with
    | .colon at' => some (.atValue .value (.object start members name at' :: stack))
    | _ => none
  | .afterValue value (.list start items :: stack) =>
    match t with
    | .comma _ => some (.atValue .nextItem (.list start (value :: items) :: stack))
    | .closeList stop =>
      some (.afterValue (.list start (value :: items).reverse (.closed (stop + 1))) stack)
    | _ => none
  | .afterValue value (.object start members name afterName :: stack) =>
    match t with
    | .comma at' =>
      some (.atName .nextName start (⟨name, afterName, value, at'⟩ :: members) stack)
    | .closeObject stop =>
      some (.afterValue
        (.object start (⟨name, afterName, value, stop⟩ :: members).reverse (.closed (stop + 1)))
        stack)
    | _ => none
  | .afterValue _ [] => none

/-- The document of a text that breaks at a token, which the given tokens follow. -/
def Builder.breakAt (p : Builder) (t : Token) (following : List Token) : Document :=
  let beyond := match following with
    | next :: _ => next.start
    | [] => t.start
  match p, t with
  | .afterValue value [], .finish _ => ⟨value, none⟩
  | .afterValue value [], t => ⟨value, some t.start⟩
  | .atValue _ stack, .scalar start s =>
    match s.skipFault? with
    | some fault => ⟨unwind (.scalar fault) (.scalar start s) stack, none⟩
    | none => ⟨p.broken (.misplaced p.due t.obstacle t.start beyond) t, none⟩
  | .atName .., .scalar start (.string raw (.cut slip offset)) =>
    ⟨p.broken (.scalar (slipAt slip offset)) (.scalar start (.string raw (.cut slip offset))), none⟩
  | _, _ => ⟨p.broken (.misplaced p.due t.obstacle t.start beyond) t, none⟩

/-- The document of the rest of the tokens. -/
def Builder.run (p : Builder) : List Token → Document
  | [] => ⟨p.broken (.misplaced p.due .finish 0 0) (.finish 0), none⟩
  | t :: rest =>
    match p.step? t with
    | some q => q.run rest
    | none => p.breakAt t rest

/-- The document of a text. -/
def document (text : Bytes) : Document := (Builder.atValue .value []).run (tokens text)

end Webhook.Json
