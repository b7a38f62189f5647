import Webhook.Json.Scalar
import Webhook.Json.Shape

/-!
# Reading data of a shape

`Shape.read` reads the tree of a text as data of a shape, and stops at the first fault in the
order of the text.  A part of the text that the shape has no use for is passed over: it has to
follow the grammar, but its numbers may be too large and its strings need not be text.

A fault is noticed at the offset reached by then.  A value of the wrong type is noticed at the
end of a scalar and at the start of a list or object.  A missing field is noticed at the end of
its record, a field that is there twice after its second name, and a list that is too short for
its record at its end.
-/

namespace Webhook.Json

/-- The number of lists and objects that may be nested. -/
def nestingLimit : Nat := 127

/-- The offset at which a tree starts. -/
def Tree.start : Tree → Nat
  | .scalar start _ | .list start _ _ | .object start _ _ => start
  | .broken (.misplaced _ _ offset _) => offset
  | .broken (.scalar fault) => fault.offset

/-- The fault of a tree that is not what is expected. -/
def Tree.mismatch (expected : String) : Tree → Fault
  | .scalar start s =>
    match s.read start with
    | .ok found => mismatchAt (.wrongType found expected) (s.stop start)
    | .error f => f
  | .list start _ _ => mismatchAt (.wrongType .list expected) start
  | .object start _ _ => mismatchAt (.wrongType .object expected) start
  | .broken b => b.fault

/-- The fault of a list or object nested too deeply. -/
def tooDeep (start : Nat) : Fault := slipAt .tooDeep (start + 1)

/-- Whether a tree is the word for no value. -/
def Tree.isNull : Tree → Bool
  | .scalar _ s => s.isNull
  | _ => false

/-- Reads a text. -/
def Tree.readText (expected : String) : Tree → Except Fault String
  | .scalar start (.string raw closing) => readString start raw closing
  | t => .error (t.mismatch expected)

/-- Reads a truth value. -/
def Tree.readFlag : Tree → Except Fault Bool
  | .scalar _ (.word .yes) => .ok true
  | .scalar _ (.word .no) => .ok false
  | t => .error (t.mismatch "a boolean")

/-- Reads a natural below `2 ^ 16`. -/
def Tree.readShort : Tree → Except Fault (Fin 0x10000)
  | .scalar start (.number digits) =>
    match readNumber start digits with
    | .error f => .error f
    | .ok (.float x) =>
      .error (mismatchAt (.wrongType (.number (.float x)) "u16") (start + digits.length))
    | .ok (.whole n) =>
      if h : n.toNat < 0x10000 ∧ 0 ≤ n then .ok ⟨n.toNat, h.1⟩
      else .error (mismatchAt (.wrongValue (.number (.whole n)) "u16") (start + digits.length))
  | t => .error (t.mismatch "u16")

/-- Reads the name of a member. -/
def Member.readName (m : Member) : Except Fault String :=
  match m.name, m.value with
  | .scalar start (.string raw closing), _ => readString start raw closing
  | _, .broken b => .error b.fault
  | t, _ => .error (slipAt .nameNotString (t.start + 1))

/-! ## Values -/

mutual

/-- Reads any value, in which so many more lists and objects may be nested. -/
def Tree.readValue (depth : Nat) : Tree → Except Fault Value
  | .scalar start s =>
    match s.read start with
    | .error f => .error f
    | .ok .null => .ok .null
    | .ok (.bool b) => .ok (.bool b)
    | .ok (.number n) => .ok (.number n)
    | .ok (.string s) => .ok (.string s)
    | .ok _ => .ok .null
  | .list start items ending =>
    match depth with
    | 0 => .error (tooDeep start)
    | d + 1 =>
      match readItemValues d [] items, ending with
      | .error f, _ => .error f
      | .ok _, .broken b => .error b.fault
      | .ok vs, .closed _ => .ok (.list vs)
  | .object start members ending =>
    match depth with
    | 0 => .error (tooDeep start)
    | d + 1 =>
      match readMemberValues d [] members, ending with
      | .error f, _ => .error f
      | .ok _, .broken b => .error b.fault
      | .ok ms, .closed _ => .ok (.object (sortMembers ms))
  | .broken b => .error b.fault
termination_by structural t => t

/-- Reads the items of a list, after those already read, which stand latest first. -/
def readItemValues (depth : Nat) (done : List Value) : List Tree → Except Fault (List Value)
  | [] => .ok done.reverse
  | t :: ts =>
    match t.readValue depth with
    | .error f => .error f
    | .ok v => readItemValues depth (v :: done) ts
termination_by structural ts => ts

/-- Reads the members of an object, after those already read, which stand latest first. -/
def readMemberValues (depth : Nat) (done : List (String × Value)) :
    List Member → Except Fault (List (String × Value))
  | [] => .ok done.reverse
  | m :: ms =>
    match readMemberValue depth m with
    | .error f => .error f
    | .ok e => readMemberValues depth (e :: done) ms
termination_by structural ms => ms

/-- Reads a member of an object. -/
def readMemberValue (depth : Nat) : Member → Except Fault (String × Value)
  | ⟨name, afterName, value, afterValue⟩ =>
    match (Member.mk name afterName value afterValue).readName with
    | .error f => .error f
    | .ok name =>
      match value.readValue depth with
      | .error f => .error f
      | .ok v => .ok (name, v)
termination_by structural m => m

end

/-! ## Words -/

/-- Reads one of several words, whose place in the list is the result. -/
def readWord (words : List String) (word : String) (stop : Nat) : Except Fault (Fin words.length) :=
  match words.finIdxOf? word with
  | some i => .ok i
  | none => .error (mismatchAt (.unknownVariant word words) stop)

/-- Reads what stands in the place of a name as one of several words. -/
def Tree.readVariant (words : List String) : Tree → Except Fault (Fin words.length)
  | .scalar start (.string raw closing) =>
    match readString start raw closing with
    | .error f => .error f
    | .ok word => readWord words word ((Scalar.string raw closing).stop start)
  | t => .error (t.mismatch "variant identifier")

/-- Reads the end of an object of one member, after that member. -/
def Member.readEnd (m : Member) (more : List Member) : Ending → Except Fault Unit
  | .closed _ => if more.isEmpty then .ok () else .error (slipAt .missingValue m.afterValue)
  | .broken (.misplaced .objectSeparator .finish offset _) =>
    .error (if more.isEmpty then slipAt .endInObject offset else slipAt .missingValue m.afterValue)
  | .broken _ => .error (slipAt .missingValue m.afterValue)

/-- Reads one of several words.  An object whose one member has the word for its name and null
for its value stands for the word as well. -/
def Tree.readChoice (words : List String) (depth : Nat) : Tree → Except Fault (Fin words.length)
  | .broken b => .error b.fault
  | .scalar start (.string raw closing) =>
    (Tree.scalar start (.string raw closing)).readVariant words
  | .scalar start _ => .error (slipAt .missingValue (start + 1))
  | .list start _ _ => .error (slipAt .missingValue (start + 1))
  | .object start members ending =>
    match depth, members, ending with
    | 0, _, _ => .error (tooDeep start)
    | _, [], .closed stop => .error (slipAt .missingValue stop)
    | _, [], .broken (.misplaced _ found offset _) =>
      .error (slipAt (if found = .finish then .endInValue else .missingValue)
        (found.report offset))
    | _, [], .broken (.scalar fault) => .error fault
    | _, m :: more, ending =>
      match m.name.readVariant words with
      | .error f => .error f
      | .ok i =>
        if m.value.isNull then (m.readEnd more ending).map fun _ => i
        else .error (m.value.mismatch "unit")

/-! ## Records -/

/-- The fields of a record that have been read so far. -/
def Fields.Slots : Fields → Type
  | .nil => Unit
  | .cons _ _ s rest => Option s.Val × rest.Slots

/-- No field has been read. -/
def Fields.noSlots : (fields : Fields) → fields.Slots
  | .nil => ()
  | .cons _ _ _ rest => (none, rest.noSlots)

/-- The data of a record of which the last field has been read.  A field that has not been read
takes its default.  A fault is noticed at the offset. -/
def Fields.complete (stop : Nat) : (fields : Fields) → fields.Slots → Except Fault fields.Val
  | .nil, _ => .ok ()
  | .cons name required s rest, (slot, slots) =>
    match slot, (if required then none else s.default?) with
    | some v, _ => (rest.complete stop slots).map fun vs => (v, vs)
    | none, some v => (rest.complete stop slots).map fun vs => (v, vs)
    | none, none => .error (mismatchAt (.missingField name) stop)

/-- The name of a record and the number of its fields, as they stand in messages. -/
def recordTitle (title : String) (count : Nat) : String :=
  "struct " ++ title ++ " with " ++ String.ofList (Binary64.digitsOf count)
    ++ (if count = 1 then " element" else " elements")

/-- Reads the end of a list that stands for a record, after the items for all fields. -/
def readListEnd : List Tree → Ending → Except Fault Unit
  | [], .closed _ => .ok ()
  | [], .broken (.misplaced _ found offset _) =>
    .error (slipAt (if found = .finish then .endInList else .trailingText) (found.report offset))
  | [], .broken (.scalar fault) => .error fault
  | .broken (.misplaced _ found offset _) :: _, _ =>
    .error (slipAt (if found = .closeList then .trailingComma else .trailingText)
      (found.report offset))
  | t :: _, _ => .error (slipAt .trailingText (t.start + 1))

/-- The offset at which a list is refused whose items are not looked at: past the bracket and the
blanks after it, and past the end or a comma that follows. -/
def listRefusedAt (items : List Tree) (ending : Ending) : Nat :=
  match items, ending with
  | .broken (.misplaced _ .comma _ beyond) :: _, _ => beyond
  | t :: _, _ => t.start
  | [], .closed stop => stop
  | [], .broken (.misplaced _ _ offset _) => offset
  | [], .broken (.scalar fault) => fault.offset

/-- The offset at which a field is refused that is there twice. -/
def Member.refusedAt (m : Member) : Nat :=
  match m.value with
  | .broken (.misplaced .colon .closeObject _ _) => m.afterName + 1
  | _ => m.afterName

/-- Passes over the value of a member. -/
def Member.skip (m : Member) : Except Fault Unit :=
  match m.value.skipFault? with
  | some f => .error f
  | none => .ok ()

mutual

/-- Reads data of a shape, in which so many lists and objects may be nested. -/
def Shape.read : (s : Shape) → (depth : Nat) → Tree → Except Fault s.Val
  | .text, _, t => t.readText "a string"
  | .flag, _, t => t.readFlag
  | .short, _, t => t.readShort
  | .any, depth, t => t.readValue depth
  | .choice words, depth, t => t.readChoice words depth
  | .optional s, depth, t => if t.isNull then .ok none else (s.read depth t).map some
  | .list s, depth, t =>
    match depth, t with
    | 0, .list start _ _ => .error (tooDeep start)
    | d + 1, .list _ items ending =>
      match items.mapM (s.read d), ending with
      | .error f, _ => .error f
      | .ok _, .broken b => .error b.fault
      | .ok vs, .closed _ => .ok vs
    | _, t => .error (t.mismatch "a sequence")
  | .table s, depth, t =>
    match depth, t with
    | 0, .object start _ _ => .error (tooDeep start)
    | d + 1, .object _ members ending =>
      match members.mapM (fun m => do return (← m.readName, ← s.read d m.value)), ending with
      | .error f, _ => .error f
      | .ok _, .broken b => .error b.fault
      | .ok es, .closed _ => .ok (sortMembers es)
    | _, t => .error (t.mismatch "a map")
  | .record title fields, depth, t =>
    match depth, t with
    | 0, .list start _ _ | 0, .object start _ _ => .error (tooDeep start)
    | d + 1, .list _ items ending =>
      fields.readItems d (recordTitle title fields.count) ending 0 items
    | d + 1, .object _ members ending =>
      match members.foldlM (fun slots m => do
          let name ← m.readName
          match fields.store d true name m slots with
          | some result => result
          | none => do m.skip; return slots) fields.noSlots, ending with
      | .error f, _ => .error f
      | .ok _, .broken b => .error b.fault
      | .ok slots, .closed stop => fields.complete stop slots
    | _, t => .error (t.mismatch ("struct " ++ title))
  | .looseRecord title fields, depth, t =>
    match depth, t with
    | 0, .list start _ _ | 0, .object start _ _ => .error (tooDeep start)
    | _ + 1, .list _ items ending =>
      .error (mismatchAt (.wrongType .list title) (listRefusedAt items ending))
    | d + 1, .object _ members ending =>
      match members.foldlM (fun slots m => do
          let name ← m.readName
          match fields.store d false name m slots with
          | some result => result
          | none => do m.skip; return slots) fields.noSlots, ending with
      | .error f, _ => .error f
      | .ok _, .broken b => .error b.fault
      | .ok slots, .closed stop => fields.complete stop slots
    | _, t => .error (t.mismatch title)
termination_by structural s => s

/-- Reads the value of a member into the field of that name, if there is one.  When fields must
not be there twice, a field that has been read is refused before its value is looked at. -/
def Fields.store : (fields : Fields) → (depth : Nat) → (once : Bool) → (name : String) →
    (m : Member) → fields.Slots → Option (Except Fault fields.Slots)
  | .nil, _, _, _, _, _ => none
  | .cons field _ s rest, depth, once, name, m, (slot, slots) =>
    if name = field then
      if once && slot.isSome then
        some (.error (mismatchAt (.duplicateField field) m.refusedAt))
      else some ((s.read depth m.value).map fun v => (some v, slots))
    else (rest.store depth once name m slots).map fun r => r.map fun slots => (slot, slots)
termination_by structural fields => fields

/-- Reads the items of a list as the fields of a record, when so many have been read.  Fields at
the end that have a default may be left out. -/
def Fields.readItems : (fields : Fields) → (depth : Nat) → (expected : String) →
    (ending : Ending) → (done : Nat) → List Tree → Except Fault fields.Val
  | .nil, _, _, ending, _, items => readListEnd items ending
  | .cons _ _ s rest, depth, expected, ending, done, t :: ts =>
    match s.read depth t with
    | .error f => .error f
    | .ok v => (rest.readItems depth expected ending (done + 1) ts).map fun vs => (v, vs)
  | .cons _ required s rest, depth, expected, ending, done, [] =>
    match ending, (if required then none else s.default?) with
    | .broken b, _ => .error b.fault
    | .closed _, some v =>
      (rest.readItems depth expected ending (done + 1) []).map fun vs => (v, vs)
    | .closed stop, none => .error (mismatchAt (.wrongLength done expected) stop)
termination_by structural fields => fields

end

/-- Reads a text as data of a shape. -/
def Shape.readText (s : Shape) (text : Bytes) : Except Fault s.Val :=
  let doc := document text
  match s.read nestingLimit doc.root, doc.trailing with
  | .error f, _ => .error f
  | .ok _, some offset => .error (slipAt .trailingText (offset + 1))
  | .ok v, none => .ok v

end Webhook.Json
