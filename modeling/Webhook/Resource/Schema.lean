import Webhook.Json.Fault
import Webhook.Resource.Instant

/-!
# Schemas of objects

The types of the objects of a cluster, as data.  `Schema.check` tells whether a value has a type,
and if not names the first mismatch in the order of the value's members.

A record is an object whose members may all be absent or null, unless they are required, and which
may have further members of any form.  An object of the cluster also names its version and kind,
and when it does they have to be the right ones.
-/

namespace Webhook.Resource

open Json (Value Number Mismatch)

/-- The type of a value. -/
inductive Schema where
  /-- A text. -/
  | text
  /-- A truth value. -/
  | flag
  /-- A whole number of 32 bits. -/
  | int32
  /-- A whole number of 64 bits. -/
  | int64
  /-- A whole number of 32 bits or a text. -/
  | intOrText
  /-- An amount: a text or any number. -/
  | quantity
  /-- A timestamp. -/
  | instant
  /-- Anything at all. -/
  | anything
  /-- A list. -/
  | list (item : Schema)
  /-- An object with members of one type. -/
  | table (value : Schema)
  /-- A record, with the names of the fields that are required. -/
  | record (name : String) (fields : List (String × Schema)) (required : List String)
  /-- A record that may name its version and kind. -/
  | versioned (apiVersion : String) (name : String) (fields : List (String × Schema))

/-- The mismatch of a value that is of the wrong type. -/
def wrongType (expected : String) (v : Value) : Except Mismatch Unit :=
  .error (.wrongType v.found expected)

/-- Checks a whole number against a range. -/
def checkWhole (name expected : String) (low high : Int) : Value → Except Mismatch Unit
  | .number (.whole n) =>
    if low ≤ n && n ≤ high then .ok ()
    else .error (.wrongValue (.number (.whole n)) expected)
  | v => wrongType name v

/-- Checks a text against the only one that is right. -/
def checkTag (expected : String) : Value → Except Mismatch Unit
  | .string s => if s = expected then .ok () else .error (.wrongValue (.string s) expected)
  | v => wrongType "a string" v

/-- Refuses an object that lacks a required field. -/
def checkRequired (members : List (String × Value)) : List String → Except Mismatch Unit
  | [] => .ok ()
  | name :: rest =>
    match (members.lookup name).bind Value.present? with
    | some _ => checkRequired members rest
    | none => .error (.missingField name)

mutual

/-- Whether a value has a type. -/
def Schema.check : Schema → Value → Except Mismatch Unit
  | .text, .string _ => .ok ()
  | .text, v => wrongType "a string" v
  | .flag, .bool _ => .ok ()
  | .flag, v => wrongType "a boolean" v
  | .int32, v => checkWhole "i32" "i32" (-0x80000000) 0x7FFFFFFF v
  | .int64, v => checkWhole "i64" "i64" (-0x8000000000000000) 0x7FFFFFFFFFFFFFFF v
  | .intOrText, .string _ => .ok ()
  | .intOrText, v => checkWhole "IntOrString" "a 32-bit integer" (-0x80000000) 0x7FFFFFFF v
  | .quantity, .string _ => .ok ()
  | .quantity, .number _ => .ok ()
  | .quantity, v => wrongType "Quantity" v
  | .instant, .string s =>
    match Instant.parse s with
    | .ok _ => .ok ()
    | .error p => .error (.custom p.message)
  | .instant, v => wrongType "a timestamp string" v
  | .anything, _ => .ok ()
  | .list item, .list vs => vs.forM item.check
  | .list _, v => wrongType "a sequence" v
  | .table value, .object ms => ms.forM fun m => value.check m.2
  | .table _, v => wrongType "a map" v
  | .record _ fields required, .object ms => do
    ms.forM fun m => checkField fields m.1 m.2
    checkRequired ms required
  | .record name _ _, v => wrongType name v
  | .versioned apiVersion name fields, .object ms =>
    ms.forM fun m =>
      if m.1 = "apiVersion" then checkTag apiVersion m.2
      else if m.1 = "kind" then checkTag name m.2
      else checkField fields m.1 m.2
  | .versioned _ name _, v => wrongType name v
termination_by structural s => s

/-- Whether a member has the type of the field of its name, if there is one.  Null is as good as
no member. -/
def checkField : List (String × Schema) → String → Value → Except Mismatch Unit
  | [], _, _ => .ok ()
  | f :: fields, name, v => if f.1 = name then checkNamed f v else checkField fields name v
termination_by structural fields => fields

/-- Whether a member has the type of a field. -/
def checkNamed : String × Schema → Value → Except Mismatch Unit
  | (_, s), v =>
    match v with
    | .null => .ok ()
    | v => s.check v
termination_by structural f => f

end

/-- A record without required fields. -/
def record (name : String) (fields : List (String × Schema)) : Schema := .record name fields []

/-- A list of texts. -/
def texts : Schema := .list .text

/-- A table of texts. -/
def textTable : Schema := .table .text

/-- A table of amounts. -/
def quantities : Schema := .table .quantity

end Webhook.Resource
