import Webhook.Json.Printer

/-!
# Shapes of data

A `Shape` describes data that is kept as JSON: texts, truth values, optional values, lists, tables
and records.  `Shape.Val` is the type of the data, and `Shape.print` writes it.  Reading is in
`Webhook.Json.Reader`.

A record is an object whose members have fixed names.  Its data is a tuple, one component for each
field, in the order in which the fields are written.  A field that may be absent has a default,
and an absent optional value is not written.
-/

namespace Webhook.Json

mutual

/-- The form of a piece of data. -/
inductive Shape where
  /-- A text. -/
  | text
  /-- A truth value. -/
  | flag
  /-- A natural below `2 ^ 16`. -/
  | short
  /-- Any value. -/
  | any
  /-- One of several words. -/
  | choice (words : List String)
  /-- A value that may be null. -/
  | optional (s : Shape)
  /-- A list of values of one shape. -/
  | list (s : Shape)
  /-- An object whose members have any names and values of one shape. -/
  | table (s : Shape)
  /-- A record, which a list of its fields in order stands for as well.  A field that is there
  twice is refused. -/
  | record (title : String) (fields : Fields)
  /-- A record that only an object stands for.  Of a field that is there twice, the last one
  counts. -/
  | looseRecord (title : String) (fields : Fields)

/-- The fields of a record. -/
inductive Fields where
  /-- No field. -/
  | nil
  /-- A field, which is required or may be absent, and the fields after it. -/
  | cons (name : String) (required : Bool) (s : Shape) (rest : Fields)

end

mutual

/-- The data of a shape. -/
def Shape.Val : Shape → Type
  | .text => String
  | .flag => Bool
  | .short => Fin 0x10000
  | .any => Value
  | .choice words => Fin words.length
  | .optional s => Option s.Val
  | .list s => List s.Val
  | .table s => List (String × s.Val)
  | .record _ fields => fields.Val
  | .looseRecord _ fields => fields.Val
termination_by structural s => s

/-- The data of the fields of a record. -/
def Fields.Val : Fields → Type
  | .nil => Unit
  | .cons _ _ s rest => s.Val × rest.Val
termination_by structural fields => fields

end

/-- The value of a field that is absent, for the shapes that have one: no value and no text. -/
def Shape.default? : (s : Shape) → Option s.Val
  | .text => some ""
  | .optional _ => some none
  | _ => none

/-- The names of the fields. -/
def Fields.names : Fields → List String
  | .nil => []
  | .cons name _ _ rest => name :: rest.names

/-- The number of fields. -/
def Fields.count (fields : Fields) : Nat := fields.names.length

/-- Whether a value is an absent optional one. -/
def Shape.isAbsent : (s : Shape) → s.Val → Bool
  | .optional _, none => true
  | _, _ => false

/-- A text in quotation marks for each entry of a table, in the order of the table. -/
def printTable {α : Type} (print : α → List Char) (entries : List (String × α)) : List Char :=
  printObject (entries.map fun e => printMember e.1 (print e.2))

mutual

/-- The text of a piece of data. -/
def Shape.print : (s : Shape) → s.Val → List Char
  | .text, s => quote s
  | .flag, b => printBool b
  | .short, n => (Number.whole (n.val : Int)).render
  | .any, v => v.print
  | .choice words, i => quote (words.get i)
  | .optional _, none => printNull
  | .optional s, some v => s.print v
  | .list s, vs => printList (vs.map s.print)
  | .table s, es => printTable s.print es
  | .record _ fields, v => printObject (fields.print v)
  | .looseRecord _ fields, v => printObject (fields.print v)
termination_by structural s => s

/-- The texts of the fields of a record that are not absent. -/
def Fields.print : (fields : Fields) → fields.Val → List (List Char)
  | .nil, _ => []
  | .cons name _ s rest, (v, vs) =>
    if s.isAbsent v then rest.print vs else printMember name (s.print v) :: rest.print vs
termination_by structural fields => fields

end

end Webhook.Json
