import Webhook.Number.Shortest

/-!
# JSON values

A value as a program keeps it: the members of an object have distinct names and stand in the
order of those names, so two texts that differ only in the order of members give one value.  A
whole number keeps its exact value when it lies between `-2 ^ 63` and `2 ^ 64 - 1`.  Every other
number is kept in binary floating point.
-/

namespace Webhook.Json

/-- A number of a JSON text. -/
inductive Number where
  /-- A whole number from `-2 ^ 63` to `2 ^ 64 - 1`. -/
  | whole (n : Int)
  /-- Any other number. -/
  | float (x : Binary64)
  deriving DecidableEq, Repr

/-- The text of a number. -/
def Number.render : Number → List Char
  | .whole n => if n < 0 then '-' :: Binary64.digitsOf n.natAbs else Binary64.digitsOf n.natAbs
  | .float x => x.render

/-- A JSON value. -/
inductive Value where
  | null
  | bool (b : Bool)
  | number (n : Number)
  | string (s : String)
  | list (items : List Value)
  | object (members : List (String × Value))
  deriving Repr

/-- Puts a member into members sorted by name.  A member of the same name is replaced. -/
def insertMember {α : Type} (name : String) (v : α) : List (String × α) → List (String × α)
  | [] => [(name, v)]
  | (n, w) :: rest =>
    if name = n then (n, v) :: rest
    else if name < n then (name, v) :: (n, w) :: rest
    else (n, w) :: insertMember name v rest

/-- Members sorted by name.  Of two members of one name the later one stays. -/
def sortMembers {α : Type} (members : List (String × α)) : List (String × α) :=
  members.foldl (fun sorted m => insertMember m.1 m.2 sorted) []

/-- The value of a member of an object. -/
def Value.member? (name : String) : Value → Option Value
  | .object members => members.lookup name
  | _ => none

/-- A value other than null. -/
def Value.present? : Value → Option Value
  | .null => none
  | v => some v

/-- Follows member names from object to object.  Null is as good as no member. -/
def Value.path? : List String → Value → Option Value
  | [], v => v.present?
  | name :: rest, v => (v.member? name).bind (Value.path? rest)

example : sortMembers [("b", 1), ("a", 2), ("b", 3)] = [("a", 2), ("b", 3)] := by decide

end Webhook.Json
