import Webhook.Resource.Schema
import Webhook.Verdict

/-!
# The object of a request

A policy that cares about the object reads it as the type it expects.  The message about an
object of another type names the kind that the request says it has.
-/

namespace Webhook

open Resource (Schema)

/-- The object of a request as a value of a type, if there is an object. -/
def Request.readObject (request : Request) (s : Schema) :
    Except Failure (Option Json.Value) :=
  match request.object with
  | none => .ok none
  | some v =>
    match s.check v with
    | .ok () => .ok (some v)
    | .error m => .error (.undecodable request.kind.kind m)

/-- The texts of a table inside an object. -/
def Json.Value.textsAt (path : List String) (v : Value) : List (String × String) :=
  match v.path? path with
  | some (.object members) =>
    members.filterMap fun m =>
      match m.2 with
      | .string s => some (m.1, s)
      | _ => none
  | _ => []

/-- A text inside an object. -/
def Json.Value.textAt? (path : List String) (v : Value) : Option String :=
  match v.path? path with
  | some (.string s) => some s
  | _ => none

end Webhook
