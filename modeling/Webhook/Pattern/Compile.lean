import Webhook.Pattern.Meaning
import Webhook.Pattern.Size

/-!
# Patterns for whole values

A pattern for values is put between the start and the end of the text, in a group, and then looked
for anywhere in a value.
-/

namespace Webhook

/-- A pattern that has been accepted. -/
structure Pattern where
  /-- Its expression. -/
  regex : Pattern.Regex
  deriving DecidableEq, Repr

namespace Pattern

/-- Why a pattern is refused. -/
inductive Error where
  /-- Something is wrong with it. -/
  | fault (text : String) (f : Fault)
  /-- It is too large. -/
  | tooLarge
  deriving DecidableEq, Repr

/-- The words for a refusal. -/
def Error.message : Error → String
  | fault text f => f.message text
  | tooLarge =>
    "Compiled regex exceeds size limit of " ++ String.ofList (decimal sizeLimit) ++ " bytes."

/-- The pattern of a text. -/
def compile (text : String) : Except Error Pattern :=
  match parse text with
  | .error f => .error (.fault text f)
  | .ok n =>
    match n.toRegex with
    | .error f => .error (.fault text f)
    | .ok r => if r.size > sizeLimit then .error .tooLarge else .ok ⟨r⟩

/-- Whether a pattern is found anywhere in a value. -/
def isFoundIn (p : Pattern) (value : String) : Bool := p.regex.search value.toList

/-- A pattern between the start and the end of the text. -/
def anchored (text : String) : String := "^(?:" ++ text ++ ")$"

end Pattern
end Webhook
