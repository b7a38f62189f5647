import Webhook.Pattern.Compile
import Webhook.Policy.KindBan
import Webhook.Policy.LoadBalancer
import Webhook.Policy.PodAnnotations

/-!
# Setting up policies

Policies are set up from text: the names of cloud providers, the names of kinds, and requirements
on annotations.  A requirement is a key alone, or a key, an equals sign and a pattern for the whole
value.
-/

namespace Webhook

/-- What can be wrong with the settings of a policy. -/
inductive ConfigError where
  /-- There is no such cloud provider. -/
  | unknownProvider (text : String)
  /-- The name of a kind is blank. -/
  | emptyKind
  /-- A pattern for values is refused. -/
  | badPattern (pattern : String) (error : Pattern.Error)
  /-- A requirement has no key. -/
  | badRequirement (text : String)
  deriving DecidableEq, Repr

/-- The words for what lies behind, where something does. -/
def ConfigError.cause? : ConfigError → Option String
  | badPattern _ error => some error.message
  | _ => none

/-- The words for what is wrong. -/
def ConfigError.message : ConfigError → String
  | unknownProvider text =>
    "unknown cloud provider " ++ Text.quoted text ++ ", expected one of: "
      ++ ", ".intercalate (CloudProvider.all.map CloudProvider.name)
  | emptyKind => "resource kind must not be empty"
  | badPattern pattern error =>
    "invalid annotation pattern " ++ Text.quoted pattern ++ ": " ++ error.message
  | badRequirement text =>
    "invalid annotation requirement " ++ Text.quoted text ++ ", expected KEY or KEY=REGEX"

/-- The cloud provider of a name. -/
def CloudProvider.parse (text : String) : Except ConfigError CloudProvider :=
  match ofName? text with
  | some p => .ok p
  | none => .error (.unknownProvider text)

/-- The ban on a kind. -/
def KindBan.ofKind (kind : String) (exempt : Exemption) : Except ConfigError KindBan :=
  match ofKind? kind exempt with
  | some ban => .ok ban
  | none => .error .emptyKind

/-- The test that a pattern matches the whole value. -/
def Validator.matching (pattern : String) : Except ConfigError Validator :=
  match Pattern.compile (Pattern.anchored pattern) with
  | .ok p => .ok p.isFoundIn
  | .error e => .error (.badPattern pattern e)

/-- Splits a text at its first equals sign. -/
def splitAtEquals (cs : List Char) : List Char × Option (List Char) :=
  match cs.dropWhile (· != '=') with
  | [] => (cs, none)
  | _ :: rest => (cs.takeWhile (· != '='), some rest)

/-- The key of a requirement and the test of its value. -/
def parseRequirement (text : String) : Except ConfigError (String × Validator) := do
  let (key, pattern) := splitAtEquals text.toList
  let accepts ← match pattern with
    | none => pure Validator.any
    | some p => Validator.matching (String.ofList p)
  let key := String.ofList (Text.trimChars key)
  if key.isEmpty then throw (.badRequirement text)
  return (key, accepts)

end Webhook
