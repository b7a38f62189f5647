import Webhook.Policy.Exemption
import Webhook.Policy.Workload

/-!
# Required annotations of pods

Pods have to carry certain annotations, with values that pass a test, and so have the templates
that pods are made from.  A denial lists every key that fails, in the order of the keys, and says
whether its annotation is missing or its value is not accepted.
-/

namespace Webhook

/-- A test of the value of an annotation. -/
abbrev Validator := String → Bool

namespace Validator

/-- Accepts every value. -/
def any : Validator := fun _ => true

/-- Accepts every value in which there is something to read. -/
def notBlank : Validator := fun value => !Text.isBlankText value

end Validator

/-- What can be wrong with an annotation. -/
inductive Shortcoming where
  /-- There is none. -/
  | missing
  /-- Its value is not accepted. -/
  | invalid
  deriving DecidableEq, Repr

/-- The words for a shortcoming. -/
def Shortcoming.message : Shortcoming → String
  | missing => "missing"
  | invalid => "invalid value"

/-- A policy about the annotations of pods. -/
structure PodAnnotations where
  /-- The namespaces it does not concern. -/
  exempt : Exemption
  /-- The required keys in ascending order, each with the test of its value. -/
  required : List (String × Validator)

namespace PodAnnotations

/-- The name of the policy, for messages. -/
def policyName : String := "enforce-pod-annotations"

/-- The policy for requirements in any order.  Of two for one key, the later one counts. -/
def ofList (exempt : Exemption) (required : List (String × Validator)) : PodAnnotations :=
  ⟨exempt, Json.sortMembers required⟩

/-- The required keys. -/
def requiredKeys (policy : PodAnnotations) : List String := policy.required.map (·.1)

/-- What is wrong with an annotation, if anything is. -/
def shortcoming? (annotations : List (String × String)) (key : String) (accepts : Validator) :
    Option Shortcoming :=
  match annotations.lookup key with
  | none => some .missing
  | some value => if accepts value then none else some .invalid

/-- The keys that fail, each with what is wrong. -/
def shortcomings (policy : PodAnnotations) (annotations : List (String × String)) :
    List (String × Shortcoming) :=
  policy.required.filterMap fun r => (shortcoming? annotations r.1 r.2).map fun s => (r.1, s)

/-- What is said of a workload whose annotations fall short. -/
def reason (kind : String) (failing : List (String × Shortcoming)) : String :=
  "the submitted " ++ kind ++ " does not satisfy required annotations: "
    ++ ", ".intercalate (failing.map fun f => f.1 ++ " (" ++ f.2.message ++ ")")

/-- The verdict on annotations. -/
def judgeAnnotations (policy : PodAnnotations) (kind : String)
    (annotations : List (String × String)) : Verdict :=
  match policy.shortcomings annotations with
  | [] => .allow
  | failing => .denial (reason kind failing)

/-- The verdict on a request. -/
def judge (policy : PodAnnotations) (request : Request) : Except Failure Verdict :=
  match Workload.ofRequest? request with
  | none => .ok .allow
  | some w =>
    if policy.exempt.covers request then .ok .allow
    else do
      match ← request.readObject w.schema with
      | none => return .withoutObject policyName request
      | some object => return policy.judgeAnnotations w.kind (w.annotations object)

/-- The requirements as a policy. -/
def toPolicy (policy : PodAnnotations) : Policy := .ofRule policy.judge

end PodAnnotations
end Webhook
