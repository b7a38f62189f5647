import Webhook.Policy.Exemption
import Webhook.Text.Lowercase

/-!
# A ban on a kind

Nothing may be done to objects of one kind outside the exempt namespaces, whatever the operation
and whatever the object.
-/

namespace Webhook

/-- A ban on the objects of a kind. -/
structure KindBan where
  /-- The kind. -/
  kind : String
  /-- The name of the policy, for messages. -/
  policy : String
  /-- The namespaces it does not concern. -/
  exempt : Exemption
  deriving DecidableEq, Repr

namespace KindBan

/-- The name of the ban on a kind. -/
def policyName (kind : String) : String := "deny-" ++ Text.lowercase kind ++ "s"

/-- The ban on a kind, which has to have a name. -/
def ofKind? (kind : String) (exempt : Exemption) : Option KindBan :=
  if Text.isBlankText kind then none else some ⟨kind, policyName kind, exempt⟩

/-- The ban on ingresses. -/
def ingresses (exempt : Exemption) : KindBan := ⟨"Ingress", "deny-ingresses", exempt⟩

/-- What is said of a request that is denied. -/
def reason (ban : KindBan) : String :=
  ban.kind ++ " objects cannot be deployed to this cluster (policy: " ++ ban.policy ++ ")"

/-- Whether the ban is about the kind of a request. -/
def governs (ban : KindBan) (request : Request) : Bool := request.kind.kind == ban.kind

/-- The verdict on a request. -/
def judge (ban : KindBan) (request : Request) : Verdict :=
  if !ban.governs request || ban.exempt.covers request then .allow
  else .denial ban.reason

/-- The ban as a policy. -/
def toPolicy (ban : KindBan) : Policy := fun request => .verdict (ban.judge request)

end KindBan
end Webhook
