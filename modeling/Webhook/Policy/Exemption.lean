import Webhook.Json.Value
import Webhook.Verdict

/-!
# Exempt namespaces

Every policy of this library leaves some namespaces alone.  A request is exempt when its namespace
is one of them.  A request without a namespace is about an object of the whole cluster, and never
exempt.

A request whose policy needs an object may carry none.  Then the policy cannot judge it, and
denies it.
-/

namespace Webhook

/-- The namespaces that a policy leaves alone. -/
structure Exemption where
  /-- Their names. -/
  namespaces : List String
  deriving DecidableEq, Repr

/-- No namespace at all. -/
def Exemption.none : Exemption := ⟨[]⟩

/-- Whether a request is exempt. -/
def Exemption.covers (e : Exemption) (request : Request) : Bool :=
  match request.namespace with
  | some ns => e.namespaces.contains ns
  | .none => false

/-- What is said of a request that cannot be judged because it carries no object. -/
def Request.withoutObject (request : Request) (policy : String) : String :=
  policy ++ ": cannot evaluate " ++ request.operation.name ++ " of " ++ request.kind.kind ++ " "
    ++ request.displayName ++ ": the request carries no object"

/-- The denial of a request that cannot be judged because it carries no object. -/
def Verdict.withoutObject (policy : String) (request : Request) : Verdict :=
  .denial (request.withoutObject policy)

end Webhook
