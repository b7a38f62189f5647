import Webhook.Text.Blank
import Webhook.Text.Lowercase

/-!
# Cloud providers

Each provider has annotations of its own that keep the load balancer of a service inside the
network.  One annotation with one of its accepted values is enough.
-/

namespace Webhook

/-- An annotation that keeps a load balancer internal. -/
structure Indicator where
  /-- The key of the annotation. -/
  key : String
  /-- The value that is suggested to users. -/
  suggested : String
  /-- The other values that are accepted. -/
  others : List String
  deriving DecidableEq, Repr

/-- The values that are accepted. -/
def Indicator.accepted (i : Indicator) : List String := i.suggested :: i.others

/-- Whether a value is accepted.  Blanks around it and the case of its letters do not matter. -/
def Indicator.accepts (i : Indicator) (value : String) : Bool :=
  i.accepted.any (Text.sameUpToAsciiCase (Text.trim value))

/-- An indicator as it is written in a message. -/
def Indicator.suggestion (i : Indicator) : String := i.key ++ ": \"" ++ i.suggested ++ "\""

/-- A provider of load balancers. -/
inductive CloudProvider where
  | gcp
  | azure
  | aws
  deriving DecidableEq, Repr

namespace CloudProvider

/-- The name of a provider. -/
def name : CloudProvider → String
  | gcp => "gcp"
  | azure => "azure"
  | aws => "aws"

/-- All providers. -/
def all : List CloudProvider := [gcp, azure, aws]

/-- The indicator that is suggested to users. -/
def firstIndicator : CloudProvider → Indicator
  | gcp => ⟨"networking.gke.io/load-balancer-type", "Internal", []⟩
  | azure => ⟨"service.beta.kubernetes.io/azure-load-balancer-internal", "true", []⟩
  | aws => ⟨"service.beta.kubernetes.io/aws-load-balancer-internal", "true", ["0.0.0.0/0"]⟩

/-- The indicators that are accepted as well. -/
def otherIndicators : CloudProvider → List Indicator
  | gcp => [⟨"cloud.google.com/load-balancer-type", "Internal", []⟩]
  | azure => []
  | aws => [⟨"service.beta.kubernetes.io/aws-load-balancer-scheme", "internal", []⟩]

/-- All indicators of a provider. -/
def indicators (p : CloudProvider) : List Indicator := p.firstIndicator :: p.otherIndicators

/-- The annotation that is suggested to users. -/
def internalAnnotation (p : CloudProvider) : String := p.firstIndicator.suggestion

/-- Whether annotations keep a load balancer internal. -/
def isInternal (p : CloudProvider) (annotations : List (String × String)) : Bool :=
  p.indicators.any fun i =>
    match annotations.lookup i.key with
    | some value => i.accepts value
    | none => false

/-- The provider of a name, whatever the case of its letters and the blanks around it. -/
def ofName? (text : String) : Option CloudProvider :=
  all.find? fun p => Text.sameUpToAsciiCase p.name (Text.trim text)

end CloudProvider
end Webhook
