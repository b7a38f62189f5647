import Webhook.CommandLine.Settings
import Webhook.Proofs.Policy.Governed
import Webhook.Proofs.Policy.LoadBalancers

/-!
# Objects of the whole cluster

A request is about an object of the whole cluster when its display name is the bare name of the
object (`Request.IsClusterScoped`).  That is so when it has no namespace, and also when it has one
with an empty name.

Exempt namespaces take no notice of the second case.  A request without a namespace is never exempt,
and one whose namespace has an empty name is exempt when the empty name is on the list.
`BuiltIn.clusterScoped_judged` says that this is the only thing that stands between a policy and the
same policy without exemptions.  A variable of the environment that is set to nothing puts the empty
name on the list.
-/

namespace Webhook

open CommandLine (Settings)

namespace Request

/-- A request about an object of the whole cluster, which is displayed by its name alone. -/
def IsClusterScoped (request : Request) : Prop := request.displayName = request.name.getD ""

theorem isClusterScoped_iff {request : Request} :
    request.IsClusterScoped ↔ request.namespace = none ∨ request.namespace = some "" := by
  rw [IsClusterScoped, displayName]
  cases request.namespace with
  | none => simp
  | some ns =>
      by_cases hns : ns = ""
      · simp [hns]
      · -- a name with something before it is longer
        have hlonger : ns ++ "/" ++ request.name.getD "" ≠ request.name.getD "" := fun heq => by
          have hlength := congrArg String.length heq
          rw [String.length_append, String.length_append] at hlength
          have hslash : "/".length = 1 := rfl
          omega
        simp [hns, hlonger]

/-- The request to delete an object of a kind. -/
def deletion (ns : Option String) (kind : GroupVersionKind) : Request :=
  { podCreation ns [] with kind, operation := .delete, object := none }

end Request

/-- The one way for a request about an object of the whole cluster to be exempt. -/
theorem Exemption.covers_of_isClusterScoped {e : Exemption} {request : Request}
    (h : request.IsClusterScoped) :
    e.covers request = true ↔ request.namespace = some "" ∧ "" ∈ e.namespaces := by
  rw [covers_iff]
  constructor
  · rintro ⟨ns, hns, hmem⟩
    rcases Request.isClusterScoped_iff.mp h with hnone | hempty
    · cases hns.symm.trans hnone
    · obtain rfl := Option.some.inj (hns.symm.trans hempty)
      exact ⟨hns, hmem⟩
  · rintro ⟨hns, hmem⟩
    exact ⟨"", hns, hmem⟩

namespace BuiltIn

/-- Without exemptions each policy denies some request, in every namespace and in none. -/
theorem exists_denied (b : BuiltIn) (ns : Option String) : ∃ request reason,
    request.namespace = ns ∧ (b.withExempt .none).toPolicy request = .verdict (.deny reason) := by
  cases b with
  | kindBan ban =>
      let request := Request.deletion ns ⟨"", "v1", ban.kind⟩
      obtain ⟨reason, hdenial, -⟩ := text_denial_reason { ban with exempt := .none }
      have hjudged := kindBan_toPolicy { ban with exempt := .none } request
      rw [if_pos ⟨rfl, Exemption.covers_none request⟩, hdenial] at hjudged
      exact ⟨request, reason, rfl, hjudged⟩
  | loadBalancerBan ban =>
      let request := Request.deletion ns ⟨"", "v1", "Service"⟩
      have hgoverned : LoadBalancerBan.Governed { ban with exempt := .none } request :=
        ⟨rfl, rfl, fun _ _ => List.not_mem_nil⟩
      obtain ⟨reason, hdenial, -⟩ := LoadBalancerBan.toPolicy_of_no_object hgoverned rfl
      exact ⟨request, reason, rfl, hdenial⟩
  | podAnnotations policy =>
      let request := Request.deletion ns ⟨"", "v1", "Pod"⟩
      have hgoverned : PodAnnotations.Governed { policy with exempt := .none } request
          PodAnnotations.podKind := ⟨.head _, rfl, rfl, fun _ _ => List.not_mem_nil⟩
      obtain ⟨reason, hdenial, -⟩ := PodAnnotations.toPolicy_of_no_object hgoverned rfl
      exact ⟨request, reason, rfl, hdenial⟩

/-- Requests about objects of the whole cluster get what the policy without exemptions gives, all of
them exactly when the empty name is not on the list.  Those without a namespace always do, and
otherwise those whose namespace has the empty name are allowed. -/
theorem clusterScoped_judged (b : BuiltIn) :
    ((∀ request : Request, request.IsClusterScoped →
        b.toPolicy request = (b.withExempt .none).toPolicy request) ↔
      "" ∉ b.exempt.namespaces) ∧
    (∀ request : Request, request.namespace = none →
      b.toPolicy request = (b.withExempt .none).toPolicy request) ∧
    ("" ∈ b.exempt.namespaces → ∀ request : Request, request.namespace = some "" →
      b.toPolicy request = .verdict .allow) := by
  have hexempt : "" ∈ b.exempt.namespaces → ∀ request : Request, request.namespace = some "" →
      b.toPolicy request = .verdict .allow := fun hmem request hns =>
    toPolicy_of_covers (Exemption.covers_iff.mpr ⟨"", hns, hmem⟩)
  refine ⟨⟨fun hsame hmem => ?_, fun hnot request hscoped => ?_⟩, fun request hnone => ?_, hexempt⟩
  · -- a request that is denied otherwise is exempt
    obtain ⟨request, reason, hns, hdenied⟩ := b.exists_denied (some "")
    have heq := hsame request (Request.isClusterScoped_iff.mpr (.inr hns))
    rw [hexempt hmem request hns, hdenied] at heq
    cases heq
  · refine toPolicy_of_not_covers (Bool.eq_false_iff.mpr fun hcovers => ?_)
    exact hnot ((Exemption.covers_of_isClusterScoped hscoped).mp hcovers).2
  · have hscoped := Request.isClusterScoped_iff.mpr (.inl hnone)
    refine toPolicy_of_not_covers (Bool.eq_false_iff.mpr fun hcovers => ?_)
    obtain ⟨hns, -⟩ := (Exemption.covers_of_isClusterScoped hscoped).mp hcovers
    cases hns.symm.trans hnone

/-- The ban on ingresses in the namespaces of some settings. -/
def ingressBan (settings : Settings) : BuiltIn :=
  kindBan (.ingresses ⟨settings.ingressNamespaces⟩)

/-- The request to delete an ingress in a namespace with an empty name. -/
def ingressDeletion : Request :=
  .deletion (some "") ⟨"networking.k8s.io", "v1", "Ingress"⟩

theorem clusterScoped_exempt_emptyVariable : ∃ settings,
    Settings.parse [] [("INGRESS_ALLOWED_NAMESPACE", "")] = .ok settings ∧
    ingressDeletion.IsClusterScoped ∧
    (ingressBan settings).toPolicy ingressDeletion = .verdict .allow ∧
    ¬ ∀ request : Request, request.IsClusterScoped →
      (ingressBan settings).toPolicy request
        = ((ingressBan settings).withExempt .none).toPolicy request := by
  have hempty : (Settings.parse [] [("INGRESS_ALLOWED_NAMESPACE", "")]).toOption.map
      (·.ingressNamespaces) = some [""] := by decide +kernel
  obtain ⟨settings, hsettings⟩ := Json.eq_ok_of_isSome
    (x := Settings.parse [] [("INGRESS_ALLOWED_NAMESPACE", "")]) (by decide +kernel)
  rw [hsettings] at hempty
  have hnamespaces : settings.ingressNamespaces = [""] := Option.some.inj hempty
  have hscoped : ingressDeletion.IsClusterScoped := Request.isClusterScoped_iff.mpr (.inr rfl)
  have hallowed : (ingressBan settings).toPolicy ingressDeletion = .verdict .allow := by
    rw [ingressBan, hnamespaces]
    rfl
  have hdenied : ((ingressBan settings).withExempt .none).toPolicy ingressDeletion
      ≠ .verdict .allow := by
    obtain ⟨reason, hdenial, -⟩ := text_denial_reason (.ingresses .none)
    have hjudged := kindBan_toPolicy (.ingresses .none) ingressDeletion
    rw [if_pos ⟨rfl, rfl⟩, hdenial] at hjudged
    intro hallow
    cases hjudged.symm.trans hallow
  refine ⟨settings, hsettings, hscoped, hallowed, fun hsame => ?_⟩
  exact hdenied ((hsame ingressDeletion hscoped).symm.trans hallowed)

end BuiltIn
end Webhook
