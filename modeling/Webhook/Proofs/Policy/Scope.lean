import Webhook.Policy.KindBan
import Webhook.Policy.LoadBalancer
import Webhook.Policy.PodAnnotations

/-!
# Where the policies apply

Each policy of the library has a *scope*, the requests it is about, and namespaces that are exempt.
The three policies look at these, and at the object, each in its own way.  `BuiltIn` brings them
together, so that what they have in common can be said once.

`BuiltIn.toPolicy_eq` says all of it in one equation.  A request outside the scope, or in an exempt
namespace, is allowed, and its object is not looked at.  Every other request gets the outcome that
the policy without any exemption gives.  `BuiltIn.exemption_uniform` spells this out, with what
follows for a policy that exempts more namespaces.
-/

namespace Webhook

/-! ## Exempt namespaces -/

namespace Exemption

theorem covers_iff {e : Exemption} {request : Request} :
    e.covers request = true ↔ ∃ ns, request.namespace = some ns ∧ ns ∈ e.namespaces := by
  rw [covers]
  cases h : request.namespace with
  | none => simp
  | some ns => simp

@[simp] theorem covers_none (request : Request) : none.covers request = false := by
  rw [covers]
  cases request.namespace <;> rfl

/-- More namespaces exempt more requests. -/
theorem covers_mono {e wider : Exemption} (h : ∀ ns ∈ e.namespaces, ns ∈ wider.namespaces)
    {request : Request} (hcovers : e.covers request = true) : wider.covers request = true := by
  obtain ⟨ns, hns, hmem⟩ := covers_iff.mp hcovers
  exact covers_iff.mpr ⟨ns, hns, h ns hmem⟩

end Exemption

/-! ## The three policies -/

/-- A policy of the library. -/
inductive BuiltIn where
  /-- A ban on a kind. -/
  | kindBan (ban : KindBan)
  /-- A ban on public load balancers. -/
  | loadBalancerBan (ban : LoadBalancerBan)
  /-- Required annotations of pods. -/
  | podAnnotations (policy : PodAnnotations)

namespace BuiltIn

/-- What it decides. -/
def toPolicy : BuiltIn → Policy
  | kindBan ban => ban.toPolicy
  | loadBalancerBan ban => ban.toPolicy
  | podAnnotations policy => policy.toPolicy

/-- The namespaces it leaves alone. -/
def exempt : BuiltIn → Exemption
  | kindBan ban => ban.exempt
  | loadBalancerBan ban => ban.exempt
  | podAnnotations policy => policy.exempt

/-- The same policy with other exempt namespaces. -/
def withExempt (e : Exemption) : BuiltIn → BuiltIn
  | kindBan ban => kindBan { ban with exempt := e }
  | loadBalancerBan ban => loadBalancerBan { ban with exempt := e }
  | podAnnotations policy => podAnnotations { policy with exempt := e }

/-- The groups and kinds of the objects that pods come from. -/
def workloadKinds : List (String × String) :=
  [("", "Pod"), ("apps", "Deployment"), ("apps", "StatefulSet"), ("apps", "DaemonSet"),
    ("apps", "ReplicaSet"), ("batch", "Job"), ("batch", "CronJob")]

/-- The requests that a policy is about. -/
def InScope : BuiltIn → Request → Prop
  | kindBan ban, request => request.kind.kind = ban.kind
  | loadBalancerBan _, request => request.kind.group = "" ∧ request.kind.kind = "Service"
  | podAnnotations _, request => (request.kind.group, request.kind.kind) ∈ workloadKinds

instance (b : BuiltIn) (request : Request) : Decidable (b.InScope request) :=
  match b with
  | kindBan ban => inferInstanceAs (Decidable (request.kind.kind = ban.kind))
  | loadBalancerBan _ =>
    inferInstanceAs (Decidable (request.kind.group = "" ∧ request.kind.kind = "Service"))
  | podAnnotations _ =>
    inferInstanceAs (Decidable ((request.kind.group, request.kind.kind) ∈ workloadKinds))

@[simp] theorem exempt_withExempt (b : BuiltIn) (e : Exemption) : (b.withExempt e).exempt = e := by
  cases b <;> rfl

@[simp] theorem withExempt_withExempt (b : BuiltIn) (e e' : Exemption) :
    (b.withExempt e).withExempt e' = b.withExempt e' := by
  cases b <;> rfl

theorem inScope_withExempt {b : BuiltIn} {e : Exemption} {request : Request} :
    (b.withExempt e).InScope request ↔ b.InScope request := by
  cases b <;> exact Iff.rfl

/-! ## One equation for all -/

theorem isSome_workload {request : Request} :
    (Workload.ofRequest? request).isSome = true ↔
      (request.kind.group, request.kind.kind) ∈ workloadKinds := by
  have hkinds : workloadKinds = Workload.all.map fun w => (w.group, w.kind) := rfl
  rw [Workload.ofRequest?, List.find?_isSome, hkinds, List.mem_map]
  simp only [Bool.and_eq_true, beq_iff_eq, Prod.mk.injEq]

theorem kindBan_toPolicy (ban : KindBan) (request : Request) :
    ban.toPolicy request =
      if request.kind.kind = ban.kind ∧ ban.exempt.covers request = false then
        .verdict (.denial ban.reason)
      else .verdict .allow := by
  rw [KindBan.toPolicy, KindBan.judge, KindBan.governs]
  by_cases hkind : request.kind.kind = ban.kind
  · cases hcovers : ban.exempt.covers request <;> simp [hkind]
  · simp [hkind]

theorem loadBalancerBan_toPolicy (ban : LoadBalancerBan) (request : Request) :
    ban.toPolicy request =
      if (request.kind.group = "" ∧ request.kind.kind = "Service") ∧
          ban.exempt.covers request = false then
        LoadBalancerBan.toPolicy ⟨ban.provider, .none⟩ request
      else .verdict .allow := by
  have hgoverns : LoadBalancerBan.governs request = true ↔
      request.kind.group = "" ∧ request.kind.kind = "Service" := by
    simp [LoadBalancerBan.governs]
  simp only [LoadBalancerBan.toPolicy, Policy.ofRule, LoadBalancerBan.judge]
  by_cases hscope : request.kind.group = "" ∧ request.kind.kind = "Service"
  · rw [hgoverns.mpr hscope]
    cases hcovers : ban.exempt.covers request <;> simp [hscope]
  · have hnot : LoadBalancerBan.governs request = false :=
      Bool.eq_false_iff.mpr fun h => hscope (hgoverns.mp h)
    simp [hnot, hscope]

theorem podAnnotations_toPolicy (policy : PodAnnotations) (request : Request) :
    policy.toPolicy request =
      if (request.kind.group, request.kind.kind) ∈ workloadKinds ∧
          policy.exempt.covers request = false then
        PodAnnotations.toPolicy { policy with exempt := .none } request
      else .verdict .allow := by
  simp only [PodAnnotations.toPolicy, Policy.ofRule, PodAnnotations.judge]
  cases hw : Workload.ofRequest? request with
  | none =>
      have hscope : (request.kind.group, request.kind.kind) ∉ workloadKinds := by
        rw [← isSome_workload, hw]
        exact Bool.false_ne_true
      simp [hscope]
  | some w =>
      have hscope : (request.kind.group, request.kind.kind) ∈ workloadKinds :=
        isSome_workload.mp (by rw [hw]; rfl)
      cases hcovers : policy.exempt.covers request with
      | false => simp [hscope, PodAnnotations.judgeAnnotations, PodAnnotations.shortcomings]
      | true => simp

/-- The object counts only for a request that is in scope and not exempt, and then the exempt
namespaces do not. -/
theorem toPolicy_eq (b : BuiltIn) (request : Request) :
    b.toPolicy request =
      if b.InScope request ∧ b.exempt.covers request = false then
        (b.withExempt .none).toPolicy request
      else .verdict .allow := by
  cases b with
  | kindBan ban =>
      have hnone := kindBan_toPolicy { ban with exempt := .none } request
      simp only [toPolicy, withExempt, hnone, kindBan_toPolicy, InScope, exempt]
      by_cases h : request.kind.kind = ban.kind
      · simp [h, KindBan.reason]
      · simp [h]
  | loadBalancerBan ban => exact loadBalancerBan_toPolicy ban request
  | podAnnotations policy => exact podAnnotations_toPolicy policy request

theorem toPolicy_of_not_inScope {b : BuiltIn} {request : Request} (h : ¬ b.InScope request) :
    b.toPolicy request = .verdict .allow := by
  rw [toPolicy_eq, if_neg fun hboth => h hboth.1]

theorem toPolicy_of_covers {b : BuiltIn} {request : Request} (h : b.exempt.covers request = true) :
    b.toPolicy request = .verdict .allow := by
  rw [toPolicy_eq, if_neg fun hboth => Bool.false_ne_true (hboth.2.symm.trans h)]

theorem toPolicy_of_inScope {b : BuiltIn} {request : Request} (hscope : b.InScope request)
    (h : b.exempt.covers request = false) :
    b.toPolicy request = (b.withExempt .none).toPolicy request := by
  rw [toPolicy_eq, if_pos ⟨hscope, h⟩]

/-- A request that no exempt namespace covers gets what the policy without exemptions gives. -/
theorem toPolicy_of_not_covers {b : BuiltIn} {request : Request}
    (h : b.exempt.covers request = false) :
    b.toPolicy request = (b.withExempt .none).toPolicy request := by
  by_cases hscope : b.InScope request
  · exact toPolicy_of_inScope hscope h
  · rw [toPolicy_of_not_inScope hscope,
      toPolicy_of_not_inScope fun hin => hscope (inScope_withExempt.mp hin)]

/-! ## Consequences -/

/-- A ban on a kind says what it is about, so its denials always have words of their own. -/
theorem text_denial_reason (ban : KindBan) : ∃ reason,
    Verdict.denial ban.reason = .deny reason ∧ reason.text = ban.reason := by
  have hmiddle : Text.isBlankText " objects cannot be deployed to this cluster (policy: "
      = false := by decide +kernel
  refine Verdict.denial_eq ?_
  simp only [KindBan.reason, Text.isBlankText_append, hmiddle, Bool.and_false, Bool.false_and]

/-- Other exempt namespaces change an outcome only for a request in scope whose namespace is added,
and then the request is allowed. -/
theorem toPolicy_withExempt_ne {b : BuiltIn} {wider : Exemption} {request : Request}
    (hwider : ∀ ns ∈ b.exempt.namespaces, ns ∈ wider.namespaces)
    (hne : (b.withExempt wider).toPolicy request ≠ b.toPolicy request) :
    b.InScope request ∧
      (∃ ns, request.namespace = some ns ∧ ns ∈ wider.namespaces ∧ ns ∉ b.exempt.namespaces) ∧
      (b.withExempt wider).toPolicy request = .verdict .allow := by
  have hexempt : (b.withExempt wider).exempt = wider := exempt_withExempt b wider
  have hscope : b.InScope request := by
    by_cases h : b.InScope request
    · exact h
    · have h' : ¬ (b.withExempt wider).InScope request := fun hin => h (inScope_withExempt.mp hin)
      exact absurd ((toPolicy_of_not_inScope h').trans (toPolicy_of_not_inScope h).symm) hne
  have hold : b.exempt.covers request = false := by
    cases h : b.exempt.covers request with
    | false => rfl
    | true =>
        have h' := hexempt ▸ Exemption.covers_mono hwider h
        exact absurd ((toPolicy_of_covers h').trans (toPolicy_of_covers h).symm) hne
  have hnew : wider.covers request = true := by
    cases h : wider.covers request with
    | true => rfl
    | false =>
        -- No list covers the request, so both policies agree with the one without exemptions.
        have heq := toPolicy_of_inScope (inScope_withExempt.mpr hscope) (hexempt ▸ h)
        rw [withExempt_withExempt] at heq
        exact absurd (heq.trans (toPolicy_of_inScope hscope hold).symm) hne
  obtain ⟨ns, hns, hmem⟩ := Exemption.covers_iff.mp hnew
  have hallow : (b.withExempt wider).toPolicy request = .verdict .allow :=
    toPolicy_of_covers (by rw [hexempt]; exact hnew)
  refine ⟨hscope, ⟨ns, hns, hmem, fun hin => ?_⟩, hallow⟩
  have hcovers := Exemption.covers_iff.mpr ⟨ns, hns, hin⟩
  exact Bool.false_ne_true (hold.symm.trans hcovers)

/-- A request that a policy is not about, or whose namespace is exempt, is allowed, whatever its
object.  Every other request gets the outcome of the same policy without exemptions, which for a ban
on a kind is a denial, whatever the operation and the object.  Hence a policy that exempts more
namespaces decides differently only for requests in its scope and in an added namespace, and allows
these. -/
theorem exemption_uniform (b : BuiltIn) (request : Request) :
    ((¬ b.InScope request ∨ ∃ ns, request.namespace = some ns ∧ ns ∈ b.exempt.namespaces) →
      b.toPolicy request = .verdict .allow) ∧
    (b.InScope request → (∀ ns, request.namespace = some ns → ns ∉ b.exempt.namespaces) →
      b.toPolicy request = (b.withExempt .none).toPolicy request ∧
      ∀ ban, b = .kindBan ban → ∃ reason,
        b.toPolicy request = .verdict (.deny reason) ∧ reason.text = ban.reason) ∧
    ∀ wider : Exemption, (∀ ns ∈ b.exempt.namespaces, ns ∈ wider.namespaces) →
      (b.withExempt wider).toPolicy request ≠ b.toPolicy request →
        b.InScope request ∧
        (∃ ns, request.namespace = some ns ∧ ns ∈ wider.namespaces ∧
          ns ∉ b.exempt.namespaces) ∧
        (b.withExempt wider).toPolicy request = .verdict .allow := by
  refine ⟨?_, fun hscope hnot => ?_, fun wider hwider => toPolicy_withExempt_ne hwider⟩
  · rintro (hscope | hcovers)
    · exact toPolicy_of_not_inScope hscope
    · exact toPolicy_of_covers (Exemption.covers_iff.mpr hcovers)
  · have hcovers : b.exempt.covers request = false := by
      cases h : b.exempt.covers request with
      | false => rfl
      | true =>
          obtain ⟨ns, hns, hmem⟩ := Exemption.covers_iff.mp h
          exact absurd hmem (hnot ns hns)
    refine ⟨toPolicy_of_inScope hscope hcovers, ?_⟩
    rintro ban rfl
    obtain ⟨reason, hdeny, htext⟩ := text_denial_reason ban
    refine ⟨reason, ?_, htext⟩
    rw [← hdeny]
    exact (kindBan_toPolicy ban request).trans (if_pos ⟨hscope, hcovers⟩)

end BuiltIn
end Webhook
