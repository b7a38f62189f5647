import Webhook.Proofs.Daemon.Wiring
import Webhook.Proofs.Policy.Annotations
import Webhook.Proofs.Policy.Scope

/-!
# Required annotations of the daemon

The daemon is told what annotations pods have to carry, one requirement after the other.  Its
policy keeps the last requirement for each key, so a pod can pass although it does not meet an
earlier one.  `Daemon.enforcesAll_iff` says when that happens: all requirements are enforced exactly
when values that pass the last test of every key pass all tests.  When every key is named once, they
are.
-/

namespace Webhook

open Http (Router)

/-! ## Passing a route -/

/-- A call on a path, with a review of a request, lets the request pass. -/
def Http.Router.Admits (router : Router Endpoint) (path : String) (request : Webhook.Request) :
    Prop :=
  ∃ handler, router.lookup "POST" path = .found (.admission path handler) ∧
    (handler.judge request).verdict = .allow

theorem Handler.judge_eq_allow {h : Handler} {request : Request} :
    (h.judge request).verdict = .allow ↔ h.policy request = .verdict .allow := by
  rw [verdict_judge, Outcome.verdictFor]
  cases houtcome : h.policy request with
  | verdict v => simp [Outcome.result]
  | failure f => simp [Outcome.result, Verdict.denial]
  | breakdown text => simp [Outcome.result, Verdict.denial]

theorem Http.Router.admits_iff {router : Router Endpoint} {path : String} {handler : Handler}
    (hfound : router.lookup "POST" path = .found (.admission path handler))
    {request : Webhook.Request} :
    router.Admits path request ↔ handler.policy request = .verdict .allow := by
  rw [← Handler.judge_eq_allow]
  constructor
  · rintro ⟨handler', hfound', hallow⟩
    rw [hfound] at hfound'
    cases hfound'
    exact hallow
  · intro hallow
    exact ⟨handler, hfound, hallow⟩

namespace Daemon

open CommandLine (Settings)
open PodAnnotations (Meets LastDecides)

/-! ## What is enforced -/

/-- The daemon is asked about a workload that its policy for annotations judges. -/
structure Judged (settings : Settings) (request : Request) (w : Workload) (object : Json.Value) :
    Prop where
  /-- The request is about a workload. -/
  workload : Workload.ofRequest? request = some w
  /-- Its namespace is not one of those that are left alone. -/
  outside : ∀ ns, request.namespace = some ns → ns ∉ settings.podNamespaces
  /-- It carries the workload. -/
  object : request.readObject w.schema = .ok (some object)

theorem Judged.covers {settings : Settings} {request : Request} {w : Workload}
    {object : Json.Value} (h : Judged settings request w object) :
    Exemption.covers ⟨settings.podNamespaces⟩ request = false := by
  cases hcovers : Exemption.covers ⟨settings.podNamespaces⟩ request with
  | false => rfl
  | true =>
      obtain ⟨ns, hns, hmem⟩ := Exemption.covers_iff.mp hcovers
      exact absurd hmem (h.outside ns hns)

theorem judged_podCreation {settings : Settings} {ns : Option String}
    (hns : ∀ n, ns = some n → n ∉ settings.podNamespaces) (annotations : List (String × String)) :
    Judged settings (podCreation ns annotations) .pod (Resource.podWith annotations) where
  workload := ofRequest?_podCreation ns annotations
  outside := hns
  object := readObject_podCreation ns annotations

/-- Workloads pass only if they meet every requirement of a list. -/
def EnforcesAll (settings : Settings) (router : Router Endpoint)
    (required : List (String × Validator)) : Prop :=
  ∀ request w object, Judged settings request w object →
    router.Admits "/admission-control/enforce-pod-annotations" request →
    ∀ r ∈ required, Meets (w.annotations object) r

/-- The workloads that pass are those that meet the requirements of the policy. -/
theorem exists_annotations {settings : Settings} {rs : Routes} (h : routes settings = .ok rs) :
    ∃ router required, rs.toRouter = .ok router ∧
      settings.requiredAnnotations.mapM parseRequirement = .ok required ∧
      ∀ request w object, Judged settings request w object →
        (router.Admits "/admission-control/enforce-pod-annotations" request ↔
          ∀ r ∈ (PodAnnotations.ofList ⟨settings.podNamespaces⟩ required).required,
            Meets (w.annotations object) r) := by
  obtain ⟨ps, policy, router, -, hpolicy, hrouter, hfound⟩ := exists_router h
  obtain ⟨required, hrequired, rfl⟩ := Json.map_eq_ok hpolicy
  refine ⟨router, required, hrouter, hrequired, fun request w object hjudged => ?_⟩
  have hplace := hfound _ annotations_mem_placed
  rw [path_annotations] at hplace
  rw [Router.admits_iff hplace]
  exact PodAnnotations.toPolicy_eq_allow_iff hjudged.workload hjudged.covers hjudged.object

/-- A pod that meets the last requirement of every key, but not all of them. -/
theorem exists_passing_pod {settings : Settings} {router : Router Endpoint}
    {required : List (String × Validator)}
    (hadmits : ∀ request w object, Judged settings request w object →
      (router.Admits "/admission-control/enforce-pod-annotations" request ↔
        ∀ r ∈ (PodAnnotations.ofList ⟨settings.podNamespaces⟩ required).required,
          Meets (w.annotations object) r))
    (hlast : ¬ LastDecides required) {ns : Option String}
    (hns : ∀ n, ns = some n → n ∉ settings.podNamespaces) :
    ∃ annotations, router.Admits "/admission-control/enforce-pod-annotations"
        (podCreation ns annotations) ∧ ∃ r ∈ required, ¬ Meets annotations r := by
  rw [PodAnnotations.lastDecides_iff ⟨settings.podNamespaces⟩] at hlast
  simp only [Classical.not_forall] at hlast
  obtain ⟨annotations, hmeets, r, hr, hnot⟩ := hlast
  have hadmits' := (hadmits _ _ _ (judged_podCreation hns annotations)).mpr
  rw [Resource.annotations_podWith] at hadmits'
  exact ⟨annotations, hadmits' hmeets, r, hr, hnot⟩

/-- The workloads that pass meet every requirement that the daemon is told of, exactly when values
that pass the last test of every key pass all tests.  They do when every key is named once.  When
they do not, a pod in any namespace that is not left alone can pass without meeting them all. -/
theorem enforcesAll_iff {settings : Settings} {rs : Routes} (h : routes settings = .ok rs) :
    ∃ router required, rs.toRouter = .ok router ∧
      settings.requiredAnnotations.mapM parseRequirement = .ok required ∧
      (EnforcesAll settings router required ↔ LastDecides required) ∧
      ((required.map (·.1)).Nodup → EnforcesAll settings router required) ∧
      ∀ ns, ns ∉ settings.podNamespaces → ¬ LastDecides required →
        ∃ annotations, router.Admits "/admission-control/enforce-pod-annotations"
          (podCreation (some ns) annotations) ∧ ∃ r ∈ required, ¬ Meets annotations r := by
  obtain ⟨router, required, hrouter, hrequired, hadmits⟩ := exists_annotations h
  have henforces : LastDecides required → EnforcesAll settings router required := by
    intro hlast request w object hjudged hpass
    have hmeets := (hadmits request w object hjudged).mp hpass
    exact (PodAnnotations.lastDecides_iff _).mp hlast _ hmeets
  refine ⟨router, required, hrouter, hrequired, ⟨fun hall => ?_, henforces⟩,
    fun hnodup => henforces (.of_nodup hnodup), fun ns hns hlast => ?_⟩
  · by_cases hlast : LastDecides required
    · exact hlast
    · have hnone : ∀ n, none = some n → n ∉ settings.podNamespaces := by
        intro n hn
        cases hn
      obtain ⟨annotations, hpass, r, hr, hnot⟩ := exists_passing_pod hadmits hlast hnone
      have hmeets := hall _ _ _ (judged_podCreation hnone annotations) hpass r hr
      rw [Resource.annotations_podWith] at hmeets
      exact absurd hmeets hnot
  · refine exists_passing_pod hadmits hlast fun n hn => ?_
    cases hn
    exact hns

/-- Settings that ask for two annotations. -/
def twoAnnotations : Settings :=
  { Settings.ofGiven .nothing with requiredAnnotations := ["team=[a-z]+", " owner"] }

theorem enforcesAll_twoAnnotations : ∃ rs router required, routes twoAnnotations = .ok rs ∧
    rs.toRouter = .ok router ∧
    twoAnnotations.requiredAnnotations.mapM parseRequirement = .ok required ∧
    required.map (·.1) = ["team", "owner"] ∧ EnforcesAll twoAnnotations router required := by
  have hkeys : (twoAnnotations.requiredAnnotations.mapM parseRequirement).toOption.map
      (fun required => required.map (·.1)) = some ["team", "owner"] := by decide +kernel
  obtain ⟨rs, h⟩ := Json.eq_ok_of_isSome (x := routes twoAnnotations) (by decide +kernel)
  obtain ⟨router, required, hrouter, hrequired, -, henforces, -⟩ := enforcesAll_iff h
  rw [hrequired] at hkeys
  have hnames : required.map (·.1) = ["team", "owner"] := Option.some.inj hkeys
  exact ⟨rs, router, required, h, hrouter, hrequired, hnames, henforces (hnames ▸ by decide)⟩

/-- Settings that ask for one annotation twice, first with a pattern and then without. -/
def oneAnnotationTwice : Settings :=
  { Settings.ofGiven .nothing with requiredAnnotations := ["team=[a-z]+", "team"] }

theorem passes_oneAnnotationTwice : ∃ rs router required, routes oneAnnotationTwice = .ok rs ∧
    rs.toRouter = .ok router ∧
    oneAnnotationTwice.requiredAnnotations.mapM parseRequirement = .ok required ∧
    router.Admits "/admission-control/enforce-pod-annotations"
      (podCreation (some "default") [("team", "X1")]) ∧
    (∃ r ∈ required, ¬ Meets [("team", "X1")] r) ∧
    ¬ EnforcesAll oneAnnotationTwice router required := by
  have hvalue : (oneAnnotationTwice.requiredAnnotations.mapM parseRequirement).toOption.map
      (fun required => required.map fun r => (r.1, r.2 "X1"))
        = some [("team", false), ("team", true)] := by decide +kernel
  obtain ⟨rs, h⟩ := Json.eq_ok_of_isSome (x := routes oneAnnotationTwice) (by decide +kernel)
  obtain ⟨router, required, hrouter, hrequired, hadmits⟩ := exists_annotations h
  rw [hrequired] at hvalue
  obtain ⟨⟨key, first⟩, rest, rfl, hfirst, hrest⟩ :=
    List.map_eq_cons_iff.mp (Option.some.inj hvalue)
  obtain ⟨⟨key', second⟩, rest, rfl, hsecond, hnil⟩ := List.map_eq_cons_iff.mp hrest
  obtain rfl := List.map_eq_nil_iff.mp hnil
  obtain ⟨rfl, hfails⟩ := Prod.mk.inj hfirst
  obtain ⟨rfl, hpasses⟩ := Prod.mk.inj hsecond
  have hjudged : Judged oneAnnotationTwice (podCreation (some "default") [("team", "X1")]) .pod
      (Resource.podWith [("team", "X1")]) :=
    judged_podCreation (by rintro n ⟨⟩; decide +kernel) _
  -- The policy has forgotten the pattern.
  have hadmitted := (hadmits _ _ _ hjudged).mpr
  rw [PodAnnotations.required_ofList_pair, Resource.annotations_podWith, List.forall_mem_singleton]
    at hadmitted
  have hnot : ¬ Meets [("team", "X1")] ("team", first) := by
    rintro ⟨value, hlookup, haccepts⟩
    obtain rfl : "X1" = value := Option.some.inj hlookup
    exact Bool.false_ne_true (hfails.symm.trans haccepts)
  refine ⟨rs, router, _, h, hrouter, hrequired, hadmitted ⟨"X1", rfl, hpasses⟩,
    ⟨_, .head _, hnot⟩, fun hall => ?_⟩
  have hmeets := hall _ _ _ hjudged (hadmitted ⟨"X1", rfl, hpasses⟩) _ (.head _)
  rw [Resource.annotations_podWith] at hmeets
  exact hnot hmeets

end Daemon
end Webhook
