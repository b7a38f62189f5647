import Webhook.Proofs.Policy.Objects
import Webhook.Proofs.Policy.Scope

/-!
# Governed requests

What the policy about annotations makes of a request that it governs: one about a kind of object
that pods come from, in a namespace that is not exempt (`PodAnnotations.Governed`).
`PodAnnotations.judged` says it in full.  Without an object the request is denied, and an object of
another type is a failure.  Otherwise the annotations that count are those at the place where the
kind keeps them (`Resource.Holds`), the request is allowed when they meet all requirements, and else
the denial lists the keys that fail.  Hence a controller is judged like a pod that carries the
annotations of its template.
-/

namespace Webhook

open Json (Value Mismatch)
open Resource (Schema Holds)

namespace PodAnnotations

/-! ## Governed requests -/

/-- A kind of object that pods come from. -/
structure GovernedKind where
  /-- The API group of the kind. -/
  group : String
  /-- The name of the kind. -/
  kind : String
  /-- The type of its objects. -/
  schema : Schema
  /-- Where its objects keep the annotations of their pods. -/
  path : List String

/-- Pods. -/
def podKind : GovernedKind := ⟨"", "Pod", Resource.pod, ["metadata", "annotations"]⟩

/-- All kinds of objects that pods come from. -/
def governedKinds : List GovernedKind :=
  [podKind,
    ⟨"apps", "Deployment", Resource.deployment,
      ["spec", "template", "metadata", "annotations"]⟩,
    ⟨"apps", "StatefulSet", Resource.statefulSet,
      ["spec", "template", "metadata", "annotations"]⟩,
    ⟨"apps", "DaemonSet", Resource.daemonSet, ["spec", "template", "metadata", "annotations"]⟩,
    ⟨"apps", "ReplicaSet", Resource.replicaSet, ["spec", "template", "metadata", "annotations"]⟩,
    ⟨"batch", "Job", Resource.job, ["spec", "template", "metadata", "annotations"]⟩,
    ⟨"batch", "CronJob", Resource.cronJob,
      ["spec", "jobTemplate", "spec", "template", "metadata", "annotations"]⟩]

/-- A request about a kind of object that pods come from, in a namespace that is not exempt. -/
structure Governed (policy : PodAnnotations) (request : Request) (g : GovernedKind) : Prop where
  /-- The kind is one of them. -/
  mem : g ∈ governedKinds
  /-- The request names its group. -/
  group : request.kind.group = g.group
  /-- The request names the kind. -/
  kind : request.kind.kind = g.kind
  /-- The policy concerns the namespace. -/
  not_exempt : ∀ ns, request.namespace = some ns → ns ∉ policy.exempt.namespaces

/-- A workload with all that counts about it. -/
def GovernedKind.ofWorkload (w : Workload) : GovernedKind :=
  ⟨w.group, w.kind, w.schema, w.annotationsPath⟩

theorem ofRequest?_eq {request : Request} {w : Workload} (hgroup : request.kind.group = w.group)
    (hkind : request.kind.kind = w.kind) : Workload.ofRequest? request = some w := by
  rw [Workload.ofRequest?, hgroup, hkind]
  cases w <;> rfl

theorem Governed.workload {policy : PodAnnotations} {request : Request} {g : GovernedKind}
    (h : policy.Governed request g) :
    ∃ w, Workload.ofRequest? request = some w ∧ g = .ofWorkload w := by
  have hall : governedKinds = Workload.all.map GovernedKind.ofWorkload := rfl
  have hmem := h.mem
  rw [hall] at hmem
  obtain ⟨w, -, rfl⟩ := List.mem_map.mp hmem
  exact ⟨w, ofRequest?_eq h.group h.kind, rfl⟩

theorem Governed.not_covers {policy : PodAnnotations} {request : Request} {g : GovernedKind}
    (h : policy.Governed request g) : policy.exempt.covers request = false := by
  cases hcovers : policy.exempt.covers request with
  | false => rfl
  | true =>
      obtain ⟨ns, hns, hmem⟩ := Exemption.covers_iff.mp hcovers
      exact absurd hmem (h.not_exempt ns hns)

theorem at?_annotationsPath (w : Workload) :
    w.schema.at? w.annotationsPath = some Resource.textTable := by
  cases w <;> rfl

/-! ## Keys that fail -/

/-- How the annotation of a key falls short of a test. -/
def Fails (annotations : List (String × String)) (key : String) (accepts : Validator) :
    Shortcoming → Prop
  | .missing => annotations.lookup key = none
  | .invalid => ∃ value, annotations.lookup key = some value ∧ accepts value = false

/-- Exactly the required keys that fail, each once and in ascending order. -/
structure Lists (policy : PodAnnotations) (annotations : List (String × String))
    (failing : List (String × Shortcoming)) : Prop where
  /-- The keys ascend, so that none is there twice. -/
  ascending : Json.SortedNames failing
  /-- They are those that fail, in the way that is said. -/
  exact : ∀ key s, (key, s) ∈ failing ↔
    ∃ accepts, (key, accepts) ∈ policy.required ∧ Fails annotations key accepts s

/-- What is said of a key that fails. -/
def complaint : String × Shortcoming → String
  | (key, .missing) => key ++ " (missing)"
  | (key, .invalid) => key ++ " (invalid value)"

/-- A denial of an object of a kind, which lists the keys that fail. -/
def Denies (kind : String) (failing : List (String × Shortcoming)) (outcome : Outcome) : Prop :=
  ∃ reason, outcome = .verdict (.deny reason) ∧
    reason.text = "the submitted " ++ kind ++ " does not satisfy required annotations: "
      ++ ", ".intercalate (failing.map complaint)

theorem shortcoming?_eq_some {annotations : List (String × String)} {key : String}
    {accepts : Validator} {s : Shortcoming} :
    shortcoming? annotations key accepts = some s ↔ Fails annotations key accepts s := by
  rw [shortcoming?]
  cases h : annotations.lookup key with
  | none => cases s <;> simp [Fails, h]
  | some value => cases hvalue : accepts value <;> cases s <;> simp [Fails, h, hvalue]

theorem lists_shortcomings {policy : PodAnnotations} (hmap : Json.SortedNames policy.required)
    (annotations : List (String × String)) :
    policy.Lists annotations (policy.shortcomings annotations) where
  ascending := by
    -- the keys that fail stand in the order of the required ones, which ascend
    refine List.Pairwise.filterMap _ (fun r r' hlt f hf f' hf' => ?_) hmap
    obtain ⟨s, -, rfl⟩ := Option.map_eq_some_iff.mp hf
    obtain ⟨s', -, rfl⟩ := Option.map_eq_some_iff.mp hf'
    exact hlt
  exact key s := by
    rw [shortcomings, List.mem_filterMap]
    constructor
    · rintro ⟨r, hr, hf⟩
      obtain ⟨s, hs, hf⟩ := Option.map_eq_some_iff.mp hf
      obtain ⟨rfl, rfl⟩ := Prod.mk.inj hf
      exact ⟨r.2, hr, shortcoming?_eq_some.mp hs⟩
    · rintro ⟨accepts, hr, hfails⟩
      refine ⟨(key, accepts), hr, ?_⟩
      rw [shortcoming?_eq_some.mpr hfails]
      rfl

theorem reason_eq (kind : String) (failing : List (String × Shortcoming)) :
    reason kind failing = "the submitted " ++ kind
      ++ " does not satisfy required annotations: "
      ++ ", ".intercalate (failing.map complaint) := by
  have hcomplaint : complaint = fun f => f.1 ++ " (" ++ f.2.message ++ ")" := by
    funext ⟨key, s⟩
    rw [String.append_assoc, String.append_assoc]
    cases s <;> rfl
  rw [hcomplaint]
  rfl

theorem not_blank_reason (kind : String) (failing : List (String × Shortcoming)) :
    Text.isBlankText (reason kind failing) = false := by
  have hwords : Text.isBlankText "the submitted " = false := by decide +kernel
  rw [reason_eq, Text.isBlankText_append, Text.isBlankText_append, Text.isBlankText_append, hwords,
    Bool.false_and, Bool.false_and, Bool.false_and]

theorem not_blank_withoutObject (request : Request) :
    Text.isBlankText (request.withoutObject policyName) = false := by
  have hwords : Text.isBlankText ": the request carries no object" = false := by decide +kernel
  rw [Request.withoutObject, Text.isBlankText_append, hwords, Bool.and_false]

theorem denies_judgeAnnotations {policy : PodAnnotations} (kind : String)
    {annotations : List (String × String)} (h : policy.shortcomings annotations ≠ []) :
    Denies kind (policy.shortcomings annotations)
      (.verdict (policy.judgeAnnotations kind annotations)) := by
  obtain ⟨words, hdenial, htext⟩ :=
    Verdict.denial_eq (not_blank_reason kind (policy.shortcomings annotations))
  refine ⟨words, ?_, htext.trans (reason_eq kind _)⟩
  rw [judgeAnnotations]
  split
  next hnil => exact absurd hnil h
  next => rw [hdenial]

/-! ## What the policy makes of them -/

section Governed

variable {policy : PodAnnotations} {request : Request} {g : GovernedKind}

theorem toPolicy_of_no_object (h : policy.Governed request g) (hobject : request.object = none) :
    ∃ reason, policy.toPolicy request = .verdict (.deny reason) ∧
      reason.text = request.withoutObject policyName := by
  obtain ⟨w, hw, rfl⟩ := h.workload
  obtain ⟨reason, hdenial, htext⟩ := Verdict.denial_eq (not_blank_withoutObject request)
  have hread : request.readObject w.schema = .ok none := by
    rw [Request.readObject, hobject]
  have hjudge : policy.judge request = .ok (.withoutObject policyName request) := by
    rw [judge, hw]
    simp only [h.not_covers, Bool.false_eq_true, if_false, hread]
    rfl
  refine ⟨reason, ?_, htext⟩
  rw [toPolicy, Policy.ofRule, hjudge, ← hdenial]
  rfl

theorem toPolicy_of_mismatch (h : policy.Governed request g) {object : Value} {m : Mismatch}
    (hobject : request.object = some object) (hcheck : g.schema.check object = .error m) :
    policy.toPolicy request = .failure (.undecodable request.kind.kind m) := by
  obtain ⟨w, hw, rfl⟩ := h.workload
  have hcheck : w.schema.check object = .error m := hcheck
  have hread : request.readObject w.schema = .error (.undecodable request.kind.kind m) := by
    rw [Request.readObject, hobject]
    simp only [hcheck]
  have hjudge : policy.judge request = .error (.undecodable request.kind.kind m) := by
    rw [judge, hw]
    simp only [h.not_covers, Bool.false_eq_true, if_false, hread]
    rfl
  rw [toPolicy, Policy.ofRule, hjudge]

/-- The verdict depends on the kind and on the annotations at its place. -/
theorem toPolicy_of_holds (h : policy.Governed request g) {object : Value}
    {annotations : List (String × String)} (hobject : request.object = some object)
    (hcheck : g.schema.check object = .ok ()) (hholds : Holds g.path object annotations) :
    policy.toPolicy request
      = .verdict (policy.judgeAnnotations request.kind.kind annotations) := by
  have hkind := h.kind
  obtain ⟨w, hw, rfl⟩ := h.workload
  have hcheck : w.schema.check object = .ok () := hcheck
  have hread : request.readObject w.schema = .ok (some object) := by
    rw [Request.readObject, hobject]
    simp only [hcheck]
  have hannotations : w.annotations object = annotations := Resource.textsAt_of_holds hholds
  rw [toPolicy, Policy.ofRule, judge_eq hw h.not_covers hread, hannotations, hkind]
  rfl

theorem exists_holds (h : policy.Governed request g) {object : Value}
    (hcheck : g.schema.check object = .ok ()) : ∃ annotations, Holds g.path object annotations := by
  obtain ⟨w, -, rfl⟩ := h.workload
  exact Resource.holds_of_check (at?_annotationsPath w) hcheck

end Governed

/-- What the policy makes of a request that it governs.  Without an object the request is denied,
and an object that is not of the type of its kind is a failure.  Otherwise the request is allowed if
and only if the annotations at the place for its kind meet all requirements, and else it is denied
with the list of the keys that fail.  A pod with these annotations is judged in the same way, with
another kind in the words of a denial. -/
theorem judged {policy : PodAnnotations} {request : Request} {g : GovernedKind}
    (hmap : Json.SortedNames policy.required) (h : policy.Governed request g) :
    (request.object = none → ∃ reason, policy.toPolicy request = .verdict (.deny reason) ∧
      reason.text = request.withoutObject policyName) ∧
    (∀ object m, request.object = some object → g.schema.check object = .error m →
      policy.toPolicy request = .failure (.undecodable request.kind.kind m)) ∧
    ∀ object, request.object = some object → g.schema.check object = .ok () →
      ∃ annotations, Holds g.path object annotations ∧
        (policy.toPolicy request = .verdict .allow ↔
          ∀ r ∈ policy.required, Meets annotations r) ∧
        (¬ (∀ r ∈ policy.required, Meets annotations r) →
          ∃ failing, policy.Lists annotations failing ∧
            Denies request.kind.kind failing (policy.toPolicy request)) ∧
        ∀ pod podObject, policy.Governed pod podKind → pod.object = some podObject →
          podKind.schema.check podObject = .ok () → Holds podKind.path podObject annotations →
          (policy.toPolicy request = .verdict .allow ∧ policy.toPolicy pod = .verdict .allow) ∨
          ∃ failing, Denies request.kind.kind failing (policy.toPolicy request) ∧
            Denies "Pod" failing (policy.toPolicy pod) := by
  refine ⟨toPolicy_of_no_object h, fun object m => toPolicy_of_mismatch h, ?_⟩
  intro object hobject hcheck
  obtain ⟨annotations, hholds⟩ := exists_holds h hcheck
  have hrequest := toPolicy_of_holds h hobject hcheck hholds
  have hallow : ∀ kind, Outcome.verdict (policy.judgeAnnotations kind annotations)
      = .verdict .allow ↔ ∀ r ∈ policy.required, Meets annotations r := fun kind =>
    ⟨fun hv => (judgeAnnotations_eq_allow kind).mp (Outcome.verdict.inj hv),
      fun hmeets => congrArg Outcome.verdict ((judgeAnnotations_eq_allow kind).mpr hmeets)⟩
  rw [hrequest]
  refine ⟨annotations, hholds, hallow _, fun hnot => ?_, ?_⟩
  · refine ⟨_, lists_shortcomings hmap annotations, denies_judgeAnnotations _ fun hnil => ?_⟩
    exact hnot (shortcomings_eq_nil.mp hnil)
  · intro pod podObject hpod hpodObject hpodCheck hpodHolds
    rw [toPolicy_of_holds hpod hpodObject hpodCheck hpodHolds, hpod.kind]
    by_cases hmeets : ∀ r ∈ policy.required, Meets annotations r
    · exact .inl ⟨(hallow _).mpr hmeets, (hallow _).mpr hmeets⟩
    · have hne : policy.shortcomings annotations ≠ [] := fun hnil =>
        hmeets (shortcomings_eq_nil.mp hnil)
      exact .inr ⟨_, denies_judgeAnnotations _ hne, denies_judgeAnnotations _ hne⟩

/-- The policy that asks for a team. -/
def teamPolicy : PodAnnotations := ⟨.none, [("team", .notBlank)]⟩

/-- A deployment whose pods carry a blank team. -/
def blankTeam : Value :=
  .object [("spec", .object [("template", .object [("metadata", .object
    [("annotations", Resource.tableOf [("team", " ")])])])])]

/-- The request to create that deployment. -/
def blankTeamCreation : Request :=
  { podCreation (some "default") [] with
    kind := ⟨"apps", "v1", "Deployment"⟩, object := some blankTeam }

theorem judged_blankTeamCreation :
    ∃ failing, teamPolicy.Lists [("team", " ")] failing ∧
      Denies "Deployment" failing (teamPolicy.toPolicy blankTeamCreation) := by
  have hmap : Json.SortedNames teamPolicy.required := List.pairwise_singleton _ _
  have hgoverned : teamPolicy.Governed blankTeamCreation ⟨"apps", "Deployment",
      Resource.deployment, ["spec", "template", "metadata", "annotations"]⟩ :=
    ⟨.tail _ (.head _), rfl, rfl, by rintro ns - ⟨⟩⟩
  have hholds : Holds ["spec", "template", "metadata", "annotations"] blankTeam [("team", " ")] :=
    .member rfl nofun (.member rfl nofun (.member rfl nofun (.member rfl nofun .table)))
  obtain ⟨annotations, hannotations, -, hdenies, -⟩ :=
    (judged hmap hgoverned).2.2 blankTeam rfl rfl
  obtain rfl := hannotations.unique hholds
  refine hdenies fun hmeets => ?_
  obtain ⟨value, hvalue, haccepts⟩ := hmeets ("team", .notBlank) (.head _)
  cases hvalue
  cases haccepts

end PodAnnotations
end Webhook
