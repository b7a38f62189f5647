import Webhook.Proofs.Policy.Assignments
import Webhook.Proofs.Policy.Scope

/-!
# Load balancers

What the ban on public load balancers makes of a request that it governs: one about a service, in a
namespace that is not exempt (`LoadBalancerBan.Governed`).  `LoadBalancerBan.judged_service` says it
in full.  Without an object the request is denied, and an object that is not a service is a failure.
A service of another type is allowed.  A load balancer is allowed when one of the indicators of the
provider is among its annotations with a value that counts (`CloudProvider.Marked`), and no other
annotation has any influence.  Otherwise the denial names the provider, and an annotation with which
the same service is allowed.
-/

namespace Webhook

open Json (Value Mismatch)
open Resource (Schema Holds)

namespace Resource

/-- What stands at the end of a path of names inside an object: a value, or nothing when a member on
the way is absent or null. -/
inductive Stands : List String → Value → Option Value → Prop where
  | here {v : Value} : v ≠ .null → Stands [] v (some v)
  | null {path : List String} : Stands path .null none
  | absent {name : String} {rest : List String} {members : List (String × Value)} :
      members.lookup name = none → Stands (name :: rest) (.object members) none
  | member {name : String} {rest : List String} {members : List (String × Value)} {v : Value}
      {found : Option Value} : members.lookup name = some v → Stands rest v found →
      Stands (name :: rest) (.object members) found

theorem path?_of_stands {path : List String} {v : Value} {found : Option Value}
    (h : Stands path v found) : v.path? path = found := by
  induction h with
  | @here v hv =>
      cases v with
      | null => exact absurd rfl hv
      | bool _ => rfl
      | number _ => rfl
      | string _ => rfl
      | list _ => rfl
      | object _ => rfl
  | @null path => exact path?_null path
  | absent hlookup =>
      rw [path?_object, hlookup]
      rfl
  | member hlookup _ ih =>
      rw [path?_object, hlookup]
      exact ih

/-- Inside a value of a type something or nothing stands at every path that the type has. -/
theorem exists_stands {path : List String} {s field : Schema} {v : Value}
    (hs : s.at? path = some field) (h : s.check v = .ok ()) : ∃ found, Stands path v found := by
  induction path generalizing s v with
  | nil =>
      by_cases hv : v = .null
      · exact ⟨none, hv ▸ .null⟩
      · exact ⟨some v, .here hv⟩
  | cons name rest ih =>
      obtain ⟨next, hnext, hrest⟩ := Option.bind_eq_some_iff.mp hs
      obtain ⟨members, rfl, hmembers⟩ := check_member hnext h
      cases hlookup : members.lookup name with
      | none => exact ⟨none, .absent hlookup⟩
      | some w =>
          by_cases hnull : w = .null
          · exact ⟨none, .member hlookup (hnull ▸ .null)⟩
          · obtain ⟨found, hfound⟩ := ih hrest (hmembers w hlookup hnull)
            exact ⟨found, .member hlookup hfound⟩

end Resource

namespace CloudProvider

/-- One of the indicators of the provider is among the annotations, and its value without the blanks
around it is one that the indicator accepts, up to the case of letters of ASCII. -/
def Marked (p : CloudProvider) (annotations : List (String × String)) : Prop :=
  ∃ i ∈ p.indicators, ∃ value, annotations.lookup i.key = some value ∧
    ∃ accepted ∈ i.accepted,
      (Text.trim value).toList.map Char.toLower = accepted.toList.map Char.toLower

theorem isInternal_iff {p : CloudProvider} {annotations : List (String × String)} :
    p.isInternal annotations = true ↔ p.Marked annotations := by
  have haccepts : ∀ (i : Indicator) (value : String), i.accepts value = true ↔
      ∃ accepted ∈ i.accepted,
        (Text.trim value).toList.map Char.toLower = accepted.toList.map Char.toLower := by
    intro i value
    rw [Indicator.accepts, List.any_eq_true]
    simp only [Text.sameUpToAsciiCase, beq_iff_eq]
  rw [isInternal, List.any_eq_true]
  refine exists_congr fun i => and_congr_right fun _ => ?_
  cases annotations.lookup i.key with
  | none => simp
  | some value => simp [haccepts]

/-- Only the annotations that are indicators of the provider count. -/
theorem isInternal_congr {p : CloudProvider} {annotations annotations' : List (String × String)}
    (h : ∀ i ∈ p.indicators, annotations'.lookup i.key = annotations.lookup i.key) :
    p.isInternal annotations' = p.isInternal annotations := by
  have hmarked : p.Marked annotations' ↔ p.Marked annotations :=
    exists_congr fun i => and_congr_right fun hi => by rw [h i hi]
  rw [Bool.eq_iff_iff, isInternal_iff, isInternal_iff, hmarked]

/-- No two providers have an indicator of one key. -/
theorem key_ne_key {p q : CloudProvider} (hne : p ≠ q) :
    ∀ i ∈ p.indicators, ∀ j ∈ q.indicators, i.key ≠ j.key := by
  cases p <;> cases q <;> first | exact absurd rfl hne | decide +kernel

/-- The value that is suggested to users is accepted. -/
theorem accepts_suggested (p : CloudProvider) :
    p.firstIndicator.accepts p.firstIndicator.suggested = true := by
  cases p <;> decide +kernel

end CloudProvider

namespace LoadBalancerBan

/-- A request about a service, in a namespace that is not exempt. -/
structure Governed (ban : LoadBalancerBan) (request : Request) : Prop where
  /-- The request names the core group. -/
  group : request.kind.group = ""
  /-- The request names the kind. -/
  kind : request.kind.kind = "Service"
  /-- The ban concerns the namespace. -/
  not_exempt : ∀ ns, request.namespace = some ns → ns ∉ ban.exempt.namespaces

/-- Where a service says of what type it is. -/
def typePath : List String := ["spec", "type"]

/-- Where a service keeps its annotations. -/
def annotationsPath : List String := ["metadata", "annotations"]

/-- The request with an annotation set on its object. -/
def annotate (key value : String) (request : Request) : Request :=
  { request with object := request.object.map fun object =>
      object.setAt (annotationsPath ++ [key]) (.string value) }

/-! ## Verdicts on services -/

theorem isLoadBalancer_iff {service : Value} {found : Option Value}
    (h : Resource.Stands typePath service found) :
    isLoadBalancer service = true ↔ found = some (.string "LoadBalancer") := by
  have hpath : service.path? ["spec", "type"] = found := Resource.path?_of_stands h
  rw [isLoadBalancer, Value.textAt?, hpath]
  cases found with
  | none => simp
  | some v => cases v <;> simp

theorem judgeService_eq_allow {p : CloudProvider} {service : Value} {found : Option Value}
    {texts : List (String × String)} (hfound : Resource.Stands typePath service found)
    (htexts : Holds annotationsPath service texts) :
    judgeService p service = .allow ↔ found ≠ some (.string "LoadBalancer") ∨ p.Marked texts := by
  have hannotations : annotations service = texts := Resource.textsAt_of_holds htexts
  rw [judgeService, hannotations, ← CloudProvider.isInternal_iff, ne_eq,
    ← isLoadBalancer_iff hfound]
  cases isLoadBalancer service <;> cases p.isInternal texts <;> simp [Verdict.denial]

/-- The verdict depends on the type of the service and on the indicators of the provider. -/
theorem judgeService_congr {p : CloudProvider} {service service' : Value} {found : Option Value}
    {texts texts' : List (String × String)} (hfound : Resource.Stands typePath service found)
    (hfound' : Resource.Stands typePath service' found)
    (htexts : Holds annotationsPath service texts)
    (htexts' : Holds annotationsPath service' texts')
    (h : ∀ i ∈ p.indicators, texts'.lookup i.key = texts.lookup i.key) :
    judgeService p service' = judgeService p service := by
  have hannotations : annotations service = texts := Resource.textsAt_of_holds htexts
  have hannotations' : annotations service' = texts' := Resource.textsAt_of_holds htexts'
  have htype : isLoadBalancer service' = isLoadBalancer service := by
    rw [Bool.eq_iff_iff, isLoadBalancer_iff hfound, isLoadBalancer_iff hfound']
  rw [judgeService, judgeService, htype, hannotations, hannotations',
    CloudProvider.isInternal_congr h]

/-- The words of a denial of a load balancer, for an annotation with which it would be allowed. -/
def advice (p : CloudProvider) (key value : String) : String :=
  "Services of type LoadBalancer without an internal-only annotation cannot be deployed to this "
    ++ "cluster (provider " ++ p.name ++ ": set " ++ key ++ ": \"" ++ value ++ "\")"

theorem append_suggestion (words key value : String) :
    words ++ (key ++ ": \"" ++ value ++ "\"") ++ ")" = words ++ key ++ ": \"" ++ value ++ "\")" := by
  have hend : "\"" ++ ")" = "\")" := rfl
  rw [← hend]
  simp only [String.append_assoc]

theorem reason_eq (p : CloudProvider) :
    reason p = advice p p.firstIndicator.key p.firstIndicator.suggested :=
  append_suggestion _ p.firstIndicator.key p.firstIndicator.suggested

theorem not_blank_reason (p : CloudProvider) : Text.isBlankText (reason p) = false := by
  have hend : Text.isBlankText ")" = false := by decide +kernel
  show Text.isBlankText (_ ++ ")") = false
  rw [Text.isBlankText_append, hend, Bool.and_false]

/-- A verdict other than to allow says how to be allowed. -/
theorem exists_advice {p : CloudProvider} {service : Value}
    (h : judgeService p service ≠ .allow) : ∃ reason, judgeService p service = .deny reason ∧
      reason.text = advice p p.firstIndicator.key p.firstIndicator.suggested := by
  obtain ⟨words, hdenial, htext⟩ := Verdict.denial_eq (not_blank_reason p)
  refine ⟨words, ?_, htext.trans (reason_eq p)⟩
  rw [judgeService] at h ⊢
  split at h
  next => exact absurd rfl h
  next hnot => rw [if_neg hnot, hdenial]

/-- A service that carries the suggested annotation is allowed. -/
theorem judgeService_setAt (p : CloudProvider) (service : Value) :
    judgeService p (service.setAt (annotationsPath ++ [p.firstIndicator.key])
      (.string p.firstIndicator.suggested)) = .allow := by
  have hlookup : (annotations (service.setAt (annotationsPath ++ [p.firstIndicator.key])
      (.string p.firstIndicator.suggested))).lookup p.firstIndicator.key
        = some p.firstIndicator.suggested :=
    Resource.lookup_textsAt_setAt annotationsPath p.firstIndicator.key
      p.firstIndicator.suggested service
  have hinternal : p.isInternal (annotations (service.setAt
      (annotationsPath ++ [p.firstIndicator.key]) (.string p.firstIndicator.suggested))) = true := by
    rw [CloudProvider.isInternal, List.any_eq_true]
    refine ⟨p.firstIndicator, .head _, ?_⟩
    simp only [hlookup, p.accepts_suggested]
  rw [judgeService, hinternal, Bool.or_true, if_pos rfl]

theorem check_annotated {service : Value} (key value : String)
    (h : Resource.service.check service = .ok ()) :
    Resource.service.check (service.setAt (annotationsPath ++ [key]) (.string value)) = .ok () := by
  have hentry : Resource.service.entryAt? (annotationsPath ++ [key]) = some .text := rfl
  exact Resource.check_setAt hentry rfl (.inr h)

/-! ## What the ban makes of governed requests -/

section Governed

variable {ban : LoadBalancerBan} {request : Request}

theorem Governed.annotate (h : ban.Governed request) (key value : String) :
    ban.Governed (annotate key value request) :=
  ⟨h.group, h.kind, h.not_exempt⟩

theorem Governed.judge_eq (h : ban.Governed request) :
    ban.judge request = (request.readObject Resource.service).map fun service? =>
      service?.elim (.withoutObject policyName request) (judgeService ban.provider) := by
  have hgoverns : governs request = true := by
    rw [governs, h.group, h.kind]
    rfl
  have hcovers : ban.exempt.covers request = false := by
    cases hcovers : ban.exempt.covers request with
    | false => rfl
    | true =>
        obtain ⟨ns, hns, hmem⟩ := Exemption.covers_iff.mp hcovers
        exact absurd hmem (h.not_exempt ns hns)
  rw [judge, hgoverns, hcovers]
  cases request.readObject Resource.service with
  | error f => rfl
  | ok service? => cases service? <;> rfl

theorem toPolicy_of_no_object (h : ban.Governed request) (hobject : request.object = none) :
    ∃ reason, ban.toPolicy request = .verdict (.deny reason) ∧
      reason.text = request.withoutObject policyName := by
  have hwords : Text.isBlankText (request.withoutObject policyName) = false := by
    have hend : Text.isBlankText ": the request carries no object" = false := by decide +kernel
    rw [Request.withoutObject, Text.isBlankText_append, hend, Bool.and_false]
  obtain ⟨reason, hdenial, htext⟩ := Verdict.denial_eq hwords
  refine ⟨reason, ?_, htext⟩
  rw [toPolicy, Policy.ofRule, h.judge_eq, Request.readObject, hobject, ← hdenial]
  rfl

theorem toPolicy_of_mismatch (h : ban.Governed request) {object : Value} {m : Mismatch}
    (hobject : request.object = some object) (hcheck : Resource.service.check object = .error m) :
    ban.toPolicy request = .failure (.undecodable request.kind.kind m) := by
  rw [toPolicy, Policy.ofRule, h.judge_eq, Request.readObject, hobject]
  simp only [hcheck]
  rfl

theorem toPolicy_of_service (h : ban.Governed request) {object : Value}
    (hobject : request.object = some object) (hcheck : Resource.service.check object = .ok ()) :
    ban.toPolicy request = .verdict (judgeService ban.provider object) := by
  rw [toPolicy, Policy.ofRule, h.judge_eq, Request.readObject, hobject]
  simp only [hcheck]
  rfl

end Governed

/-- What the ban makes of a request that it governs.  Without an object the request is denied, and
an object that is not a service is a failure.  A service is allowed if and only if it is no load
balancer, or one of the indicators of the provider marks it.  Otherwise the denial names the
provider and an annotation, and once that is set on the service it is allowed.  Services of one type
that agree on the indicators of the provider are judged alike, and these are not indicators of
another provider. -/
theorem judged_service {ban : LoadBalancerBan} {request : Request} (h : ban.Governed request) :
    (request.object = none → ∃ reason, ban.toPolicy request = .verdict (.deny reason) ∧
      reason.text = request.withoutObject policyName) ∧
    (∀ object m, request.object = some object → Resource.service.check object = .error m →
      ban.toPolicy request = .failure (.undecodable request.kind.kind m)) ∧
    (∀ object, request.object = some object → Resource.service.check object = .ok () →
      ∃ type? annotations, Resource.Stands typePath object type? ∧
        Holds annotationsPath object annotations ∧
        (ban.toPolicy request = .verdict .allow ↔
          type? ≠ some (.string "LoadBalancer") ∨ ban.provider.Marked annotations) ∧
        (ban.toPolicy request ≠ .verdict .allow → ∃ reason key value,
          ban.toPolicy request = .verdict (.deny reason) ∧
          reason.text = advice ban.provider key value ∧
          ban.toPolicy (annotate key value request) = .verdict .allow) ∧
        ∀ other object' annotations', ban.Governed other → other.object = some object' →
          Resource.service.check object' = .ok () → Resource.Stands typePath object' type? →
          Holds annotationsPath object' annotations' →
          (∀ i ∈ ban.provider.indicators,
            annotations'.lookup i.key = annotations.lookup i.key) →
          ban.toPolicy other = ban.toPolicy request) ∧
    ∀ q, q ≠ ban.provider → ∀ i ∈ ban.provider.indicators, ∀ j ∈ q.indicators, i.key ≠ j.key := by
  refine ⟨toPolicy_of_no_object h, fun object m => toPolicy_of_mismatch h, ?_,
    fun q hq => CloudProvider.key_ne_key hq.symm⟩
  intro object hobject hcheck
  have htypeAt : Resource.service.at? typePath = some .text := rfl
  have hannotationsAt : Resource.service.at? annotationsPath = some Resource.textTable := rfl
  obtain ⟨type?, htype⟩ := Resource.exists_stands htypeAt hcheck
  obtain ⟨annotations, hannotations⟩ := Resource.holds_of_check hannotationsAt hcheck
  have hrequest := toPolicy_of_service h hobject hcheck
  have hallow : ban.toPolicy request = .verdict .allow ↔
      judgeService ban.provider object = .allow := by
    rw [hrequest]
    exact ⟨Outcome.verdict.inj, congrArg Outcome.verdict⟩
  refine ⟨type?, annotations, htype, hannotations,
    hallow.trans (judgeService_eq_allow htype hannotations), fun hdenied => ?_, ?_⟩
  · obtain ⟨reason, hdeny, htext⟩ := exists_advice fun hjudge => hdenied (hallow.mpr hjudge)
    refine ⟨reason, _, _, hrequest.trans (congrArg Outcome.verdict hdeny), htext, ?_⟩
    rw [toPolicy_of_service (h.annotate _ _) (congrArg (Option.map _) hobject)
      (check_annotated _ _ hcheck), judgeService_setAt]
  · intro other object' annotations' hother hobject' hcheck' htype' hannotations' hagree
    rw [hrequest, toPolicy_of_service hother hobject' hcheck',
      judgeService_congr htype htype' hannotations hannotations' hagree]

/-- A load balancer without annotations. -/
def publicService : Value := .object [("spec", .object [("type", .string "LoadBalancer")])]

/-- The request to create it. -/
def publicCreation : Request where
  uid := "u"
  kind := ⟨"", "v1", "Service"⟩
  resource := ⟨"", "v1", "services"⟩
  subResource := none
  requestKind := none
  requestResource := none
  requestSubResource := none
  name := none
  «namespace» := some "default"
  operation := .create
  userInfo := none
  object := some publicService
  oldObject := none
  dryRun := none
  options := none

theorem judged_service_publicCreation : ∃ reason key value,
    LoadBalancerBan.toPolicy ⟨.aws, ⟨["edge"]⟩⟩ publicCreation = .verdict (.deny reason) ∧
    reason.text = advice .aws key value ∧
    LoadBalancerBan.toPolicy ⟨.aws, ⟨["edge"]⟩⟩ (annotate key value publicCreation)
      = .verdict .allow := by
  have hgoverned : LoadBalancerBan.Governed ⟨.aws, ⟨["edge"]⟩⟩ publicCreation :=
    ⟨rfl, rfl, by rintro ns ⟨⟩; decide⟩
  obtain ⟨type?, annotations, htype, hannotations, hallow, hadvice, -⟩ :=
    (judged_service hgoverned).2.2.1 publicService rfl rfl
  have htype : type? = some (.string "LoadBalancer") :=
    (Resource.path?_of_stands htype).symm
  have hannotations : [] = annotations := Resource.textsAt_of_holds hannotations
  refine hadvice fun hallowed => ?_
  rcases hallow.mp hallowed with hne | ⟨i, -, value, hvalue, -⟩
  · exact hne htype
  · rw [← hannotations] at hvalue
    cases hvalue

end LoadBalancerBan
end Webhook
