import Mathlib.Data.List.Induction
import Webhook.Daemon
import Webhook.Proofs.Json.Readings
import Webhook.Proofs.Routes

/-!
# The daemon's policies in their places

The daemon mounts its policies on paths that are fixed, but for the names of the providers that it
is told of.  These paths are literal and all different, so once the settings are read nothing can go
wrong with the routes (`routes_inv`, `exists_router`).

A call on one of the paths is then answered with the verdict that the policy of that place gives
when it is asked directly (`answers_directly`).
-/

namespace Webhook.Daemon

open CommandLine (Settings)
open Http (Router)
open Http.RoutePath (IsLiteral letters)

/-! ## Settings that are read -/

theorem eraseDups_concat {α : Type} [BEq α] [LawfulBEq α] (xs : List α) (x : α) :
    (xs ++ [x]).eraseDups = if x ∈ xs then xs.eraseDups else xs.eraseDups ++ [x] := by
  have hone : [x].eraseDups = [x] := rfl
  rw [List.eraseDups_append]
  split <;> simp_all [List.removeAll]

/-- The items of a list, each of them once, stand in the order of their first places. -/
theorem pairwise_idxOf_eraseDups {α : Type} [BEq α] [LawfulBEq α] (xs : List α) :
    xs.eraseDups.Pairwise fun x y => xs.idxOf x < xs.idxOf y := by
  induction xs using List.reverseRecOn with
  | nil => exact .nil
  | append_singleton xs x ih =>
      have hkept : xs.eraseDups.Pairwise fun y z => (xs ++ [x]).idxOf y < (xs ++ [x]).idxOf z :=
        ih.imp_of_mem fun hy hz hlt => by
          rwa [List.idxOf_append_of_mem (List.mem_eraseDups.mp hy),
            List.idxOf_append_of_mem (List.mem_eraseDups.mp hz)]
      rw [eraseDups_concat]
      split
      · exact hkept
      next hnew =>
        refine List.pairwise_append.mpr ⟨hkept, List.pairwise_singleton _ _, ?_⟩
        intro y hy z hz
        have hmem := List.mem_eraseDups.mp hy
        rw [List.mem_singleton.mp hz, List.idxOf_append_of_mem hmem,
          List.idxOf_append_of_notMem hnew]
        exact Nat.lt_of_lt_of_le (List.idxOf_lt_length_of_mem hmem) (Nat.le_add_right _ _)

theorem nodup_eraseDups {α : Type} [BEq α] [LawfulBEq α] (xs : List α) : xs.eraseDups.Nodup := by
  refine (pairwise_idxOf_eraseDups xs).imp ?_
  rintro x _ hlt rfl
  exact Nat.lt_irrefl _ hlt

theorem nodup_providers {settings : Settings} {ps : List CloudProvider}
    (h : providers settings = .ok ps) : ps.Nodup := by
  obtain ⟨parsed, -, rfl⟩ := Json.map_eq_ok h
  exact nodup_eraseDups parsed

/-- A provider that the settings name is among those that are served. -/
theorem mem_providers {settings : Settings} {ps : List CloudProvider} {text : String}
    {p : CloudProvider} (h : providers settings = .ok ps) (htext : text ∈ settings.providers)
    (hp : CloudProvider.parse text = .ok p) : p ∈ ps := by
  obtain ⟨parsed, hparsed, rfl⟩ := Json.map_eq_ok h
  obtain ⟨p', hmem, hp'⟩ := Json.exists_of_mem_forall₂ (Json.forall₂_of_mapM hparsed) htext
  rw [List.mem_eraseDups, Except.ok.inj (hp.symm.trans hp')]
  exact hmem

/-! ## Places -/

/-- The policies in their places, from settings that are read. -/
def placed (settings : Settings) (ps : List CloudProvider) (policy : PodAnnotations) :
    List Placement :=
  [.ingresses settings] ++ ps.map (.balancers settings) ++ [.annotations policy]

theorem ingresses_mem_placed {settings : Settings} {ps : List CloudProvider}
    {policy : PodAnnotations} : .ingresses settings ∈ placed settings ps policy :=
  List.mem_append_left _ (List.mem_append_left _ (.head _))

theorem balancers_mem_placed {settings : Settings} {ps : List CloudProvider}
    {policy : PodAnnotations} {p : CloudProvider} (h : p ∈ ps) :
    .balancers settings p ∈ placed settings ps policy :=
  List.mem_append_left _ (List.mem_append_right _ (List.mem_map_of_mem h))

theorem annotations_mem_placed {settings : Settings} {ps : List CloudProvider}
    {policy : PodAnnotations} : .annotations policy ∈ placed settings ps policy :=
  List.mem_append_right _ (.head _)

/-- There are no other policies. -/
theorem mem_placed_inv {settings : Settings} {ps : List CloudProvider} {policy : PodAnnotations}
    {place : Placement} (h : place ∈ placed settings ps policy) :
    place = .ingresses settings ∨ (∃ p ∈ ps, place = .balancers settings p) ∨
      place = .annotations policy := by
  rcases List.mem_append.mp h with h | h
  · rcases List.mem_append.mp h with h | h
    · exact .inl (List.mem_singleton.mp h)
    · obtain ⟨p, hp, rfl⟩ := List.mem_map.mp h
      exact .inr (.inl ⟨p, hp, rfl⟩)
  · exact .inr (.inr (List.mem_singleton.mp h))

theorem eq_ok_of_mapError {ε ε' α : Type} {f : ε → ε'} {x : Except ε α} {a : α}
    (h : x.mapError f = .ok a) : x = .ok a := by
  cases x with
  | error e => cases h
  | ok b => exact congrArg Except.ok (Except.ok.inj h)

/-- The routes are there only when the settings are read, and then all policies are mounted. -/
theorem routes_inv {settings : Settings} {rs : Routes} (h : routes settings = .ok rs) :
    ∃ ps policy, providers settings = .ok ps ∧ annotationPolicy settings = .ok policy ∧
      mountAll (.new (banner settings)) (placed settings ps policy) = .ok rs := by
  obtain ⟨mounted, hmount, h⟩ := Json.bind_eq_ok h
  obtain ⟨⟨⟩, hread, h⟩ := Json.bind_eq_ok h
  obtain rfl := Except.ok.inj h
  replace hmount := eq_ok_of_mapError hmount
  replace hread := eq_ok_of_mapError hread
  rw [placements] at hmount hread
  cases hps : providers settings with
  | error e =>
      rw [hps] at hread
      cases hread
  | ok ps =>
      rw [hps] at hmount hread
      cases hpolicy : annotationPolicy settings with
      | error e =>
          rw [hpolicy] at hread
          cases hread
      | ok policy =>
          rw [hpolicy] at hmount
          exact ⟨ps, policy, rfl, rfl, hmount⟩

/-! ## Paths -/

theorem path_ingresses (settings : Settings) :
    (Placement.ingresses settings).path = "/admission-control/deny-ingresses" := rfl

theorem path_balancers (settings : Settings) (p : CloudProvider) :
    (Placement.balancers settings p).path
      = "/admission-control/deny-public-services/" ++ p.name := by
  cases p <;> rfl

theorem path_annotations (policy : PodAnnotations) :
    (Placement.annotations policy).path = "/admission-control/enforce-pod-annotations" := rfl

/-- A path that can be mounted beside the index and the health check. -/
def MayServe (path : String) : Prop :=
  Router.textFault? path.toList = none ∧ IsLiteral path ∧ path ≠ Routes.indexPath ∧
    path ≠ Routes.healthPath

instance (path : String) : Decidable (MayServe path) :=
  inferInstanceAs (Decidable (_ ∧ _ ∧ _ ∧ _))

theorem mayServe_balancers : ∀ p : CloudProvider,
    MayServe ("/admission-control/deny-public-services/" ++ p.name)
  | .gcp => by decide +kernel
  | .azure => by decide +kernel
  | .aws => by decide +kernel

theorem mayServe_placed {settings : Settings} {ps : List CloudProvider} {policy : PodAnnotations} :
    ∀ place ∈ placed settings ps policy, MayServe place.path := by
  intro place hplace
  rcases mem_placed_inv hplace with rfl | ⟨p, -, rfl⟩ | rfl
  · rw [path_ingresses]
    decide +kernel
  · rw [path_balancers]
    exact mayServe_balancers p
  · rw [path_annotations]
    decide +kernel

theorem balancers_path_ne : ∀ p : CloudProvider,
    "/admission-control/deny-public-services/" ++ p.name ≠ "/admission-control/deny-ingresses" ∧
      "/admission-control/deny-public-services/" ++ p.name
        ≠ "/admission-control/enforce-pod-annotations"
  | .gcp => by decide +kernel
  | .azure => by decide +kernel
  | .aws => by decide +kernel

theorem balancers_path_injective {p p' : CloudProvider}
    (h : "/admission-control/deny-public-services/" ++ p.name
      = "/admission-control/deny-public-services/" ++ p'.name) : p = p' := by
  cases p <;> cases p' <;> first | rfl | exact absurd h (by decide +kernel)

theorem nodup_paths {settings : Settings} {ps : List CloudProvider} {policy : PodAnnotations}
    (h : ps.Nodup) : ((placed settings ps policy).map Placement.path).Nodup := by
  have hbalancers : ((ps.map (Placement.balancers settings)).map Placement.path).Nodup := by
    rw [List.map_map]
    refine h.map fun p p' heq => ?_
    simp only [Function.comp_apply, path_balancers] at heq
    exact balancers_path_injective heq
  have hother : ∀ path ∈ (ps.map (Placement.balancers settings)).map Placement.path,
      path ≠ "/admission-control/deny-ingresses" ∧
        path ≠ "/admission-control/enforce-pod-annotations" := by
    intro path hpath
    obtain ⟨place, hplace, rfl⟩ := List.mem_map.mp hpath
    obtain ⟨p, -, rfl⟩ := List.mem_map.mp hplace
    rw [path_balancers]
    exact balancers_path_ne p
  rw [placed, List.map_append, List.map_append, List.nodup_append, List.nodup_append]
  refine ⟨⟨List.nodup_singleton _, hbalancers, ?_⟩, List.nodup_singleton _, ?_⟩
  · intro path hpath path' hpath' heq
    rw [List.map_singleton, List.mem_singleton, path_ingresses] at hpath
    exact (hother path' hpath').1 (heq ▸ hpath)
  · intro path hpath path' hpath' heq
    rw [List.map_singleton, List.mem_singleton, path_annotations] at hpath'
    rcases List.mem_append.mp hpath with hpath | hpath
    · rw [List.map_singleton, List.mem_singleton, path_ingresses] at hpath
      rw [hpath, hpath'] at heq
      exact absurd heq (by decide +kernel)
    · exact (hother path hpath).2 (heq.trans hpath')

/-! ## Mounting -/

/-- Policies with different paths, all of them new, are mounted one after the other. -/
theorem mountAll_placed : ∀ (rs : Routes) {places : List Placement}, rs.router.Literal →
    (∀ place ∈ places, MayServe place.path) → (places.map Placement.path).Nodup →
    (∀ place ∈ places, ∀ m ∈ rs.router.mounts, m.path ≠ place.path) →
    ∃ rs', mountAll rs places = .ok rs' ∧ rs'.router.Literal ∧
      rs'.router.mounts = rs.router.mounts ++
        places.map fun place => Routes.mountOf place.path place.handler
  | rs, [], hliteral, _, _, _ => ⟨rs, rfl, hliteral, (List.append_nil _).symm⟩
  | rs, place :: places, hliteral, hserve, hnodup, hnew => by
      obtain ⟨hfirst, hrest⟩ := List.nodup_cons.mp hnodup
      obtain ⟨htext, hpath, -, -⟩ := hserve place (.head _)
      have hnewFirst := hnew place (.head _)
      have hstep := Routes.admission_literal hliteral place.handler htext hpath hnewFirst
      have hnewRest : ∀ place' ∈ places,
          ∀ m ∈ (rs.withHandler place.path place.handler).router.mounts, m.path ≠ place'.path := by
        intro place' hplace' m hm
        rcases List.mem_append.mp hm with hm | hm
        · exact hnew place' (.tail _ hplace') m hm
        · rw [List.mem_singleton.mp hm]
          intro heq
          exact hfirst (List.mem_map.mpr ⟨place', hplace', heq.symm⟩)
      obtain ⟨rs', hmount, hliteral', hmounts⟩ := mountAll_placed _
        (hliteral.withMount .post _ hnewFirst) (fun p hp => hserve p (.tail _ hp)) hrest hnewRest
      refine ⟨rs', ?_, hliteral', ?_⟩
      · rw [mountAll, List.foldlM_cons, hstep]
        exact hmount
      · rw [hmounts]
        exact List.append_assoc _ _ _

/-- Once the settings are read, the routes can be finished, and each policy is found on its path. -/
theorem exists_router {settings : Settings} {rs : Routes} (h : routes settings = .ok rs) :
    ∃ ps policy router, providers settings = .ok ps ∧ annotationPolicy settings = .ok policy ∧
      rs.toRouter = .ok router ∧ ∀ place ∈ placed settings ps policy,
        router.lookup "POST" place.path = .found (.admission place.path place.handler) := by
  obtain ⟨ps, policy, hps, hpolicy, hmount⟩ := routes_inv h
  have hserve : ∀ place ∈ placed settings ps policy, MayServe place.path := mayServe_placed
  obtain ⟨rs', hmount', hliteral, hmounts⟩ := mountAll_placed (.new (banner settings))
    Router.literal_empty hserve (nodup_paths (nodup_providers hps))
    (fun _ _ _ hm => absurd hm List.not_mem_nil)
  obtain rfl : rs' = rs := Except.ok.inj (hmount'.symm.trans hmount)
  have hmountOf : ∀ place ∈ placed settings ps policy,
      Routes.mountOf place.path place.handler ∈ rs'.router.mounts := by
    intro place hplace
    rw [hmounts]
    exact List.mem_append_right _ (List.mem_map.mpr ⟨place, hplace, rfl⟩)
  have hserved : ∀ m ∈ rs'.router.mounts, MayServe m.path := by
    intro m hm
    rw [hmounts] at hm
    obtain ⟨place, hplace, rfl⟩ := List.mem_map.mp hm
    exact hserve place hplace
  obtain ⟨router, hrouter, hliteral', hsub⟩ := Routes.toRouter_literal hliteral
    (fun m hm => (hserved m hm).2.2.1) (fun m hm => (hserved m hm).2.2.2)
  refine ⟨ps, policy, router, hps, hpolicy, hrouter, fun place hplace => ?_⟩
  exact Routes.lookup_mountOf hliteral' (hsub _ (hmountOf place hplace))

/-! ## Answers -/

/-- When the settings are read, a call that carries a review is answered on the path of each policy
with the verdict of that policy, set up from its own settings and asked directly, and no other
policy is asked.  Where the policy gives none, the request is denied in its name. -/
theorem answers_directly {settings : Settings} {rs : Routes} (h : routes settings = .ok rs) :
    ∃ router required, rs.toRouter = .ok router ∧
      settings.requiredAnnotations.mapM parseRequirement = .ok required ∧
      ∀ (request : Http.Request) (review : Review), request.method = "POST" →
        Http.MediaType.isJson (request.headers.text "content-type") = true →
        request.body.length ≤ 8 * 1024 * 1024 → Review.decode request.body = .ok review →
        (request.path = "/admission-control/deny-ingresses" →
          (router.answer request).Gives "deny-ingresses" review
            (((KindBan.ingresses ⟨settings.ingressNamespaces⟩).toPolicy review.request).verdictFor
              "deny-ingresses")) ∧
        (∀ text ∈ settings.providers, ∀ p, CloudProvider.parse text = .ok p →
          request.path = "/admission-control/deny-public-services/" ++ p.name →
          (router.answer request).Gives ("deny-public-services-" ++ p.name) review
            ((LoadBalancerBan.toPolicy ⟨p, ⟨settings.serviceNamespaces⟩⟩
              review.request).verdictFor ("deny-public-services-" ++ p.name))) ∧
        (request.path = "/admission-control/enforce-pod-annotations" →
          (router.answer request).Gives "enforce-pod-annotations" review
            (((PodAnnotations.ofList ⟨settings.podNamespaces⟩ required).toPolicy
              review.request).verdictFor "enforce-pod-annotations")) := by
  obtain ⟨ps, policy, router, hps, hpolicy, hrouter, hfound⟩ := exists_router h
  obtain ⟨required, hrequired, rfl⟩ := Json.map_eq_ok hpolicy
  refine ⟨router, required, hrouter, hrequired, ?_⟩
  intro request review hmethod hjson hlength hdecode
  have hanswer : ∀ place ∈ placed settings ps (.ofList ⟨settings.podNamespaces⟩ required),
      request.path = place.path → (router.answer request).Gives place.name review
        ((place.policy review.request).verdictFor place.name) := fun place hplace hpath =>
    Router.answer_admission (hfound place hplace) hmethod hpath hjson hlength hdecode
  refine ⟨fun hpath => ?_, fun text htext p hp hpath => ?_, fun hpath => ?_⟩
  · exact hanswer _ ingresses_mem_placed hpath
  · rw [← path_balancers settings] at hpath
    exact hanswer _ (balancers_mem_placed (mem_providers hps htext hp)) hpath
  · exact hanswer _ annotations_mem_placed hpath

/-- Settings that name one provider, not as it is usually written, and one namespace. -/
def sampleSettings : Settings :=
  { Settings.ofGiven .nothing with providers := [" AWS"], serviceNamespaces := ["ops"] }

/-- A call about a load balancer outside that namespace. -/
def sampleCall : Http.Request where
  method := "POST"
  target := .mk "/admission-control/deny-public-services/aws?timeout=10s"
  headers := [Http.contentType Http.jsonMediaType]
  body :=
    ["\x7b\"apiVersion\":\"admission.k8s.io/v1\",", "\"kind\":\"AdmissionReview\",",
      "\"request\":\x7b\"uid\":\"u\",", "\"kind\":\x7b\"kind\":\"Service\"\x7d,\"resource\":\x7b\x7d,",
      "\"namespace\":\"web\",\"operation\":\"CREATE\",",
      "\"object\":\x7b\"spec\":\x7b\"type\":\"LoadBalancer\"\x7d\x7d\x7d\x7d"].flatMap Utf8.encode

theorem answers_directly_sample : ∃ rs router review, routes sampleSettings = .ok rs ∧
    rs.toRouter = .ok router ∧ Review.decode sampleCall.body = .ok review ∧
    (router.answer sampleCall).Gives "deny-public-services-aws" review
      ((LoadBalancerBan.toPolicy ⟨.aws, ⟨["ops"]⟩⟩ review.request).verdictFor
        "deny-public-services-aws") := by
  obtain ⟨rs, h⟩ := Json.eq_ok_of_isSome (x := routes sampleSettings) (by decide +kernel)
  obtain ⟨review, hdecode⟩ := Json.eq_ok_of_isSome (x := Review.decode sampleCall.body)
    (by decide +kernel)
  obtain ⟨router, _, hrouter, -, hanswers⟩ := answers_directly h
  obtain ⟨-, hbalancers, -⟩ := hanswers sampleCall review rfl (by decide +kernel)
    (by decide +kernel) hdecode
  exact ⟨rs, router, review, h, hrouter, hdecode,
    hbalancers " AWS" (.head _) .aws (by decide +kernel) (by decide +kernel)⟩

end Webhook.Daemon
