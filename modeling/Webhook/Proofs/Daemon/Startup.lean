import Webhook.Daemon.Run
import Webhook.Proofs.Daemon.Wiring

/-!
# All or nothing at the start

The daemon reads the providers that it is told of, and then the requirements on annotations.  The
first one that cannot be read ends the start (`FirstOf`): `routes_eq_error_iff` says when, and with
what fault.  No files are read by then, and no server is made.

Until then policies are mounted one after the other, and that never goes wrong, since their paths
are all different (`exists_mounted`).  A provider that is named several times, however it is
spelled, counts where it is named first (`FirstNamed`).  This is where the paths of the daemon come
from, and `start_all_or_nothing` puts both outcomes together.
-/

namespace Webhook

/-! ## Names of providers -/

namespace CloudProvider

/-- Whether a text names a provider.  Blanks around it and the case of its letters do not matter. -/
def isNamedBy (p : CloudProvider) (text : String) : Bool :=
  Text.sameUpToAsciiCase p.name (Text.trim text)

theorem eq_of_isNamedBy {p q : CloudProvider} {text : String} (hp : p.isNamedBy text = true)
    (hq : q.isNamedBy text = true) : p = q := by
  have hsame : p.name.toList.map Char.toLower = q.name.toList.map Char.toLower :=
    (eq_of_beq hp).trans (eq_of_beq hq).symm
  cases p <;> cases q <;> first | rfl | exact absurd hsame (by decide +kernel)

theorem mem_all : ∀ p : CloudProvider, p ∈ all
  | gcp => .head _
  | azure => .tail _ (.head _)
  | aws => .tail _ (.tail _ (.head _))

theorem parse_eq_ok {text : String} {p : CloudProvider} :
    parse text = .ok p ↔ p.isNamedBy text = true := by
  rw [parse]
  cases h : ofName? text with
  | none =>
      have hfind : all.find? (isNamedBy · text) = none := h
      exact iff_of_false (by simp) (List.find?_eq_none.mp hfind p (mem_all p))
  | some q =>
      have hfind : all.find? (isNamedBy · text) = some q := h
      have hq := List.find?_some hfind
      constructor
      · rintro ⟨⟩
        exact hq
      · intro hp
        rw [eq_of_isNamedBy hp hq]

end CloudProvider

/-- A text names none of the providers, and the error says so. -/
def UnknownProvider (text : String) (e : ConfigError) : Prop :=
  (∀ p : CloudProvider, p.isNamedBy text = false) ∧ e = .unknownProvider text

theorem CloudProvider.parse_eq_error {text : String} {e : ConfigError} :
    parse text = .error e ↔ UnknownProvider text e := by
  cases hparse : parse text with
  | ok p =>
      have hp := parse_eq_ok.mp hparse
      refine iff_of_false (by simp) fun h => ?_
      simp [h.1 p] at hp
  | error e' =>
      have hnone : ∀ p : CloudProvider, p.isNamedBy text = false := by
        intro p
        cases hp : p.isNamedBy text with
        | false => rfl
        | true => simp [parse_eq_ok.mpr hp] at hparse
      have he' : e' = .unknownProvider text := by
        rw [parse] at hparse
        split at hparse <;> cases hparse
        rfl
      rw [he']
      constructor
      · rintro ⟨⟩
        exact ⟨hnone, rfl⟩
      · rintro ⟨-, rfl⟩
        rfl

namespace Daemon

open CommandLine (Settings)
open Http (Router)

/-! ## What is wrong first -/

/-- What is wrong with the first text with which something is wrong. -/
inductive FirstOf (wrong : String → ConfigError → Prop) : List String → ConfigError → Prop where
  /-- It is the text in front. -/
  | here {text : String} {e : ConfigError} (texts : List String) (h : wrong text e) :
    FirstOf wrong (text :: texts) e
  /-- The text in front is fine. -/
  | later {text : String} {texts : List String} {e : ConfigError} (h : ∀ e', ¬ wrong text e')
    (hs : FirstOf wrong texts e) : FirstOf wrong (text :: texts) e

/-- Something is wrong with one of the texts. -/
theorem exists_firstOf {wrong : String → ConfigError → Prop} {texts : List String} :
    (∃ e, FirstOf wrong texts e) ↔ ∃ text ∈ texts, ∃ e, wrong text e := by
  induction texts with
  | nil =>
      constructor
      · intro ⟨e, h⟩
        cases h
      · intro ⟨text, hmem, h⟩
        cases hmem
  | cons text texts ih =>
      constructor
      · intro ⟨e, h⟩
        cases h with
        | here _ h => exact ⟨text, .head _, e, h⟩
        | later _ hs =>
            obtain ⟨text', hmem, h⟩ := ih.mp ⟨e, hs⟩
            exact ⟨text', .tail _ hmem, h⟩
      · intro ⟨text', hmem, h⟩
        by_cases hfront : ∃ e, wrong text e
        · obtain ⟨e, he⟩ := hfront
          exact ⟨e, .here _ he⟩
        · rcases List.mem_cons.mp hmem with rfl | hmem
          · exact absurd h hfront
          · obtain ⟨e, hs⟩ := ih.mpr ⟨text', hmem, h⟩
            exact ⟨e, .later (fun e' he' => hfront ⟨e', he'⟩) hs⟩

/-- Reading texts in turn ends with what is wrong first. -/
theorem mapM_eq_error_iff {α : Type} {read : String → Except ConfigError α}
    {wrong : String → ConfigError → Prop} (hwrong : ∀ text e, read text = .error e ↔ wrong text e)
    {e : ConfigError} {texts : List String} :
    texts.mapM read = .error e ↔ FirstOf wrong texts e := by
  induction texts with
  | nil => exact iff_of_false (by intro h; cases h) (by intro h; cases h)
  | cons text texts ih =>
      rw [List.mapM_cons]
      cases hread : read text with
      | error e' =>
          have hfront : wrong text e' := (hwrong text e').mp hread
          show Except.error e' = .error e ↔ _
          constructor
          · intro h
            cases h
            exact .here _ hfront
          · intro h
            cases h with
            | here _ h =>
                have hsame := hread.symm.trans ((hwrong text e).mpr h)
                exact congrArg _ (Except.error.inj hsame)
            | later h _ => exact absurd hfront (h e')
      | ok a =>
          have hfront : ∀ e', ¬ wrong text e' := by
            intro e' h
            simp [(hwrong text e').mpr h] at hread
          constructor
          · intro h
            refine .later hfront (ih.mp ?_)
            cases htexts : texts.mapM read with
            | error e' => rw [htexts] at h; exact h
            | ok as => rw [htexts] at h; cases h
          · intro h
            cases h with
            | here _ h => exact absurd h (hfront e)
            | later _ hs =>
                rw [ih.mpr hs]
                rfl

/-! ## Providers in order -/

/-- The providers that texts name, in the order in which each of them is named first. -/
structure FirstNamed (texts : List String) (ps : List CloudProvider) : Prop where
  /-- They are those that are named. -/
  named : ∀ p, p ∈ ps ↔ ∃ text ∈ texts, p.isNamedBy text = true
  /-- One that stands before another one is named first. -/
  ordered : ps.Pairwise fun p q => texts.findIdx p.isNamedBy < texts.findIdx q.isNamedBy

theorem findIdx_isNamedBy {texts : List String} {parsed : List CloudProvider}
    (h : List.Forall₂ (fun text p => CloudProvider.parse text = .ok p) texts parsed)
    (p : CloudProvider) : texts.findIdx p.isNamedBy = parsed.idxOf p := by
  induction h with
  | nil => rfl
  | @cons text q texts parsed hq _ ih =>
      have hsame : p.isNamedBy text = (q == p) := by
        rw [Bool.eq_iff_iff, ← CloudProvider.parse_eq_ok, hq, beq_iff_eq, Except.ok.injEq]
      rw [List.findIdx_cons, List.idxOf_cons, hsame, ih]

theorem firstNamed_providers {settings : Settings} {ps : List CloudProvider}
    (h : providers settings = .ok ps) : FirstNamed settings.providers ps := by
  obtain ⟨parsed, hparsed, rfl⟩ := Json.map_eq_ok h
  have hall := Json.forall₂_of_mapM hparsed
  constructor
  · intro p
    rw [List.mem_eraseDups]
    constructor
    · intro hp
      obtain ⟨text, htext, hread⟩ := Json.exists_of_mem_forall₂ hall.flip hp
      exact ⟨text, htext, CloudProvider.parse_eq_ok.mp hread⟩
    · rintro ⟨text, htext, hp⟩
      obtain ⟨q, hq, hread⟩ := Json.exists_of_mem_forall₂ hall htext
      rwa [← Except.ok.inj (hread.symm.trans (CloudProvider.parse_eq_ok.mpr hp))]
  · simp only [findIdx_isNamedBy hall]
    exact pairwise_idxOf_eraseDups parsed

/-! ## Mounting -/

/-- What is mounted before something turns out to be wrong is the beginning of what is mounted when
nothing is. -/
theorem exists_placed (settings : Settings) : ∃ ps policy, ps.Nodup ∧
    (placements settings).1 <+: placed settings ps policy := by
  rw [placements]
  cases hps : providers settings with
  | error e => exact ⟨[], .ofList ⟨[]⟩ [], List.nodup_nil, List.prefix_append _ _⟩
  | ok ps =>
      have hnodup := nodup_providers hps
      cases annotationPolicy settings with
      | error e => exact ⟨ps, .ofList ⟨[]⟩ [], hnodup, List.prefix_append _ _⟩
      | ok policy => exact ⟨ps, policy, hnodup, List.prefix_rfl⟩

/-- Mounting never goes wrong, whatever the settings are. -/
theorem exists_mounted (settings : Settings) :
    ∃ rs, mountAll (.new (banner settings)) (placements settings).1 = .ok rs := by
  obtain ⟨ps, policy, hnodup, hbegins⟩ := exists_placed settings
  obtain ⟨rs, hmount, -⟩ := mountAll_placed (.new (banner settings)) Router.literal_empty
    (fun place hplace => mayServe_placed place (hbegins.subset hplace))
    ((nodup_paths hnodup).sublist (hbegins.sublist.map _))
    (fun _ _ _ hm => absurd hm List.not_mem_nil)
  exact ⟨rs, hmount⟩

/-- The paths are listed as they are mounted. -/
theorem paths_mountAll : ∀ {places : List Placement} {rs rs' : Routes},
    mountAll rs places = .ok rs' → rs'.paths = rs.paths ++ places.map Placement.path
  | [], _, _, h => by
      cases h
      exact (List.append_nil _).symm
  | place :: places, rs, rs', h => by
      rw [mountAll, List.foldlM_cons] at h
      obtain ⟨next, hnext, h⟩ := Json.bind_eq_ok h
      obtain ⟨router, -, hnext⟩ := Json.bind_eq_ok hnext
      cases hnext
      rw [paths_mountAll h, List.map_cons]
      exact List.append_assoc _ [place.path] _

/-! ## The start -/

/-- What is wrong with the settings: with the first provider that cannot be read, or else with the
first requirement. -/
def IsWrong (settings : Settings) (e : ConfigError) : Prop :=
  FirstOf UnknownProvider settings.providers e ∨
    (∀ text ∈ settings.providers, ∃ p : CloudProvider, p.isNamedBy text = true) ∧
      FirstOf (fun text e => parseRequirement text = .error e) settings.requiredAnnotations e

theorem map_eq_error_iff {ε α β : Type} {f : α → β} {x : Except ε α} {e : ε} :
    x.map f = .error e ↔ x = .error e := by
  cases x <;> simp [Except.map]

theorem providers_eq_error_iff {settings : Settings} {e : ConfigError} :
    providers settings = .error e ↔ FirstOf UnknownProvider settings.providers e :=
  map_eq_error_iff.trans (mapM_eq_error_iff fun _ _ => CloudProvider.parse_eq_error)

theorem annotationPolicy_eq_error_iff {settings : Settings} {e : ConfigError} :
    annotationPolicy settings = .error e ↔
      FirstOf (fun text e => parseRequirement text = .error e) settings.requiredAnnotations e :=
  map_eq_error_iff.trans (mapM_eq_error_iff fun _ _ => Iff.rfl)

theorem placements_eq_error_iff {settings : Settings} {e : ConfigError} :
    (placements settings).2 = .error e ↔ IsWrong settings e := by
  rw [IsWrong, ← providers_eq_error_iff, ← annotationPolicy_eq_error_iff, placements]
  cases hps : providers settings with
  | error e' =>
      obtain ⟨text, htext, _, hnone, -⟩ := exists_firstOf.mp ⟨e', providers_eq_error_iff.mp hps⟩
      constructor
      · rintro ⟨⟩
        exact .inl rfl
      · rintro (⟨⟨⟩⟩ | ⟨hall, -⟩)
        · rfl
        · obtain ⟨p, hp⟩ := hall text htext
          simp [hnone p] at hp
  | ok ps =>
      have hall : ∀ text ∈ settings.providers, ∃ p : CloudProvider, p.isNamedBy text = true := by
        intro text htext
        obtain ⟨parsed, hparsed, -⟩ := Json.map_eq_ok hps
        obtain ⟨p, -, hp⟩ := Json.exists_of_mem_forall₂ (Json.forall₂_of_mapM hparsed) htext
        exact ⟨p, CloudProvider.parse_eq_ok.mp hp⟩
      cases annotationPolicy settings with
      | error e' => simpa using fun _ => hall
      | ok policy => simp

/-- The routes are there unless something is wrong with the settings. -/
theorem routes_eq_error_iff {settings : Settings} {f : Fault} :
    routes settings = .error f ↔ ∃ e, IsWrong settings e ∧ f = .config e := by
  obtain ⟨rs, hmount⟩ := exists_mounted settings
  have hroutes : routes settings
      = ((placements settings).2.mapError Fault.config).map fun _ => rs := by
    rw [routes, hmount]
    cases (placements settings).2 <;> rfl
  simp only [hroutes, ← placements_eq_error_iff]
  cases (placements settings).2 with
  | error e =>
      constructor
      · rintro ⟨⟩
        exact ⟨e, rfl, rfl⟩
      · rintro ⟨_, ⟨⟩, rfl⟩
        rfl
  | ok _ => exact iff_of_false (by rintro ⟨⟩) (by rintro ⟨_, ⟨⟩, _⟩)

theorem exists_isWrong {settings : Settings} : (∃ e, IsWrong settings e) ↔
    (∃ text ∈ settings.providers, ∀ p : CloudProvider, p.isNamedBy text = false) ∨
      ∃ text ∈ settings.requiredAnnotations, ∃ e, parseRequirement text = .error e := by
  have hproviders : (∃ e, FirstOf UnknownProvider settings.providers e) ↔
      ∃ text ∈ settings.providers, ∀ p : CloudProvider, p.isNamedBy text = false := by
    simp only [exists_firstOf, UnknownProvider, exists_and_left, exists_eq, and_true]
  rw [← hproviders, ← exists_firstOf]
  constructor
  · rintro ⟨e, h | ⟨-, h⟩⟩
    · exact .inl ⟨e, h⟩
    · exact .inr ⟨e, h⟩
  · rintro (⟨e, h⟩ | ⟨e, h⟩)
    · exact ⟨e, .inl h⟩
    -- a provider that is not known hides what is wrong with the requirements
    · by_cases hall : ∀ text ∈ settings.providers, ∃ p : CloudProvider, p.isNamedBy text = true
      · exact ⟨e, .inr ⟨hall, h⟩⟩
      · have hbad : ∃ text ∈ settings.providers, ∀ p : CloudProvider, p.isNamedBy text = false := by
          simpa using hall
        obtain ⟨e', he'⟩ := hproviders.mpr hbad
        exact ⟨e', .inl he'⟩

/-- What comes of a start that something is wrong with. -/
structure GivesUp (settings : Settings) (f : Fault) : Prop where
  /-- The fault is that of the first provider that cannot be read, or else of the first
  requirement. -/
  fault : ∃ e, IsWrong settings e ∧ f = .config e
  /-- No server is made, whatever the files are. -/
  server : ∀ files, server settings files = .error (.setup f)
  /-- The daemon ends with the fault, wherever it runs. -/
  run : ∀ around, run settings around = (startLog settings, some (.setup f))
  /-- It has not recorded anything about a server. -/
  log : ∀ e ∈ startLog settings, ∀ host tls, e.event ≠ .serverConfigured host tls

/-- What comes of a start that nothing is wrong with. -/
structure SetsUp (settings : Settings) (rs : Routes) : Prop where
  /-- The paths are fixed but for the providers, of which each has one. -/
  paths : ∃ ps, FirstNamed settings.providers ps ∧
    rs.paths = ["/", "/healthz", "/admission-control/deny-ingresses"]
      ++ ps.map (fun p => "/admission-control/deny-public-services/" ++ p.name)
      ++ ["/admission-control/enforce-pod-annotations"]
  /-- They are all different. -/
  nodup : rs.paths.Nodup
  /-- The routes can be finished. -/
  router : ∃ router, rs.toRouter = .ok router

/-- What is recorded up to then is about policies only. -/
theorem ne_serverConfigured_of_mem_startLog {settings : Settings} {e : LogEntry}
    (he : e ∈ startLog settings) (host : String) (tls : Bool) :
    e.event ≠ .serverConfigured host tls := by
  obtain ⟨event, hevent, rfl⟩ := List.mem_map.mp he
  obtain ⟨place, hplace, hevent⟩ := List.mem_flatMap.mp hevent
  obtain ⟨ps, policy, -, hbegins⟩ := exists_placed settings
  show event ≠ _
  rintro rfl
  rcases List.mem_append.mp hevent with hnotice | hmounted
  · have hnotice : place.notice = some (.serverConfigured host tls) := Option.mem_toList.mp hnotice
    rcases mem_placed_inv (hbegins.subset hplace) with rfl | ⟨p, -, rfl⟩ | rfl <;> cases hnotice
  · cases List.mem_singleton.mp hmounted

theorem givesUp_of_error {settings : Settings} {f : Fault} (h : routes settings = .error f) :
    GivesUp settings f := by
  have hserver : ∀ files, server settings files = .error (.setup f) := by
    intro files
    rw [server, h]
    rfl
  refine ⟨routes_eq_error_iff.mp h, hserver, fun around => ?_,
    fun e => ne_serverConfigured_of_mem_startLog⟩
  rw [run, launch, hserver]

theorem setsUp_of_ok {settings : Settings} {rs : Routes} (h : routes settings = .ok rs) :
    SetsUp settings rs := by
  obtain ⟨ps, policy, hps, -, hmount⟩ := routes_inv h
  have hpaths : rs.paths = ["/", "/healthz"] ++ (placed settings ps policy).map Placement.path :=
    paths_mountAll hmount
  obtain ⟨-, -, router, -, -, hrouter, -⟩ := exists_router h
  refine ⟨⟨ps, firstNamed_providers hps, ?_⟩, ?_, router, hrouter⟩
  · have hbalancers : (ps.map (Placement.balancers settings)).map Placement.path
        = ps.map fun p => "/admission-control/deny-public-services/" ++ p.name := by
      rw [List.map_map]
      exact List.map_congr_left fun p _ => path_balancers settings p
    rw [hpaths, placed, List.map_append, List.map_append, hbalancers]
    rfl
  · rw [hpaths, List.nodup_append]
    refine ⟨by decide +kernel, nodup_paths (nodup_providers hps), ?_⟩
    rintro path hpath _ hpath' rfl
    obtain ⟨place, hplace, rfl⟩ := List.mem_map.mp hpath'
    obtain ⟨-, -, hindex, hhealth⟩ := mayServe_placed place hplace
    rcases List.mem_cons.mp hpath with hroot | hpath
    · exact hindex hroot
    · exact hhealth (List.mem_singleton.mp hpath)

/-- The daemon starts with all of its policies or not at all.  It does not start exactly when a
provider is not known or a requirement cannot be read, and what is wrong first is what it reports,
before it reads a file or makes a server.  Otherwise its paths are those of its policies, and no two
of them are the same. -/
theorem start_all_or_nothing (settings : Settings) :
    ((∃ f, routes settings = .error f) ↔
      (∃ text ∈ settings.providers, ∀ p : CloudProvider, p.isNamedBy text = false) ∨
        ∃ text ∈ settings.requiredAnnotations, ∃ e, parseRequirement text = .error e) ∧
    (∀ f, routes settings = .error f → GivesUp settings f) ∧
    ∀ rs, routes settings = .ok rs → SetsUp settings rs := by
  refine ⟨?_, fun f => givesUp_of_error, fun rs => setsUp_of_ok⟩
  rw [← exists_isWrong]
  constructor
  · rintro ⟨f, h⟩
    obtain ⟨e, he, -⟩ := routes_eq_error_iff.mp h
    exact ⟨e, he⟩
  · rintro ⟨e, he⟩
    exact ⟨.config e, routes_eq_error_iff.mpr ⟨e, he, rfl⟩⟩

/-- Settings that name two providers, one of them twice and in two spellings. -/
def repeatedProvider : Settings :=
  { Settings.ofGiven .nothing with providers := ["AWS", " gcp", "aws\t"] }

/-- Settings that name two providers that are not known, and a pattern that is refused. -/
def wrongSettings : Settings :=
  { Settings.ofGiven .nothing with
    providers := ["gcp", "openstack", "nimbus"], requiredAnnotations := ["team=("] }

theorem start_all_or_nothing_samples :
    (∃ rs, routes repeatedProvider = .ok rs ∧ SetsUp repeatedProvider rs ∧
      rs.paths = ["/", "/healthz", "/admission-control/deny-ingresses",
        "/admission-control/deny-public-services/aws",
        "/admission-control/deny-public-services/gcp",
        "/admission-control/enforce-pod-annotations"]) ∧
    routes wrongSettings = .error (.config (.unknownProvider "openstack")) ∧
    GivesUp wrongSettings (.config (.unknownProvider "openstack")) := by
  have hpaths : ((routes repeatedProvider).toOption.map Routes.paths)
      = some ["/", "/healthz", "/admission-control/deny-ingresses",
        "/admission-control/deny-public-services/aws",
        "/admission-control/deny-public-services/gcp",
        "/admission-control/enforce-pod-annotations"] := by decide +kernel
  have hwrong : IsWrong wrongSettings (.unknownProvider "openstack") := by
    have hunknown : ∀ p : CloudProvider, p.isNamedBy "openstack" = false := by
      intro p
      cases p <;> decide +kernel
    have hknown : ∀ e, ¬ UnknownProvider "gcp" e := fun e h => absurd (h.1 .gcp) (by decide +kernel)
    exact .inl (.later hknown (.here _ ⟨hunknown, rfl⟩))
  have herror := routes_eq_error_iff.mpr ⟨_, hwrong, rfl⟩
  obtain ⟨-, hfails, -⟩ := start_all_or_nothing wrongSettings
  refine ⟨?_, herror, hfails _ herror⟩
  obtain ⟨-, -, hstarts⟩ := start_all_or_nothing repeatedProvider
  cases h : routes repeatedProvider with
  | error f =>
      rw [h] at hpaths
      cases hpaths
  | ok rs =>
      rw [h] at hpaths
      exact ⟨rs, rfl, hstarts rs h, Option.some.inj hpaths⟩

end Daemon
end Webhook
