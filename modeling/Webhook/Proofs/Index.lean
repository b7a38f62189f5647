import Webhook.Proofs.Dispatch
import Webhook.Proofs.Http.Targets

/-!
# The index and what is served

A table keeps its paths twice, in the list for the index and in its mounts.  A registration adds to
both (`Routes.grown_registerAll`), the index and the health check stand in the list from the start,
and finishing mounts them, so a finished table has an entry for each listed path and no other
(`Routes.mem_paths_iff`).

The list names paths as they were registered, and a request is on a path that its target spells out
(`Http.exists_request_iff`).  The two differ for a brace that is written twice, and for a path with
a character that a target does not have in its path, which no request is ever on.
`Routes.index_agrees` says what is served in spite of this, and that nothing else is; where no path
has a brace or such a character, the served paths are the listed ones.
-/

namespace Webhook

open Http (Router Entry)
open Http.RoutePath (IsClosed IsLiteral plainText plainText_literal marks)

namespace Http

/-! ## Answers of a route -/

theorem Router.head?_of_textFault? {path : List Char} (h : Router.textFault? path = none) :
    path.head? = some '/' := by
  unfold Router.textFault? at h
  split at h
  next => cases h
  next => rfl
  next => cases h

/-- A route is on a path that starts with a slash. -/
theorem Router.head?_of_add {α : Type} {router router' : Router α} {verb : Verb} {path : String}
    {route : α} (h : router.add verb path route = .ok router') :
    path.toList.head? = some '/' := by
  rw [Router.add] at h
  cases htext : Router.textFault? path.toList with
  | some fault =>
      rw [htext] at h
      cases h
  | none => exact Router.head?_of_textFault? htext

namespace RoutePath

theorem head?_plainText {path : String} (h : path.toList.head? = some '/') :
    (plainText path).toList.head? = some '/' := by
  obtain ⟨rest, hrest⟩ := List.head?_eq_some_iff.mp h
  rw [plainText, String.toList_ofList, hrest]
  rfl

end RoutePath
end Http

/-- No endpoint with a text answers as if there were no route. -/
theorem Endpoint.status_answer_ne {endpoint : Endpoint} (h : endpoint.IsTextual)
    (request : Http.Request) : (endpoint.answer request).response.status ≠ 404 := by
  cases endpoint with
  | admission path handler =>
      rw [answer]
      split
      · decide
      · rw [Handler.handle]
        cases Handler.readCall request.headers request.body with
        | error error => exact Nat.ne_of_lt (by decide : 400 < 404)
        | ok review => exact Nat.ne_of_lt (by decide : 200 < 404)
  | get answer =>
      obtain ⟨body, rfl⟩ := h
      exact Nat.ne_of_lt (by decide : 200 < 404)
  | health => exact Nat.ne_of_lt (by decide : 200 < 404)

/-- A request that finds a route is answered by it. -/
theorem Http.Router.status_of_found {router : Router Endpoint} {request : Http.Request}
    {endpoint : Endpoint} (h : router.lookup request.method request.path = .found endpoint) :
    (router.answer request).response.status = (endpoint.answer request).response.status := by
  rw [answer, h]
  exact Response.status_forMethod _ _

namespace Routes

/-! ## Registration -/

/-- The path of a registration, as it is written. -/
def Registration.path (r : Registration) : String := r.entry.path

/-- What becomes of routes when others are registered. -/
structure Grown (routes : Routes) (rs : List Registration) (routes' : Routes) : Prop where
  /-- The banner stays. -/
  banner : routes'.banner = routes.banner
  /-- The new paths are listed after the others, in order. -/
  paths : routes'.paths = routes.paths ++ rs.map Registration.path
  /-- The new paths start with a slash. -/
  slash : ∀ r ∈ rs, r.path.toList.head? = some '/'

theorem grown_mount {routes routes' : Routes} {verb : Http.Verb} {path : String}
    {endpoint : Endpoint} (h : routes.mount verb path endpoint = .ok routes') :
    routes'.banner = routes.banner ∧ routes'.paths = routes.paths ++ [path] ∧
      path.toList.head? = some '/' := by
  obtain ⟨router, hadd, h⟩ := Json.bind_eq_ok h
  obtain rfl := Except.ok.inj h
  exact ⟨rfl, rfl, Router.head?_of_add hadd⟩

theorem grown_register {routes routes' : Routes} {r : Registration}
    (h : r.register routes = .ok routes') : Grown routes [r] routes' := by
  have hgrown : routes'.banner = routes.banner ∧ routes'.paths = routes.paths ++ [r.path] ∧
      r.path.toList.head? = some '/' := by
    cases r with
    | admission path handler => exact grown_mount h
    | get path answer => exact grown_mount h
  obtain ⟨hbanner, hpaths, hslash⟩ := hgrown
  exact ⟨hbanner, hpaths, List.forall_mem_singleton.mpr hslash⟩

/-- The list of paths grows with every registration. -/
theorem grown_registerAll {rs : List Registration} {routes routes' : Routes}
    (h : rs.foldlM Registration.register routes = .ok routes') : Grown routes rs routes' := by
  induction rs generalizing routes with
  | nil =>
      obtain rfl := Except.ok.inj h
      exact ⟨rfl, (List.append_nil _).symm, fun r hr => absurd hr List.not_mem_nil⟩
  | cons r rs ih =>
      rw [List.foldlM_cons] at h
      obtain ⟨next, hregister, h⟩ := Json.bind_eq_ok h
      have hfirst := grown_register hregister
      have hrest := ih h
      refine ⟨hrest.banner.trans hfirst.banner, ?_, ?_⟩
      · rw [hrest.paths, hfirst.paths, List.append_assoc, ← List.map_append, List.singleton_append]
      · intro r' hr'
        rcases List.mem_cons.mp hr' with rfl | hr'
        · exact hfirst.slash r' (.head _)
        · exact hrest.slash r' hr'

/-! ## The list and the entries -/

variable {banner : String} {rs : List Registration} {routes : Routes} {router : Router Endpoint}

/-- The list for the index holds the paths of the entries and no others. -/
theorem mem_paths_iff (hroutes : rs.foldlM Registration.register (new banner) = .ok routes)
    {index path : String} : path ∈ routes.paths ↔
      ∃ e ∈ rs.map Registration.entry ++ lastEntries index, e.path = path := by
  have hpaths : routes.paths = [indexPath, healthPath] ++ rs.map Registration.path :=
    (grown_registerAll hroutes).paths
  have hlast : (lastEntries index).map (·.path) = [indexPath, healthPath] := rfl
  have hfirst : (rs.map Registration.entry).map (·.path) = rs.map Registration.path :=
    List.map_map
  rw [hpaths, ← hlast, ← hfirst, List.mem_append, or_comm, ← List.mem_append, ← List.map_append,
    List.mem_map]

/-- What holds of the index, of the health check and of what is registered holds of all that is
listed. -/
theorem forall_mem_paths (hroutes : rs.foldlM Registration.register (new banner) = .ok routes)
    {good : String → Prop} (hindex : good indexPath) (hhealth : good healthPath)
    (hrs : ∀ r ∈ rs, good r.path) : ∀ path ∈ routes.paths, good path := by
  intro path h
  rw [(grown_registerAll hroutes).paths] at h
  rcases List.mem_append.mp h with h | h
  · rcases List.mem_cons.mp h with rfl | h
    · exact hindex
    · rw [List.mem_singleton.mp h]
      exact hhealth
  · obtain ⟨r, hr, rfl⟩ := List.mem_map.mp h
    exact hrs r hr

theorem slash_of_mem_paths (hroutes : rs.foldlM Registration.register (new banner) = .ok routes) :
    ∀ path ∈ routes.paths, path.toList.head? = some '/' :=
  forall_mem_paths hroutes rfl rfl (grown_registerAll hroutes).slash

theorem isTextual_entry (htextual : ∀ r ∈ rs, r.entry.route.IsTextual) {index : String} :
    ∀ e ∈ rs.map Registration.entry ++ lastEntries index, e.route.IsTextual := by
  intro e he
  rcases List.mem_append.mp he with he | he
  · obtain ⟨r, hr, rfl⟩ := List.mem_map.mp he
    exact htextual r hr
  · rw [lastEntries, List.mem_cons, List.mem_singleton] at he
    rcases he with rfl | rfl
    · exact Endpoint.isTextual_text index
    · exact trivial

/-- A listed path is served for the methods of one of its entries. -/
theorem exists_method_of_mem_paths (hclosed : ∀ r ∈ rs, IsClosed r.path)
    (htextual : ∀ r ∈ rs, r.entry.route.IsTextual)
    (hroutes : rs.foldlM Registration.register (new banner) = .ok routes)
    (hrouter : routes.toRouter = .ok router) {path : String} (h : path ∈ routes.paths) :
    ∃ method, ∀ request : Http.Request, request.method = method →
      request.path = plainText path → (router.answer request).response.status ≠ 404 := by
  have hlists := lists_toRouter (lists_registerAll Router.Lists.nil hclosed hroutes) hrouter
  obtain ⟨e, he, rfl⟩ := (mem_paths_iff hroutes).mp h
  have hmethod : e.verb.name ∈ e.verb.methods := by
    cases e.verb <;> exact .head _
  refine ⟨e.verb.name, fun request hrequest hpath => ?_⟩
  have hfound : router.lookup request.method request.path = .found e.route := by
    rw [hrequest, hpath]
    exact hlists.lookup_found he hmethod
  rw [Router.status_of_found hfound]
  exact Endpoint.status_answer_ne (isTextual_entry htextual e he) request

/-- What no listed path stands for is not found. -/
theorem status_of_not_listed (hclosed : ∀ r ∈ rs, IsClosed r.path)
    (hroutes : rs.foldlM Registration.register (new banner) = .ok routes)
    (hrouter : routes.toRouter = .ok router) {request : Http.Request}
    (h : ∀ path ∈ routes.paths, plainText path ≠ request.path) :
    (router.answer request).response.status = 404 := by
  have hlists := lists_toRouter (lists_registerAll Router.Lists.nil hclosed hroutes) hrouter
  refine (Router.isQuiet_of_missing (hlists.lookup_missing (fun e he => ?_) _)).status
  exact h e.path ((mem_paths_iff hroutes).mpr ⟨e, he, rfl⟩)

/-- Reading the root gives the index. -/
theorem answer_index (hclosed : ∀ r ∈ rs, IsClosed r.path)
    (hroutes : rs.foldlM Registration.register (new banner) = .ok routes)
    (hrouter : routes.toRouter = .ok router) {request : Http.Request}
    (hmethod : request.method = "GET") (hpath : request.path = indexPath) :
    (router.answer request).response.status = 200 ∧
      (router.answer request).response.body = routes.index := by
  have hlists := lists_toRouter (lists_registerAll Router.Lists.nil hclosed hroutes) hrouter
  have hfound : router.lookup request.method request.path = .found (.text routes.index) := by
    have htext : plainText indexPath = indexPath := plainText_literal isLiteral_indexPath
    rw [hmethod, hpath, ← htext]
    exact hlists.lookup_found (e := ⟨.get, indexPath, .text routes.index⟩)
      (List.mem_append_right _ (.head _)) (.head _)
  rw [Router.answer, hfound, hmethod]
  exact ⟨rfl, rfl⟩

/-- A path that requests can be on as it is written: it has no brace, and a target can have it. -/
def IsPlain (path : String) : Prop := IsLiteral path ∧ Http.IsPath path

instance (path : String) : Decidable (IsPlain path) := inferInstanceAs (Decidable (_ ∧ _))

theorem isPlain_of_mem_paths (hroutes : rs.foldlM Registration.register (new banner) = .ok routes)
    (hplain : ∀ r ∈ rs, IsPlain r.path) : ∀ path ∈ routes.paths, IsPlain path := by
  have hindex : IsPlain indexPath := ⟨isLiteral_indexPath, by decide +kernel⟩
  have hhealth : IsPlain healthPath := ⟨isLiteral_healthPath, by decide +kernel⟩
  exact forall_mem_paths hroutes hindex hhealth hplain

/-- The list starts with the index and the health check, and goes on with the registered paths.
Reading the root gives the banner, a heading and these paths.  What a listed path stands for is
served, for some method, and a request for anything else finds nothing.  A path with a character
that a target does not have in its path is the path of no request.  So where all paths are plain the
listed ones are served as they are written, and no others. -/
theorem index_agrees (hclosed : ∀ r ∈ rs, IsClosed r.path)
    (htextual : ∀ r ∈ rs, r.entry.route.IsTextual)
    (hroutes : rs.foldlM Registration.register (new banner) = .ok routes)
    (hrouter : routes.toRouter = .ok router) :
    routes.paths = "/" :: "/healthz" :: rs.map Registration.path ∧
    (∀ request : Http.Request, request.method = "GET" → request.path = "/" →
      (router.answer request).response.status = 200 ∧
      (router.answer request).response.body
        = String.join ((banner :: "Available routes:" :: routes.paths).map (· ++ "\n"))) ∧
    (∀ path ∈ routes.paths,
      (∃ method, ∀ request : Http.Request, request.method = method →
        request.path = plainText path → (router.answer request).response.status ≠ 404) ∧
      ((∃ request : Http.Request, request.path = plainText path) ↔
        Http.IsPath (plainText path))) ∧
    (∀ request : Http.Request, (∀ path ∈ routes.paths, plainText path ≠ request.path) →
      (router.answer request).response.status = 404) ∧
    ((∀ r ∈ rs, IsPlain r.path) → ∀ path,
      (path ∈ routes.paths → ∃ (method : String) (target : Http.Target),
        target.text = path ∧ target.path = path ∧ ∀ headers body,
          (router.answer ⟨method, target, headers, body⟩).response.status ≠ 404) ∧
      (path ∉ routes.paths → ∀ request : Http.Request, request.path = path →
        (router.answer request).response.status = 404)) := by
  have hgrown := grown_registerAll hroutes
  have hbanner : routes.banner = banner := hgrown.banner
  have hindex : routes.index
      = String.join ((banner :: "Available routes:" :: routes.paths).map (· ++ "\n")) := by
    rw [index, hbanner]
    rfl
  refine ⟨hgrown.paths, fun request hmethod hpath => ?_, fun path hmem => ⟨?_, ?_⟩,
    fun request hnone => ?_, fun hplain path => ⟨fun hmem => ?_, fun hnot request hpath => ?_⟩⟩
  · rw [← hindex]
    exact answer_index hclosed hroutes hrouter hmethod hpath
  · exact exists_method_of_mem_paths hclosed htextual hroutes hrouter hmem
  · exact Http.exists_request_iff
      (Http.RoutePath.head?_plainText (slash_of_mem_paths hroutes path hmem))
  · exact status_of_not_listed hclosed hroutes hrouter hnone
  · obtain ⟨hliteral, hispath⟩ := isPlain_of_mem_paths hroutes hplain path hmem
    obtain ⟨method, hserved⟩ := exists_method_of_mem_paths hclosed htextual hroutes hrouter hmem
    have hslash := slash_of_mem_paths hroutes path hmem
    have hpath := Http.Target.path_ofPath hslash hispath
    refine ⟨method, .ofPath hslash hispath, rfl, hpath, fun headers body => hserved _ rfl ?_⟩
    rw [plainText_literal hliteral]
    exact hpath
  · refine status_of_not_listed hclosed hroutes hrouter fun listed hlisted heq => hnot ?_
    obtain ⟨hliteral, -⟩ := isPlain_of_mem_paths hroutes hplain listed hlisted
    rw [plainText_literal hliteral, hpath] at heq
    exact heq ▸ hlisted

/-- Plain routes of both kinds. -/
def plainRoutes : List Registration :=
  [.admission "/spy" sampleHandler, .get "/help" sampleText, .admission "/last" sampleHandler]

theorem index_agrees_plainRoutes : ∃ routes router,
    plainRoutes.foldlM Registration.register (new "Admission Control") = .ok routes ∧
    routes.toRouter = .ok router ∧
    (∀ r ∈ plainRoutes, IsClosed r.path ∧ IsPlain r.path) ∧
    (∀ r ∈ plainRoutes, r.entry.route.IsTextual) ∧
    routes.paths = ["/", "/healthz", "/spy", "/help", "/last"] ∧
    (router.answer ⟨"GET", .mk "/?all", [], []⟩).response.body
      = "Admission Control\nAvailable routes:\n/\n/healthz\n/spy\n/help\n/last\n" ∧
    (∃ method, (router.answer ⟨method, .mk "/last", [], []⟩).response.status ≠ 404) ∧
    (router.answer ⟨"POST", .mk "/spy/", [], []⟩).response.status = 404 := by
  obtain ⟨router, hassemble⟩ := Json.eq_ok_of_isSome
    (x := assemble "Admission Control" plainRoutes) (by decide +kernel)
  obtain ⟨routes, hroutes, hrouter⟩ := Json.bind_eq_ok hassemble
  have hall : ∀ r ∈ plainRoutes, IsClosed r.path ∧ IsPlain r.path := by decide +kernel
  have htextual : ∀ r ∈ plainRoutes, r.entry.route.IsTextual :=
    List.forall_mem_cons.mpr
      ⟨trivial, List.forall_mem_cons.mpr ⟨⟨"help", rfl⟩, List.forall_mem_singleton.mpr trivial⟩⟩
  obtain ⟨hpaths, hindex, -, -, hplain⟩ :=
    index_agrees (fun r hr => (hall r hr).1) htextual hroutes hrouter
  have hpaths : routes.paths = ["/", "/healthz", "/spy", "/help", "/last"] := hpaths
  have hserved := hplain fun r hr => (hall r hr).2
  refine ⟨routes, router, hroutes, hrouter, hall, htextual, hpaths, ?_, ?_, ?_⟩
  · rw [(hindex ⟨"GET", .mk "/?all", [], []⟩ rfl (by decide +kernel)).2, hpaths]
    decide +kernel
  · obtain ⟨method, ⟨_, _⟩, rfl, -, hother⟩ := (hserved "/last").1 (by rw [hpaths]; decide)
    exact ⟨method, hother [] []⟩
  · exact (hserved "/spy/").2 (by rw [hpaths]; decide) _ (by decide +kernel)

/-- Routes whose paths are listed in another way than they are served. -/
def unplainRoutes : List Registration :=
  [.get "/\x7b\x7bx\x7d\x7d" sampleText, .get "/a?b" sampleText, .get "/a b" sampleText]

/-- A path with braces is served on another text than the one that is listed, and one with the mark
of a query or with a space on none. -/
theorem not_served_as_listed : ∃ routes router,
    unplainRoutes.foldlM Registration.register (new "Admission Control") = .ok routes ∧
    routes.toRouter = .ok router ∧
    routes.paths = ["/", "/healthz", "/\x7b\x7bx\x7d\x7d", "/a?b", "/a b"] ∧
    (∀ method headers body,
      (router.answer ⟨method, .mk "/\x7b\x7bx\x7d\x7d", headers, body⟩).response.status = 404 ∧
      (router.answer ⟨method, .mk "/a?b", headers, body⟩).response.status = 404) ∧
    (∀ request : Http.Request, request.path ≠ "/a?b" ∧ request.path ≠ "/a b") ∧
    (router.answer ⟨"GET", .mk "/\x7bx\x7d", [], []⟩).response.status = 200 := by
  obtain ⟨router, hassemble⟩ := Json.eq_ok_of_isSome
    (x := assemble "Admission Control" unplainRoutes) (by decide +kernel)
  obtain ⟨routes, hroutes, hrouter⟩ := Json.bind_eq_ok hassemble
  have hclosed : ∀ r ∈ unplainRoutes, IsClosed r.path := by decide +kernel
  have hpaths : routes.paths = ["/", "/healthz", "/\x7b\x7bx\x7d\x7d", "/a?b", "/a b"] :=
    (grown_registerAll hroutes).paths
  have hnone : ∀ {text : String}, text.toList.head? = some '/' → ¬ Http.IsPath text →
      ∀ request : Http.Request, request.path ≠ text := fun hslash hnot request heq =>
    hnot ((Http.exists_request_iff hslash).mp ⟨request, heq⟩)
  refine ⟨routes, router, hroutes, hrouter, hpaths, fun method headers body => ⟨?_, ?_⟩,
    fun request => ⟨?_, ?_⟩, ?_⟩
  · refine status_of_not_listed hclosed hroutes hrouter ?_
    have hpath : Http.Target.path (.mk "/\x7b\x7bx\x7d\x7d") = "/\x7b\x7bx\x7d\x7d" := by
      decide +kernel
    rw [hpaths, Http.Request.path, hpath]
    decide +kernel
  · refine status_of_not_listed hclosed hroutes hrouter ?_
    have hpath : Http.Target.path (.mk "/a?b") = "/a" := by decide +kernel
    rw [hpaths, Http.Request.path, hpath]
    decide +kernel
  · exact hnone rfl (by decide +kernel) request
  · exact hnone rfl (by decide +kernel) request
  · have hlists := lists_toRouter (lists_registerAll Router.Lists.nil hclosed hroutes) hrouter
    have htext : plainText "/\x7b\x7bx\x7d\x7d" = "/\x7bx\x7d" := by decide +kernel
    have hpath : (Http.Request.mk "GET" (.mk "/\x7bx\x7d") [] []).path = "/\x7bx\x7d" := by
      decide +kernel
    have hfound := hlists.lookup_found (e := ⟨.get, "/\x7b\x7bx\x7d\x7d", .get sampleText⟩)
      (List.mem_append_left _ (.head _)) (.head _ : "GET" ∈ Http.Verb.get.methods)
    rw [Entry.text, htext, ← hpath] at hfound
    rw [Router.status_of_found hfound]
    rfl

end Routes
end Webhook
