import Webhook.Proofs.Http.ClosedRoutes
import Webhook.Proofs.Routes

/-!
# Where a request goes

Routes are registered one after the other, and then the table is finished.  A finished table lists
what was registered, and the index and the health check (`Routes.lists_assemble`).

A request on a path that is not known is turned away, and so are a method that the path does not
offer and a body that is too long.  Each of these has a status of its own, and no policy is asked.
Every other call on the path of a handler is handed to that handler, and what the handler gives is
the answer (`Routes.dispatch`).
-/

namespace Webhook

open Http (Router Entry)
open Http.RoutePath (IsClosed IsLiteral isClosed_literal plainText_literal)

namespace Routes

/-! ## Registration -/

/-- A route that is registered. -/
inductive Registration where
  /-- A handler, for posting. -/
  | admission (path : String) (handler : Handler)
  /-- Something to read. -/
  | get (path : String) (answer : Http.Request → Http.Response)

namespace Registration

/-- The entry of the route in the table. -/
def entry : Registration → Entry Endpoint
  | admission path handler => ⟨.post, path, .admission path handler⟩
  | get path answer => ⟨.get, path, .get answer⟩

/-- The text that the route is for. -/
def text (r : Registration) : String := r.entry.text

/-- The methods that the route serves. -/
def methods (r : Registration) : List String := r.entry.verb.methods

/-- Registers the route. -/
def register (routes : Routes) : Registration → Except Http.RouteFault Routes
  | admission path handler => routes.admission path handler
  | get path answer => routes.get path answer

end Registration

/-- The finished table of routes that are registered in order. -/
def assemble (banner : String) (rs : List Registration) :
    Except Http.RouteFault (Router Endpoint) := do
  let routes ← rs.foldlM Registration.register (new banner)
  routes.toRouter

/-! ## The entries of a finished table -/

theorem mount_inv {routes routes' : Routes} {verb : Http.Verb} {path : String}
    {endpoint : Endpoint} (h : routes.mount verb path endpoint = .ok routes') :
    routes.router.add verb path endpoint = .ok routes'.router := by
  obtain ⟨router, hadd, h⟩ := Json.bind_eq_ok h
  cases h
  exact hadd

theorem Registration.lists_register {routes routes' : Routes} {es : List (Entry Endpoint)}
    (h : routes.router.Lists es) {r : Registration} (hclosed : IsClosed r.entry.path)
    (hregister : r.register routes = .ok routes') : routes'.router.Lists (es ++ [r.entry]) := by
  cases r with
  | admission path handler => exact h.add hclosed (mount_inv hregister)
  | get path answer => exact h.add hclosed (mount_inv hregister)

/-- Each registration adds its entry. -/
theorem lists_registerAll {rs : List Registration} {routes routes' : Routes}
    {es : List (Entry Endpoint)} (h : routes.router.Lists es)
    (hclosed : ∀ r ∈ rs, IsClosed r.entry.path)
    (hall : rs.foldlM Registration.register routes = .ok routes') :
    routes'.router.Lists (es ++ rs.map Registration.entry) := by
  induction rs generalizing routes es with
  | nil =>
      cases hall
      rwa [List.map_nil, List.append_nil]
  | cons r rs ih =>
      obtain ⟨hr, hrs⟩ := List.forall_mem_cons.mp hclosed
      rw [List.foldlM_cons] at hall
      obtain ⟨next, hregister, hall⟩ := Json.bind_eq_ok hall
      have hrest := ih (r.lists_register h hr hregister) hrs hall
      rwa [List.append_assoc, List.singleton_append, ← List.map_cons] at hrest

/-- The entries of the index and the health check. -/
def lastEntries (index : String) : List (Entry Endpoint) :=
  [⟨.get, indexPath, .text index⟩, ⟨.get, healthPath, .health⟩]

theorem isLiteral_indexPath : IsLiteral indexPath := by decide +kernel

theorem isLiteral_healthPath : IsLiteral healthPath := by decide +kernel

/-- Finishing a table adds the index and the health check. -/
theorem lists_toRouter {routes : Routes} {es : List (Entry Endpoint)} {router : Router Endpoint}
    (h : routes.router.Lists es) (hrouter : routes.toRouter = .ok router) :
    router.Lists (es ++ lastEntries routes.index) := by
  obtain ⟨indexed, hindexed, hrouter⟩ := Json.bind_eq_ok hrouter
  have hindex := h.add (isClosed_literal isLiteral_indexPath) hindexed
  have hhealth := hindex.add (isClosed_literal isLiteral_healthPath) hrouter
  rwa [List.append_assoc] at hhealth

/-- A finished table lists what was registered, the index and the health check. -/
theorem lists_assemble {banner : String} {rs : List Registration} {router : Router Endpoint}
    (hclosed : ∀ r ∈ rs, IsClosed r.entry.path) (h : assemble banner rs = .ok router) :
    ∃ index, router.Lists (rs.map Registration.entry ++ lastEntries index) := by
  obtain ⟨routes, hroutes, hrouter⟩ := Json.bind_eq_ok h
  have hnew : (new banner).router.Lists [] := Router.Lists.nil
  exact ⟨routes.index, lists_toRouter (lists_registerAll hnew hclosed hroutes) hrouter⟩

/-! ## Paths and methods -/

/-- A path that something is served on. -/
def Knows (rs : List Registration) (path : String) : Prop :=
  (∃ r ∈ rs, r.text = path) ∨ path = indexPath ∨ path = healthPath

/-- A method that is served on a path. -/
def Offers (rs : List Registration) (path method : String) : Prop :=
  (∃ r ∈ rs, r.text = path ∧ method ∈ r.methods) ∨
    ((path = indexPath ∨ path = healthPath) ∧ method ∈ Http.Verb.get.methods)

instance (rs : List Registration) (path : String) : Decidable (Knows rs path) :=
  inferInstanceAs (Decidable (_ ∨ _))

instance (rs : List Registration) (path method : String) : Decidable (Offers rs path method) :=
  inferInstanceAs (Decidable (_ ∨ _))

theorem text_lastEntries {index : String} {e : Entry Endpoint} (h : e ∈ lastEntries index) :
    (e.text = indexPath ∨ e.text = healthPath) ∧ e.verb = .get := by
  rw [lastEntries, List.mem_cons, List.mem_singleton] at h
  rcases h with rfl | rfl
  · exact ⟨.inl (plainText_literal isLiteral_indexPath), rfl⟩
  · exact ⟨.inr (plainText_literal isLiteral_healthPath), rfl⟩

theorem exists_lastEntry (index : String) {path : String}
    (h : path = indexPath ∨ path = healthPath) : ∃ e ∈ lastEntries index, e.text = path := by
  rcases h with rfl | rfl
  · exact ⟨_, .head _, plainText_literal isLiteral_indexPath⟩
  · exact ⟨_, .tail _ (.head _), plainText_literal isLiteral_healthPath⟩

/-- A path is known when there is an entry for it. -/
theorem knows_iff {rs : List Registration} {path : String} (index : String) :
    Knows rs path ↔ ∃ e ∈ rs.map Registration.entry ++ lastEntries index, e.text = path := by
  constructor
  · rintro (⟨r, hr, rfl⟩ | hlast)
    · exact ⟨r.entry, List.mem_append_left _ (List.mem_map_of_mem hr), rfl⟩
    · obtain ⟨e, he, htext⟩ := exists_lastEntry index hlast
      exact ⟨e, List.mem_append_right _ he, htext⟩
  · rintro ⟨e, he, rfl⟩
    rcases List.mem_append.mp he with he | he
    · obtain ⟨r, hr, rfl⟩ := List.mem_map.mp he
      exact .inl ⟨r, hr, rfl⟩
    · exact .inr (text_lastEntries he).1

/-- The methods that a path offers are those of its entries. -/
theorem offers_of_entry {rs : List Registration} {index method : String} {e : Entry Endpoint}
    (he : e ∈ rs.map Registration.entry ++ lastEntries index) (hmethod : method ∈ e.verb.methods) :
    Offers rs e.text method := by
  rcases List.mem_append.mp he with he | he
  · obtain ⟨r, hr, rfl⟩ := List.mem_map.mp he
    exact .inl ⟨r, hr, rfl, hmethod⟩
  · obtain ⟨htext, hverb⟩ := text_lastEntries he
    exact .inr ⟨htext, hverb ▸ hmethod⟩

end Routes

/-! ## What becomes of a request -/

/-- A request that is answered with a status without asking a policy and without a trace. -/
structure Exchange.IsQuiet (x : Exchange) (status : Nat) : Prop where
  /-- The status. -/
  status : x.response.status = status
  /-- No policy is asked. -/
  asked : x.asked = []
  /-- Nothing is recorded. -/
  log : x.log = []

/-- A request that is answered with what comes of another exchange. -/
structure Exchange.Relays (x inner : Exchange) : Prop where
  /-- The status is the same. -/
  status : x.response.status = inner.response.status
  /-- The body is the same. -/
  body : x.response.body = inner.response.body
  /-- The policies are asked nothing else. -/
  asked : x.asked = inner.asked
  /-- Nothing else is recorded. -/
  log : x.log = inner.log

/-- A handler asks its policy one question at most. -/
theorem Handler.length_asked_handle (h : Handler) (path : String) (headers : Http.Headers)
    (body : Bytes) : (h.handle path headers body).asked.length ≤ 1 := by
  rw [handle]
  cases readCall headers body with
  | error error => exact Nat.zero_le 1
  | ok review => exact (congrArg List.length (h.asked_judge review.request)).le

theorem Http.Response.status_forMethod (method : String) (r : Http.Response) :
    (r.forMethod method).status = r.status := by
  rw [forMethod]
  split <;> rfl

namespace Http.Router

variable {router : Router Endpoint} {request : Request}

theorem isQuiet_of_missing (h : router.lookup request.method request.path = .missing) :
    (router.answer request).IsQuiet 404 := by
  rw [answer, h]
  simp only
  split
  next => exact ⟨rfl, rfl, rfl⟩
  next => exact ⟨rfl, rfl, rfl⟩

theorem isQuiet_of_wrongMethod {served : List String}
    (h : router.lookup request.method request.path = .wrongMethod served) :
    (router.answer request).IsQuiet 405 := by
  rw [answer, h]
  exact ⟨rfl, rfl, rfl⟩

/-- An endpoint that gives a plain answer. -/
theorem isQuiet_of_quiet {endpoint : Endpoint} {response : Response}
    (h : router.lookup request.method request.path = .found endpoint)
    (hquiet : endpoint.answer request = .quiet response) :
    (router.answer request).IsQuiet response.status := by
  rw [answer, h]
  simp only [hquiet]
  exact ⟨Response.status_forMethod _ _, rfl, rfl⟩

/-- A call on the path of a handler whose body is not too long. -/
theorem relays_handle {path : String} {handler : Handler}
    (h : router.lookup request.method request.path = .found (.admission path handler))
    (hmethod : request.method = "POST")
    (hlength : request.body.length ≤ Routes.maxBodyBytes) :
    (router.answer request).Relays (handler.handle path request.headers request.body) := by
  rw [answer, h]
  simp only [Endpoint.answer_admission hlength, hmethod]
  exact ⟨rfl, rfl, rfl, rfl⟩

end Http.Router

namespace Routes

/-- A request on a path that is not known is answered with status 404, and one by a method that the
path does not offer with status 405.  A call on the path of a handler is answered with status 413
when its body is longer than eight mebibytes, and otherwise with what this handler gives, which asks
its policy one question at most.  What there is to read is there for its headers alone, too. -/
theorem dispatch {banner : String} {rs : List Registration} {router : Router Endpoint}
    (hclosed : ∀ r ∈ rs, IsClosed r.entry.path) (h : assemble banner rs = .ok router)
    (request : Http.Request) :
    (¬ Knows rs request.path → (router.answer request).IsQuiet 404) ∧
    (Knows rs request.path → ¬ Offers rs request.path request.method →
      (router.answer request).IsQuiet 405) ∧
    (∀ path handler, .admission path handler ∈ rs → Http.RoutePath.plainText path = request.path →
      request.method = "POST" →
      (8 * 1024 * 1024 < request.body.length → (router.answer request).IsQuiet 413) ∧
      (request.body.length ≤ 8 * 1024 * 1024 →
        (router.answer request).Relays (handler.handle path request.headers request.body) ∧
        (router.answer request).asked.length ≤ 1)) ∧
    ∀ path answer, .get path answer ∈ rs → Http.RoutePath.plainText path = request.path →
      request.method ∈ ["GET", "HEAD"] →
        (router.answer request).IsQuiet (answer request).status := by
  obtain ⟨index, hlists⟩ := lists_assemble hclosed h
  have found : ∀ r ∈ rs, r.text = request.path → request.method ∈ r.methods →
      router.lookup request.method request.path = .found r.entry.route := by
    intro r hr htext hmethod
    rw [← htext]
    exact hlists.lookup_found (List.mem_append_left _ (List.mem_map_of_mem hr)) hmethod
  refine ⟨fun hunknown => ?_, fun hknown hoffers => ?_, fun path handler hr hpath hmethod => ?_,
    fun path answer hr hpath hmethod => ?_⟩
  · refine Router.isQuiet_of_missing (hlists.lookup_missing (fun e he htext => ?_) _)
    exact hunknown ((knows_iff index).mpr ⟨e, he, htext⟩)
  · obtain ⟨e, he, htext⟩ := (knows_iff index).mp hknown
    rw [← htext] at hoffers
    have hnone : ∀ e' ∈ rs.map Registration.entry ++ lastEntries index, e'.text = e.text →
        request.method ∉ e'.verb.methods := fun e' he' htext' hmethod =>
      hoffers (htext' ▸ offers_of_entry he' hmethod)
    obtain ⟨served, hlookup⟩ := hlists.lookup_wrongMethod he hnone
    rw [htext] at hlookup
    exact Router.isQuiet_of_wrongMethod hlookup
  · have hfound := found _ hr hpath (hmethod ▸ List.mem_singleton_self _)
    refine ⟨fun hlong => ?_, fun hlength => ?_⟩
    · exact Router.isQuiet_of_quiet hfound (Endpoint.answer_admission_long hlong)
    · have hrelays := Router.relays_handle hfound hmethod hlength
      refine ⟨hrelays, ?_⟩
      rw [hrelays.asked]
      exact handler.length_asked_handle path request.headers request.body
  · exact Router.isQuiet_of_quiet (found _ hr hpath hmethod) rfl

/-- A handler that allows everything. -/
def sampleHandler : Handler := ⟨"any", fun _ => .verdict .allow, ⟨"handler", []⟩, []⟩

/-- A text to read. -/
def sampleText (_ : Http.Request) : Http.Response := .ofText "help"

/-- Routes of both kinds, two of them on one path, and one with a brace in its path. -/
def sampleRoutes : List Registration :=
  [.admission "/review" sampleHandler, .get "/review" sampleText,
    .get "/\x7b\x7bhelp" sampleText, .admission "/other" sampleHandler]

theorem dispatch_sample : ∃ router, assemble "webhook" sampleRoutes = .ok router ∧
    (router.answer ⟨"GET", .mk "/\x7b\x7bhelp", [], []⟩).IsQuiet 404 ∧
    (router.answer ⟨"HEAD", .mk "/\x7bhelp?now", [], []⟩).IsQuiet 200 ∧
    (router.answer ⟨"HEAD", .mk "/other", [], []⟩).IsQuiet 405 ∧
    (router.answer ⟨"POST", .mk "/review", [], List.replicate (8 * 1024 * 1024 + 1) 0x20⟩).IsQuiet
      413 ∧
    (router.answer ⟨"POST", .mk "/review", [], List.replicate (8 * 1024 * 1024) 0x20⟩).Relays
      (sampleHandler.handle "/review" [] (List.replicate (8 * 1024 * 1024) 0x20)) := by
  obtain ⟨router, h⟩ := Json.eq_ok_of_isSome (x := assemble "webhook" sampleRoutes)
    (by decide +kernel)
  have hdispatch := dispatch (by decide +kernel) h
  refine ⟨router, h, ?_, ?_, ?_, ?_, ?_⟩
  · exact (hdispatch ⟨"GET", .mk "/\x7b\x7bhelp", [], []⟩).1 (by decide +kernel)
  · exact (hdispatch ⟨"HEAD", .mk "/\x7bhelp?now", [], []⟩).2.2.2 _ _ (.tail _ (.tail _ (.head _)))
      (by decide +kernel) (by decide)
  · exact (hdispatch ⟨"HEAD", .mk "/other", [], []⟩).2.1 (by decide +kernel) (by decide +kernel)
  · have hlong :
        8 * 1024 * 1024 < (List.replicate (8 * 1024 * 1024 + 1) (0x20 : UInt8)).length := by
      rw [List.length_replicate]
      exact Nat.lt_succ_self _
    exact ((hdispatch ⟨"POST", .mk "/review", [], List.replicate (8 * 1024 * 1024 + 1) 0x20⟩).2.2.1
      "/review" sampleHandler (.head _) (by decide +kernel) rfl).1 hlong
  · have hshort : (List.replicate (8 * 1024 * 1024) (0x20 : UInt8)).length ≤ 8 * 1024 * 1024 := by
      rw [List.length_replicate]
    exact (((hdispatch ⟨"POST", .mk "/review", [], List.replicate (8 * 1024 * 1024) 0x20⟩).2.2.1
      "/review" sampleHandler (.head _) (by decide +kernel) rfl).2 hshort).1

end Routes
end Webhook
