import Webhook.Http.RequestLog
import Webhook.Proofs.Dispatch

/-!
# Logging changes nothing else

The layers that log a request hand it on with one more header, if it came without an identity.  A
handler does not read that header, and neither does the health check.  What there is to read could
depend on it, so it is taken to be a text (`Endpoint.IsTextual`), as it is in a table that is
assembled from handlers and texts (`Routes.all_isTextual_assemble`).  Such a table answers as it would
without the layers (`Http.Router.answer_identified`).  It gives its answer no identity either and
does not record that a request is completed (`Http.Router.unlogged_answer`), so what the layers add
stands alone.

`Http.Router.answer_withRequestLogging` puts both together.  The answer, the span and the entry in
the log all have the same identity, since the outermost layer settles it for the other two.
-/

namespace Webhook

/-! ## Headers and their names -/

namespace Http.Headers

variable {headers : Headers} {name label : String} {value : Bytes}

/-- A header under another name does not change what is found. -/
theorem first?_append_other (hother : Text.sameUpToAsciiCase label name = false) :
    first? (headers ++ [(label, value)]) name = headers.first? name := by
  have hnone : [(label, value)].find? (fun h => Text.sameUpToAsciiCase h.1 name) = none := by
    rw [List.find?_singleton, hother]
    rfl
  rw [first?, List.find?_append, hnone, Option.or_none, ← first?]

/-- A header under a new name is found. -/
theorem first?_append_new (hnew : headers.first? name = none)
    (hname : Text.sameUpToAsciiCase label name = true) :
    first? (headers ++ [(label, value)]) name = some value := by
  have hsome : [(label, value)].find? (fun h => Text.sameUpToAsciiCase h.1 name)
      = some (label, value) := by
    rw [List.find?_singleton, hname]
    rfl
  rw [first?, List.find?_append, Option.map_eq_none_iff.mp hnew, hsome]
  rfl

theorem first?_singleton_other (hother : Text.sameUpToAsciiCase label name = false) :
    first? [(label, value)] name = none := by
  have hempty : first? ([] ++ [(label, value)]) name = first? [] name := first?_append_other hother
  exact hempty

end Http.Headers

/-! ## The request that is handed on -/

namespace Http.Request

/-- A request that is handed on carries the identity that it came with, or else the fresh one. -/
theorem identity?_identified (request : Request) (fresh : Bytes) :
    (request.identified fresh).identity? = some (request.identity?.getD fresh) := by
  rw [identified]
  cases h : request.identity? with
  | some identity => exact h
  | none => exact Headers.first?_append_new h (by decide +kernel)

/-- It asks for the same. -/
theorem method_path_identified (request : Request) (fresh : Bytes) :
    (request.identified fresh).method = request.method ∧
      (request.identified fresh).path = request.path := by
  rw [identified]
  cases request.identity? <;> exact ⟨rfl, rfl⟩

/-- Its span names its identity, unless that cannot be read. -/
theorem span_identified (request : Request) (fresh : Bytes) :
    (request.identified fresh).span = ⟨"request", [.text "method" request.method,
      .text "path" request.path,
      .text "request_id" ((Headers.readable? (request.identity?.getD fresh)).getD "")]⟩ := by
  obtain ⟨hmethod, hpath⟩ := request.method_path_identified fresh
  have hidentity : (request.identified fresh).headers.first? requestIdHeader
      = some (request.identity?.getD fresh) := request.identity?_identified fresh
  rw [span, hmethod, hpath, Headers.text, hidentity]
  rfl

end Http.Request

theorem Handler.readCall_append {headers : Http.Headers} {label : String} {value : Bytes}
    (body : Bytes) (hother : Text.sameUpToAsciiCase label "content-type" = false) :
    readCall (headers ++ [(label, value)]) body = readCall headers body := by
  have htext : Http.Headers.text (headers ++ [(label, value)]) "content-type"
      = headers.text "content-type" := by
    rw [Http.Headers.text, Http.Headers.first?_append_other hother, ← Http.Headers.text]
  rw [readCall, htext, ← readCall]

/-! ## Tables with nothing but texts to read -/

namespace Http.Router

variable {α : Type}

/-- All routes of a table have a property. -/
def All (router : Router α) (good : α → Prop) : Prop :=
  ∀ m ∈ router.mounts, ∀ r ∈ m.routes, good r.2

theorem all_empty (good : α → Prop) : (empty : Router α).All good :=
  fun _ h => absurd h List.not_mem_nil

/-- A route that has the property can be added. -/
theorem All.add {router router' : Router α} {good : α → Prop} {verb : Verb} {path : String}
    {route : α} (h : router.All good) (hroute : good route)
    (hadd : router.add verb path route = .ok router') : router'.All good := by
  obtain ⟨-, -, -, -, rfl⟩ | ⟨-, ps, -, rfl⟩ := add_inv hadd
  · intro m' hm' r hr
    obtain ⟨m, hm, rfl⟩ := List.mem_map.mp hm'
    rw [Mount.withRoute] at hr
    split at hr
    next =>
      rcases List.mem_append.mp hr with hr | hr
      · exact h m hm r hr
      · rw [List.mem_singleton.mp hr]
        exact hroute
    next => exact h m hm r hr
  · intro m hm r hr
    rcases List.mem_append.mp hm with hm | hm
    · exact h m hm r hr
    · rw [List.mem_singleton.mp hm] at hr
      rw [List.mem_singleton.mp hr]
      exact hroute

theorem mem_of_better {best : Option (Mount α)} {m m' : Mount α} (h : better best m' = some m) :
    best = some m ∨ m = m' := by
  rw [better.eq_def] at h
  split at h
  next => exact .inr (Option.some.inj h).symm
  next =>
    split at h
    next => exact .inr (Option.some.inj h).symm
    next => exact .inl h

/-- The best mount is one of those that were compared. -/
theorem mem_of_foldl_better {m : Mount α} {ms : List (Mount α)} {best : Option (Mount α)}
    (h : ms.foldl better best = some m) : best = some m ∨ m ∈ ms := by
  induction ms generalizing best with
  | nil => exact .inl h
  | cons m' ms ih =>
      rcases ih h with hbetter | hm
      · rcases mem_of_better hbetter with hbest | rfl
        · exact .inl hbest
        · exact .inr (.head _)
      · exact .inr (.tail _ hm)

/-- A route that is found is one of the table. -/
theorem mem_of_found {router : Router α} {method path : String} {route : α}
    (h : router.lookup method path = .found route) :
    ∃ m ∈ router.mounts, ∃ r ∈ m.routes, r.2 = route := by
  rw [lookup] at h
  cases hmount : router.mount? path with
  | none =>
      rw [hmount] at h
      cases h
  | some m =>
      rcases mem_of_foldl_better hmount with hnone | hm
      · cases hnone
      · simp only [hmount] at h
        cases hroute : m.route? method with
        | none =>
            rw [hroute] at h
            cases h
        | some route' =>
            simp only [hroute] at h
            obtain rfl := Lookup.found.inj h
            obtain ⟨r, hr, heq⟩ := Option.map_eq_some_iff.mp hroute
            exact ⟨m, List.mem_of_mem_filter hm, r, List.mem_of_find?_eq_some hr, heq⟩

theorem All.lookup {router : Router α} {good : α → Prop} {method path : String} {route : α}
    (h : router.All good) (hfound : router.lookup method path = .found route) : good route := by
  obtain ⟨m, hm, r, hr, rfl⟩ := mem_of_found hfound
  exact h m hm r hr

end Http.Router

namespace Routes

theorem all_isTextual_mount {routes routes' : Routes} {verb : Http.Verb} {path : String}
    {endpoint : Endpoint} (h : routes.router.All Endpoint.IsTextual) (hendpoint : endpoint.IsTextual)
    (hmount : routes.mount verb path endpoint = .ok routes') :
    routes'.router.All Endpoint.IsTextual :=
  h.add hendpoint (mount_inv hmount)

theorem all_isTextual_registerAll {rs : List Registration} {routes routes' : Routes}
    (h : routes.router.All Endpoint.IsTextual) (hrs : ∀ r ∈ rs, r.entry.route.IsTextual)
    (hall : rs.foldlM Registration.register routes = .ok routes') :
    routes'.router.All Endpoint.IsTextual := by
  induction rs generalizing routes with
  | nil =>
      obtain rfl := Except.ok.inj hall
      exact h
  | cons r rs ih =>
      obtain ⟨hr, hrs⟩ := List.forall_mem_cons.mp hrs
      rw [List.foldlM_cons] at hall
      obtain ⟨next, hregister, hall⟩ := Json.bind_eq_ok hall
      refine ih ?_ hrs hall
      cases r with
      | admission path handler => exact all_isTextual_mount h hr hregister
      | get path answer => exact all_isTextual_mount h hr hregister

/-- A table that is assembled from handlers and texts has nothing but texts to read. -/
theorem all_isTextual_assemble {banner : String} {rs : List Registration}
    {router : Http.Router Endpoint}
    (hrs : ∀ r ∈ rs, r.entry.route.IsTextual) (h : assemble banner rs = .ok router) :
    router.All Endpoint.IsTextual := by
  obtain ⟨routes, hroutes, hrouter⟩ := Json.bind_eq_ok h
  have hnew : (new banner).router.All Endpoint.IsTextual := Http.Router.all_empty _
  obtain ⟨indexed, hindexed, hrouter⟩ := Json.bind_eq_ok hrouter
  have hindex := (all_isTextual_registerAll hnew hrs hroutes).add (Endpoint.isTextual_text _) hindexed
  have hhealth : Endpoint.health.IsTextual := trivial
  exact hindex.add hhealth hrouter

end Routes

/-! ## What endpoints read -/

/-- An endpoint with a text does not read the header for the identity. -/
theorem Endpoint.answer_identified {endpoint : Endpoint} (h : endpoint.IsTextual)
    (request : Http.Request) (fresh : Bytes) :
    endpoint.answer (request.identified fresh) = endpoint.answer request := by
  rw [Http.Request.identified]
  cases request.identity? with
  | some identity => rfl
  | none =>
      cases endpoint with
      | get answer =>
          obtain ⟨body, rfl⟩ := h
          rfl
      | health => rfl
      | admission path handler =>
          have hcall : ∀ body, Handler.readCall (request.headers ++ [(Http.requestIdHeader, fresh)])
              body = Handler.readCall request.headers body :=
            fun body => Handler.readCall_append body (by decide +kernel)
          simp only [Endpoint.answer, Handler.handle, hcall]

/-- A table of such endpoints answers a request that is handed on as it answers the request itself. -/
theorem Http.Router.answer_identified {router : Router Endpoint} (h : router.All Endpoint.IsTextual)
    (request : Request) (fresh : Bytes) :
    router.answer (request.identified fresh) = router.answer request := by
  obtain ⟨hmethod, hpath⟩ := request.method_path_identified fresh
  rw [answer, answer, hmethod, hpath]
  cases hfound : router.lookup request.method request.path with
  | found endpoint => simp only [Endpoint.answer_identified (h.lookup hfound)]
  | wrongMethod served => rfl
  | missing => rfl

/-! ## What endpoints leave to the layers -/

/-- An exchange without the things that the layers add. -/
structure Exchange.Unlogged (x : Exchange) : Prop where
  /-- The answer has no identity. -/
  headers : Http.Headers.first? x.response.headers Http.requestIdHeader = none
  /-- It is not recorded that a request is completed. -/
  log : ∀ e ∈ x.log, ∀ status, e.event ≠ .requestCompleted status

theorem Exchange.unlogged_quiet {r : Http.Response}
    (h : Http.Headers.first? r.headers Http.requestIdHeader = none) : (quiet r).Unlogged :=
  ⟨h, by rintro e ⟨⟩⟩

theorem Http.Response.first?_measured (r : Response) :
    Headers.first? r.measured.headers requestIdHeader
      = Headers.first? r.headers requestIdHeader := by
  rw [measured]
  split
  next => rfl
  next => exact Headers.first?_append_other (by decide +kernel)

theorem Http.Response.headers_forMethod (r : Response) (method : String) :
    (r.forMethod method).headers = r.headers := by
  rw [forMethod]
  split <;> rfl

theorem Handler.unlogged_handle (h : Handler) (path : String) (headers : Http.Headers)
    (body : Bytes) : (h.handle path headers body).Unlogged := by
  have hjson : Http.Headers.first? [Http.contentType Http.jsonMediaType] Http.requestIdHeader
      = none := Http.Headers.first?_singleton_other (by decide +kernel)
  rw [handle]
  cases readCall headers body with
  | error error => exact ⟨hjson, by simp [entry]⟩
  | ok review =>
      refine ⟨hjson, fun e he => ?_⟩
      rcases List.mem_append.mp he with hfailed | hjudged
      · cases hresult : (h.policy review.request).result with
        | ok v =>
            rw [judge_of_ok hresult] at hfailed
            cases hfailed
        | error failure =>
            rw [judge_of_error hresult] at hfailed
            rw [List.mem_singleton.mp hfailed]
            simp [entry]
      · rw [List.mem_singleton.mp hjudged]
        simp [entry]

theorem Endpoint.unlogged_answer {endpoint : Endpoint} (h : endpoint.IsTextual)
    (request : Http.Request) : (endpoint.answer request).Unlogged := by
  have htext : Http.Headers.first? [Http.contentType Http.textMediaType] Http.requestIdHeader
      = none := Http.Headers.first?_singleton_other (by decide +kernel)
  cases endpoint with
  | get answer =>
      obtain ⟨body, rfl⟩ := h
      exact Exchange.unlogged_quiet htext
  | health => exact Exchange.unlogged_quiet rfl
  | admission path handler =>
      rw [answer]
      split
      · exact Exchange.unlogged_quiet htext
      · exact handler.unlogged_handle path request.headers request.body

/-- Whether or not a request finds an endpoint, its answer has no identity, and it is not recorded
that it is completed. -/
theorem Http.Router.unlogged_answer {router : Router Endpoint} (h : router.All Endpoint.IsTextual)
    (request : Request) : (router.answer request).Unlogged := by
  rw [answer]
  split
  next endpoint hfound =>
    have hendpoint := Endpoint.unlogged_answer (h.lookup hfound) request
    refine ⟨?_, hendpoint.log⟩
    show Headers.first? (Response.forMethod _ (Response.measured _)).headers _ = none
    rw [Response.headers_forMethod, Response.first?_measured]
    exact hendpoint.headers
  next served _ =>
    refine Exchange.unlogged_quiet ?_
    rw [Response.first?_measured]
    exact Headers.first?_singleton_other (by decide +kernel)
  next =>
    split
    · exact Exchange.unlogged_quiet rfl
    · exact Exchange.unlogged_quiet (Response.first?_measured _)

/-! ## The layers -/

/-- What becomes of an exchange when the request is logged: it stays as it is, but the answer
carries the identity of the request, and one entry more says that the request is completed. -/
structure Exchange.LoggedAs (bare logged : Exchange) (outer : Span) (request : Http.Request)
    (identity : Bytes) : Prop where
  /-- The status stays. -/
  status : logged.response.status = bare.response.status
  /-- The body stays. -/
  body : logged.response.body = bare.response.body
  /-- The same policies are asked the same questions. -/
  asked : logged.asked = bare.asked
  /-- The headers stay, and one is added. -/
  headers : logged.response.headers = bare.response.headers ++ [("x-request-id", identity)]
  /-- What was recorded without the layers is recorded, and nothing of it is like what is added. -/
  unlogged : bare.Unlogged
  /-- The entry that is added stands in a span of its own within the outer one. -/
  log : ∃ entry, logged.log = bare.log ++ [entry] ∧
    entry.spans = [outer, ⟨"request", [.text "method" request.method, .text "path" request.path,
      .text "request_id" ((Http.Headers.readable? identity).getD "")]⟩] ∧
    entry.event = .requestCompleted bare.response.status ∧ entry.event.level = .info ∧
    entry.event.fields = [.said "request completed", .count "status" bare.response.status]

theorem Http.Response.carrying_some {r : Response} {identity : Bytes}
    (h : Headers.first? r.headers requestIdHeader = none) :
    r.carrying (some identity)
      = { r with headers := r.headers ++ [(requestIdHeader, identity)] } := by
  simp only [carrying, h]

/-- However a request is answered, also when it never gets to an endpoint, logging it changes only
one header of the answer and one entry of the log.  Both have the first identity that the request
came with, whatever its bytes are, or else the fresh one. -/
theorem Http.Router.answer_withRequestLogging {router : Router Endpoint}
    (htextual : router.All Endpoint.IsTextual) (outer : Span) (fresh : Bytes) (request : Request) :
    (router.answer request).LoggedAs (withRequestLogging outer fresh router.answer request) outer
      request ((request.headers.first? "x-request-id").getD fresh) := by
  have hbare := router.unlogged_answer htextual request
  have hecho : echoIdentity router.answer (request.identified fresh)
      = (router.answer request).mapResponse fun r =>
        { r with headers := r.headers ++ [(requestIdHeader, request.identity?.getD fresh)] } := by
    rw [echoIdentity, router.answer_identified htextual, request.identity?_identified,
      Exchange.mapResponse, Response.carrying_some hbare.headers]
    rfl
  rw [withRequestLogging, recordCompletion, hecho, request.span_identified]
  exact ⟨rfl, rfl, rfl, rfl, hbare, _, rfl, rfl, rfl, rfl, rfl⟩

/-- A request that comes with two identities, the first of which cannot be read. -/
def Http.sampleRequest : Http.Request :=
  ⟨"HEAD", .mk "/review?now", [("X-Request-Id", [200]), ("x-request-id", [65])], []⟩

/-- The first identity counts, whatever its bytes are. -/
theorem Http.Router.answer_withRequestLogging_sample : ∃ router,
    Routes.assemble "webhook" Routes.sampleRoutes = .ok router ∧ router.All Endpoint.IsTextual ∧
    ∀ outer fresh, (router.answer sampleRequest).LoggedAs
      (withRequestLogging outer fresh router.answer sampleRequest) outer sampleRequest [200] := by
  obtain ⟨router, h⟩ := Json.eq_ok_of_isSome (x := Routes.assemble "webhook" Routes.sampleRoutes)
    (by decide +kernel)
  have htext : ∀ path, (Routes.Registration.get path Routes.sampleText).entry.route.IsTextual :=
    fun _ => ⟨"help", rfl⟩
  have hroutes : ∀ r ∈ Routes.sampleRoutes, r.entry.route.IsTextual := by
    intro r hr
    simp only [Routes.sampleRoutes, List.mem_cons, List.not_mem_nil, or_false] at hr
    rcases hr with rfl | rfl | rfl | rfl
    · exact trivial
    · exact htext _
    · exact htext _
    · exact trivial
  have htextual := Routes.all_isTextual_assemble hroutes h
  exact ⟨router, h, htextual, fun outer fresh =>
    answer_withRequestLogging htextual outer fresh sampleRequest⟩

end Webhook
