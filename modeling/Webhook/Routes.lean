import Webhook.Handler
import Webhook.Http.Router

/-!
# The routes of the server

Admission handlers are mounted for posting, and other things for reading.  Two more routes come
last: an index on the root that lists all paths, and a health check that answers with nothing.  The
listed paths start with these two, and the others follow as they were mounted.
-/

namespace Webhook

/-- What a route does. -/
inductive Endpoint where
  /-- Hands the call to the handler that is mounted on a path. -/
  | admission (path : String) (handler : Handler)
  /-- Answers with what there is to read for a request. -/
  | get (answer : Http.Request → Http.Response)
  /-- Answers with nothing. -/
  | health

/-- An endpoint that answers with a text. -/
def Endpoint.text (body : String) : Endpoint := .get fun _ => .ofText body

/-- Routes that are being mounted. -/
structure Routes where
  /-- The first line of the index. -/
  banner : String
  /-- The paths that the index lists. -/
  paths : List String
  /-- The routes so far, without the two that come last. -/
  router : Http.Router Endpoint

namespace Routes

/-- The path of the index. -/
def indexPath : String := "/"

/-- The path of the health check. -/
def healthPath : String := "/healthz"

/-- The greatest length of the body of an admission call. -/
def maxBodyBytes : Nat := 8 * 1024 * 1024

/-- No routes but the two that come last. -/
def new (banner : String) : Routes := ⟨banner, [indexPath, healthPath], .empty⟩

/-- Mounts an endpoint. -/
def mount (routes : Routes) (verb : Http.Verb) (path : String) (endpoint : Endpoint) :
    Except Http.RouteFault Routes := do
  let router ← routes.router.add verb path endpoint
  return { routes with paths := routes.paths ++ [path], router := router }

/-- Mounts a handler for posting. -/
def admission (routes : Routes) (path : String) (handler : Handler) :
    Except Http.RouteFault Routes :=
  routes.mount .post path (.admission path handler)

/-- Mounts something for reading. -/
def get (routes : Routes) (path : String) (answer : Http.Request → Http.Response) :
    Except Http.RouteFault Routes :=
  routes.mount .get path (.get answer)

/-- A line of text. -/
def line (text : String) : String := text ++ "\n"

/-- The index: the banner, a heading, and the paths, each on a line of its own. -/
def index (routes : Routes) : String :=
  String.join ((routes.banner :: "Available routes:" :: routes.paths).map line)

/-- The finished route table. -/
def toRouter (routes : Routes) : Except Http.RouteFault (Http.Router Endpoint) := do
  let router ← routes.router.add .get indexPath (.text routes.index)
  router.add .get healthPath .health

end Routes

/-! ## Answering -/

namespace Exchange

/-- An answer that no policy has part in and that is not worth recording. -/
def quiet (response : Http.Response) : Exchange := ⟨response, [], []⟩

/-- The same exchange with another answer. -/
def mapResponse (f : Http.Response → Http.Response) (e : Exchange) : Exchange :=
  { e with response := f e.response }

end Exchange

/-- The answer to a body that is too long. -/
def Http.Response.tooLarge : Http.Response :=
  ⟨413, [contentType textMediaType], "Failed to buffer the request body: length limit exceeded"⟩

/-- The answer for a path that does not serve the method. -/
def Http.Response.wrongMethod (served : List String) : Http.Response :=
  ⟨405, [textHeader "allow" (",".intercalate served)], ""⟩

/-- The answer for a path without a route. -/
def Http.Response.missing : Http.Response := ⟨404, [], ""⟩

/-- Whether a list is longer than a bound. -/
def isLongerThan {α : Type} : Nat → List α → Bool
  | _, [] => false
  | 0, _ :: _ => true
  | n + 1, _ :: rest => isLongerThan n rest

/-- Answers a request with an endpoint. -/
def Endpoint.answer (request : Http.Request) : Endpoint → Exchange
  | admission path handler =>
    if isLongerThan Routes.maxBodyBytes request.body then .quiet .tooLarge
    else handler.handle path request.headers request.body
  | get answer => .quiet (answer request)
  | health => .quiet ⟨200, [], ""⟩

/-- Leaves out the body of an answer when only its headers are asked for. -/
def Http.Response.forMethod (method : String) (r : Response) : Response :=
  if method = "HEAD" then r.withoutBody else r

/-- Answers a request.  The length of a body is told, except where nothing was found for a path
that starts with a slash. -/
def Http.Router.answer (router : Http.Router Endpoint) (request : Http.Request) : Exchange :=
  match router.lookup request.method request.path with
  | .found endpoint =>
    (endpoint.answer request).mapResponse fun r => r.measured.forMethod request.method
  | .wrongMethod served => .quiet (Http.Response.wrongMethod served).measured
  | .missing =>
    if request.path.startsWith "/" then .quiet .missing else .quiet Http.Response.missing.measured

end Webhook
