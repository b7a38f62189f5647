import Webhook.Routes

/-!
# Logging of requests

Three layers around the answering of requests.  The outermost one sees to it that every request
carries an identity: a fresh one is added to a request without one.  The next one records that the
request is completed, within a span that names the method, the path and the identity.  The innermost
one puts the identity of the request on its answer.

The layers may record more for those who look for faults in them, such as the start of a request and
how long it took.  That is not part of the log.
-/

namespace Webhook.Http

/-- The header for the identity of a request. -/
def requestIdHeader : String := "x-request-id"

/-- The identity that a request carries. -/
def Request.identity? (request : Request) : Option Bytes := request.headers.first? requestIdHeader

/-- The request with a fresh identity, unless it carries one. -/
def Request.identified (fresh : Bytes) (request : Request) : Request :=
  match request.identity? with
  | some _ => request
  | none => { request with headers := request.headers ++ [(requestIdHeader, fresh)] }

/-- The span of a request.  An identity that cannot be read is left out of it. -/
def Request.span (request : Request) : Span :=
  ⟨"request", [.text "method" request.method, .text "path" request.path,
    .text "request_id" (request.headers.text requestIdHeader)]⟩

/-- The answer with the identity of its request, unless it carries one of its own. -/
def Response.carrying (identity? : Option Bytes) (r : Response) : Response :=
  match Headers.first? r.headers requestIdHeader, identity? with
  | none, some identity => { r with headers := r.headers ++ [(requestIdHeader, identity)] }
  | _, _ => r

/-- Puts the identity of a request on its answer. -/
def echoIdentity (answer : Request → Exchange) (request : Request) : Exchange :=
  (answer request).mapResponse (·.carrying request.identity?)

/-- Records that a request is completed, within a given span. -/
def recordCompletion (outer : Span) (answer : Request → Exchange) (request : Request) : Exchange :=
  let e := answer request
  { e with log := e.log ++ [⟨[outer, request.span], .requestCompleted e.response.status⟩] }

/-- All layers: answers a request, given an identity for it if it carries none. -/
def withRequestLogging (outer : Span) (fresh : Bytes) (answer : Request → Exchange)
    (request : Request) : Exchange :=
  recordCompletion outer (echoIdentity answer) (request.identified fresh)

end Webhook.Http
