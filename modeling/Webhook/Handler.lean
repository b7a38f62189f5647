import Webhook.Http.MediaType
import Webhook.Log
import Webhook.Review.Answer

/-!
# Answering admission calls

A handler puts a policy behind a path.  A call that is not a readable admission review is refused
as the caller's mistake, and the policy is not asked.  Every other call is answered with a verdict:
when the policy ends without one, the request is denied on its behalf.
-/

namespace Webhook

/-- A question to a policy. -/
structure Question where
  /-- The name under which the policy is asked. -/
  handler : String
  /-- What it is asked about. -/
  request : Request

/-- What comes of one request to the server. -/
structure Exchange where
  /-- The answer. -/
  response : Http.Response
  /-- The questions that policies were asked, in order. -/
  asked : List Question
  /-- What was recorded, without the times that it took. -/
  log : Log

/-- What comes of a question to a policy. -/
structure Ruling where
  /-- The verdict. -/
  verdict : Verdict
  /-- The question, which is asked on the way to the verdict. -/
  asked : List Question
  /-- What was recorded on that way. -/
  log : Log

/-- A policy under a name, with a span to record in. -/
structure Handler where
  /-- The name, for messages and the log. -/
  name : String
  /-- The policy. -/
  policy : Policy
  /-- The span that everything about its calls is recorded in. -/
  span : Span
  /-- The spans around that one, the outermost one first. -/
  around : List Span

namespace Handler

/-- An event of a handler. -/
def entry (h : Handler) (event : Event) : LogEntry := ⟨h.around ++ [h.span], event⟩

/-- The review in a call, or the caller's mistake.  The media type is looked at first. -/
def readCall (headers : Http.Headers) (body : Bytes) : Except DecodeError Review :=
  let mediaType := headers.text "content-type"
  if Http.MediaType.isJson mediaType then Review.decode body else .error (.contentType mediaType)

/-- The denial of a request whose policy ended without a verdict. -/
def fallback (h : Handler) : Verdict :=
  .denial ("internal error evaluating admission policy " ++ h.name)

/-- Asks the policy about a request. -/
def ask (h : Handler) (request : Request) : Outcome × List Question :=
  (h.policy request, [⟨h.name, request⟩])

/-- Asks for the verdict on a request. -/
def judge (h : Handler) (request : Request) : Ruling :=
  let (outcome, asked) := h.ask request
  match outcome.result with
  | .ok verdict => ⟨verdict, asked, []⟩
  | .error failure => ⟨h.fallback, asked, [h.entry (.policyFailed request.uid failure.message)]⟩

/-- The answer to a call that is not a readable review. -/
def refusal (error : DecodeError) : Http.Response :=
  ⟨400, [Http.contentType Http.jsonMediaType],
    (Json.Value.object [("message", .string error.message), ("status", .number (.whole 400))]).render⟩

/-- The answer to a review. -/
def answer (review : Review) (verdict : Verdict) : Http.Response :=
  ⟨200, [Http.contentType Http.jsonMediaType], (review.respond verdict).encode⟩

/-- Answers a call on a path.  Writing the answer to a review cannot fail, so there is no other
answer than these two. -/
def handle (h : Handler) (path : String) (headers : Http.Headers) (body : Bytes) : Exchange :=
  match readCall headers body with
  | .error error => ⟨refusal error, [], [h.entry (.reviewRejected path error.message)]⟩
  | .ok review =>
    let ruling := h.judge review.request
    ⟨answer review ruling.verdict, ruling.asked,
      ruling.log ++ [h.entry (.requestJudged path review.request ruling.verdict)]⟩

end Handler
end Webhook
