import Webhook.Handler
import Webhook.Proofs.Review.Codec

/-!
# What a call is answered with

A call is refused or answered.  `Exchange.Refuses` says what the caller of a refused call gets: the
words of the error and nothing else.  `Handler.Answers` says what an answer to a review says, when
its body is read again: it repeats the review's version, kind and identity, and reports how the run
of the policy ended (`Handler.Reports`).  An operation goes on only when the policy ended with a
verdict that allows it.  Everything else is a denial that says why.

`Handler.handle_faithful` says that each call comes to exactly one of the two, and that the policy
has no part in it but for its outcome on the one question that it is asked.
-/

namespace Webhook

open Json (Shape Value nestingLimit)

/-- What comes of a call that is refused: the caller's mistake, with its words and the status in an
object that holds nothing else, and no question to a policy. -/
structure Exchange.Refuses (x : Exchange) (error : DecodeError) : Prop where
  /-- The caller's mistake. -/
  status : x.response.status = 400
  /-- The body is JSON. -/
  headers : x.response.headers = [Http.contentType Http.jsonMediaType]
  /-- What the body is read as. -/
  body : Shape.any.readText (Utf8.encode x.response.body)
    = .ok (Value.object [("message", .string error.message), ("status", .number (.whole 400))])
  /-- The policy is not asked. -/
  asked : x.asked = []

/-- An answer that reports how the run of a policy ended. -/
structure Handler.Reports (h : Handler) (outcome : Outcome) (a : Response) : Prop where
  /-- Only a verdict that allows the operation lets it go on. -/
  allowed : a.allowed = true ↔ outcome = .verdict .allow
  /-- There is nothing to say about an operation that goes on. -/
  quiet : a.allowed = true → a.status = none
  /-- A denial has a text that is not blank: its own, or one that says that the policy failed. -/
  denied : a.allowed = false → ∃ text,
    a.status = some ⟨some text, some 403, some "Forbidden"⟩ ∧
    (∃ c ∈ text.toList, Text.isBlank c = false) ∧
    (∀ reason, outcome = .verdict (.deny reason) → text = reason.text) ∧
    ((∀ v, outcome ≠ .verdict v) → text = "internal error evaluating admission policy " ++ h.name)

/-- What comes of a call with a review: an answer to it that reports what the policy says about its
question, which is the only one that the policy is asked. -/
structure Handler.Answers (h : Handler) (review : Review) (x : Exchange) : Prop where
  /-- The call succeeds. -/
  status : x.response.status = 200
  /-- The body is JSON. -/
  headers : x.response.headers = [Http.contentType Http.jsonMediaType]
  /-- The policy is asked once. -/
  asked : x.asked = [⟨h.name, review.request⟩]
  /-- What the body is read as. -/
  body : ∃ a, ReviewResponse.read (Utf8.encode x.response.body) = .ok a ∧
    a.apiVersion = review.apiVersion ∧ a.kind = review.kind ∧
    a.response.uid = review.request.uid ∧ h.Reports (h.policy review.request) a.response

namespace Handler

/-! ## Refusals -/

theorem readText_refusal (error : DecodeError) :
    Shape.any.readText (Utf8.encode (refusal error).body) = .ok
      (Value.object [("message", .string error.message), ("status", .number (.whole 400))]) := by
  have hsorted : Json.SortedNames
      [("message", Value.string error.message), ("status", .number (.whole 400))] := by
    refine List.pairwise_pair.mpr ?_
    have hlt : "message" < "status" := by decide
    exact hlt
  refine Shape.readText_print (s := .any) rfl rfl (.object hsorted ?_)
  intro m hm
  rcases List.mem_cons.mp hm with rfl | hm
  · exact .string
  · rw [List.mem_singleton.mp hm]
    exact .whole ⟨by decide, by decide⟩

theorem refuses_of_error {headers : Http.Headers} {body : Bytes} {error : DecodeError}
    (h : Handler) (path : String) (hcall : readCall headers body = .error error) :
    (h.handle path headers body).Refuses error := by
  rw [handle, hcall]
  exact ⟨rfl, rfl, readText_refusal error, rfl⟩

/-- A body that is no review is refused however it is announced. -/
theorem readCall_of_error {body : Bytes} {error : DecodeError} (headers : Http.Headers)
    (h : Review.decode body = .error error) :
    ∃ mistake, readCall headers body = .error mistake := by
  rw [readCall]
  split
  · exact ⟨error, h⟩
  · exact ⟨_, rfl⟩

/-! ## Answers -/

theorem exists_of_not_blank {text : String} (h : Text.isBlankText text = false) :
    ∃ c ∈ text.toList, Text.isBlank c = false := by
  rw [Text.isBlankText, List.all_eq_false] at h
  obtain ⟨c, hc, hblank⟩ := h
  exact ⟨c, hc, Bool.not_eq_true _ ▸ hblank⟩

/-- The text about a policy that failed is never blank, whatever the name of the policy. -/
theorem fallback_eq (h : Handler) : ∃ reason, h.fallback = .deny reason ∧
    reason.text = "internal error evaluating admission policy " ++ h.name := by
  have htext : Text.isBlankText ("internal error evaluating admission policy " ++ h.name)
      = false := by
    rw [Text.isBlankText_append]
    rfl
  exact Verdict.denial_eq htext

theorem reports_deny {h : Handler} {outcome : Outcome} {reason : Reason} (uid : String)
    (hallow : outcome ≠ .verdict .allow)
    (hdeny : ∀ reason', outcome = .verdict (.deny reason') → reason.text = reason'.text)
    (hfail : (∀ v, outcome ≠ .verdict v) →
      reason.text = "internal error evaluating admission policy " ++ h.name) :
    h.Reports outcome (.ofVerdict uid (.deny reason)) where
  allowed := ⟨by rintro ⟨⟩, fun heq => absurd heq hallow⟩
  quiet := by rintro ⟨⟩
  denied _ := ⟨reason.text, rfl, exists_of_not_blank reason.not_blank, hdeny, hfail⟩

/-- A verdict of the policy is passed on. -/
theorem judge_of_ok {h : Handler} {request : Request} {v : Verdict}
    (hresult : (h.policy request).result = .ok v) :
    h.judge request = ⟨v, [⟨h.name, request⟩], []⟩ := by
  rw [judge, ask]
  simp only [hresult]

/-- Without one the request is denied, and it is recorded why. -/
theorem judge_of_error {h : Handler} {request : Request} {failure : Failure}
    (hresult : (h.policy request).result = .error failure) :
    h.judge request = ⟨h.fallback, [⟨h.name, request⟩],
      [h.entry (.policyFailed request.uid failure.message)]⟩ := by
  rw [judge, ask]
  simp only [hresult]

/-- A handler asks its policy one question, in its own name. -/
theorem asked_judge (h : Handler) (request : Request) :
    (h.judge request).asked = [⟨h.name, request⟩] := by
  cases hresult : (h.policy request).result with
  | ok v => rw [judge_of_ok hresult]
  | error failure => rw [judge_of_error hresult]

/-- The answer reports the outcome, also one that is no verdict. -/
theorem reports_judge (h : Handler) (request : Request) :
    h.Reports (h.policy request) (.ofVerdict request.uid (h.judge request).verdict) := by
  obtain ⟨reason, hfallback, htext⟩ := h.fallback_eq
  rw [judge, ask]
  cases h.policy request with
  | verdict v =>
      cases v with
      | allow => exact ⟨⟨fun _ => rfl, fun _ => rfl⟩, fun _ => rfl, by rintro ⟨⟩⟩
      | deny reason =>
          refine reports_deny request.uid (by simp) ?_ fun hne => absurd rfl (hne _)
          rintro _ ⟨⟩
          rfl
  | failure f =>
      simp only [Outcome.result, hfallback]
      exact reports_deny request.uid (by simp) (by simp) fun _ => htext
  | breakdown text =>
      simp only [Outcome.result, hfallback]
      exact reports_deny request.uid (by simp) (by simp) fun _ => htext

theorem answers_of_ok {headers : Http.Headers} {body : Bytes} {review : Review} (h : Handler)
    (path : String) (hcall : readCall headers body = .ok review) :
    h.Answers review (h.handle path headers body) := by
  rw [handle, hcall]
  exact ⟨rfl, rfl, h.asked_judge review.request, _, ReviewResponse.read_encode _, rfl, rfl, rfl,
    h.reports_judge review.request⟩

/-! ## The part of the policy -/

/-- A handler with another policy in the place of its own. -/
def withPolicy (h : Handler) (policy : Policy) : Handler := { h with policy := policy }

theorem judge_withPolicy {h : Handler} {policy : Policy} {request : Request}
    (heq : policy request = h.policy request) :
    (h.withPolicy policy).judge request = h.judge request := by
  have hask : (h.withPolicy policy).ask request = h.ask request := by
    rw [ask, ask, ← heq]
    rfl
  rw [judge, judge, hask]
  rfl

theorem handle_withPolicy {h : Handler} {policy : Policy} {headers : Http.Headers} {body : Bytes}
    (path : String)
    (heq : ∀ review, readCall headers body = .ok review →
      policy review.request = h.policy review.request) :
    (h.withPolicy policy).handle path headers body = h.handle path headers body := by
  rw [handle, handle]
  cases hcall : readCall headers body with
  | error error => rfl
  | ok review =>
      simp only [judge_withPolicy (heq review hcall)]
      rfl

/-- A call that is not announced as JSON, or whose body is no review, is refused without asking the
policy.  Every other call is answered, with what the policy says about its question.  Of the policy
nothing else matters than its outcome on that question. -/
theorem handle_faithful (h : Handler) (path : String) (headers : Http.Headers) (body : Bytes) :
    (Http.MediaType.isJson (headers.text "content-type") = false →
      (h.handle path headers body).Refuses (.contentType (headers.text "content-type"))) ∧
    (Http.MediaType.isJson (headers.text "content-type") = true →
      (∀ error, Review.decode body = .error error →
        (h.handle path headers body).Refuses error) ∧
      (∀ review, Review.decode body = .ok review →
        h.Answers review (h.handle path headers body))) ∧
    ∀ policy : Policy,
      (Http.MediaType.isJson (headers.text "content-type") = true →
        ∀ review, Review.decode body = .ok review →
          policy review.request = h.policy review.request) →
      (h.withPolicy policy).handle path headers body = h.handle path headers body := by
  refine ⟨fun hjson => ?_, fun hjson => ⟨fun error hdecode => ?_, fun review hdecode => ?_⟩,
    fun policy hpolicy => ?_⟩
  · refine h.refuses_of_error path ?_
    rw [readCall]
    simp only [hjson, Bool.false_eq_true, if_false]
  · refine h.refuses_of_error path ?_
    rw [readCall]
    simp only [hjson, if_true, hdecode]
  · refine h.answers_of_ok path ?_
    rw [readCall]
    simp only [hjson, if_true, hdecode]
  · refine handle_withPolicy path fun review hcall => ?_
    rw [readCall] at hcall
    split at hcall
    next hjson => exact hpolicy hjson review hcall
    next => cases hcall

end Handler
end Webhook
