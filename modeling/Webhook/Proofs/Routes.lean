import Webhook.Proofs.Handler
import Webhook.Proofs.Http.LiteralRoutes
import Webhook.Routes

/-!
# Answers of the routes

Handlers are mounted one after the other on literal paths, and the index and the health check come
last.  As long as the paths are new the mounting succeeds (`Routes.admission_literal`), and so does
the finishing (`Routes.toRouter_literal`).

What a finished table answers to a call on the path of a handler is what the handler answers, with
the length of the body added (`Http.Router.answer_admission`).  `Exchange.Gives` says that such an
answer carries a certain verdict.
-/

namespace Webhook

open Http (Router Mount)
open Http.RoutePath (IsLiteral letters)

/-! ## Mounting -/

namespace Routes

/-- The mount of a handler. -/
def mountOf (path : String) (handler : Handler) : Mount Endpoint :=
  ⟨path, letters path, [(.post, .admission path handler)]⟩

/-- The routes with one more handler. -/
def withHandler (routes : Routes) (path : String) (handler : Handler) : Routes :=
  { routes with
    paths := routes.paths ++ [path]
    router := routes.router.withMount .post path (.admission path handler) }

theorem admission_literal {routes : Routes} {path : String} (h : routes.router.Literal)
    (handler : Handler) (htext : Router.textFault? path.toList = none) (hpath : IsLiteral path)
    (hnew : ∀ m ∈ routes.router.mounts, m.path ≠ path) :
    routes.admission path handler = .ok (routes.withHandler path handler) := by
  rw [admission, mount, Router.add_literal h .post _ htext hpath hnew]
  rfl

/-- A table that mounts neither the index nor the health check can be finished, and then mounts
what it mounted before. -/
theorem toRouter_literal {routes : Routes} (h : routes.router.Literal)
    (hindex : ∀ m ∈ routes.router.mounts, m.path ≠ indexPath)
    (hhealth : ∀ m ∈ routes.router.mounts, m.path ≠ healthPath) :
    ∃ router, routes.toRouter = .ok router ∧ router.Literal ∧
      ∀ m ∈ routes.router.mounts, m ∈ router.mounts := by
  let indexed := routes.router.withMount .get indexPath (.text routes.index)
  have hadd : routes.router.add .get indexPath (.text routes.index) = .ok indexed :=
    Router.add_literal h .get _ (by decide +kernel) (by decide +kernel) hindex
  have hliteral : indexed.Literal := h.withMount .get _ hindex
  have hhealth' : ∀ m ∈ indexed.mounts, m.path ≠ healthPath := by
    intro m hm
    rcases List.mem_append.mp hm with hm | hm
    · exact hhealth m hm
    · rw [List.mem_singleton.mp hm]
      show indexPath ≠ healthPath
      decide
  have hadd' : indexed.add .get healthPath .health = .ok (indexed.withMount .get healthPath .health) :=
    Router.add_literal hliteral .get _ (by decide +kernel) (by decide +kernel) hhealth'
  refine ⟨indexed.withMount .get healthPath .health, ?_, hliteral.withMount .get _ hhealth', ?_⟩
  · rw [toRouter, hadd]
    exact hadd'
  · intro m hm
    exact List.mem_append_left _ (List.mem_append_left _ hm)

theorem lookup_mountOf {router : Router Endpoint} {path : String} {handler : Handler}
    (h : router.Literal) (hmem : mountOf path handler ∈ router.mounts) :
    router.lookup "POST" path = .found (.admission path handler) :=
  Router.lookup_literal (m := mountOf path handler) h hmem rfl

end Routes

/-! ## Answering -/

/-- An endpoint with nothing but a text to read. -/
def Endpoint.IsTextual : Endpoint → Prop
  | get answer => ∃ body, answer = fun _ => .ofText body
  | _ => True

theorem Endpoint.isTextual_text (body : String) : (Endpoint.text body).IsTextual := ⟨body, rfl⟩

theorem isLongerThan_iff {α : Type} : ∀ {n : Nat} {xs : List α},
    isLongerThan n xs = true ↔ n < xs.length
  | _, [] => by simp [isLongerThan]
  | 0, _ :: _ => by simp [isLongerThan]
  | n + 1, _ :: xs => by
      rw [isLongerThan, isLongerThan_iff, List.length_cons]
      omega

/-- The verdict on a request whose policy ended with an outcome.  Where that is none, the request is
denied in the name of the policy. -/
def Outcome.verdictFor (name : String) (outcome : Outcome) : Verdict :=
  match outcome.result with
  | .ok v => v
  | .error _ => .denial ("internal error evaluating admission policy " ++ name)

theorem Handler.verdict_judge (h : Handler) (request : Request) :
    (h.judge request).verdict = (h.policy request).verdictFor h.name := by
  rw [Outcome.verdictFor]
  cases hresult : (h.policy request).result with
  | ok v => rw [judge_of_ok hresult]
  | error failure =>
      rw [judge_of_error hresult]
      rfl

/-- An answer to a review that carries a verdict, after one policy was asked for it. -/
structure Exchange.Gives (x : Exchange) (name : String) (review : Review) (verdict : Verdict) :
    Prop where
  /-- The call succeeds. -/
  status : x.response.status = 200
  /-- The policy of that name is asked once, and no other one. -/
  asked : x.asked = [⟨name, review.request⟩]
  /-- What the body is read as: it repeats what identifies the review, and carries the flag and the
  message of the verdict. -/
  body : ∃ a, ReviewResponse.read (Utf8.encode x.response.body) = .ok a ∧
    a.apiVersion = review.apiVersion ∧ a.kind = review.kind ∧
    a.response.uid = review.request.uid ∧ a.response.allowed = verdict.allowed ∧
    a.response.status.bind (·.message) = verdict.message?

theorem Handler.handle_gives {h : Handler} {headers : Http.Headers} {body : Bytes}
    {review : Review} (path : String)
    (hjson : Http.MediaType.isJson (headers.text "content-type") = true)
    (hdecode : Review.decode body = .ok review) :
    (h.handle path headers body).Gives h.name review
      ((h.policy review.request).verdictFor h.name) := by
  have hcall : readCall headers body = .ok review := by
    rw [readCall]
    simp only [hjson, if_true, hdecode]
  rw [handle, hcall, ← h.verdict_judge]
  refine ⟨rfl, h.asked_judge review.request, _, ReviewResponse.read_encode _, rfl, rfl, rfl, rfl,
    ?_⟩
  show ((h.judge review.request).verdict.message?.map Status.denial).bind (·.message) = _
  cases (h.judge review.request).verdict <;> rfl

/-- Nothing that an answer says changes when its length is told. -/
theorem Exchange.Gives.measured {x : Exchange} {name : String} {review : Review}
    {verdict : Verdict} (h : x.Gives name review verdict) :
    (x.mapResponse fun r => r.measured.forMethod "POST").Gives name review verdict :=
  ⟨h.status, h.asked, h.body⟩

/-- A call whose body is too long does not get to the handler. -/
theorem Endpoint.answer_admission_long {request : Http.Request} {path : String} {handler : Handler}
    (h : Routes.maxBodyBytes < request.body.length) :
    Endpoint.answer request (.admission path handler) = .quiet .tooLarge := by
  rw [answer, isLongerThan_iff.mpr h]
  rfl

/-- Every other call does. -/
theorem Endpoint.answer_admission {request : Http.Request} {path : String} {handler : Handler}
    (h : request.body.length ≤ Routes.maxBodyBytes) :
    Endpoint.answer request (.admission path handler)
      = handler.handle path request.headers request.body := by
  have hshort : isLongerThan Routes.maxBodyBytes request.body = false := by
    cases hlong : isLongerThan Routes.maxBodyBytes request.body with
    | false => rfl
    | true => exact absurd (isLongerThan_iff.mp hlong) (Nat.not_lt.mpr h)
  rw [answer, hshort]
  rfl

namespace Http.Router

/-- A call that fits on the path of a handler is answered by the handler. -/
theorem answer_admission {router : Router Endpoint} {request : Request} {path : String}
    {handler : Handler} {review : Review}
    (hfound : router.lookup "POST" path = .found (.admission path handler))
    (hmethod : request.method = "POST") (hpath : request.path = path)
    (hjson : MediaType.isJson (request.headers.text "content-type") = true)
    (hlength : request.body.length ≤ Routes.maxBodyBytes)
    (hdecode : Review.decode request.body = .ok review) :
    (router.answer request).Gives handler.name review
      ((handler.policy review.request).verdictFor handler.name) := by
  rw [answer, hmethod, hpath, hfound]
  simp only [Endpoint.answer_admission hlength]
  exact (Handler.handle_gives path hjson hdecode).measured

end Http.Router
end Webhook
