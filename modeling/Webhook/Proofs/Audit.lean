import Webhook.Proofs.Handler

/-!
# What the log says about a call

A call leaves one entry in the log, or two when the policy ended without a verdict.  The entries
stand in the span of the handler.  `Handler.NotesRefusal`, `Handler.NotesFailure` and
`Handler.NotesVerdict` say what one of them tells.

The log and the answer are made of the same parts in different ways.  `Handler.handle_audited` says
that they agree: what the log has about a verdict is what the answer says when it is read again.
-/

namespace Webhook

open Json (Shape Value)

/-- What an entry holds under a label. -/
def LogEntry.value? (e : LogEntry) (label : String) : Option Value := e.event.fields.lookup label

/-- The words for the way in which a run of a policy ended, if it ended without a verdict. -/
def Outcome.failureText? : Outcome → Option String
  | verdict _ => none
  | failure f => some f.message
  | breakdown text => some ("policy panicked: " ++ text.getD "unknown panic")

namespace Handler

/-- An entry about a call that is refused. -/
structure NotesRefusal (h : Handler) (path text : String) (e : LogEntry) : Prop where
  /-- It stands in the span of the handler, and in what that is in. -/
  spans : e.spans = h.around ++ [h.span]
  /-- It is a warning. -/
  level : e.event.level = .warn
  /-- It names the path. -/
  path : e.value? "path" = some (.string path)
  /-- It says what is wrong. -/
  error : e.value? "error" = some (.string text)

/-- An entry about a policy that ended without a verdict. -/
structure NotesFailure (h : Handler) (uid text : String) (e : LogEntry) : Prop where
  /-- It stands in the span of the handler, and in what that is in. -/
  spans : e.spans = h.around ++ [h.span]
  /-- It is an error. -/
  level : e.event.level = .error
  /-- It names the question. -/
  uid : e.value? "uid" = some (.string uid)
  /-- It says what happened. -/
  error : e.value? "error" = some (.string text)

/-- An entry about a question and the answer to it. -/
structure NotesVerdict (h : Handler) (path : String) (question : Request) (answer : Response)
    (e : LogEntry) : Prop where
  /-- It stands in the span of the handler, and in what that is in. -/
  spans : e.spans = h.around ++ [h.span]
  /-- It is a plain piece of information. -/
  level : e.event.level = .info
  /-- It names the path. -/
  path : e.value? "path" = some (.string path)
  /-- It names the question. -/
  uid : e.value? "uid" = some (.string question.uid)
  /-- It names what is done. -/
  operation : e.value? "operation" = some (.string question.operation.name)
  /-- It names the kind of the object. -/
  kind : e.value? "kind" = some (.string question.kind.kind)
  /-- It names the namespace, which is empty when there is none. -/
  «namespace» : e.value? "namespace" = some (.string (question.namespace.getD ""))
  /-- It names the object, by an empty name when there is none. -/
  name : e.value? "name" = some (.string (question.name.getD ""))
  /-- It has the flag of the answer. -/
  allowed : e.value? "allowed" = some (.bool answer.allowed)
  /-- It has the words of the answer, which are empty when there are none. -/
  message : e.value? "message" = some (.string ((answer.status.bind (·.message)).getD ""))

theorem notesRefusal_entry (h : Handler) (path text : String) :
    h.NotesRefusal path text (h.entry (.reviewRejected path text)) := ⟨rfl, rfl, rfl, rfl⟩

theorem notesFailure_entry (h : Handler) (uid text : String) :
    h.NotesFailure uid text (h.entry (.policyFailed uid text)) := ⟨rfl, rfl, rfl, rfl⟩

/-- The entry about a verdict has the flag and the words of the answer that carries it. -/
theorem notesVerdict_entry (h : Handler) (path uid : String) (question : Request) (v : Verdict) :
    h.NotesVerdict path question (.ofVerdict uid v) (h.entry (.requestJudged path question v)) := by
  refine ⟨rfl, rfl, rfl, rfl, rfl, rfl, rfl, rfl, rfl, ?_⟩
  cases v <;> rfl

/-- Judging leaves an entry exactly when the policy ends without a verdict. -/
theorem log_judge (h : Handler) (question : Request) : (h.judge question).log =
    ((h.policy question).failureText?.map fun text =>
      h.entry (.policyFailed question.uid text)).toList := by
  rw [judge, ask]
  cases h.policy question <;> rfl

/-! ## Calls -/

/-- The log of a call that is refused: one entry, with the words that the answer has too. -/
structure AuditsRefusal (h : Handler) (path : String) (error : DecodeError) (x : Exchange) : Prop
    where
  /-- The answer is a refusal. -/
  status : x.response.status = 400
  /-- The words of the answer, when it is read. -/
  answer : Shape.any.readText (Utf8.encode x.response.body)
    = .ok (.object [("message", .string error.message), ("status", .number (.whole 400))])
  /-- The only entry. -/
  log : ∃ e, x.log = [e] ∧ h.NotesRefusal path error.message e

/-- The log of a call with a review: an entry about the answer, and before it one about the policy
exactly when that ended without a verdict. -/
structure AuditsVerdict (h : Handler) (path : String) (question : Request) (x : Exchange) : Prop
    where
  /-- The answer carries a verdict. -/
  status : x.response.status = 200
  /-- The entries, of which the last one agrees with the answer when it is read. -/
  log : ∃ a failed e, ReviewResponse.read (Utf8.encode x.response.body) = .ok a ∧
    x.log = failed ++ [e] ∧ h.NotesVerdict path question a.response e ∧
    (∀ text, (h.policy question).failureText? = some text →
      ∃ e', failed = [e'] ∧ h.NotesFailure question.uid text e') ∧
    ((h.policy question).failureText? = none → failed = [])

theorem auditsRefusal_handle (h : Handler) (path : String) {headers : Http.Headers} {body : Bytes}
    {error : DecodeError} (hcall : readCall headers body = .error error) :
    h.AuditsRefusal path error (h.handle path headers body) := by
  have hrefuses := h.refuses_of_error path hcall
  refine ⟨hrefuses.status, hrefuses.body, ?_⟩
  rw [handle, hcall]
  exact ⟨_, rfl, h.notesRefusal_entry path error.message⟩

theorem auditsVerdict_handle (h : Handler) (path : String) {headers : Http.Headers} {body : Bytes}
    {review : Review} (hcall : readCall headers body = .ok review) :
    h.AuditsVerdict path review.request (h.handle path headers body) := by
  rw [handle, hcall]
  refine ⟨rfl, _, _, _, ReviewResponse.read_encode _, rfl, h.notesVerdict_entry path _ _ _, ?_, ?_⟩
  · intro text htext
    rw [log_judge, htext]
    exact ⟨_, rfl, h.notesFailure_entry review.request.uid text⟩
  · intro hverdict
    rw [log_judge, hverdict]
    rfl

/-- Of every call the log says what the answer says.  A refusal leaves a warning with the words of
the answer.  A verdict leaves an entry with the parts of the question and with the flag and the
words of the answer, after an error with the words of the failure exactly when the policy ended
without a verdict. -/
theorem handle_audited (h : Handler) (path : String) (headers : Http.Headers) (body : Bytes) :
    (∃ error, readCall headers body = .error error ∧
      h.AuditsRefusal path error (h.handle path headers body)) ∨
    ∃ review, readCall headers body = .ok review ∧
      h.AuditsVerdict path review.request (h.handle path headers body) := by
  cases hcall : readCall headers body with
  | error error => exact .inl ⟨error, rfl, h.auditsRefusal_handle path hcall⟩
  | ok review => exact .inr ⟨review, rfl, h.auditsVerdict_handle path hcall⟩

end Handler
end Webhook
