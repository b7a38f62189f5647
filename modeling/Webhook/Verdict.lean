import Webhook.Json.Fault
import Webhook.Review.Basic
import Webhook.Text.Blank

/-!
# Verdicts

A policy looks at a request and allows or denies it.  A denial always says why: when the given
reason is blank, a general one takes its place.

A run of a policy need not end in a verdict.  It can fail to read the object, and a policy that is
not part of this library can fail for reasons of its own or break off without an answer.
-/

namespace Webhook

/-- A reason for a denial, which is never blank. -/
structure Reason where
  /-- The reason in words. -/
  text : String
  /-- There is something to read. -/
  not_blank : Text.isBlankText text = false
  deriving DecidableEq

namespace Reason

/-- The reason of a denial that gives none. -/
def unstated : Reason := ⟨"denied by admission policy", by decide +kernel⟩

/-- The reason in given words, or the general one when the words are blank. -/
def ofText (text : String) : Reason :=
  if h : Text.isBlankText text = false then ⟨text, h⟩ else unstated

/-- Words that are not blank are kept as they are. -/
theorem text_ofText {text : String} (h : Text.isBlankText text = false) :
    (ofText text).text = text := by
  simp [ofText, h]

/-- Blank words give the general reason. -/
theorem ofText_of_blank {text : String} (h : Text.isBlankText text = true) :
    ofText text = unstated := by
  simp [ofText, h]

end Reason

/-- The answer of a policy. -/
inductive Verdict where
  /-- The operation may go on. -/
  | allow
  /-- The operation may not go on. -/
  | deny (reason : Reason)
  deriving DecidableEq

namespace Verdict

/-- A denial in given words. -/
def denial (text : String) : Verdict := .deny (.ofText text)

/-- A denial keeps words that are not blank. -/
theorem denial_eq {text : String} (h : Text.isBlankText text = false) :
    ∃ reason, denial text = .deny reason ∧ reason.text = text :=
  ⟨.ofText text, rfl, Reason.text_ofText h⟩

/-- Whether the operation may go on. -/
def allowed : Verdict → Bool
  | allow => true
  | deny _ => false

/-- The words of a denial. -/
def message? : Verdict → Option String
  | allow => none
  | deny reason => some reason.text

end Verdict

/-- Why a run of a policy ends without a verdict. -/
inductive Failure where
  /-- The object is not of the type that its kind promises. -/
  | undecodable (kind : String) (mismatch : Json.Mismatch)
  /-- The policy broke off, with its last words. -/
  | broken (text : String)
  deriving DecidableEq

/-- The words for a failure. -/
def Failure.message : Failure → String
  | undecodable kind mismatch => "cannot decode " ++ kind ++ " object: " ++ mismatch.message
  | broken text => "policy panicked: " ++ text

/-- How a run of a policy ends. -/
inductive Outcome where
  /-- With a verdict. -/
  | verdict (v : Verdict)
  /-- With a failure that the policy itself noticed. -/
  | failure (f : Failure)
  /-- Without an answer; the policy may have left some last words.  Whatever else it left is let go,
  which is taken to go well. -/
  | breakdown (text : Option String)
  deriving DecidableEq

/-- The words for a breakdown that left none. -/
def Outcome.noWords : String := "unknown panic"

/-- The verdict, where a breakdown counts as a failure. -/
def Outcome.result : Outcome → Except Failure Verdict
  | verdict v => .ok v
  | failure f => .error f
  | breakdown text => .error (.broken (text.getD noWords))

/-- A policy gives an outcome for every request, and the same one whenever it is asked. -/
abbrev Policy := Request → Outcome

/-- The policy that decides by a rule which may fail. -/
def Policy.ofRule (rule : Request → Except Failure Verdict) : Policy := fun request =>
  match rule request with
  | .ok v => .verdict v
  | .error f => .failure f

/-- A rule and its policy agree. -/
@[simp]
theorem Policy.result_ofRule (rule : Request → Except Failure Verdict) (request : Request) :
    (Policy.ofRule rule request).result = rule request := by
  unfold Policy.ofRule
  cases rule request <;> rfl

end Webhook
