import Webhook.Review.Codec
import Webhook.Verdict

/-!
# Answering a review

The answer to a review repeats its version, its kind and the identity of its question.  A denial
carries a reason, which is the same status code and word for all of them, and the words of the
verdict.
-/

namespace Webhook

namespace Status

/-- The status code of every denial. -/
def denialCode : Fin 0x10000 := ⟨403, by decide⟩

/-- The reason of a denial in given words. -/
def denial (text : String) : Status := ⟨some text, some denialCode, some "Forbidden"⟩

end Status

/-- The answer to the question of a given identity. -/
def Response.ofVerdict (uid : String) (v : Verdict) : Response :=
  ⟨uid, v.allowed, v.message?.map Status.denial⟩

/-- The answer to a review. -/
def Review.respond (review : Review) (v : Verdict) : ReviewResponse :=
  ⟨review.apiVersion, review.kind, .ofVerdict review.request.uid v⟩

end Webhook
