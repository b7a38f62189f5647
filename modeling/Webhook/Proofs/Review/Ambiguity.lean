import Webhook.Proofs.Handler
import Webhook.Proofs.Json.Repeats
import Webhook.Proofs.Review.Spelling

/-!
# Ambiguous reviews

A review is ambiguous when a record in it names a field twice (`Review.Ambiguous`), whatever the
two values are and however the name is spelled.  The records are the envelope, the question, and
the kinds and resources of the question.  `Review.ambiguous_refused` says that no such review is
judged.

The user in a question and the values that policies look into are no such records: of two members
with one name, the last one counts there.
-/

namespace Webhook

open Json (Raw Shape Fields IsText Value)

namespace Review

/-- Raw JSON of a review in which a record has more than one member for one of its fields. -/
inductive Ambiguous (k : Raw) : Prop where
  /-- The envelope names a field twice. -/
  | envelope : k.Repeats envelopeFields.names → Ambiguous k
  /-- The question names a field twice. -/
  | question {q : Raw} : q ∈ k.standIns envelopeFields.names "request" →
      q.Repeats Request.fields.names → Ambiguous k
  /-- A kind in the question names a field twice. -/
  | kind {q w : Raw} {name : String} : q ∈ k.standIns envelopeFields.names "request" →
      name ∈ ["kind", "requestKind"] → w ∈ q.standIns Request.fields.names name →
      w.Repeats GroupVersionKind.fields.names → Ambiguous k
  /-- A resource in the question names a field twice. -/
  | resource {q w : Raw} {name : String} : q ∈ k.standIns envelopeFields.names "request" →
      name ∈ ["resource", "requestResource"] → w ∈ q.standIns Request.fields.names name →
      w.Repeats GroupVersionResource.fields.names → Ambiguous k

variable {k q w : Raw} {name : String}

theorem readsAs_question (h : k.ReadsAs envelopeShape)
    (hq : q ∈ k.standIns envelopeFields.names "request") : q.ReadsAs (.optional Request.shape) :=
  h.standIn rfl rfl hq

/-- A record in a question that is read repeats no name, whether it has to be there or not. -/
theorem part_not_repeats {title : String} {fields : Fields} {s : Shape}
    (hs : fields.sound = true) (hq : q.ReadsAs (.optional Request.shape))
    (hshape : Request.fields.shapeOf? name = some s)
    (hrecord : s = .record title fields ∨ s = .optional (.record title fields))
    (hw : w ∈ q.standIns Request.fields.names name) : ¬ w.Repeats fields.names := by
  have hread : w.ReadsAs s := hq.optional_standIn rfl hshape hw
  rcases hrecord with rfl | rfl
  · exact hread.not_repeats hs
  · exact hread.optional_not_repeats hs

/-- What is read as an envelope is not ambiguous. -/
theorem not_ambiguous (h : k.ReadsAs envelopeShape) : ¬ Ambiguous k := by
  intro hk
  cases hk with
  | envelope hrepeats => exact h.not_repeats rfl hrepeats
  | question hq hrepeats => exact (readsAs_question h hq).optional_not_repeats rfl hrepeats
  | kind hq hname hw hrepeats =>
      have hquestion := readsAs_question h hq
      rcases List.mem_pair.mp hname with rfl | rfl
      · exact part_not_repeats rfl hquestion rfl (.inl rfl) hw hrepeats
      · exact part_not_repeats rfl hquestion rfl (.inr rfl) hw hrepeats
  | resource hq hname hw hrepeats =>
      have hquestion := readsAs_question h hq
      rcases List.mem_pair.mp hname with rfl | rfl
      · exact part_not_repeats rfl hquestion rfl (.inl rfl) hw hrepeats
      · exact part_not_repeats rfl hquestion rfl (.inr rfl) hw hrepeats

/-- What is ambiguous, as far as it is JSON at all, is read as no envelope. -/
theorem readText_of_ambiguous {body : Bytes} (h : ∀ k, IsText k body → Ambiguous k) :
    ∃ f, envelopeShape.readText body = .error f := by
  cases hread : envelopeShape.readText body with
  | error f => exact ⟨f, rfl⟩
  | ok v =>
      obtain ⟨t, hdocument, hv⟩ := Shape.readText_inv hread
      obtain ⟨k, ht, htext⟩ := Json.isText_of_document hdocument (Shape.skipFault?_of_read hv)
      exact absurd (h k htext) (not_ambiguous ⟨_, t, v, ht, hv⟩)

/-- A body that is ambiguous, as far as it is JSON at all, is malformed.  The caller is told so
whatever else the call says, and the policy is not asked. -/
theorem ambiguous_refused {body : Bytes} (h : ∀ k, IsText k body → Ambiguous k) :
    (∃ fault, decode body = .error (.malformed fault)) ∧
    ∀ (handler : Handler) (path : String) (headers : Http.Headers),
      (handler.handle path headers body).response.status = 400 ∧
      (handler.handle path headers body).asked = [] := by
  obtain ⟨f, hread⟩ := readText_of_ambiguous h
  refine ⟨⟨_, decode_of_error hread⟩, fun handler path headers => ?_⟩
  obtain ⟨error, hcall⟩ := Handler.readCall_of_error headers (decode_of_error hread)
  have hrefused := handler.refuses_of_error path hcall
  exact ⟨hrefused.status, hrefused.asked⟩

/-- The members of a kind whose name is there twice, the second time with an escape and as null. -/
def repeatedKind : List (Bytes × Raw) :=
  [(Json.escaped "kind", (Value.string "Pod").raw), (Json.escaped "group", (Value.string "").raw),
    (codedKind, .word .null)]

/-- The members of a small question about that kind. -/
def repeatedQuestion : List (Bytes × Raw) :=
  [(Json.escaped "kind", .object repeatedKind), (Json.escaped "uid", (Value.string "u").raw),
    (Json.escaped "resource", .object []),
    (Json.escaped "operation", (Value.string "CREATE").raw)]

/-- A small review with that question. -/
def repeatedReview : Raw :=
  .object [(Json.escaped "request", .object repeatedQuestion),
    (Json.escaped "kind", (Value.string reviewKind).raw),
    (Json.escaped "apiVersion", (Value.string "admission.k8s.io/v1").raw)]

theorem isText_repeatedReview : IsText repeatedReview (compactText repeatedReview) := by
  have hkind : Json.AllWellFormed (Raw.object repeatedKind).lexemes := by
    refine Json.allWellFormed_object fun m hm => ?_
    simp only [repeatedKind, List.mem_cons, List.not_mem_nil, or_false] at hm
    rcases hm with rfl | rfl | rfl
    · exact ⟨Json.rawText_escaped _, Json.allWellFormed_raw _ rfl⟩
    · exact ⟨Json.rawText_escaped _, Json.allWellFormed_raw _ rfl⟩
    · exact ⟨rawText_codedKind, Json.allWellFormed_raw .null rfl⟩
  have hquestion : Json.AllWellFormed (Raw.object repeatedQuestion).lexemes := by
    refine Json.allWellFormed_object fun m hm => ?_
    simp only [repeatedQuestion, List.mem_cons, List.not_mem_nil, or_false] at hm
    rcases hm with rfl | rfl | rfl | rfl
    · exact ⟨Json.rawText_escaped _, hkind⟩
    · exact ⟨Json.rawText_escaped _, Json.allWellFormed_raw _ rfl⟩
    · exact ⟨Json.rawText_escaped _, Json.allWellFormed_raw (.object []) rfl⟩
    · exact ⟨Json.rawText_escaped _, Json.allWellFormed_raw _ rfl⟩
  refine Json.spaced_lexemesText (Json.allWellFormed_object fun m hm => ?_)
  simp only [List.mem_cons, List.not_mem_nil, or_false] at hm
  rcases hm with rfl | rfl | rfl
  · exact ⟨Json.rawText_escaped _, hquestion⟩
  · exact ⟨Json.rawText_escaped _, Json.allWellFormed_raw _ rfl⟩
  · exact ⟨Json.rawText_escaped _, Json.allWellFormed_raw _ rfl⟩

theorem ambiguous_repeatedReview : Ambiguous repeatedReview := by
  have hquestion : Raw.object repeatedQuestion ∈
      repeatedReview.standIns envelopeFields.names "request" :=
    Raw.mem_standIns (.head _) (Json.stringText?_escaped _)
  have hkind : Raw.object repeatedKind ∈
      (Raw.object repeatedQuestion).standIns Request.fields.names "kind" :=
    Raw.mem_standIns (.head _) (Json.stringText?_escaped _)
  exact .kind hquestion (.head _) hkind ⟨"kind", by decide, by decide +kernel⟩

theorem ambiguous_refused_repeatedReview :
    (∀ k, IsText k (compactText repeatedReview) → Ambiguous k) ∧
    ∃ fault, decode (compactText repeatedReview) = .error (.malformed fault) := by
  have hambiguous : ∀ k, IsText k (compactText repeatedReview) → Ambiguous k := fun k hk =>
    hk.unique isText_repeatedReview ▸ ambiguous_repeatedReview
  exact ⟨hambiguous, (ambiguous_refused hambiguous).1⟩

end Review
end Webhook
