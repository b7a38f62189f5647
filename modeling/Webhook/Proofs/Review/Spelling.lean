import Webhook.Proofs.Json.Widening
import Webhook.Proofs.Review.Codec

/-!
# Reviews in other spellings

A review is its JSON value.  Bodies that spell one value are decoded alike
(`Review.decode_respelled`), and members that the format does not know change nothing
(`Review.decode_widened`).  `Review.decode_value` is both together.

The words for a body that is no review at all name the place of its first fault, so they are
different in another spelling.
-/

namespace Webhook

open Json (Raw Shape IsText Value Widened WidenedMembers)

namespace Json

/-- A text is read through the tree of its raw JSON. -/
theorem IsText.readText {k : Raw} {text : Bytes} (h : IsText k text) :
    ∃ t, Shows t k ∧ ∀ s : Shape, s.readText text = s.read nestingLimit t := by
  obtain ⟨t, hdocument, ht⟩ := h.document
  refine ⟨t, ht, fun s => ?_⟩
  rw [Shape.readText, hdocument]
  simp only
  cases s.read nestingLimit t with
  | ok v => rfl
  | error f => rfl

/-- Data is the same in every spelling of its text. -/
theorem Shape.readText_same {s : Shape} {k k' : Raw} {text text' : Bytes} {v : s.Val}
    (htext : IsText k text) (htext' : IsText k' text') (hk : k.Same k')
    (h : s.readText text = .ok v) : s.readText text' = .ok v := by
  obtain ⟨t, ht, hread⟩ := htext.readText
  obtain ⟨t', ht', hread'⟩ := htext'.readText
  rw [hread] at h
  rw [hread']
  exact s.read_same t t' v ⟨k, k', ht, ht', hk⟩ h

/-- Data is the same in a text to whose records members have been added. -/
theorem Shape.readText_widened {s : Shape} {k k' : Raw} {text text' : Bytes} {v : s.Val}
    (htext : IsText k text) (htext' : IsText k' text') (hk : Widened s k k')
    (h : s.readText text = .ok v) : s.readText text' = .ok v := by
  obtain ⟨t, ht, hread⟩ := htext.readText
  obtain ⟨t', ht', hread'⟩ := htext'.readText
  rw [hread] at h
  rw [hread']
  exact hk.read ht ht' h

end Json

namespace Review

/-- One outcome twice, or two bodies that are no reviews at all, each with words of its own. -/
def Alike (x y : Except DecodeError Review) : Prop :=
  x = y ∨ ∃ fault fault', x = .error (.malformed fault) ∧ y = .error (.malformed fault')

theorem decode_of_error {body : Bytes} {f : Json.Fault}
    (h : envelopeShape.readText body = .error f) :
    decode body = .error (.malformed (f.message body)) := by
  rw [decode, h]

/-- What is decoded depends on the envelope only. -/
theorem decode_congr {body body' : Bytes} {v : envelopeShape.Val}
    (h : envelopeShape.readText body = .ok v) (h' : envelopeShape.readText body' = .ok v) :
    decode body = decode body' := by
  rw [decode, decode, h, h']
  obtain ⟨apiVersion, kind, request, ⟨⟩⟩ := v
  rfl

theorem decode_respelled {k k' : Raw} {body body' : Bytes} (htext : IsText k body)
    (htext' : IsText k' body') (hk : k.Same k') : Alike (decode body) (decode body') := by
  cases h : envelopeShape.readText body with
  | ok v => exact .inl (decode_congr h (Shape.readText_same htext htext' hk h))
  | error f =>
      cases h' : envelopeShape.readText body' with
      | ok v =>
          -- then the first body would have been read as well
          rw [Shape.readText_same htext' htext hk.symm h'] at h
          cases h
      | error f' => exact .inr ⟨_, _, decode_of_error h, decode_of_error h'⟩

theorem decode_widened {k k' : Raw} {body body' : Bytes} {r : Review} (htext : IsText k body)
    (htext' : IsText k' body') (hk : Widened envelopeShape k k') (h : decode body = .ok r) :
    decode body' = .ok r := by
  obtain ⟨q, hread, -⟩ := decode_inv h
  rw [← decode_congr hread (Shape.readText_widened htext htext' hk hread)]
  exact h

/-- The members of a small question. -/
def smallQuestion : List (String × Value) :=
  [("uid", .string "u"), ("kind", .object []), ("resource", .object []),
    ("operation", .string "CREATE")]

/-- The members of a small review. -/
def smallReview : List (String × Value) :=
  [("apiVersion", .string "admission.k8s.io/v1"), ("kind", .string reviewKind),
    ("request", .object smallQuestion)]

/-- The name `kind` with its first letter escaped. -/
def codedKind : Bytes := [0x5C, 0x75, 0x30, 0x30, 0x36, 0x62, 0x69, 0x6E, 0x64]

theorem rawText_codedKind : Json.RawText codedKind :=
  .code rfl rfl rfl rfl (.plain (by decide) (by decide) (by decide)
    (.plain (by decide) (by decide) (by decide)
      (.plain (by decide) (by decide) (by decide) .nil)))

/-- The small review with an escape in a name, and its question turned round. -/
def codedReview : List (Bytes × Raw) :=
  [(Json.escaped "apiVersion", (Value.string "admission.k8s.io/v1").raw),
    (codedKind, (Value.string reviewKind).raw),
    (Json.escaped "request", .object (Json.rawMembers smallQuestion).reverse)]

/-- The small review with a member added to the envelope, to the question and to its kind. -/
def wideReview : List (String × Value) :=
  [("note", .list [.null]), ("apiVersion", .string "admission.k8s.io/v1"),
    ("kind", .string reviewKind),
    ("request", .object
      [("uid", .string "u"), ("kind", .object [("scope", .bool true)]), ("resource", .object []),
        ("operation", .string "CREATE"), ("extra", .object [])])]

/-- The bytes of raw JSON with no blank between them. -/
def compactText (k : Raw) : Bytes := Json.lexemesText k.lexemes

theorem isText_value {v : Value} (h : v.floatFree = true) : IsText v.raw (compactText v.raw) :=
  Json.spaced_lexemesText (Json.allWellFormed_raw v h)

theorem isText_codedReview :
    IsText (.object codedReview.reverse) (0x20 :: compactText (.object codedReview.reverse)) := by
  refine .cons_space rfl (Json.spaced_lexemesText (Json.allWellFormed_object fun m hm => ?_))
  rw [List.mem_reverse, codedReview, List.mem_cons, List.mem_cons, List.mem_singleton] at hm
  rcases hm with rfl | rfl | rfl
  · exact ⟨Json.rawText_escaped _, Json.allWellFormed_raw _ rfl⟩
  · exact ⟨rawText_codedKind, Json.allWellFormed_raw _ rfl⟩
  · exact ⟨Json.rawText_escaped _, Json.allWellFormed_raw
      (.object smallQuestion.reverse) rfl⟩

theorem same_codedReview :
    (Value.object smallReview).raw.Same (.object codedReview.reverse) := by
  refine @Raw.Same.object _ codedReview _ ?_
    (.inr ⟨by decide +kernel, (List.reverse_perm _).symm⟩)
  refine .cons rfl (.refl _) (.cons (by decide +kernel) (.refl _) (.cons rfl ?_ .nil))
  exact .object (.refl _) (.inr ⟨by decide +kernel, (List.reverse_perm _).symm⟩)

theorem widened_wideReview :
    Widened envelopeShape (Value.object smallReview).raw (Value.object wideReview).raw := by
  have name := Json.stringText?_escaped
  have kind : WidenedMembers GroupVersionKind.fields (Json.rawMembers [])
      (Json.rawMembers [("scope", .bool true)]) := .add (name _) (by decide) .nil
  have question : WidenedMembers Request.fields (Json.rawMembers smallQuestion)
      (Json.rawMembers [("uid", .string "u"), ("kind", .object [("scope", .bool true)]),
        ("resource", .object []), ("operation", .string "CREATE"), ("extra", .object [])]) :=
    .keep (.within (name _) rfl (.record kind)
      (.keep (.keep (.add (name _) (by decide) .nil))))
  exact .record (.add (name _) (by decide) (.keep (.keep
    (.within (name _) rfl (.optional (.record question)) .nil))))

theorem decode_smallReview :
    (decode (compactText (Value.object smallReview).raw)).toOption.isSome = true := by
  decide +kernel

end Review
end Webhook
