import Webhook.Proofs.Json.Relaxed
import Webhook.Proofs.Review.Codec

/-!
# Two readers of a review

A review can be read in two ways.  `Review.read` demands all members of the envelope and looks at
none of them.  `Review.decode` takes an envelope that may lack anything, and then checks its kind
and its version.  `Review.readers_agree` says that the second accepts what the first one reads with
the right kind in a supported version, as the same review, and refuses all else that the first one
reads for its kind or its version.
-/

namespace Webhook.Review

open Json (Shape)

theorem demanding_fields : fields.Demanding :=
  ⟨rfl, Shape.refusesNull_text, rfl, Shape.refusesNull_text, rfl, Shape.refusesNull_record _ _,
    trivial⟩

/-- An envelope lacks nothing exactly when it can be read with all members demanded. -/
theorem readText_envelope {body : Bytes} {apiVersion kind : String} {q : Request.shape.Val} :
    envelopeShape.readText body = .ok (some apiVersion, some kind, some q, ()) ↔
      shape.readText body = .ok (apiVersion, kind, q, ()) :=
  @Shape.readText_relaxed "AdmissionReviewRequest" "RawReview" fields demanding_fields body
    (apiVersion, kind, q, ())

theorem read_inv {body : Bytes} {r : Review} (h : read body = .ok r) :
    ∃ q : Request.shape.Val, Request.ofVal q = r.request ∧
      shape.readText body = .ok (r.apiVersion, r.kind, q, ()) := by
  obtain ⟨⟨apiVersion, kind, q, ⟨⟩⟩, hread, rfl⟩ := Json.map_eq_ok h
  exact ⟨q, rfl, hread⟩

/-- What is read with all members demanded is judged by its kind and its version alone. -/
theorem decode_of_read {body : Bytes} {r : Review} (h : read body = .ok r) :
    decode body = ofEnvelope (some r.apiVersion) (some r.kind) (some r.request) := by
  obtain ⟨q, hrequest, hread⟩ := read_inv h
  rw [decode, readText_envelope.mpr hread, ← hrequest]
  rfl

theorem read_of_decode {body : Bytes} {r : Review} (h : decode body = .ok r) :
    read body = .ok r := by
  obtain ⟨q, hread, hrequest, -⟩ := decode_inv h
  rw [read, readText_envelope.mp hread]
  obtain ⟨apiVersion, kind, request⟩ := r
  exact congrArg (fun request => Except.ok (Review.mk apiVersion kind request)) hrequest

/-- A body is accepted as a review exactly when it is read as that review with all members of the
envelope demanded, and is of the right kind in a supported version.  All else that is read in this
way is refused for its kind, or else for its version. -/
theorem readers_agree (body : Bytes) :
    (∀ r, decode body = .ok r ↔
      read body = .ok r ∧ r.kind = "AdmissionReview" ∧ r.apiVersion ∈ supportedVersions) ∧
    ∀ r, read body = .ok r →
      (r.kind ≠ "AdmissionReview" → decode body = .error (.wrongKind r.kind)) ∧
      (r.kind = "AdmissionReview" → r.apiVersion ∉ supportedVersions →
        decode body = .error (.wrongVersion r.apiVersion)) := by
  refine ⟨fun r => ⟨fun h => ?_, ?_⟩, fun r h => ⟨fun hkind => ?_, fun hkind hversion => ?_⟩⟩
  · obtain ⟨-, -, -, hkind, hversion⟩ := decode_inv h
    exact ⟨read_of_decode h, hkind, hversion⟩
  · rintro ⟨h, hkind, hversion⟩
    rw [decode_of_read h, ofEnvelope_some hkind hversion]
  · rw [decode_of_read h]
    exact if_pos hkind
  · rw [decode_of_read h]
    exact (if_neg (not_not.mpr hkind)).trans (if_pos hversion)

end Webhook.Review
