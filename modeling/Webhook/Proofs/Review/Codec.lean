import Webhook.Proofs.Json.RoundTrip
import Webhook.Review.Codec

/-!
# Reviews read back

Questions and answers are read back from their texts.  Both are instances of `Shape.readText_print`;
what is left is that their shapes make sense, that their data is kept, and that it is the data of
the review.

An answer has no part that may be any value, so every answer is read back
(`ReviewResponse.lossless`).  A question has three, which are read back when they hold no floating
point number.  A review is read as an envelope that may lack anything, and is printed as one that
lacks nothing (`Review.decode_encode`).
-/

namespace Webhook

open Json (Shape Fields Value nestingLimit membersFloatFree_field)

/-! ## Answers -/

theorem kept_optionalText (d : Nat) : ∀ s? : Option String, optionalText.Kept d s?
  | none => trivial
  | some _ => ⟨trivial, by rintro ⟨⟩⟩

theorem kept_optionalShort (d : Nat) : ∀ n? : Option (Fin 0x10000),
    (Shape.optional .short).Kept d n?
  | none => trivial
  | some _ => ⟨trivial, by rintro ⟨⟩⟩

namespace Status

theorem kept_toVal (d : Nat) (s : Status) : shape.Kept (d + 1) s.toVal :=
  ⟨d, rfl, kept_optionalText d s.message, kept_optionalShort d s.code,
    kept_optionalText d s.reason, trivial⟩

end Status

namespace Response

theorem ofVal_toVal (r : Response) : ofVal r.toVal = r := by
  obtain ⟨uid, allowed, status⟩ := r
  cases status with
  | none => rfl
  | some s => rfl

theorem kept_toVal (d : Nat) (r : Response) : shape.Kept (d + 2) r.toVal := by
  obtain ⟨uid, allowed, status⟩ := r
  refine ⟨d + 1, rfl, trivial, trivial, ?_, trivial⟩
  cases status with
  | none => trivial
  | some s => exact ⟨s.kept_toVal d, by rintro ⟨⟩⟩

end Response

namespace ReviewResponse

theorem ofVal_toVal (r : ReviewResponse) : ofVal r.toVal = r := by
  obtain ⟨apiVersion, kind, response⟩ := r
  have hresponse := Response.ofVal_toVal response
  exact congrArg (ReviewResponse.mk apiVersion kind) hresponse

theorem kept_toVal (r : ReviewResponse) : shape.Kept nestingLimit r.toVal :=
  ⟨126, rfl, trivial, trivial, r.response.kept_toVal 124, trivial⟩

/-- An answer is read back from its text. -/
theorem read_encode (r : ReviewResponse) : read (Utf8.encode r.encode) = .ok r := by
  have htext : shape.readText (Utf8.encode (String.ofList (shape.print r.toVal)))
      = .ok r.toVal :=
    Shape.readText_print rfl (shape.floatFree_of_anyFree r.toVal rfl) r.kept_toVal
  rw [read, encode, htext]
  exact congrArg Except.ok r.ofVal_toVal

/-- The text of an answer says everything about it: the answer is read back from it, and no other
answer has the same text. -/
theorem lossless : (∀ r : ReviewResponse, read (Utf8.encode r.encode) = .ok r) ∧
    Function.Injective fun r : ReviewResponse => Utf8.encode r.encode := by
  refine ⟨read_encode, fun r r' h => ?_⟩
  have hread := (read_encode r).symm.trans ((congrArg read h).trans (read_encode r'))
  exact Except.ok.inj hread

end ReviewResponse

/-! ## Questions -/

namespace Request

/-- The parts of a question that stay uninterpreted. -/
def rawParts (r : Request) : List Value :=
  r.object.toList ++ r.oldObject.toList ++ r.options.toList

theorem map_map_eq {α β : Type} {f : α → β} {g : β → α} (h : ∀ b, f (g b) = b) :
    ∀ x? : Option β, (x?.map g).map f = x?
  | none => rfl
  | some b => congrArg some (h b)

theorem operation_toVal_ofVal : ∀ i : Fin 4, (Operation.ofVal i).toVal = i
  | 0 => rfl
  | 1 => rfl
  | 2 => rfl
  | 3 => rfl

theorem toVal_ofVal (q : shape.Val) : (ofVal q).toVal = q := by
  obtain ⟨uid, kind, resource, subResource, requestKind, requestResource, requestSubResource, name,
    ns, operation, userInfo, object, oldObject, dryRun, options, ⟨⟩⟩ := q
  have hkind := map_map_eq (f := GroupVersionKind.toVal) (g := GroupVersionKind.ofVal)
    (fun _ => rfl) requestKind
  have hresource := map_map_eq (f := GroupVersionResource.toVal) (g := GroupVersionResource.ofVal)
    (fun _ => rfl) requestResource
  have huser := map_map_eq (f := UserInfo.toVal) (g := UserInfo.ofVal) (fun _ => rfl) userInfo
  have hoperation := operation_toVal_ofVal operation
  unfold ofVal toVal
  simp only
  rw [hkind, hresource, huser, hoperation]
  rfl

/-- An optional value holds a floating point number only where the value does. -/
theorem floatFree_optionalAny {v? : Option Value} (h : ∀ v ∈ v?.toList, v.floatFree = true) :
    ((Shape.optional .any).toValue v?).floatFree = true := by
  cases v? with
  | none => rfl
  | some v => exact h v (.head _)

/-- A question holds a floating point number only where an uninterpreted part of it does. -/
theorem floatFree_toMembers (q : shape.Val)
    (h : ∀ v ∈ (ofVal q).rawParts, v.floatFree = true) : (shape.toValue q).floatFree = true := by
  obtain ⟨uid, kind, resource, subResource, requestKind, requestResource, requestSubResource, name,
    ns, operation, userInfo, object, oldObject, dryRun, options, ⟨⟩⟩ := q
  have hobject : ((Shape.optional .any).toValue object).floatFree = true :=
    floatFree_optionalAny fun v hv => h v (List.mem_append_left _ (List.mem_append_left _ hv))
  have hold : ((Shape.optional .any).toValue oldObject).floatFree = true :=
    floatFree_optionalAny fun v hv => h v (List.mem_append_left _ (List.mem_append_right _ hv))
  have hoptions : ((Shape.optional .any).toValue options).floatFree = true :=
    floatFree_optionalAny fun v hv => h v (List.mem_append_right _ hv)
  have known : ∀ {s : Shape} {v : s.Val}, s.anyFree = true → (s.toValue v).floatFree = true :=
    fun {s v} hs => s.floatFree_of_anyFree v hs
  exact membersFloatFree_field (known rfl) <| membersFloatFree_field (known rfl)
    <| membersFloatFree_field (known rfl) <| membersFloatFree_field (known rfl)
    <| membersFloatFree_field (known rfl) <| membersFloatFree_field (known rfl)
    <| membersFloatFree_field (known rfl) <| membersFloatFree_field (known rfl)
    <| membersFloatFree_field (known rfl) <| membersFloatFree_field (known rfl)
    <| membersFloatFree_field (known rfl) <| membersFloatFree_field hobject
    <| membersFloatFree_field hold <| membersFloatFree_field (known rfl)
    <| membersFloatFree_field hoptions rfl

end Request

namespace Review

/-- An envelope that is accepted lacks nothing. -/
theorem ofEnvelope_inv {apiVersion kind : Option String} {request : Option Request} {r : Review}
    (h : ofEnvelope apiVersion kind request = .ok r) :
    apiVersion = some r.apiVersion ∧ kind = some r.kind ∧ request = some r.request ∧
      r.kind = reviewKind ∧ r.apiVersion ∈ supportedVersions := by
  unfold ofEnvelope at h
  simp only at h
  split at h
  next => cases h
  next hkind =>
    split at h
    next => cases h
    next hversion =>
      rw [Decidable.not_not] at hkind hversion
      cases request with
      | none => cases h
      | some q =>
          obtain rfl := Except.ok.inj h
          refine ⟨?_, ?_, rfl, hkind, hversion⟩
          · cases apiVersion with
            | none => exact absurd hversion (by decide)
            | some v => rfl
          · cases kind with
            | none => exact absurd hkind (by decide)
            | some k => rfl

theorem ofEnvelope_some {r : Review} (hkind : r.kind = reviewKind)
    (hversion : r.apiVersion ∈ supportedVersions) :
    ofEnvelope (some r.apiVersion) (some r.kind) (some r.request) = .ok r := by
  rw [ofEnvelope, Option.getD_some, Option.getD_some]
  rw [if_neg (not_not.mpr hkind), if_neg (not_not.mpr hversion)]

/-- What a review is decoded from. -/
theorem decode_inv {body : Bytes} {r : Review} (h : decode body = .ok r) :
    ∃ q : Request.shape.Val,
      envelopeShape.readText body = .ok (some r.apiVersion, some r.kind, some q, ()) ∧
      Request.ofVal q = r.request ∧ r.kind = reviewKind ∧ r.apiVersion ∈ supportedVersions := by
  rw [decode] at h
  split at h
  next => cases h
  next apiVersion kind request hread =>
    obtain ⟨rfl, rfl, hrequest, hkind, hversion⟩ := ofEnvelope_inv h
    cases request with
    | none => cases hrequest
    | some q => exact ⟨q, hread, Option.some.inj hrequest, hkind, hversion⟩

theorem decode_of_readText {body : Bytes} {r : Review} {q : Request.shape.Val}
    (h : envelopeShape.readText body = .ok (some r.apiVersion, some r.kind, some q, ()))
    (hq : Request.ofVal q = r.request) (hkind : r.kind = reviewKind)
    (hversion : r.apiVersion ∈ supportedVersions) : decode body = .ok r := by
  rw [decode, h]
  simp only [Option.map_some, hq]
  exact ofEnvelope_some hkind hversion

/-- A review is decoded from its text when it has been decoded before. -/
theorem decode_encode {body : Bytes} {r : Review} (h : decode body = .ok r)
    (hfree : ∀ v ∈ r.request.rawParts, v.floatFree = true) :
    decode (Utf8.encode r.encode) = .ok r := by
  obtain ⟨q, hread, hq, hkind, hversion⟩ := decode_inv h
  refine decode_of_readText ?_ hq hkind hversion
  have htoVal : r.request.toVal = q := by rw [← hq, Request.toVal_ofVal]
  have htext : r.encode = String.ofList
      (envelopeShape.print (some r.apiVersion, some r.kind, some q, ())) := by
    rw [encode, toVal, htoVal]
    rfl
  have hq' := Request.floatFree_toMembers q (by rwa [hq])
  rw [htext]
  exact Shape.readText_print rfl
    (membersFloatFree_field rfl (membersFloatFree_field rfl (membersFloatFree_field hq' rfl)))
    (Shape.kept_of_readText hread)

/-- A review with a nested object, an escape and a null among its parts. -/
def nestedBody : Bytes := Utf8.encode
  "\x7b\"kind\":\"AdmissionReview\", \"apiVersion\":\"admission.k8s.io/v1\", \"request\":
    \x7b\"uid\":\"\\u00e9\\n\", \"kind\":\x7b\x7d, \"resource\":\x7b\"version\":\"v1\"\x7d,
    \"operation\":\"UPDATE\", \"object\":\x7b\"b\":[1,\x7b\x7d], \"a\":-7\x7d,
    \"oldObject\":null\x7d\x7d"

end Review

end Webhook
