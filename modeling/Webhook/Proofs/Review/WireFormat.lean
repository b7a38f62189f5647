import Webhook.Proofs.Json.Fields
import Webhook.Proofs.Review.Codec

/-!
# The wire format of reviews

`Review.IsWire` says what a review is on the wire, of raw JSON: an object with a kind, a version and
a question, each there once and of the right form.  `Review.decode` accepts all of that, but also
texts in which a list of the fields in order stands for one of the records, or an object for the
operation.  `Review.Spelled` says that none of these is used.

A body that is accepted is one text of raw JSON, and it is in the wire format exactly when it is
spelled out (`Review.isWire_iff_spelled`).  `Review.not_isWire_of_decode` is a body that is accepted
and not in the format.
-/

namespace Webhook

namespace Json

/-! ## Forms of raw JSON -/

/-- Raw JSON that is an object. -/
def Raw.IsObject (k : Raw) : Prop := ∃ members, k = .object members

/-- Raw JSON that is a list. -/
def Raw.IsList (k : Raw) : Prop := ∃ items, k = .list items

/-- Whether a tree is that of a list. -/
def Tree.isList : Tree → Bool
  | .list _ _ _ => true
  | _ => false

/-- Raw JSON that is a string for a text. -/
def Raw.IsString (k : Raw) (s : String) : Prop := ∃ raw, k = .string raw ∧ stringText? raw = some s

/-- Raw JSON that has one value under a name. -/
def Raw.Has (k : Raw) (name : String) (p : Raw → Prop) : Prop := ∃ w, k.valuesOf name = [w] ∧ p w

/-- Raw JSON whose values under a name are all so. -/
def Raw.Each (k : Raw) (name : String) (p : Raw → Prop) : Prop := ∀ w ∈ k.valuesOf name, p w

theorem Raw.IsObject.not_isList {k : Raw} (h : k.IsObject) : ¬ k.IsList := by
  rintro ⟨items, rfl⟩
  obtain ⟨members, h⟩ := h
  cases h

theorem Raw.IsString.not_isObject {k : Raw} {s : String} (h : k.IsString s) : ¬ k.IsObject := by
  rintro ⟨members, rfl⟩
  obtain ⟨raw, h, -⟩ := h
  cases h

theorem Raw.Has.each {k : Raw} {name : String} {p q : Raw → Prop} (h : k.Has name p)
    (himp : ∀ w, p w → q w) : k.Each name q := by
  obtain ⟨w, hw, hp⟩ := h
  intro w' hw'
  rw [hw, List.mem_singleton] at hw'
  rw [hw']
  exact himp w hp

theorem Raw.Has.imp_of_each {k : Raw} {name : String} {p q r : Raw → Prop} (h : k.Has name p)
    (heach : k.Each name q) (himp : ∀ w, p w → q w → r w) : k.Has name r := by
  obtain ⟨w, hw, hp⟩ := h
  have hmem : w ∈ k.valuesOf name := by
    rw [hw]
    exact .head _
  exact ⟨w, hw, himp w hp (heach w hmem)⟩

theorem Raw.Has.imp {k : Raw} {name : String} {p q : Raw → Prop} (h : k.Has name p)
    (himp : ∀ w, p w → q w) : k.Has name q := by
  obtain ⟨w, hw, hp⟩ := h
  exact ⟨w, hw, himp w hp⟩

theorem Raw.Each.imp {k : Raw} {name : String} {p q : Raw → Prop} (h : k.Each name p)
    (himp : ∀ w, p w → q w) : k.Each name q := fun w hw => himp w (h w hw)

/-! ## What has been read, as raw JSON -/

theorem isString_of_read {d : Nat} {t : Tree} {k : Raw} {s : String}
    (h : Shape.text.read d t = .ok s) (ht : Shows t k) : k.IsString s := by
  obtain ⟨start, raw, stop, rfl, hread⟩ := Shape.read_text_inv h
  cases ht
  exact ⟨raw, rfl, readString_iff.mp hread⟩

theorem get_of_readWord {words : List String} {word : String} {stop : Nat} {i : Fin words.length}
    (h : readWord words word stop = .ok i) : words.get i = word := by
  rw [readWord] at h
  split at h
  next j hj =>
    obtain rfl := Except.ok.inj h
    exact (List.finIdxOf?_eq_some_iff.mp hj).1
  next => cases h

/-- A choice is read from a string, unless an object stands for it. -/
theorem isString_of_readChoice {words : List String} {d : Nat} {t : Tree} {k : Raw}
    {i : Fin words.length} (h : t.readChoice words d = .ok i) (ht : Shows t k)
    (hobject : ¬ k.IsObject) : k.IsString (words.get i) := by
  rcases Tree.readChoice_inv h with ⟨start, raw, stop, rfl, hvariant⟩ |
    ⟨e, start, m, stop, -, rfl, -⟩
  · cases ht
    cases hread : readString start raw (.closed stop) with
    | error f =>
        rw [Tree.readVariant, hread] at hvariant
        cases hvariant
    | ok word =>
        rw [Tree.readVariant, hread] at hvariant
        refine ⟨raw, rfl, ?_⟩
        rw [get_of_readWord hvariant]
        exact readString_iff.mp hread
  · cases ht
    exact absurd ⟨_, rfl⟩ hobject

/-- A record is read from an object by the names of its members, unless a list stands for it. -/
theorem exists_of_read_record {title : String} {fields : Fields} {d : Nat} {t : Tree} {k : Raw}
    {v : fields.Val} (hs : fields.sound = true)
    (h : (Shape.record title fields).read d t = .ok v) (ht : Shows t k) (hlist : ¬ k.IsList) :
    ∃ e ms ks, k = .object ks ∧ ShowsMembers ms ks ∧ fields.ReadFrom e ms v := by
  obtain ⟨e, start, -, ⟨ms, ending, rfl, hread⟩ | ⟨items, ending, expected, rfl, -⟩⟩ :=
    Shape.read_record_inv h
  · have hfrom := Fields.readFrom_of_readMembers hs hread
    cases ht with
    | object hms => exact ⟨e, ms, _, rfl, hms, hfrom⟩
  · cases ht
    exact absurd ⟨_, rfl⟩ hlist

theorem isObject_of_read_record {title : String} {fields : Fields} {d : Nat} {t : Tree} {k : Raw}
    {v : fields.Val} (hs : fields.sound = true)
    (h : (Shape.record title fields).read d t = .ok v) (ht : Shows t k) (hlist : ¬ k.IsList) :
    k.IsObject := by
  obtain ⟨-, -, ks, rfl, -⟩ := exists_of_read_record hs h ht hlist
  exact ⟨ks, rfl⟩

/-- A field is read from the only value of its name, or takes its default when there is none. -/
theorem FieldReadFrom.raw {name : String} {required : Bool} {s : Shape} {d : Nat}
    {ms : List Member} {ks : List (Bytes × Raw)} {v : s.Val}
    (h : FieldReadFrom name required s d ms v) (hms : ShowsMembers ms ks) :
    (Raw.object ks).Has name (fun w => ∃ t, Shows t w ∧ s.read d t = .ok v) ∨
      ((Raw.object ks).valuesOf name = [] ∧ s.fromSlot? required none = some v) := by
  have hshows := forall₂_valuesNamed name hms
  rcases h with ⟨t, ht, hread⟩ | ⟨hnone, hdefault⟩
  · rw [ht] at hshows
    cases hws : (Raw.object ks).valuesOf name with
    | nil =>
        rw [hws] at hshows
        cases hshows
    | cons w ws =>
        rw [hws] at hshows
        cases hshows with
        | cons hw hnil =>
            cases hnil
            exact .inl ⟨w, hws, t, hw, hread⟩
  · rw [hnone] at hshows
    cases hshows' : (Raw.object ks).valuesOf name with
    | nil => exact .inr ⟨rfl, hdefault⟩
    | cons w ws =>
        rw [hshows'] at hshows
        cases hshows

/-- A required field is there. -/
theorem FieldReadFrom.has {name : String} {s : Shape} {d : Nat} {ms : List Member}
    {ks : List (Bytes × Raw)} {v : s.Val} (h : FieldReadFrom name true s d ms v)
    (hms : ShowsMembers ms ks) :
    (Raw.object ks).Has name fun w => ∃ t, Shows t w ∧ s.read d t = .ok v := by
  rcases h.raw hms with h | ⟨-, h⟩
  · exact h
  · cases h

/-- An optional field that has a value is there. -/
theorem FieldReadFrom.has_some {name : String} {s : Shape} {d : Nat} {ms : List Member}
    {ks : List (Bytes × Raw)} {v : s.Val}
    (h : FieldReadFrom name false (.optional s) d ms (some v)) (hms : ShowsMembers ms ks) :
    (Raw.object ks).Has name fun w => ∃ t, Shows t w ∧ s.read d t = .ok v := by
  rcases h.raw hms with ⟨w, hw, t, ht, hread⟩ | ⟨-, h⟩
  · rcases Shape.read_optional_inv hread with ⟨-, hnone⟩ | ⟨-, v', hv, hread⟩
    · cases hnone
    · cases hv
      exact ⟨w, hw, t, ht, hread⟩
  · cases Option.some.inj h

/-- An optional field is null or has a value where it is there. -/
theorem FieldReadFrom.each {name : String} {s : Shape} {d : Nat} {ms : List Member}
    {ks : List (Bytes × Raw)} {v? : Option s.Val}
    (h : FieldReadFrom name false (.optional s) d ms v?) (hms : ShowsMembers ms ks) :
    (Raw.object ks).Each name fun w =>
      w = .word .null ∨ ∃ t v, Shows t w ∧ s.read d t = .ok v := by
  rcases h.raw hms with hhas | ⟨hnone, -⟩
  · refine hhas.each fun w ⟨t, ht, hread⟩ => ?_
    rcases Shape.read_optional_inv hread with ⟨hnull, -⟩ | ⟨-, v, -, hread⟩
    · match t, hnull, ht with
      | .scalar _ (.word .null), _, .word => exact .inl rfl
    · exact .inr ⟨t, v, ht, hread⟩
  · intro w hw
    rw [hnone] at hw
    cases hw

end Json

/-! ## Reviews -/

open Json (Raw Shape IsText)

namespace Request

/-- The names of all records in a question. -/
def recordNames : List String := ["kind", "resource", "requestKind", "requestResource"]

/-- A question in the wire format. -/
structure IsWire (k : Raw) : Prop where
  /-- It is an object. -/
  object : k.IsObject
  /-- Its identity is a string. -/
  uid : k.Has "uid" fun w => ∃ s, w.IsString s
  /-- Its kind is an object. -/
  kind : k.Has "kind" Raw.IsObject
  /-- Its resource is an object. -/
  resource : k.Has "resource" Raw.IsObject
  /-- Its operation is one of the words for operations. -/
  operation : k.Has "operation" fun w => ∃ o : Operation, w.IsString o.name
  /-- The kind as the user named it is null or an object. -/
  requestKind : k.Each "requestKind" fun w => w = .word .null ∨ w.IsObject
  /-- The resource as the user named it is null or an object. -/
  requestResource : k.Each "requestResource" fun w => w = .word .null ∨ w.IsObject

/-- A question in which no list stands for a record and no object for the operation. -/
structure Spelled (k : Raw) : Prop where
  /-- No list stands for the question. -/
  question : ¬ k.IsList
  /-- No list stands for a record in it. -/
  records : ∀ name ∈ recordNames, k.Each name fun w => ¬ w.IsList
  /-- No object stands for the operation. -/
  operation : k.Each "operation" fun w => ¬ w.IsObject

theorem not_isList_of_null_or_object {k : Raw} (h : k = .word .null ∨ k.IsObject) :
    ¬ k.IsList := by
  rcases h with rfl | h
  · rintro ⟨items, h⟩
    cases h
  · exact h.not_isList

/-- A question in the wire format is spelled out. -/
theorem IsWire.spelled {k : Raw} (h : IsWire k) : Spelled k where
  question := h.object.not_isList
  records := by
    intro name hname
    rw [recordNames, List.mem_cons, List.mem_cons, List.mem_cons, List.mem_singleton] at hname
    rcases hname with rfl | rfl | rfl | rfl
    · exact h.kind.each fun w hw => hw.not_isList
    · exact h.resource.each fun w hw => hw.not_isList
    · exact h.requestKind.imp fun w hw => not_isList_of_null_or_object hw
    · exact h.requestResource.imp fun w hw => not_isList_of_null_or_object hw
  operation := h.operation.each fun w ⟨_, hw⟩ => hw.not_isObject

/-- A question that has been read and is spelled out is in the wire format. -/
theorem isWire_of_read {d : Nat} {t : Json.Tree} {k : Raw} {q : shape.Val}
    (h : shape.read d t = .ok q) (ht : Json.Shows t k) (hk : Spelled k) : IsWire k := by
  obtain ⟨e, ms, ks, rfl, hms, hfrom⟩ := Json.exists_of_read_record rfl h ht hk.question
  obtain ⟨uid, kind, resource, subResource, requestKind, requestResource, requestSubResource, name,
    ns, operation, q⟩ := q
  obtain ⟨huid, hkind, hresource, -, hrequestKind, hrequestResource, -, -, -, hoperation, -⟩ :=
    hfrom
  have record : ∀ {name : String}, name ∈ recordNames →
      (Raw.object ks).Each name fun w => ¬ w.IsList := fun hname => hk.records _ hname
  refine ⟨⟨ks, rfl⟩, ?_, ?_, ?_, ?_, ?_, ?_⟩
  · exact (huid.has hms).imp fun w ⟨t, ht, hread⟩ => ⟨uid, Json.isString_of_read hread ht⟩
  · exact (hkind.has hms).imp_of_each (record (by decide)) fun w ⟨t, ht, hread⟩ hlist =>
      Json.isObject_of_read_record rfl hread ht hlist
  · exact (hresource.has hms).imp_of_each (record (by decide)) fun w ⟨t, ht, hread⟩ hlist =>
      Json.isObject_of_read_record rfl hread ht hlist
  · refine (hoperation.has hms).imp_of_each hk.operation fun w ⟨t, ht, hread⟩ hobject => ?_
    obtain ⟨o, -, ho⟩ := List.mem_map.mp (List.get_mem Operation.names operation)
    exact ⟨o, ho ▸ Json.isString_of_readChoice hread ht hobject⟩
  · intro w hw
    rcases hrequestKind.each hms w hw with hnull | ⟨t, v, ht, hread⟩
    · exact .inl hnull
    · exact .inr (Json.isObject_of_read_record rfl hread ht (record (by decide) w hw))
  · intro w hw
    rcases hrequestResource.each hms w hw with hnull | ⟨t, v, ht, hread⟩
    · exact .inl hnull
    · exact .inr (Json.isObject_of_read_record rfl hread ht (record (by decide) w hw))

end Request

namespace Review

/-- A review in the wire format. -/
structure IsWire (k : Raw) : Prop where
  /-- It is an object. -/
  object : k.IsObject
  /-- Its kind is that of all reviews. -/
  kind : k.Has "kind" fun w => w.IsString reviewKind
  /-- Its version is supported. -/
  apiVersion : k.Has "apiVersion" fun w => ∃ s ∈ supportedVersions, w.IsString s
  /-- Its question is in the wire format. -/
  request : k.Has "request" Request.IsWire

/-- A review in which no list stands for a record and no object for the operation. -/
structure Spelled (k : Raw) : Prop where
  /-- No list stands for the review. -/
  review : ¬ k.IsList
  /-- Nor for a part of its question. -/
  request : k.Each "request" Request.Spelled

/-- A review in the wire format is spelled out. -/
theorem IsWire.spelled {k : Raw} (h : IsWire k) : Spelled k :=
  ⟨h.object.not_isList, h.request.each fun _ hw => hw.spelled⟩

/-- A review that has been read and is spelled out is in the wire format. -/
theorem isWire_of_read {d : Nat} {t : Json.Tree} {k : Raw} {r : Review} {q : Request.shape.Val}
    (h : envelopeShape.read d t = .ok (some r.apiVersion, some r.kind, some q, ()))
    (hkind : r.kind = reviewKind) (hversion : r.apiVersion ∈ supportedVersions)
    (ht : Json.Shows t k) (hk : Spelled k) : IsWire k := by
  obtain ⟨e, ms, ks, rfl, hms, hfrom⟩ := Json.exists_of_read_record rfl h ht hk.review
  obtain ⟨hfromVersion, hfromKind, hfromRequest, -⟩ := hfrom
  refine ⟨⟨ks, rfl⟩, ?_, ?_, ?_⟩
  · refine (hfromKind.has_some hms).imp fun w ⟨t, ht, hread⟩ => ?_
    rw [← hkind]
    exact Json.isString_of_read hread ht
  · exact (hfromVersion.has_some hms).imp fun w ⟨t, ht, hread⟩ =>
      ⟨r.apiVersion, hversion, Json.isString_of_read hread ht⟩
  · exact (hfromRequest.has_some hms).imp_of_each hk.request fun w ⟨t, ht, hread⟩ hspelled =>
      Request.isWire_of_read hread ht hspelled

/-- A body that is accepted is one text of raw JSON.  It is in the wire format exactly when it is
spelled out. -/
theorem isWire_iff_spelled {body : Bytes} {r : Review} (h : decode body = .ok r) :
    ∃ k, (∀ k', IsText k' body ↔ k' = k) ∧ (IsWire k ↔ Spelled k) := by
  obtain ⟨q, hread, -, hkind, hversion⟩ := decode_inv h
  obtain ⟨t, hdocument, hread⟩ := Shape.readText_inv hread
  obtain ⟨k, ht, htext⟩ := Json.isText_of_document hdocument (Shape.skipFault?_of_read hread)
  refine ⟨k, fun k' => ⟨fun htext' => htext'.unique htext, ?_⟩, IsWire.spelled,
    isWire_of_read hread hkind hversion ht⟩
  rintro rfl
  exact htext

/-- A body in which lists stand for the review and for its question. -/
def listBody : Bytes := Utf8.encode <|
  "[\"admission.k8s.io/v1\",\"AdmissionReview\"," ++
    "[\"u\",[],[],null,null,null,null,null,null,\"CREATE\"]]"

theorem decode_listBody : (decode listBody).toOption.isSome = true := by decide +kernel

theorem isWire_iff_spelled_listBody : ∃ r, decode listBody = .ok r ∧
    ∃ k, (∀ k', IsText k' listBody ↔ k' = k) ∧ (IsWire k ↔ Spelled k) := by
  have hsome := decode_listBody
  cases h : decode listBody with
  | error e =>
      rw [h] at hsome
      cases hsome
  | ok r => exact ⟨r, rfl, isWire_iff_spelled h⟩

/-- Not every body that is accepted is in the wire format. -/
theorem not_isWire_of_decode :
    ¬ ∀ body r, decode body = .ok r → ∃ k, IsText k body ∧ IsWire k := by
  intro hall
  have hsome := decode_listBody
  cases h : decode listBody with
  | error e =>
      rw [h] at hsome
      cases hsome
  | ok r =>
      obtain ⟨k, htext, hwire⟩ := hall listBody r h
      obtain ⟨t, hdocument, ht⟩ := htext.document
      have hroot : (Json.document listBody).root.isList = true := by decide +kernel
      obtain ⟨ks, rfl⟩ := hwire.object
      rw [hdocument] at hroot
      cases ht
      cases hroot

end Review
end Webhook
