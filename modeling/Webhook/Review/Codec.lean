import Webhook.Json.Reader
import Webhook.Review.Basic

/-!
# Reviews as JSON

The shape of each part of a review, and reading and printing by it.

`Review.decode` is what an incoming body goes through.  It accepts an envelope of the right kind
in a supported version, with a question in it.  The three members of the envelope are optional to
the reader, so an envelope of another kind is refused for its kind, whatever else it lacks.
-/

namespace Webhook

open Json (Shape Fields Fault)

/-! ## Shapes -/

/-- An optional text. -/
abbrev optionalText : Shape := .optional .text

namespace GroupVersionKind

/-- The fields of a kind. -/
def fields : Fields :=
  .cons "group" false .text <| .cons "version" false .text <| .cons "kind" false .text .nil

/-- The shape of a kind. -/
def shape : Shape := .record "GroupVersionKind" fields

/-- A kind from the data of its fields. -/
def ofVal : shape.Val → GroupVersionKind
  | (group, version, kind, ()) => ⟨group, version, kind⟩

/-- The data of the fields of a kind. -/
def toVal (k : GroupVersionKind) : shape.Val := (k.group, k.version, k.kind, ())

end GroupVersionKind

namespace GroupVersionResource

/-- The fields of a resource. -/
def fields : Fields :=
  .cons "group" false .text <| .cons "version" false .text <| .cons "resource" false .text .nil

/-- The shape of a resource. -/
def shape : Shape := .record "GroupVersionResource" fields

/-- A resource from the data of its fields. -/
def ofVal : shape.Val → GroupVersionResource
  | (group, version, resource, ()) => ⟨group, version, resource⟩

/-- The data of the fields of a resource. -/
def toVal (r : GroupVersionResource) : shape.Val := (r.group, r.version, r.resource, ())

end GroupVersionResource

namespace Operation

/-- The shape of an operation. -/
def shape : Shape := .choice names

/-- An operation from its place among all operations. -/
def ofVal (i : shape.Val) : Operation := all.get (Fin.cast (by rfl) i)

/-- The place of an operation among all operations. -/
def toVal : Operation → shape.Val
  | .create => (0 : Fin 4)
  | .update => (1 : Fin 4)
  | .delete => (2 : Fin 4)
  | .connect => (3 : Fin 4)

/-- The operation of a word. -/
def ofName? (word : String) : Option Operation := all.find? fun o => o.name == word

/-- The operation that a value stands for: its word, or an object with the word as its only
name. -/
def ofValue : Json.Value → Except Json.Mismatch Operation
  | .string word => (ofName? word).elim (.error (.unknownVariant word names)) .ok
  | .object [(word, v)] =>
    match ofName? word with
    | none => .error (.unknownVariant word names)
    | some o => if v matches .null then .ok o else .error (.wrongType v.found "unit")
  | .object _ => .error (.wrongValue .object "map with a single key")
  | v => .error (.wrongType v.found "string or map")

end Operation

namespace UserInfo

/-- The fields of a user. -/
def fields : Fields :=
  .cons "extra" false (.optional (.table (.list .text)))
    <| .cons "groups" false (.optional (.list .text))
    <| .cons "uid" false optionalText
    <| .cons "username" false optionalText .nil

/-- The shape of a user. -/
def shape : Shape := .looseRecord "UserInfo" fields

/-- A user from the data of its fields. -/
def ofVal : shape.Val → UserInfo
  | (extra, groups, uid, username, ()) => ⟨extra, groups, uid, username⟩

/-- The data of the fields of a user. -/
def toVal (u : UserInfo) : shape.Val := (u.extra, u.groups, u.uid, u.username, ())

end UserInfo

namespace Request

/-- The fields of a question. -/
def fields : Fields :=
  .cons "uid" true .text
    <| .cons "kind" true GroupVersionKind.shape
    <| .cons "resource" true GroupVersionResource.shape
    <| .cons "subResource" false optionalText
    <| .cons "requestKind" false (.optional GroupVersionKind.shape)
    <| .cons "requestResource" false (.optional GroupVersionResource.shape)
    <| .cons "requestSubResource" false optionalText
    <| .cons "name" false optionalText
    <| .cons "namespace" false optionalText
    <| .cons "operation" true Operation.shape
    <| .cons "userInfo" false (.optional UserInfo.shape)
    <| .cons "object" false (.optional .any)
    <| .cons "oldObject" false (.optional .any)
    <| .cons "dryRun" false (.optional .flag)
    <| .cons "options" false (.optional .any) .nil

/-- The shape of a question. -/
def shape : Shape := .record "AdmissionRequest" fields

/-- A question from the data of its fields. -/
def ofVal : shape.Val → Request
  | (uid, kind, resource, subResource, requestKind, requestResource, requestSubResource, name, ns,
      operation, userInfo, object, oldObject, dryRun, options, ()) =>
    { uid
      kind := .ofVal kind
      resource := .ofVal resource
      subResource
      requestKind := Option.map GroupVersionKind.ofVal requestKind
      requestResource := Option.map GroupVersionResource.ofVal requestResource
      requestSubResource
      name
      «namespace» := ns
      operation := .ofVal operation
      userInfo := Option.map UserInfo.ofVal userInfo
      object
      oldObject
      dryRun
      options }

/-- The data of the fields of a question. -/
def toVal (r : Request) : shape.Val :=
  (r.uid, r.kind.toVal, r.resource.toVal, r.subResource, r.requestKind.map (·.toVal),
    r.requestResource.map (·.toVal), r.requestSubResource, r.name, r.namespace,
    r.operation.toVal, r.userInfo.map (·.toVal), r.object, r.oldObject, r.dryRun, r.options, ())

/-- Reads a question that stands alone. -/
def read (text : Bytes) : Except Fault Request := (shape.readText text).map ofVal

/-- The text of a question. -/
def encode (r : Request) : String := String.ofList (shape.print r.toVal)

end Request

namespace Review

/-- The fields of a review, all of them required. -/
def fields : Fields :=
  .cons "apiVersion" true .text
    <| .cons "kind" true .text
    <| .cons "request" true Request.shape .nil

/-- The shape of a review. -/
def shape : Shape := .record "AdmissionReviewRequest" fields

/-- A review from the data of its fields. -/
def ofVal : shape.Val → Review
  | (apiVersion, kind, request, ()) => ⟨apiVersion, kind, .ofVal request⟩

/-- The data of the fields of a review. -/
def toVal (r : Review) : shape.Val := (r.apiVersion, r.kind, r.request.toVal, ())

/-- Reads a review of any kind and version. -/
def read (text : Bytes) : Except Fault Review := (shape.readText text).map ofVal

/-- The text of a review. -/
def encode (r : Review) : String := String.ofList (shape.print r.toVal)

/-- The fields of an envelope that may lack anything. -/
def envelopeFields : Fields :=
  .cons "apiVersion" false optionalText
    <| .cons "kind" false optionalText
    <| .cons "request" false (.optional Request.shape) .nil

/-- The shape of an envelope that may lack anything. -/
def envelopeShape : Shape := .record "RawReview" envelopeFields

end Review

namespace Status

/-- The fields of a reason. -/
def fields : Fields :=
  .cons "message" false optionalText
    <| .cons "code" false (.optional .short)
    <| .cons "reason" false optionalText .nil

/-- The shape of a reason. -/
def shape : Shape := .record "Status" fields

/-- A reason from the data of its fields. -/
def ofVal : shape.Val → Status
  | (message, code, reason, ()) => ⟨message, code, reason⟩

/-- The data of the fields of a reason. -/
def toVal (s : Status) : shape.Val := (s.message, s.code, s.reason, ())

end Status

namespace Response

/-- The fields of an answer. -/
def fields : Fields :=
  .cons "uid" true .text
    <| .cons "allowed" true .flag
    <| .cons "status" false (.optional Status.shape) .nil

/-- The shape of an answer. -/
def shape : Shape := .record "AdmissionResponse" fields

/-- An answer from the data of its fields. -/
def ofVal : shape.Val → Response
  | (uid, allowed, status, ()) => ⟨uid, allowed, Option.map Status.ofVal status⟩

/-- The data of the fields of an answer. -/
def toVal (r : Response) : shape.Val := (r.uid, r.allowed, r.status.map (·.toVal), ())

end Response

namespace ReviewResponse

/-- The fields of an answer in its envelope. -/
def fields : Fields :=
  .cons "apiVersion" true .text
    <| .cons "kind" true .text
    <| .cons "response" true Response.shape .nil

/-- The shape of an answer in its envelope. -/
def shape : Shape := .record "AdmissionReviewResponse" fields

/-- An answer in its envelope from the data of its fields. -/
def ofVal : shape.Val → ReviewResponse
  | (apiVersion, kind, response, ()) => ⟨apiVersion, kind, .ofVal response⟩

/-- The data of the fields of an answer in its envelope. -/
def toVal (r : ReviewResponse) : shape.Val := (r.apiVersion, r.kind, r.response.toVal, ())

/-- Reads an answer in its envelope. -/
def read (text : Bytes) : Except Fault ReviewResponse := (shape.readText text).map ofVal

/-- The text of an answer in its envelope. -/
def encode (r : ReviewResponse) : String := String.ofList (shape.print r.toVal)

end ReviewResponse

/-! ## Incoming reviews -/

/-- Why an incoming review is refused. -/
inductive DecodeError where
  /-- The body is announced as something other than JSON. -/
  | contentType (announced : String)
  /-- The body is not a review at all, with the words for its first fault. -/
  | malformed (fault : String)
  /-- The envelope is of another kind. -/
  | wrongKind (kind : String)
  /-- The envelope is in a version that is not supported. -/
  | wrongVersion (apiVersion : String)
  /-- There is no question in the envelope. -/
  | noRequest
  deriving DecidableEq, Repr

/-- The words for a refusal. -/
def DecodeError.message : DecodeError → String
  | .contentType announced =>
    "unsupported content type " ++ Text.quoted announced ++ ", expected application/json"
  | .malformed fault => "malformed admission review: " ++ fault
  | .wrongKind kind => "unexpected kind " ++ Text.quoted kind ++ ", expected \"AdmissionReview\""
  | .wrongVersion apiVersion => "unsupported apiVersion " ++ Text.quoted apiVersion
  | .noRequest => "admission review carries no request"

namespace Review

/-- The kind of every review. -/
def reviewKind : String := "AdmissionReview"

/-- The versions that are supported. -/
def supportedVersions : List String := ["admission.k8s.io/v1", "admission.k8s.io/v1beta1"]

/-- The review in an envelope, if it is one that is supported. -/
def ofEnvelope (apiVersion kind : Option String) (request : Option Request) :
    Except DecodeError Review :=
  let kind := kind.getD ""
  let apiVersion := apiVersion.getD ""
  if kind ≠ reviewKind then .error (.wrongKind kind)
  else if apiVersion ∉ supportedVersions then .error (.wrongVersion apiVersion)
  else match request with
    | none => .error .noRequest
    | some request => .ok ⟨apiVersion, kind, request⟩

/-- Reads an incoming review. -/
def decode (body : Bytes) : Except DecodeError Review :=
  match envelopeShape.readText body with
  | .error f => .error (.malformed (f.message body))
  | .ok (apiVersion, kind, request, ()) =>
    ofEnvelope apiVersion kind (Option.map Request.ofVal request)

end Review
end Webhook
