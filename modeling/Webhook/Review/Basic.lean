import Webhook.Json.Value

/-!
# Admission reviews

The API server asks about an operation on an object by sending an admission review with a
`Request`, and is answered with an admission review with a `Response`.  Both are versioned: the
answer repeats the version of the question.

The object itself stays an uninterpreted value.  Only a policy that cares about the object reads
it as the type it expects.
-/

namespace Webhook

/-- A kind of object, in a version of an API group. -/
structure GroupVersionKind where
  /-- The API group, empty for the core group. -/
  group : String
  /-- The version of the group. -/
  version : String
  /-- The name of the kind. -/
  kind : String
  deriving DecidableEq, Repr

/-- A resource, in a version of an API group. -/
structure GroupVersionResource where
  /-- The API group, empty for the core group. -/
  group : String
  /-- The version of the group. -/
  version : String
  /-- The name of the resource. -/
  resource : String
  deriving DecidableEq, Repr

/-- What is done to an object. -/
inductive Operation where
  | create
  | update
  | delete
  | connect
  deriving DecidableEq, Repr

namespace Operation

/-- The word for an operation in reviews. -/
def name : Operation → String
  | .create => "CREATE"
  | .update => "UPDATE"
  | .delete => "DELETE"
  | .connect => "CONNECT"

/-- All operations, in the order in which messages list them. -/
def all : List Operation := [.create, .update, .delete, .connect]

/-- The words for all operations. -/
def names : List String := all.map name

end Operation

/-- The user who asks for an operation. -/
structure UserInfo where
  /-- Further facts, in the order of their names. -/
  extra : Option (List (String × List String))
  /-- The groups the user belongs to. -/
  groups : Option (List String)
  /-- The identity of the user. -/
  uid : Option String
  /-- The name of the user. -/
  username : Option String
  deriving DecidableEq, Repr

/-- The question in an admission review. -/
structure Request where
  /-- Identifies the question, and is repeated in the answer. -/
  uid : String
  /-- The kind of the object. -/
  kind : GroupVersionKind
  /-- The resource the object belongs to. -/
  resource : GroupVersionResource
  /-- The part of the resource, such as its status. -/
  subResource : Option String
  /-- The kind as the user named it. -/
  requestKind : Option GroupVersionKind
  /-- The resource as the user named it. -/
  requestResource : Option GroupVersionResource
  /-- The part of the resource as the user named it. -/
  requestSubResource : Option String
  /-- The name of the object. -/
  name : Option String
  /-- The namespace of the object; none for an object of the whole cluster. -/
  «namespace» : Option String
  /-- What is done to the object. -/
  operation : Operation
  /-- The user who asks. -/
  userInfo : Option UserInfo
  /-- The object as it will be; none when it is deleted. -/
  object : Option Json.Value
  /-- The object as it was. -/
  oldObject : Option Json.Value
  /-- Whether nothing is to be stored. -/
  dryRun : Option Bool
  /-- The options of the operation. -/
  options : Option Json.Value
  deriving Repr

/-- The namespace and the name of the object with a slash between them, or the name alone when
there is no namespace. -/
def Request.displayName (r : Request) : String :=
  let name := r.name.getD ""
  match r.namespace with
  | some ns => if ns = "" then name else ns ++ "/" ++ name
  | none => name

/-- A question together with the envelope it came in. -/
structure Review where
  /-- The version of the envelope. -/
  apiVersion : String
  /-- The kind of the envelope. -/
  kind : String
  /-- The question. -/
  request : Request
  deriving Repr

/-- Why an answer is as it is. -/
structure Status where
  /-- The reason in words, for the user. -/
  message : Option String
  /-- The reason as a status code of HTTP. -/
  code : Option (Fin 0x10000)
  /-- The reason as a single word. -/
  reason : Option String
  deriving DecidableEq, Repr

/-- The answer to a question. -/
structure Response where
  /-- The identity of the question. -/
  uid : String
  /-- Whether the operation may go on. -/
  allowed : Bool
  /-- The reason. -/
  status : Option Status
  deriving DecidableEq, Repr

/-- An answer together with its envelope. -/
structure ReviewResponse where
  /-- The version of the envelope, that of the question. -/
  apiVersion : String
  /-- The kind of the envelope, that of the question. -/
  kind : String
  /-- The answer. -/
  response : Response
  deriving DecidableEq, Repr

end Webhook
