import Webhook.Http.RoutePath

/-!
# Route tables

A route serves the requests of one verb on one path.  Routes for several verbs can share a path.
A request is looked up by its path first and then by its method: when no path fits, the request has
no route, and when one fits that does not serve the method, the answer names the methods that it
does serve.
-/

namespace Webhook.Http

/-- What a route serves. -/
inductive Verb where
  /-- Reading, with or without the body of the answer. -/
  | get
  /-- Sending something in. -/
  | post
  deriving DecidableEq, Repr

namespace Verb

/-- The word for a verb. -/
def name : Verb → String
  | get => "GET"
  | post => "POST"

/-- The methods that a verb serves. -/
def methods : Verb → List String
  | get => ["GET", "HEAD"]
  | post => ["POST"]

end Verb

/-- What can be wrong with a route. -/
inductive RouteFault where
  /-- The path is empty. -/
  | emptyPath
  /-- The path does not start with a slash. -/
  | relativePath
  /-- A segment of the path starts with a colon. -/
  | colonSegment
  /-- A segment of the path starts with a star. -/
  | starSegment
  /-- More segments are left open than can be counted by a letter. -/
  | tooManyOpen
  /-- The path is not well-formed, or does not go together with another one. -/
  | badPath (path : String) (fault : PathFault)
  /-- The path has a route for this verb. -/
  | taken (verb : Verb) (path : String)
  deriving DecidableEq, Repr

/-- The words for what is wrong. -/
def RouteFault.message : RouteFault → String
  | emptyPath => "Paths must start with a `/`. Use \"/\" for root routes"
  | relativePath => "Paths must start with a `/`"
  | colonSegment =>
    "Path segments must not start with `:`. For capture groups, use `\x7bcapture\x7d`. "
      ++ "If you meant to literally match a segment starting with a colon, call "
      ++ "`without_v07_checks` on the router."
  | starSegment =>
    "Path segments must not start with `*`. For wildcard capture, use `\x7b*wildcard\x7d`. "
      ++ "If you meant to literally match a segment starting with an asterisk, call "
      ++ "`without_v07_checks` on the router."
  | tooManyOpen => "Too many route parameters."
  | badPath path fault => "Invalid route " ++ Text.quoted path ++ ": " ++ fault.message
  | taken verb path =>
    "Overlapping method route. Handler for `" ++ verb.name ++ " " ++ path ++ "` already exists"

/-- A path with its routes. -/
structure Mount (α : Type) where
  /-- The path as it was written. -/
  path : String
  /-- The pieces of the path. -/
  pieces : List Piece
  /-- The routes in the order in which they were added. -/
  routes : List (Verb × α)

namespace Mount

variable {α : Type}

/-- The route for a method. -/
def route? (m : Mount α) (method : String) : Option α :=
  (m.routes.find? fun r => r.1.methods.contains method).map (·.2)

/-- The methods that are served. -/
def methods (m : Mount α) : List String := m.routes.flatMap (·.1.methods)

/-- Whether there is a route for a verb. -/
def serves (m : Mount α) (verb : Verb) : Bool := m.routes.any (·.1 == verb)

end Mount

/-- A route table. -/
structure Router (α : Type) where
  /-- The paths, in the order in which they were first used. -/
  mounts : List (Mount α)

/-- What is found for a request. -/
inductive Lookup (α : Type) where
  /-- A route. -/
  | found (route : α)
  /-- A path that does not serve the method, with the methods that it serves. -/
  | wrongMethod (served : List String)
  /-- Nothing. -/
  | missing

namespace Router

variable {α : Type}

/-- The table without routes. -/
def empty : Router α := ⟨[]⟩

/-- The greatest number of segments that a path can leave open. -/
def maxOpen : Nat := 25

/-- The first fault of the text of a path: it starts with a slash, and no segment starts with a
mark that once meant something else. -/
def textFault? (path : List Char) : Option RouteFault :=
  match path with
  | [] => some .emptyPath
  | '/' :: _ => (path.splitOn '/').findSome? fun segment =>
    match segment with
    | ':' :: _ => some .colonSegment
    | '*' :: _ => some .starSegment
    | _ => none
  | _ => some .relativePath

/-- The pieces of a new path. -/
def newPieces (router : Router α) (path : String) : Except RouteFault (List Piece) := do
  let known := router.mounts.map fun m => (m.pieces, RoutePath.plainText m.path)
  match RoutePath.register path known with
  | .error fault => throw (.badPath path fault)
  | .ok pieces => if maxOpen < pieces.count .segment then throw .tooManyOpen else return pieces

/-- Adds a route. -/
def add (router : Router α) (verb : Verb) (path : String) (route : α) :
    Except RouteFault (Router α) := do
  if let some fault := textFault? path.toList then throw fault
  match router.mounts.find? (·.path == path) with
  | some m =>
    if m.serves verb then throw (.taken verb path)
    else return ⟨router.mounts.map fun m =>
      if m.path == path then { m with routes := m.routes ++ [(verb, route)] } else m⟩
  | none => return ⟨router.mounts ++ [⟨path, ← router.newPieces path, [(verb, route)]⟩]⟩

/-- The better one of a mount and those before it. -/
def better (best : Option (Mount α)) (m : Mount α) : Option (Mount α) :=
  match best with
  | none => some m
  | some b => if RoutePath.precedes m.pieces b.pieces then some m else some b

/-- The mount that fits a path. -/
def mount? (router : Router α) (path : String) : Option (Mount α) :=
  (router.mounts.filter fun m => RoutePath.fits m.pieces path.toList).foldl better none

/-- Looks up a request. -/
def lookup (router : Router α) (method path : String) : Lookup α :=
  match router.mount? path with
  | none => .missing
  | some m =>
    match m.route? method with
    | some route => .found route
    | none => .wrongMethod m.methods

end Router
end Webhook.Http
