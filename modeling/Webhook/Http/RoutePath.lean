import Webhook.Text.Quoted

/-!
# Paths of routes

The path of a route is literal text in which a segment, or the end of a segment, can be left open:
`{name}` stands for one or more letters up to the next slash, and `{*name}` for all that is left of
the path, which must be something.  A brace that is meant literally is written twice.

Several routes can fit one path.  The routes differ first where one has a letter and the other one
is open, and the letter counts more.  Two routes that fit the same paths, or that are open in
different ways at the same place, do not go together.
-/

namespace Webhook.Http

/-- A piece of the path of a route. -/
inductive Piece where
  /-- A letter that stands for itself. -/
  | letter (c : Char)
  /-- One or more letters up to the next slash. -/
  | segment
  /-- All that is left. -/
  | rest
  deriving DecidableEq, Repr

/-- What can be wrong with the path of a route. -/
inductive PathFault where
  /-- Something other than a slash follows an open segment. -/
  | crowdedSegment
  /-- A brace is not closed, or has nothing or something wrong in it. -/
  | badName
  /-- Something follows the piece that stands for all that is left. -/
  | restNotLast
  /-- The route does not go together with another one. -/
  | conflict (other : String)
  deriving DecidableEq, Repr

/-- The words for what is wrong. -/
def PathFault.message : PathFault → String
  | crowdedSegment => "Only one parameter is allowed per path segment"
  | badName => "Parameters must be registered with a valid name"
  | restNotLast => "Catch-all parameters are only allowed at the end of a route"
  | conflict other =>
    "Insertion failed due to conflict with previously registered route: " ++ other

namespace RoutePath

/-! ## Reading -/

/-- A letter of a path, and whether it is a brace that was written twice. -/
abbrev Mark := Char × Bool

/-- The letters of a path, where a brace that is written twice counts once. -/
def marks : List Char → List Mark
  | '\x7b' :: '\x7b' :: rest => ('\x7b', true) :: marks rest
  | '\x7d' :: '\x7d' :: rest => ('\x7d', true) :: marks rest
  | c :: rest => (c, false) :: marks rest
  | [] => []

/-- The text of a path, where a brace that is written twice counts once. -/
def plainText (path : String) : String := String.ofList ((marks path.toList).map (·.1))

/-- How far a path has been read. -/
inductive Place where
  /-- Outside of braces. -/
  | literal
  /-- After an opening brace. -/
  | opened
  /-- After an opening brace and a star. -/
  | starred
  /-- In a name, of a piece that stands for all that is left if the flag is set. -/
  | name (all : Bool)
  /-- After a closing brace. -/
  | closed

/-- The piece that a name in braces stands for. -/
def openPiece (all : Bool) : Piece := if all then .rest else .segment

/-- A letter inside of a name: an opening brace is nothing special there. -/
def mayBeInName (c : Char) : Bool := c != '*' && c != '/'

/-- Reads the pieces of a path from a place on. -/
def piecesFrom : Place → List Mark → Except PathFault (List Piece)
  | .literal, [] | .closed, [] => .ok []
  | .opened, [] | .starred, [] | .name _, [] => .error .badName
  | .literal, ('\x7b', false) :: rest => piecesFrom .opened rest
  | .literal, ('\x7d', false) :: _ => .error .badName
  | .literal, (c, _) :: rest => (piecesFrom .literal rest).map (.letter c :: ·)
  | .opened, ('\x7d', _) :: _ => .error .badName
  | .opened, ('*', _) :: rest => piecesFrom .starred rest
  | .opened, _ :: rest => piecesFrom (.name false) rest
  | .starred, ('\x7d', false) :: _ => .error .badName
  | .starred, (c, _) :: rest =>
    if mayBeInName c then piecesFrom (.name true) rest else .error .badName
  | .name all, ('\x7d', false) :: rest => (piecesFrom .closed rest).map (openPiece all :: ·)
  | .name all, (c, _) :: rest =>
    if mayBeInName c then piecesFrom (.name all) rest else .error .badName
  | .closed, ('/', _) :: rest => (piecesFrom .literal rest).map (.letter '/' :: ·)
  | .closed, _ :: _ => .error .crowdedSegment

/-- The pieces of a path. -/
def pieces (path : String) : Except PathFault (List Piece) := piecesFrom .literal (marks path.toList)

/-! ## Fitting -/

/-- Whether the pieces fit a path. -/
def fits : List Piece → List Char → Bool
  | [], path => path.isEmpty
  | .letter c :: more, d :: path => c == d && fits more path
  | .letter _ :: _, [] => false
  | .segment :: more, path =>
    !(path.takeWhile (· != '/')).isEmpty && fits more (path.dropWhile (· != '/'))
  | .rest :: _, path => !path.isEmpty

/-- Whether the first of two routes that fit the same path counts more. -/
def precedes : List Piece → List Piece → Bool
  | .letter _ :: ps, .letter _ :: qs => precedes ps qs
  | .letter _ :: _, _ :: _ => true
  | .segment :: ps, .segment :: qs => precedes ps qs
  | _, _ => false

/-! ## Going together -/

/-- A route that is there already: its pieces from some place on, and its text. -/
abbrev Known := List Piece × String

/-- The routes that go on with a piece, after that piece. -/
def after (piece : Piece) (routes : List Known) : List Known :=
  routes.filterMap fun r =>
    match r.1 with
    | p :: more => if p = piece then some (more, r.2) else none
    | [] => none

/-- One more route for a letter.  The letter with the most routes stands first, and of several ones
that which had as many routes first. -/
def credit (ranking : List (Char × Nat)) (c : Char) : List (Char × Nat) :=
  let n := (ranking.lookup c).getD 0 + 1
  let others := ranking.filter (·.1 != c)
  others.takeWhile (n ≤ ·.2) ++ (c, n) :: others.dropWhile (n ≤ ·.2)

/-- The letter with which most routes go on. -/
def busiest? (routes : List Known) : Option Char :=
  let letters := routes.filterMap fun r =>
    match r.1 with
    | .letter c :: _ => some c
    | _ => none
  (letters.foldl credit []).head?.map (·.1)

/-- The route at the end of the busiest way through some routes. -/
def busiestEnd : (steps : Nat) → List Known → Option String
  | 0, routes => routes.head?.map (·.2)
  | steps + 1, routes =>
    match busiest? routes with
    | some c => busiestEnd steps (after (.letter c) routes)
    | none =>
      match after .segment routes with
      | [] => routes.head?.map (·.2)
      | further => busiestEnd steps further

/-- The text of a known route with which new pieces do not go together. -/
def conflict? : List Piece → List Known → Option String
  | [], routes => (routes.find? (·.1.isEmpty)).map (·.2)
  | .letter c :: more, routes => conflict? more (after (.letter c) routes)
  | .segment :: more, routes =>
    match after .rest routes with
    | other :: _ => some other.2
    | [] => conflict? more (after .segment routes)
  | .rest :: _, routes =>
    match after .rest routes with
    | other :: _ => some other.2
    | [] =>
      let open_ := after .segment routes
      busiestEnd (open_.foldl (fun n route => n + route.1.length) 0) open_

/-- Whether nothing follows the piece that stands for all that is left. -/
def restIsLast : List Piece → Bool
  | [] => true
  | .rest :: more => more.isEmpty
  | _ :: more => restIsLast more

/-- The pieces of a path that is to go together with known routes. -/
def register (path : String) (known : List Known) : Except PathFault (List Piece) := do
  let new ← pieces path
  match conflict? new known with
  | some other => throw (.conflict other)
  | none => if restIsLast new then return new else throw .restNotLast

example : (pieces "/a/\x7bx\x7d").toOption = some [.letter '/', .letter 'a', .letter '/', .segment] := by
  decide +kernel
example : (pieces "/\x7b\x7bx\x7d\x7d").toOption
    = some [.letter '/', .letter '\x7b', .letter 'x', .letter '\x7d'] := by decide +kernel
example : fits [.letter '/', .segment] "/ab".toList = true := by decide +kernel
example : fits [.letter '/', .segment] "/ab/c".toList = false := by decide +kernel

end RoutePath
end Webhook.Http
