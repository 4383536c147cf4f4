import DepartureRules.Route.Lexical
import DepartureRules.Route.Token
import DepartureRules.Text.Blank

/-!
# Filed routes

A route is filed as words in any letter case:

    [speed/level] [origin] [speed/level] { [airway] waypoint } [airway] [destination]

* `waypoint?` reads a word as a waypoint with its change of speed and level;
* `legs` reads airways and waypoints as far as they go;
* `parse` reads a whole route between two airports, whose codes are given in uppercase.

Airways may be missing between waypoints. A word that could be an airway is one wherever an airway may
stand, and four letters are an airport rather than a waypoint. The bare route holds the airways, other
than the word for none, and the waypoints in filed order.
-/

namespace DepartureRules
open Text
set_option autoImplicit false

/-- Why a text is no route between two airports. -/
inductive RouteError
  | empty
  /-- Nothing follows the speed and level. -/
  | noRoute
  | originMismatch
  | destinationMismatch
  /-- A waypoint is followed by a slash and something that is no change. -/
  | invalidChange
  | climbWithoutChange
  /-- The word that the route cannot go on with. -/
  | invalidToken (word : String)
  deriving DecidableEq, Repr

/-- The text of the error. -/
def RouteError.message : RouteError → String
  | .empty => "empty route"
  | .noRoute => "route contains no route"
  | .originMismatch => "route and flight plan origin do not match"
  | .destinationMismatch => "route and flight plan destination do not match"
  | .invalidChange => "invalid change of speed/level"
  | .climbWithoutChange => "cruise climb does not include climb"
  | .invalidToken word => "invalid token in flight plan: " ++ word

/-- The tokens of a route in filed order. -/
structure Route where
  tokens : List RouteToken
  deriving DecidableEq, Repr, Inhabited

/-- The airways and waypoints of a route in filed order. -/
def Route.bare (route : Route) : List String :=
  route.tokens.filterMap RouteToken.bare?

namespace Route

/-! ## Single words -/

/-- A word before its first slash. -/
def beforeSlash (word : List Char) : List Char :=
  word.takeWhile (· != '/')

/-- A word from behind its first slash, empty when it has none. -/
def behindSlash (word : List Char) : List Char :=
  (word.dropWhile (· != '/')).drop 1

/-- The part, or nothing when it is empty. -/
def nonEmpty (part : List Char) : Option String :=
  if part.isEmpty then none else some (String.ofList part)

/-- The word as a speed and level. -/
def speedLevel? (word : String) : Option RouteToken :=
  if Lexical.isSpeedLevel word.toList then some (.speedLevel word) else none

/-- The word as an airport with its runway. -/
def airport? (word : String) : Option RouteToken :=
  if Lexical.isAirport word.toList then
    some (.airport (String.ofList (beforeSlash word.toList)) (nonEmpty (behindSlash word.toList)))
  else none

/-- The word as an airway or as the word for none. -/
def airway? (word : String) : Option RouteToken :=
  if Lexical.isAirway word.toList then
    some (if word = "DCT" then .direct else .airway word)
  else none

/-- The word without the sign of a climb at its head, and whether it had one. -/
def climbSign : List Char → Bool × List Char
  | 'C' :: '/' :: body => (true, body)
  | word => (false, word)

/-- The word as a waypoint. There is none when what stands before the first slash is no point. -/
def waypoint? (word : String) : Except RouteError (Option RouteToken) :=
  let (climb, body) := climbSign word.toList
  let ident := beforeSlash body
  if Lexical.isPoint ident then
    let change := behindSlash body
    if change.isEmpty then
      if climb then .error .climbWithoutChange
      else .ok (some (.waypoint (String.ofList ident) none false))
    else if if climb then Lexical.isClimb change else Lexical.isSpeedLevel change then
      .ok (some (.waypoint (String.ofList ident) (some (String.ofList change)) climb))
    else .error .invalidChange
  else .ok none

/-- The word as a waypoint where an airport would end the route. -/
def point? (word : String) : Except RouteError (Option RouteToken) :=
  if Lexical.isAirport word.toList then .ok none else waypoint? word

/-! ## Whole routes -/

/-- Takes a speed and level from the head of the words, if one stands there. -/
def takeSpeedLevel : List String → List RouteToken × List String
  | [] => ([], [])
  | word :: words =>
    match speedLevel? word with
    | some token => ([token], words)
    | none => ([], word :: words)

/-- Takes an airport from the head of the words, if one stands there. It has to have the given code. -/
def takeAirport (code : String) (mismatch : RouteError) :
    List String → Except RouteError (List RouteToken × List String)
  | [] => .ok ([], [])
  | word :: words =>
    match airport? word with
    | none => .ok ([], word :: words)
    | some (.airport ident runway) =>
      if ident = code then .ok ([.airport ident runway], words) else .error mismatch
    | some _ => .error mismatch

/-- Tokens put before those that have been read already. -/
def prepend (tokens : List RouteToken) (rest : List RouteToken × List String) :
    List RouteToken × List String :=
  (tokens ++ rest.1, rest.2)

/-- Reads airways and waypoints up to the first word that is neither. -/
def legs : List String → Except RouteError (List RouteToken × List String)
  | [] => .ok ([], [])
  | word :: words =>
    match airway? word with
    | none =>
      match point? word with
      | .error e => .error e
      | .ok none => .ok ([], word :: words)
      | .ok (some point) => (legs words).map (prepend [point])
    | some airway =>
      match words with
      | [] => .ok ([airway], [])
      | next :: words =>
        match point? next with
        | .error e => .error e
        | .ok none => .ok ([airway], next :: words)
        | .ok (some point) => (legs words).map (prepend [airway, point])

/-- Reads a route from its words in uppercase. -/
def ofWords (words : List String) (origin destination : String) : Except RouteError Route := do
  if words.isEmpty then throw .empty
  let (lead, words) := takeSpeedLevel words
  if words.isEmpty then throw .noRoute
  let (start, words) ← takeAirport origin .originMismatch words
  let (speed, words) := takeSpeedLevel words
  let (middle, words) ← legs words
  let (finish, words) ← takeAirport destination .destinationMismatch words
  match words with
  | [] => return ⟨lead ++ start ++ speed ++ middle ++ finish⟩
  | word :: _ => throw (.invalidToken word)

/-- Reads a route that is filed from `origin` to `destination`. -/
def parse (text origin destination : String) : Except RouteError Route :=
  ofWords ((wordsOf text).map uppercased) origin destination

end Route

end DepartureRules
