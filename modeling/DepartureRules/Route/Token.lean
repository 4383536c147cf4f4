/-!
# Tokens of a route

The classified words of a filed route, and how each of them is written:

* `RouteToken.text` writes a token as one word;
* `RouteToken.bare?` is what the token adds to the bare route: the name of an airway or of a waypoint.
-/

namespace DepartureRules
set_option autoImplicit false

/-- A classified word of a route. -/
inductive RouteToken
  /-- A speed and a level that stand alone. -/
  | speedLevel (text : String)
  | airport (ident : String) (runway : Option String)
  | airway (text : String)
  /-- The word for a leg without an airway. -/
  | direct
  /-- A point or coordinates, with the change of speed and level that begins there. A climb is a change
  that goes on while the aircraft cruises. -/
  | waypoint (ident : String) (change : Option String) (climb : Bool)
  deriving DecidableEq, Repr, Inhabited

namespace RouteToken

/-- A part behind a slash, or nothing. -/
def slashed : Option String → String
  | none => ""
  | some part => "/" ++ part

/-- The word that a token is filed as. -/
def text : RouteToken → String
  | .speedLevel text => text
  | .airport ident runway => ident ++ slashed runway
  | .airway text => text
  | .direct => "DCT"
  | .waypoint ident change climb => (if climb then "C/" else "") ++ ident ++ slashed change

/-- The element of the bare route that a token stands for. -/
def bare? : RouteToken → Option String
  | .airway text => some text
  | .waypoint ident _ _ => some ident
  | _ => none

end RouteToken

end DepartureRules
