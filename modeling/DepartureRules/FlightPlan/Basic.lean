import DepartureRules.Moment

/-!
# Flight plans

What a check looks at in a flight plan. A plan whose host gives nothing else is filed under instrument
rules for a jet landplane.
-/

namespace DepartureRules
set_option autoImplicit false

/-- A flight plan. -/
structure FlightPlan where
  /-- The plan is filed under instrument flight rules. -/
  ifr : Bool := true
  departure : Option String := none
  destination : Option String := none
  /-- The requested level in feet. -/
  cruiseLevel : Int := 0
  route : Option String := none
  /-- The points of the route in filed order. -/
  points : List String := []
  sidName : String := ""
  engineType : Char := 'J'
  aircraftType : Char := 'L'
  deriving DecidableEq, Repr, Inhabited

/-- A flight plan with the rest of the message that it came in. -/
structure FiledPlan where
  callsign : String
  /-- The type designator of the aircraft. -/
  aircraft : String
  /-- The weekday of the flight and the time of departure. -/
  departing : Moment
  plan : FlightPlan
  deriving DecidableEq, Repr, Inhabited

/-- The filed plan with other type codes; a code that is not given stays as it is. -/
def FiledPlan.withTypeCodes (filed : FiledPlan) (engineType aircraftType : Option Char) : FiledPlan :=
  { filed with
    plan := { filed.plan with
      engineType := engineType.getD filed.plan.engineType
      aircraftType := aircraftType.getD filed.plan.aircraftType } }

end DepartureRules
