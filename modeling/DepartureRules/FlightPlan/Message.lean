import DepartureRules.Aircraft
import DepartureRules.Calendar
import DepartureRules.FlightPlan.Basic
import DepartureRules.Route.Lexical
import DepartureRules.Text.Blank
import DepartureRules.Text.Quoted

/-!
# Flight plan messages

A filed plan arrives as a message in round brackets. It begins with `(FPL-` and has eight fields with a hyphen
between them; the last field may hold hyphens of its own:

    (FPL-callsign-rules-[count]type/wake-equipment-DEPhhmm-speedlevel route-DESThhmm-other)

* `joinLines` makes one line of a message that is spread over several;
* `FiledPlan.decode` reads a message; `MessageError` says what can be wrong with it.

The fields are told apart before any of them is looked at, and are then looked at in their order. The
type codes of the aircraft come from the table of types, and the weekday from the first `DOF/` item of the
last field.
-/

namespace DepartureRules
open Text
set_option autoImplicit false

/-! ## Errors -/

/-- A field of a message, or a part of a field. -/
inductive MessageField
  | identification
  | flightRules
  | aircraftType
  | equipment
  | departure
  | route
  | destination
  | otherInformation
  | cruiseLevel
  | dateOfFlight
  deriving DecidableEq, Repr, Inhabited

/-- The name of a field in error texts. -/
def MessageField.name : MessageField → String
  | .identification => "aircraft identification"
  | .flightRules => "flight rules"
  | .aircraftType => "aircraft type"
  | .equipment => "equipment"
  | .departure => "departure"
  | .route => "route"
  | .destination => "destination"
  | .otherInformation => "other information"
  | .cruiseLevel => "cruise level"
  | .dateOfFlight => "date of flight"

/-- Why a text is no flight plan message. -/
inductive MessageError
  | notFlightPlan
  | missingField (field : MessageField)
  | malformed (field : MessageField) (value : String)
  | unknownAircraft (designator : String)
  | missingDateOfFlight
  deriving DecidableEq, Repr

/-- The text of the error. -/
def MessageError.message : MessageError → String
  | .notFlightPlan => "message does not start with (FPL-"
  | .missingField field => "missing field: " ++ field.name
  | .malformed field value => "malformed field " ++ field.name ++ ": " ++ quoted value
  | .unknownAircraft designator => "unknown aircraft: " ++ designator
  | .missingDateOfFlight => "missing DOF in other information"

/-! ## Cutting texts -/

/-- The lines of a text without the blanks around them, empty lines left out, with one blank between
two of them. -/
def joinLines (text : String) : String :=
  let lines := (splitWhere (· == '\n') text.toList).map trim
  String.ofList (joinWith [' '] (lines.filter fun line => !line.isEmpty))

/-- The pieces of a text at its first `n` separators. -/
def splitFirst (separator : Char) : Nat → List Char → List (List Char)
  | 0, s => [s]
  | _ + 1, [] => [[]]
  | n + 1, c :: s =>
    if c = separator then [] :: splitFirst separator n s
    else
      match splitFirst separator (n + 1) s with
      | [] => [[c]]
      | piece :: pieces => (c :: piece) :: pieces

/-- Cuts a text after `n` bytes. There is no cut inside a character or behind the end. -/
def cutBytes : Nat → List Char → Option (List Char × List Char)
  | 0, s => some ([], s)
  | _ + 1, [] => none
  | n + 1, c :: s =>
    if c.utf8Size ≤ n + 1 then (cutBytes (n + 1 - c.utf8Size) s).map fun (head, rest) => (c :: head, rest)
    else none
termination_by _ s => s.length

/-- The text behind a given beginning. -/
def dropBeginning (beginning s : List Char) : Option (List Char) :=
  if beginning.isPrefixOf s then some (s.drop beginning.length) else none

/-- The text without a closing bracket at its end. -/
def dropClosing (s : List Char) : List Char :=
  match s.getLast? with
  | some ')' => s.dropLast
  | _ => s

/-! ## Fields -/

/-- The eight fields of a message. -/
structure MessageFields where
  identification : List Char
  flightRules : List Char
  aircraftType : List Char
  equipment : List Char
  departure : List Char
  route : List Char
  destination : List Char
  otherInformation : List Char
  deriving DecidableEq, Repr

/-- The fields in the order of a message. -/
def MessageFields.order : List MessageField :=
  [.identification, .flightRules, .aircraftType, .equipment, .departure, .route, .destination,
    .otherInformation]

/-- Tells the fields of a message apart. -/
def MessageFields.split (message : String) : Except MessageError MessageFields :=
  match dropBeginning ['(', 'F', 'P', 'L', '-'] (trim message.toList) with
  | none => .error .notFlightPlan
  | some body =>
    match (splitFirst '-' 7 (dropClosing body)).map trim with
    | [identification, flightRules, aircraftType, equipment, departure, route, destination, other] =>
      .ok ⟨identification, flightRules, aircraftType, equipment, departure, route, destination, other⟩
    | short => .error (.missingField (MessageFields.order.getD short.length .otherInformation))

/-- A field that is not as it should be. -/
def malformed {α : Type} (field : MessageField) (value : List Char) : Except MessageError α :=
  .error (.malformed field (String.ofList value))

/-- The type designator of the aircraft: what stands before the slash, without the number of aircraft. -/
def readDesignator (field : List Char) : Except MessageError String :=
  let designator := (field.takeWhile (· != '/')).dropWhile isAsciiDigit
  if field.contains '/' && !designator.isEmpty then .ok (String.ofList designator)
  else malformed .aircraftType field

/-- A known aircraft type. -/
def findAircraft (designator : String) : Except MessageError AircraftType :=
  match AircraftType.lookup designator with
  | some aircraft => .ok aircraft
  | none => .error (.unknownAircraft designator)

/-- An aerodrome of four bytes and a time of four bytes; what follows does not matter. -/
def readAerodrome (name : MessageField) (field : List Char) :
    Except MessageError (String × TimeOfDay) :=
  match cutBytes 4 field with
  | none => malformed name field
  | some (code, rest) =>
    match cutBytes 4 rest with
    | none => malformed name field
    | some (time, _) =>
      match TimeOfDay.parse (String.ofList time) with
      | .ok time => .ok (String.ofList code, time)
      | .error _ => malformed name field

/-- The shapes of a speed and a level in hundreds of feet. -/
def cruiseLevels : List Lexical.Shape :=
  Lexical.followedBy Lexical.speeds [Lexical.oneOf ['F', 'A'] ++ Lexical.digits 3]

/-- The level in feet of a speed and a level in hundreds of feet. -/
def readCruiseLevel (text : List Char) : Except MessageError Int :=
  let level := text.drop (text.length - 3)
  if Lexical.fitsAny cruiseLevels text && level.all isAsciiDigit then .ok (numeral level * 100)
  else malformed .cruiseLevel text

/-- The speed and level of a route field, and its route. -/
def readRouteField (field : List Char) : Except MessageError (List Char × List Char) :=
  match field.dropWhile fun c => !isBlank c with
  | [] => malformed .route field
  | _ :: route => .ok (field.takeWhile fun c => !isBlank c, route)

/-- The departure that a route begins with. A route that begins without one has the empty name. -/
def sidNameOf : List String → String
  | [] => ""
  | first :: _ => if first = "DCT" then "" else first

/-- The weekday of the flight. -/
def readWeekday (other : List Char) : Except MessageError Nat :=
  match (words other).findSome? fun item => dropBeginning ['D', 'O', 'F', '/'] item with
  | none => .error .missingDateOfFlight
  | some item =>
    match cutBytes 6 item with
    | none => malformed .dateOfFlight item
    | some (digits, _) =>
      match Date.ofSixDigits? digits with
      | none => malformed .dateOfFlight item
      | some date => .ok date.weekday

/-- Reads a flight plan message. -/
def FiledPlan.decode (message : String) : Except MessageError FiledPlan := do
  let fields ← MessageFields.split message
  if fields.flightRules.isEmpty then malformed .flightRules fields.flightRules
  let designator ← readDesignator fields.aircraftType
  let aircraft ← findAircraft designator
  let (departure, departing) ← readAerodrome .departure fields.departure
  let (speedLevel, route) ← readRouteField fields.route
  let cruiseLevel ← readCruiseLevel speedLevel
  let points := (words route).map String.ofList
  let (destination, _) ← readAerodrome .destination fields.destination
  let weekday ← readWeekday fields.otherInformation
  return {
    callsign := String.ofList fields.identification
    aircraft := designator
    departing := ⟨some weekday, some departing⟩
    plan := {
      ifr := fields.flightRules.head? == some 'I'
      departure := some departure
      destination := some destination
      cruiseLevel
      route := some (String.ofList (joinWith [' '] (words route)))
      points
      sidName := sidNameOf points
      engineType := aircraft.engineType
      aircraftType := aircraft.aircraftType } }

end DepartureRules
