import DepartureRules.Text.Blank

/-!
# Addresses of rule servers

A rule server has a base address, which ends in a slash. The names of its documents are appended to it.

* `normalize` makes a base address of a text;
* `versionAddress` and `airportAddress` are the addresses of the two kinds of document;
* `namesServer` tells the addresses of servers from the names of files.
-/

namespace DepartureRules.Address
open Text
set_option autoImplicit false

/-! ## Base addresses -/

/-- An address with a slash at its end, without the blanks around it. -/
def normalize (text : String) : String :=
  let address := trim text.toList
  String.ofList (if address.getLast? = some '/' then address else address ++ ['/'])

/-- The address of the version document. -/
def versionAddress (base : String) : String :=
  base ++ "version"

/-- The address of the document of an airport. -/
def airportAddress (base icao : String) : String :=
  base ++ "airport?icao=" ++ icao

/-! ## Addresses and files -/

/-- The text holds `://`, as addresses of servers do and names of files do not. -/
def namesServer (text : String) : Bool :=
  let rec search : List Char → Bool
    | [] => false
    | c :: rest => [':', '/', '/'].isPrefixOf (c :: rest) || search rest
  search text.toList

end DepartureRules.Address
