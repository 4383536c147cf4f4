import DepartureRules.Live.Address
import DepartureRules.Text.Numeral

/-!
# Settings of the live source

The server, the time that a fetch may take and the period of the refresh loop, as environment variables
set them. A variable that is not set, or that holds no number where one is due, leaves the default.
-/

namespace DepartureRules
set_option autoImplicit false

/-- The settings of a live source. -/
structure Config where
  /-- The base address of the rule server. -/
  server : String := "https://vfpc.tomjmills.co.uk/"
  /-- How long a fetch may take, in seconds. -/
  timeout : Nat := 20
  /-- The seconds between two refreshes of the reference time; zero for none. -/
  refresh : Nat := 300
  deriving DecidableEq, Repr, Inhabited

/-- The settings that the variables of an environment make. -/
def Config.ofEnvironment (settings : List (String × String)) : Config :=
  let defaults : Config := {}
  let number (name : String) (other : Nat) : Nat :=
    ((settings.lookup name).bind Text.settingNumber?).getD other
  { server := ((settings.lookup "VFPC_SOURCE_URL").map Address.normalize).getD defaults.server
    timeout := number "VFPC_FETCH_TIMEOUT_SECS" defaults.timeout
    refresh := number "VFPC_REFRESH_SECS" defaults.refresh }

end DepartureRules
