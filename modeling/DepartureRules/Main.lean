import DepartureRules.CommandLine.Run

/-!
# The program

Gathers what a run of the command line looks at, runs it and writes what it leaves behind. The program cannot
reach rule servers: for its runs the network is down.
-/

open DepartureRules.CommandLine
set_option autoImplicit false

/-- The environment variables that hold settings, as far as they are set. -/
def settingVariables : IO (List (String × String)) := do
  let names := ["VFPC_SOURCE_URL", "VFPC_FETCH_TIMEOUT_SECS", "VFPC_REFRESH_SECS"]
  names.filterMapM fun name => do
    return (← IO.getEnv name).map fun value => (name, value)

/-- The content of a file, if it can be read. -/
def contentOf (file : String) : IO (Option (String × String)) := do
  try
    return some (file, ← IO.FS.readFile file)
  catch _ =>
    return none

/-- The files that the arguments name. -/
def namedFiles (arguments : List String) : IO (List (String × String)) :=
  match Request.ofArguments arguments with
  | .check { rules := some file, .. } => return (← contentOf file).toList
  | _ => return []

/-- Runs the program. -/
def main (arguments : List String) : IO UInt32 := do
  let exit := run {
    arguments
    input := ← (← IO.getStdin).readToEnd
    files := ← namedFiles arguments
    environment := ← settingVariables
    network := .down
    server := .empty }
  IO.print exit.output
  IO.eprint exit.errors
  return exit.status.toUInt32
