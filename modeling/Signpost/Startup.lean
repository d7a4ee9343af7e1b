import Signpost.Failure.Report
import Signpost.Settings.Check
import Signpost.Settings.VariableFile

/-!
# Starting the program

Settings are loaded and checked before the program listens. Whatever keeps it from doing so is one
failure, which is reported in full.
-/

namespace Signpost.Startup

/-- The settings of variables, before they are checked. -/
def load (lookup : Settings.Lookup) : Except Failure Settings :=
  (Settings.load lookup).mapError fun fault => .config fault.message

/-- The settings of variables that the program can run with. -/
def prepare (lookup : Settings.Lookup) : Except Failure Settings := do
  let settings ← load lookup
  settings.check.mapError Settings.Refusal.failure
  .ok settings

/-- The failure to listen at an address. -/
def notBound (server : Settings.Server) (reason : String) : Failure :=
  .internal ("Failed to bind to " ++ server.address ++ ": " ++ reason)

/-- Why an address is not to be had that another program listens at. -/
def addressInUse : String := "Address already in use (os error 98)"

/-- The last words of a program that failed. -/
def lastWords (failure : Failure) : String :=
  "Error: " ++ failure.report ++ "\n"

end Signpost.Startup
