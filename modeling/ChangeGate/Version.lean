/-!
# Name and version

The name under which the program is called and makes itself known, and its version.
-/

namespace ChangeGate

/-- The name of the program. -/
def programName : String := "presubmit"

/-- The version of the program. -/
def programVersion : String := "0.3.1"

end ChangeGate
