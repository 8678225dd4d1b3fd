/-!
# The program

The name of the program, which its files and its output carry, and its version.
-/

namespace ServiceShell.Program

/-- The name of the program. -/
def name : String := "shapecli"

/-- The version of the program. -/
def version : String := "0.4.0"

end ServiceShell.Program
