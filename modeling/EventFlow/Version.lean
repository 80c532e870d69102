/-
  The version of the program.
-/

namespace EventFlow

/- The version that the program tells. -/
def version : String :=
  "0.1.0"

end EventFlow
