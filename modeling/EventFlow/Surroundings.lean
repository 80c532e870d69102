import EventFlow.Catalog.Item
import EventFlow.Step.Basic

/-
  What the library finds around it.

  Paths are looked up by importing, types that are brought
  along do whatever their authors wrote, and how deep texts
  and calls may nest is up to the machine.  None of this is
  part of the library: all else takes it as given, and
  nothing holds of it but what a statement says it assumes.

  Key definitions include:
    * `Imported`
    * `Body`
    * `Surroundings`
    * `Surroundings.bare`
-/

------------------------------------------------------------
-- Imports
------------------------------------------------------------

namespace EventFlow

/-
  What an import yields: nothing, an area with names, or a
  failure of its own.
-/
inductive Imported where
| missing
| area (find? : String → Option Item)
| broken (failure : Failure)

end EventFlow

------------------------------------------------------------
-- Bodies
------------------------------------------------------------

namespace EventFlow

/- What the steps of a type brought along do. -/
structure Body where
  execute : Step → Value → DataAccess → Effect
  next : Step → Except Failure Value

end EventFlow

------------------------------------------------------------
-- Surroundings
------------------------------------------------------------

namespace EventFlow

/-
  What is around the library: imports by name, bodies of
  types brought along, and how deep JSON may nest that is
  read, and calls of handlers.
-/
class Surroundings where
  importing : String → Imported
  body : StepType → Body
  nesting : Nat
  calls : Nat

/- Surroundings of which nothing is imported or brought along. -/
@[reducible]
def Surroundings.bare (nesting calls : Nat) : Surroundings where
  importing := fun _ => .missing
  body := fun _ =>
    { execute := fun s _ access => s.accessing access []
      next := fun s => .ok s.successor }
  nesting := nesting
  calls := calls

namespace Bare

/- The surroundings of a program at a terminal. -/
scoped instance surroundings : Surroundings := .bare 980 500

end Bare

end EventFlow
