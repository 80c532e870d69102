import EventFlow.Engine.Registration
import EventFlow.Settings.Basic

/-
  The creation of engines from settings.

  An engine that is given no access to contacts gets a store
  of its own.

  Key definitions include:
    * `Engine.furnish`
    * `Engine.ofSettings`
-/

------------------------------------------------------------
-- Creation
------------------------------------------------------------

namespace EventFlow

namespace Engine

/- Tell that an engine was created. -/
def tellCreated : Act Engine Unit :=
  fun e =>
    tell
      (.engineCreated e.triggerTypes.length
        e.stepTypes.length e.limit) e

variable [Surroundings]

/- Register the built-in types and tell of the creation. -/
def furnish (withBuiltins : Bool) : Act Engine Unit := do
  if withBuiltins then
    registerBuiltins
  tellCreated

/- The data access of an engine: no access is a new store. -/
def accessOrStore : DataAccess → DataAccess
| .none => .contacts {}
| access => access

/- An engine as settings ask for. -/
def ofSettings
    (s : Settings)
    (access : DataAccess)
    (withBuiltins : Bool) : Except Failure Engine :=
  match make s.limit s.isStrict (accessOrStore access) with
  | .error failure => .error failure
  | .ok e =>
      let (outcome, e) := furnish withBuiltins e
      outcome.map fun () => e

end Engine

end EventFlow
