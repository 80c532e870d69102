import EventFlow.Value.Basic

/-
  Types of triggers.

  A trigger binds the events it hears to the workflow that
  owns it.  Two types may agree in all that they tell and
  yet not be one type: then their identities differ.

  Key definitions include:
    * `TriggerType`
    * `TriggerType.events`
    * `TriggerType.describe`
-/

------------------------------------------------------------
-- Trigger Types
------------------------------------------------------------

namespace EventFlow

/- A type of triggers. -/
structure TriggerType where
  name : String
  slug : String
  title : String := ""
  description : String := ""
  category : String := ""
  event : String := ""
  alsoHears : List String := []
  identity : Nat := 0
deriving DecidableEq, Repr

namespace TriggerType

/- The events that a trigger hears, in the order of binding. -/
def events (t : TriggerType) : List String :=
  t.event :: t.alsoHears

/- What a type tells about itself. -/
def describe (t : TriggerType) : List (String × Value) := [
  ("slug", .str t.slug),
  ("title", .str t.title),
  ("description", .str t.description),
  ("category", .str t.category),
  ("event", .str t.event)
]

end TriggerType

end EventFlow
