import EventFlow.Catalog.Builtin

/-
  Areas: what can be imported.

  An area has a path and names below it.  Beside the names
  of its own items it has names that tell about the area
  itself; a group, which has areas below its path, has one
  of these more than other areas.

  Key definitions include:
    * `Sample.Area`
    * `Sample.area`
    * `Sample.group`
-/

------------------------------------------------------------
-- Areas
------------------------------------------------------------

namespace EventFlow

namespace Sample

/- What can be imported: a path and the names below it. -/
structure Area where
  path : String
  items : List (String × Item)

/- Names of things that are no types. -/
def others (names : List String) : List Item :=
  names.map .other

/- The names that tell about an area. -/
def aboutNames : List String := [
  "__annotations__",
  "__builtins__",
  "__cached__",
  "__class__",
  "__dict__",
  "__doc__",
  "__file__",
  "__loader__",
  "__name__",
  "__package__",
  "__spec__"
]

/- An area whose items have their own names. -/
def area
    (path : String)
    (items : List Item) : Area :=
  { path := path
    items := (items ++ others aboutNames).map Item.entry }

/- An area with areas below its path. -/
def group
    (path : String)
    (items : List Item) : Area :=
  area path (items ++ others ["__path__"])

end Sample

end EventFlow

------------------------------------------------------------
-- Shared Items
------------------------------------------------------------

namespace EventFlow

namespace Sample

/- Any trigger. -/
def anyTrigger : Item :=
  .trigger Builtin.trigger

/- Any step. -/
def anyStep : Item :=
  .unfinished "Step" ["execute", "next_step_id"]

/- Any condition. -/
def anyCondition : Item :=
  .unfinished "Condition" ["execute"]

/- Any action. -/
def anyAction : Item :=
  .unfinished "Action" ["execute"]

/- Any action on a contact. -/
def contactAction : Item :=
  .unfinished "ContactAction" ["execute"]

end Sample

end EventFlow
