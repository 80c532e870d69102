import EventFlow.Value.Table

/-
  Definitions of workflows.

  A workflow is defined by a graph of steps.  A step names
  the type it is made from, the attributes it is made with,
  and its successors: one for an action, and one for each
  outcome of a condition.  A successor that is left out ends
  the walk.

  Key definitions include:
    * `StepDefinition`
    * `WorkflowDefinition`
    * `WorkflowDefinition.stepData`
    * `WorkflowDefinition.toValue`
    * `WorkflowDefinition.stored`
    * `WorkflowDefinition.isStorable`
-/

------------------------------------------------------------
-- Definitions
------------------------------------------------------------

namespace EventFlow

/- One node of the graph of a workflow. -/
structure StepDefinition where
  slug : String
  attributes : List (String × Value) := []
  nextStep : Option String := none
  nextStepTrue : Option String := none
  nextStepFalse : Option String := none

/- A workflow as it is defined, before it is built. -/
structure WorkflowDefinition where
  id : String
  name : String
  description : String := ""
  active : Bool := true
  triggers : List String
  initialStep : String
  steps : List (String × StepDefinition) := []

end EventFlow

------------------------------------------------------------
-- Step Data
------------------------------------------------------------

namespace EventFlow

namespace StepDefinition

/- The fields of a step behind its slug. -/
def settings (s : StepDefinition) :
    List (String × Value) := [
  ("attributes", .object s.attributes),
  ("next_step", Value.ofText? s.nextStep),
  ("next_step_true", Value.ofText? s.nextStepTrue),
  ("next_step_false", Value.ofText? s.nextStepFalse)
]

/- A step as a value. -/
def toValue (s : StepDefinition) : Value :=
  .object (("slug", .str s.slug) :: s.settings)

end StepDefinition

namespace WorkflowDefinition

/- Whether a step is defined. -/
def hasStep
    (d : WorkflowDefinition)
    (id : String) : Bool :=
  (d.steps.lookup id).isSome

/- What a step of the workflow is made from. -/
def dataOf
    (id : String)
    (s : StepDefinition) : Value :=
  .object (("id", .str id) :: s.settings)

/- What the step of an id is made from, if it is defined. -/
def stepData
    (d : WorkflowDefinition)
    (id : String) : Except Failure Value :=
  match d.steps.lookup id with
  | some s => .ok (dataOf id s)
  | none => .error (.keyUnknown (.str id))

/- A workflow as a value. -/
def toValue (d : WorkflowDefinition) : Value :=
  .object [
    ("id", .str d.id),
    ("name", .str d.name),
    ("description", .str d.description),
    ("active", .bool d.active),
    ("triggers", .list (d.triggers.map .str)),
    ("initial_step", .str d.initialStep),
    ("steps", .object (d.steps.map fun (id, s) =>
      (id, s.toValue)))
  ]

end WorkflowDefinition

end EventFlow

------------------------------------------------------------
-- Stored Form
------------------------------------------------------------

namespace EventFlow

namespace Value

mutual

/-
  A value as it is stored.  A floating-point number that is
  not finite has no stored form and is left empty.
-/
def stored : Value → Value
| .float x => if x.isFinite then .float x else .null
| .list vs => .list (storedItems vs)
| .object fs => .object (storedFields fs)
| v => v
termination_by structural v => v

/- The items of a list as they are stored. -/
def storedItems : List Value → List Value
| [] => []
| v :: vs => stored v :: storedItems vs
termination_by structural vs => vs

/- The fields of an object as they are stored. -/
def storedFields :
    List (String × Value) → List (String × Value)
| [] => []
| (k, v) :: fs => (k, stored v) :: storedFields fs
termination_by structural fs => fs

end

end Value

namespace StepDefinition

/- A step as it is stored: absent successors are left out. -/
def stored (s : StepDefinition) : Value :=
  let successors : List (String × Option String) := [
    ("next_step", s.nextStep),
    ("next_step_true", s.nextStepTrue),
    ("next_step_false", s.nextStepFalse)
  ]
  .object <|
    ("slug", .str s.slug) ::
    ("attributes", (Value.object s.attributes).stored) ::
    successors.filterMap fun (name, id?) =>
      id?.map fun id => (name, .str id)

end StepDefinition

namespace WorkflowDefinition

/- A workflow as it is stored. -/
def stored (d : WorkflowDefinition) : Value :=
  .object [
    ("id", .str d.id),
    ("name", .str d.name),
    ("description", .str d.description),
    ("active", .bool d.active),
    ("triggers", .list (d.triggers.map .str)),
    ("initial_step", .str d.initialStep),
    ("steps", .object (d.steps.map fun (id, s) =>
      (id, s.stored)))
  ]

end WorkflowDefinition

end EventFlow

------------------------------------------------------------
-- Depth
------------------------------------------------------------

namespace EventFlow

namespace Value

mutual

/- How deep a value is.  A value without members is one deep. -/
def depth : Value → Nat
| .list vs => depthOfItems vs + 1
| .object fs => depthOfFields fs + 1
| _ => 1

/- The depth of the deepest item. -/
def depthOfItems : List Value → Nat
| [] => 0
| v :: vs => max v.depth (depthOfItems vs)

/- The depth of the deepest field. -/
def depthOfFields : List (String × Value) → Nat
| [] => 0
| (_, v) :: fs => max v.depth (depthOfFields fs)

end

end Value

namespace WorkflowDefinition

/- The greatest depth of an attribute that is stored. -/
def maxDepth : Nat := 255

/- Whether no attribute of a workflow is too deep to store. -/
def isStorable (d : WorkflowDefinition) : Bool :=
  d.steps.all fun (_, s) =>
    s.attributes.all fun (_, v) => v.depth ≤ maxDepth

end WorkflowDefinition

end EventFlow
