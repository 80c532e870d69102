import EventFlow.Bus
import EventFlow.Definition.Basic
import EventFlow.Trigger.Type

/-
  Workflows and their triggers.

  A workflow is built from a definition and owns one trigger
  for each slug that the definition lists.  A trigger is
  bound when it has begun to listen; each time it is bound
  it listens once more.

  Key definitions include:
    * `Trigger`
    * `Workflow`
    * `StepOutcome`
    * `ExecutionResult`
-/

------------------------------------------------------------
-- Triggers
------------------------------------------------------------

namespace EventFlow

/-
  A trigger: its type, the place of the workflow that it was
  last given to, whether it is bound, and its subscriptions.
-/
structure Trigger where
  type : TriggerType
  owner? : Option Nat := none
  isBound : Bool := false
  subscriptions : List Subscription := []

namespace Trigger

/- The name of a trigger's state. -/
def state (t : Trigger) : String :=
  if t.isBound then "bound" else "unbound"

end Trigger

end EventFlow

------------------------------------------------------------
-- Workflows
------------------------------------------------------------

namespace EventFlow

/- A workflow that was built. -/
structure Workflow where
  definition : WorkflowDefinition
  triggers : List Trigger

namespace Workflow

/- The id of a workflow. -/
def id (w : Workflow) : String :=
  w.definition.id

/- Change one trigger of a workflow. -/
def changeTrigger
    (w : Workflow)
    (index : Nat)
    (f : Trigger → Trigger) : Workflow :=
  { w with triggers := w.triggers.modify index f }

end Workflow

end EventFlow

------------------------------------------------------------
-- Results
------------------------------------------------------------

namespace EventFlow

/-
  One executed step: its id, the slug of its type, and for a
  condition whether it was met.
-/
structure StepOutcome where
  stepId : String
  slug : String
  met : Option Value := none

/- What a finished walk through a workflow tells. -/
structure ExecutionResult where
  workflowId : String
  trigger : String
  correlationId : Value
  steps : List StepOutcome

namespace ExecutionResult

/- The ids of the executed steps. -/
def stepIds (r : ExecutionResult) : List String :=
  r.steps.map StepOutcome.stepId

/- A result as a value. -/
def toValue (r : ExecutionResult) : Value :=
  .object [
    ("workflow_id", .str r.workflowId),
    ("trigger", .str r.trigger),
    ("correlation_id", r.correlationId),
    ("steps", .list (r.steps.map fun s =>
      .list [.str s.stepId, .str s.slug,
        s.met.getD .null])),
    ("executed_step_ids", .list (r.stepIds.map .str))
  ]

end ExecutionResult

end EventFlow
